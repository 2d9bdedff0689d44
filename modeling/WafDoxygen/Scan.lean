import WafDoxygen.ParseDoxy
import WafDoxygen.AntGlob

/-!
# `doxygen.scan`

The dependency scan: every input that is not a directory is a dependency, and every directory
is globbed with the file patterns and the exclude patterns of the configuration. Without
`FILE_PATTERNS` the include patterns are the string `DOXY_FILE_PATTERNS`; with `RECURSIVE = YES`
each include pattern gets a `**/` prefix, which over that string runs over its characters. The
glob reads its pattern arguments through `Utils.to_list`; over a finite tree it is
`FileTree.antGlob`. For words that name one component, a file below a directory input is
scanned when it lies directly in it, or at most 26 levels down under `RECURSIVE = YES`, its name
matches a file pattern, and the first component of its path below the input matches no exclude
pattern: an exclude word drops a file directly in the input and prunes a subdirectory directly
in it, and reaches nothing deeper. `post_run` harvests the output directory with the same glob.
-/

namespace WafDoxygen

def doxyFileExtensions : Str :=
  ("\nc cc cxx cpp c++ java ii ixx ipp i++ inl h hh hxx hpp h++ idl odl cs php php3\n" ++
    "inc m mm py f90c cc cxx cpp c++ java ii ixx ipp i++ inl h hh hxx\n").toList

def doxyFilePatterns : Str := "*.".toList ++ join " *.".toList (splitWs doxyFileExtensions)

inductive StrOrList
  | str (s : Str)
  | list (l : List Str)

/-- `Utils.to_list`: a string is split at whitespace, a list is kept. -/
def toList : StrOrList → List Str
  | .str s => splitWs s
  | .list l => l

/-- What `for pattern in file_patterns` runs over: the characters of a string, the items of a
list. -/
def StrOrList.items : StrOrList → List Str
  | .str s => s.map fun c => [c]
  | .list l => l

def excludePatternsKey : Str := "EXCLUDE_PATTERNS".toList
def filePatternsKey : Str := "FILE_PATTERNS".toList
def recursiveKey : Str := "RECURSIVE".toList

/-- `file_patterns` as `scan` hands it to `ant_glob`. -/
def filePatterns (pars : PyDict) : StrOrList :=
  let fp := splitWs ((pars.get filePatternsKey).getD [])
  let fp : StrOrList := if fp.isEmpty then .str doxyFilePatterns else .list fp
  if pars.get recursiveKey = some "YES".toList then
    .list (fp.items.map fun pattern => "**/".toList ++ pattern)
  else fp

variable {Node : Type}

/-- `doxygen.scan`, for `os.path.isdir` and an `ant_glob` that reads its `incl` and `excl`
through `Utils.to_list`: the dependency nodes, and the empty list of names. -/
def scan (isdir : Node → Bool) (glob : Node → List Str → List Str → List Node) (pars : PyDict)
    (doxyInputs : List Node) : List Node × List Str :=
  let excludePatterns := splitWs ((pars.get excludePatternsKey).getD [])
  let filePatterns := filePatterns pars
  let nodes := doxyInputs.foldl (fun nodes node =>
    if isdir node then nodes ++ glob node (toList filePatterns) (toList (.list excludePatterns))
    else nodes ++ [node]) []
  (nodes, [])

def srcTree : FileTree :=
  ⟨[["src".toList, "a.md".toList], ["src".toList, "sub".toList, "b.md".toList],
    ["src".toList, "sub".toList, "b_test.md".toList]], [["src".toList], ["src".toList, "sub".toList]]⟩

/-- Under `RECURSIVE = YES` without `FILE_PATTERNS`, the patterns are `**/` and one character of
`DOXY_FILE_PATTERNS`, `**/*` among them, and every file is scanned; spelled out, the default
patterns scan none of the tree's markdown files. -/
theorem scan_recursive_default_patterns_differ :
    (scan srcTree.isdir srcTree.antGlob (parseDoxy "RECURSIVE = YES".toList)
      [["src".toList]]).1 = srcTree.files ∧
    (scan srcTree.isdir srcTree.antGlob
      ((parseDoxy "RECURSIVE = YES".toList).set filePatternsKey doxyFilePatterns)
      [["src".toList]]).1 = [] := by
  decide

/-- `doxygen.post_run` on a finite tree: the outputs gain `output_dir.ant_glob('**/*')`, under
`ant_glob`'s default exclude patterns. -/
def postRun (tree : FileTree) (outputDir : List Str) (outputs : List (List Str)) :
    List (List Str) :=
  outputs ++ tree.antGlob outputDir (toList (.str "**/*".toList)) (toList (.str excludeRegs))

theorem mem_postRun {tree : FileTree} {d f : List Str} (h : f ∈ postRun tree d []) :
    d <+: f ∧ d.length < f.length :=
  lt_of_mem_antIter (by rwa [postRun, List.nil_append] at h)

end WafDoxygen
