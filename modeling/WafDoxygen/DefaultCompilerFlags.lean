import WafDoxygen.Scan

/-!
# `default-compiler-flags.py`

`configure` picks the flags class from the compiler's name, refuses a compiler older than the
class's minimum and warns for an old Xcode or an unknown compiler, then adds the general flags
the compiler accepts. `check_compiler_flags` adds the debug or optimised flags the compiler
accepts, unless `CXXFLAGS` was set by hand, and always adds their `DEFINES`. A group of flags is
kept when the compiler builds with it under `-Werror`. The flags classes extend one another
through `super()`; the compiler checks are a parameter. `check_compiler_flags` reads the class
and `areCustomCxxflagsPresent` that `configure` sets, so the theorems run it on the
configuration `configure` returns.
-/

namespace WafDoxygen.DefaultCompilerFlags

structure Host where
  sysPlatform : Str
  machine : Str

structure GeneralFlags where
  cxxflags : List StrOrList
  linkflags : List Str
  defines : List Str

structure ModeFlags where
  cxxflags : List Str
  linkflags : List Str
  defines : List Str

def strs (l : List String) : List Str := l.map String.toList

def CompilerFlags.getGeneralFlags : GeneralFlags := ⟨[], [], []⟩

def CompilerFlags.getDebugFlags : ModeFlags := ⟨[], [], strs ["_DEBUG"]⟩

def CompilerFlags.getOptimizedFlags : ModeFlags := ⟨[], [], strs ["NDEBUG"]⟩

def GccBasicFlags.getGeneralFlags (host : Host) : GeneralFlags :=
  let flags := CompilerFlags.getGeneralFlags
  let flags := { flags with cxxflags := flags.cxxflags ++ [.str "-std=c++17".toList] }
  if host.sysPlatform ≠ "darwin".toList then
    { flags with linkflags := flags.linkflags ++ strs ["-fuse-ld=lld"] }
  else flags

def GccBasicFlags.getDebugFlags : ModeFlags :=
  let flags := CompilerFlags.getDebugFlags
  { flags with
    cxxflags := flags.cxxflags ++ strs ["-Og", "-g3", "-pedantic", "-Wall", "-Wextra", "-Werror",
      "-Wcatch-value=2", "-Wextra-semi", "-Wnon-virtual-dtor", "-Wno-error=deprecated-declarations",
      "-Wno-error=maybe-uninitialized", "-Wno-unused-parameter"]
    linkflags := flags.linkflags ++ strs ["-Wl,-O1"] }

def GccBasicFlags.getOptimizedFlags : ModeFlags :=
  let flags := CompilerFlags.getOptimizedFlags
  { flags with
    cxxflags := flags.cxxflags ++ strs ["-O2", "-g", "-pedantic", "-Wall", "-Wextra",
      "-Wcatch-value=2", "-Wextra-semi", "-Wnon-virtual-dtor", "-Wno-unused-parameter"]
    linkflags := flags.linkflags ++ strs ["-Wl,-O1"] }

def GccFlags.extend (host : Host) (flags : ModeFlags) : ModeFlags :=
  let flags := { flags with
    cxxflags := flags.cxxflags ++ strs ["-fdiagnostics-color", "-Wredundant-tags"] }
  if host.machine = "armv7l".toList then
    { flags with cxxflags := flags.cxxflags ++ strs ["-Wno-psabi"] }
  else flags

def GccFlags.getDebugFlags (host : Host) : ModeFlags := GccFlags.extend host GccBasicFlags.getDebugFlags

def GccFlags.getOptimizedFlags (host : Host) : ModeFlags :=
  GccFlags.extend host GccBasicFlags.getOptimizedFlags

def ClangFlags.getGeneralFlags (host : Host) : GeneralFlags :=
  let flags := GccBasicFlags.getGeneralFlags host
  if host.sysPlatform = "darwin".toList then
    let brewdir := if host.machine = "arm64".toList then "/opt/homebrew".toList else "/usr/local".toList
    let isystem : List StrOrList := [.list ["-isystem".toList, brewdir ++ "/include".toList],
      .list (strs ["-isystem", "/opt/local/include"])]
    { flags with cxxflags := flags.cxxflags ++ isystem }
  else if host.sysPlatform = "freebsd".toList then
    { flags with cxxflags := flags.cxxflags ++ [.list (strs ["-isystem", "/usr/local/include"])] }
  else flags

def ClangFlags.extend (flags : ModeFlags) : ModeFlags :=
  let extra := strs ["-fcolor-diagnostics", "-Wundefined-func-template", "-Wno-unused-local-typedef"]
  { flags with cxxflags := flags.cxxflags ++ extra }

def ClangFlags.getDebugFlags : ModeFlags := ClangFlags.extend GccBasicFlags.getDebugFlags

def ClangFlags.getOptimizedFlags : ModeFlags := ClangFlags.extend GccBasicFlags.getOptimizedFlags

/-- The classes `configure` can pick, with their methods as Python resolves them. -/
inductive FlagsClass
  | compilerFlags
  | gccBasicFlags
  | gccFlags
  | clangFlags
deriving DecidableEq, Repr

def FlagsClass.getGeneralFlags (host : Host) : FlagsClass → GeneralFlags
  | .compilerFlags => CompilerFlags.getGeneralFlags
  | .gccBasicFlags | .gccFlags => GccBasicFlags.getGeneralFlags host
  | .clangFlags => ClangFlags.getGeneralFlags host

def FlagsClass.getDebugFlags (host : Host) : FlagsClass → ModeFlags
  | .compilerFlags => CompilerFlags.getDebugFlags
  | .gccBasicFlags => GccBasicFlags.getDebugFlags
  | .gccFlags => GccFlags.getDebugFlags host
  | .clangFlags => ClangFlags.getDebugFlags

def FlagsClass.getOptimizedFlags (host : Host) : FlagsClass → ModeFlags
  | .compilerFlags => CompilerFlags.getOptimizedFlags
  | .gccBasicFlags => GccBasicFlags.getOptimizedFlags
  | .gccFlags => GccFlags.getOptimizedFlags host
  | .clangFlags => ClangFlags.getOptimizedFlags

def tupleLt : List Nat → List Nat → Bool
  | [], [] => false
  | [], _ :: _ => true
  | _ :: _, [] => false
  | a :: as, b :: bs => decide (a < b) || (a == b && tupleLt as bs)

/-- The compiler check of `configure`: the flags class, and the error and warning messages
(empty when there is none). -/
def compilerCheck (cxx : Str) (host : Host) (ccver : List Nat) : FlagsClass × Str × Str :=
  if cxx = "gcc".toList then
    (.gccFlags, if tupleLt ccver [7, 4, 0] then
      ("The version of gcc you are using is too old.\n" ++
        "The minimum supported gcc version is 7.4.").toList else [], [])
  else if cxx = "clang".toList then
    if host.sysPlatform = "darwin".toList then
      if tupleLt ccver [10, 0, 0] then
        (.clangFlags, ("The version of Xcode you are using is too old.\n" ++
          "The minimum supported Xcode version is 11.3.").toList, [])
      else if tupleLt ccver [11, 0, 0] then
        (.clangFlags, [], ("Using a version of Xcode older than 11.3 is not " ++
          "officially supported and may result in build failures.").toList)
      else (.clangFlags, [], [])
    else
      (.clangFlags, if tupleLt ccver [6, 0, 0] then
        ("The version of clang you are using is too old.\n" ++
          "The minimum supported clang version is 6.0.").toList else [], [])
  else (.compilerFlags, [], cxx ++ " compiler is unsupported".toList)

structure Env where
  cxxflags : List Str
  linkflags : List Str
  defines : List Str

structure Conf where
  env : Env
  flags : FlagsClass
  areCustomCxxflagsPresent : Bool
  warnings : List Str

/-- `conf.check_cxx(cxxflags=..., mandatory=False)` and `conf.check_cxx(linkflags=...,
mandatory=False)`: whether a test build with the environment and the flags succeeds. -/
structure Checks where
  cxxflags : Env → List Str → Bool
  linkflags : Env → List Str → Bool

/-- The loop of `add_supported_cxxflags` and `add_supported_linkflags`: the groups, each read
through `Utils.to_list`, that build under `-Werror`, concatenated. -/
def supportedFlags (check : List Str → Bool) (groups : List StrOrList) : List Str :=
  groups.foldl (fun supportedFlags flags =>
    if check (["-Werror".toList] ++ toList flags) then supportedFlags ++ toList flags
    else supportedFlags) []

def addSupportedCxxflags (checks : Checks) (cxxflags : List StrOrList) (env : Env) : Env :=
  if cxxflags.length = 0 then env
  else { env with cxxflags := supportedFlags (checks.cxxflags env) cxxflags ++ env.cxxflags }

def addSupportedLinkflags (checks : Checks) (linkflags : List StrOrList) (env : Env) : Env :=
  if linkflags.length = 0 then env
  else { env with linkflags := supportedFlags (checks.linkflags env) linkflags ++ env.linkflags }

/-- `configure`, for `CXX_NAME`, `CC_VERSION` read as integers, and the host: the error of
`conf.fatal`, or the configuration. -/
def configure (checks : Checks) (cxx : Str) (ccVersion : List Nat) (host : Host) (env : Env) :
    Except Str Conf :=
  let (flags, errmsg, warnmsg) := compilerCheck cxx host ccVersion
  if errmsg ≠ [] then .error errmsg
  else
    let warnings := if warnmsg ≠ [] then ["WARNING: ".toList ++ warnmsg] else []
    let areCustomCxxflagsPresent := decide (env.cxxflags.length > 0)
    let generalFlags := flags.getGeneralFlags host
    let env := addSupportedCxxflags checks generalFlags.cxxflags env
    let env := addSupportedLinkflags checks (generalFlags.linkflags.map .str) env
    .ok ⟨{ env with defines := env.defines ++ generalFlags.defines }, flags, areCustomCxxflagsPresent,
      warnings⟩

/-- `extraFlags` of `check_compiler_flags`: the debug flags with `conf.options.debug`, else the
optimised ones. -/
def extraFlags (host : Host) (debug : Bool) (flags : FlagsClass) : ModeFlags :=
  if debug then flags.getDebugFlags host else flags.getOptimizedFlags host

/-- `check_compiler_flags`, with `conf.options.debug`. -/
def checkCompilerFlags (checks : Checks) (host : Host) (debug : Bool) (conf : Conf) : Conf :=
  let extraFlags := extraFlags host debug conf.flags
  let warnings :=
    if debug && conf.areCustomCxxflagsPresent then
      let missingFlags := extraFlags.cxxflags.filter (· ∉ conf.env.cxxflags)
      if missingFlags ≠ [] then conf.warnings ++
        [("Selected debug mode, but CXXFLAGS is set to a custom value \"".toList ++
            join [' '] conf.env.cxxflags ++ ['"']),
          "Default flags \"".toList ++ join [' '] missingFlags ++ "\" will not be used".toList]
      else conf.warnings
    else conf.warnings
  let env := if !conf.areCustomCxxflagsPresent then
      addSupportedLinkflags checks (extraFlags.linkflags.map .str)
        (addSupportedCxxflags checks (extraFlags.cxxflags.map .str) conf.env)
    else conf.env
  { conf with env := { env with defines := env.defines ++ extraFlags.defines }, warnings := warnings }

@[simp] theorem GccFlags.extend_linkflags (host : Host) (f : ModeFlags) :
    (GccFlags.extend host f).linkflags = f.linkflags := by
  unfold GccFlags.extend; split_ifs <;> rfl

@[simp] theorem GccFlags.extend_defines (host : Host) (f : ModeFlags) :
    (GccFlags.extend host f).defines = f.defines := by
  unfold GccFlags.extend; split_ifs <;> rfl

theorem generalFlags_defines (host : Host) (cls : FlagsClass) :
    (cls.getGeneralFlags host).defines = [] := by
  cases cls <;> simp only [FlagsClass.getGeneralFlags, ClangFlags.getGeneralFlags,
    GccBasicFlags.getGeneralFlags, CompilerFlags.getGeneralFlags] <;> (try split_ifs) <;> rfl

theorem extraFlags_defines (host : Host) (debug : Bool) (cls : FlagsClass) :
    (extraFlags host debug cls).defines = [if debug then "_DEBUG".toList else "NDEBUG".toList] := by
  cases debug <;> cases cls <;> simp [extraFlags, FlagsClass.getDebugFlags,
    FlagsClass.getOptimizedFlags, GccFlags.getDebugFlags, GccFlags.getOptimizedFlags,
    ClangFlags.getDebugFlags, ClangFlags.getOptimizedFlags, ClangFlags.extend,
    GccBasicFlags.getDebugFlags, GccBasicFlags.getOptimizedFlags, CompilerFlags.getDebugFlags,
    CompilerFlags.getOptimizedFlags, strs]

theorem splitWs_extraFlags (host : Host) (debug : Bool) (cls : FlagsClass) :
    (∀ y ∈ (extraFlags host debug cls).cxxflags, splitWs y = [y]) ∧
      ∀ y ∈ (extraFlags host debug cls).linkflags, splitWs y = [y] := by
  cases debug <;> cases cls <;> simp only [extraFlags, FlagsClass.getDebugFlags,
    FlagsClass.getOptimizedFlags, GccFlags.getDebugFlags, GccFlags.getOptimizedFlags,
    GccFlags.extend, ClangFlags.getDebugFlags, ClangFlags.getOptimizedFlags, ClangFlags.extend,
    GccBasicFlags.getDebugFlags, GccBasicFlags.getOptimizedFlags, CompilerFlags.getDebugFlags,
    CompilerFlags.getOptimizedFlags] <;> (try split_ifs) <;> decide

theorem werror_not_mem_general (host : Host) (cls : FlagsClass) :
    ∀ g ∈ (cls.getGeneralFlags host).cxxflags, "-Werror".toList ∉ toList g := by
  cases cls <;> simp only [FlagsClass.getGeneralFlags, ClangFlags.getGeneralFlags,
    GccBasicFlags.getGeneralFlags, CompilerFlags.getGeneralFlags] <;> (try split_ifs) <;> decide

theorem werror_not_mem_optimized (host : Host) (cls : FlagsClass) :
    "-Werror".toList ∉ (extraFlags host false cls).cxxflags := by
  cases cls <;> simp only [extraFlags, Bool.false_eq_true, ↓reduceIte, FlagsClass.getOptimizedFlags,
    GccFlags.getOptimizedFlags,
    GccFlags.extend, ClangFlags.getOptimizedFlags, ClangFlags.extend,
    GccBasicFlags.getOptimizedFlags, CompilerFlags.getOptimizedFlags] <;> (try split_ifs) <;> decide

theorem tupleLt_trans {a b c : List Nat} (hab : tupleLt a b = true) (hbc : tupleLt b c = true) :
    tupleLt a c = true := by
  induction a generalizing b c with
  | nil => cases b <;> cases c <;> simp_all [tupleLt]
  | cons x a ih =>
    cases b with
    | nil => simp [tupleLt] at hab
    | cons y b =>
      cases c with
      | nil => simp [tupleLt] at hbc
      | cons z c =>
        simp only [tupleLt, Bool.or_eq_true, decide_eq_true_eq, Bool.and_eq_true, beq_iff_eq]
          at hab hbc ⊢
        rcases hab with hxy | ⟨rfl, hab⟩ <;> rcases hbc with hyz | ⟨rfl, hbc⟩
        · exact .inl (Nat.lt_trans hxy hyz)
        · exact .inl hxy
        · exact .inl hyz
        · exact .inr ⟨rfl, ih hab hbc⟩

def minimumVersion (cxx : Str) (host : Host) : Option (List Nat) :=
  if cxx = "gcc".toList then some [7, 4, 0]
  else if cxx = "clang".toList then
    if host.sysPlatform = "darwin".toList then some [10, 0, 0] else some [6, 0, 0]
  else none

theorem compilerCheck_error_eq_nil_iff (cxx : Str) (host : Host) (v : List Nat) :
    (compilerCheck cxx host v).2.1 = [] ↔ ∀ m, minimumVersion cxx host = some m → tupleLt v m = false := by
  unfold compilerCheck minimumVersion
  split_ifs <;> simp_all

theorem configure_toBool (checks : Checks) (cxx : Str) (v : List Nat) (host : Host) (env : Env) :
    (configure checks cxx v host env).toBool = decide ((compilerCheck cxx host v).2.1 = []) := by
  unfold configure
  by_cases h : (compilerCheck cxx host v).2.1 = [] <;> simp [h, Except.toBool]

/-- A compiler `configure` accepts is accepted at every later version: the gate compares the
version with one minimum per compiler and host, as Python compares tuples. -/
theorem configure_ok_of_newer (checks : Checks) (cxx : Str) (host : Host) (env : Env)
    {v v' : List Nat} (h : (configure checks cxx v host env).toBool = true)
    (hv : tupleLt v v' = true ∨ v = v') : (configure checks cxx v' host env).toBool = true := by
  rw [configure_toBool, decide_eq_true_eq, compilerCheck_error_eq_nil_iff] at h ⊢
  intro m hm
  rcases hv with hv | rfl
  · cases hlt : tupleLt v' m
    · rfl
    · simpa [h m hm] using tupleLt_trans hv hlt
  · exact h m hm

theorem configure_ok_of_newer_gcc :
    (configure ⟨fun _ _ => true, fun _ _ => true⟩ "gcc".toList [7, 4, 0] ⟨"linux".toList,
      "x86_64".toList⟩ ⟨[], [], []⟩).toBool = true ∧
    (tupleLt [7, 4, 0] [12, 2, 0] = true ∨ [7, 4, 0] = [12, 2, 0]) ∧
    (configure ⟨fun _ _ => true, fun _ _ => true⟩ "gcc".toList [12, 2, 0] ⟨"linux".toList,
      "x86_64".toList⟩ ⟨[], [], []⟩).toBool = true :=
  ⟨by decide, .inl rfl, @configure_ok_of_newer _ _ _ _ [7, 4, 0] [12, 2, 0] (by decide) (.inl rfl)⟩

theorem foldl_supportedFlags (check : List Str → Bool) (groups : List StrOrList) (acc : List Str) :
    groups.foldl (fun supportedFlags flags =>
        if check (["-Werror".toList] ++ toList flags) then supportedFlags ++ toList flags
        else supportedFlags) acc =
      acc ++ (groups.filter fun g => check (["-Werror".toList] ++ toList g)).flatMap toList := by
  induction groups generalizing acc with
  | nil => simp
  | cons g groups ih =>
    rw [List.foldl_cons, ih]
    by_cases h : check (["-Werror".toList] ++ toList g) = true
    · rw [if_pos h, List.filter_cons, if_pos h]
      simp [List.append_assoc]
    · rw [if_neg h, List.filter_cons, if_neg h]

theorem mem_supportedFlags {check : List Str → Bool} {groups : List StrOrList} {x : Str}
    (h : x ∈ supportedFlags check groups) :
    ∃ g ∈ groups, x ∈ toList g ∧ check (["-Werror".toList] ++ toList g) = true := by
  rw [supportedFlags, foldl_supportedFlags, List.nil_append, List.mem_flatMap] at h
  obtain ⟨g, hg, hx⟩ := h
  exact ⟨g, (List.mem_filter.1 hg).1, hx, (List.mem_filter.1 hg).2⟩

theorem mem_supportedFlags_words {check : List Str → Bool} {ys : List Str}
    (hys : ∀ y ∈ ys, splitWs y = [y]) {x : Str} (h : x ∈ supportedFlags check (ys.map .str)) :
    x ∈ ys ∧ check ["-Werror".toList, x] = true := by
  obtain ⟨g, hg, hxg, hc⟩ := mem_supportedFlags h
  obtain ⟨y, hy, rfl⟩ := List.mem_map.1 hg
  rw [toList, hys y hy, List.mem_singleton] at hxg
  subst hxg
  rw [toList, hys x hy] at hc
  exact ⟨hy, hc⟩

theorem addSupportedCxxflags_eq (checks : Checks) (groups : List StrOrList) (env : Env) :
    addSupportedCxxflags checks groups env =
      { env with cxxflags := supportedFlags (checks.cxxflags env) groups ++ env.cxxflags } := by
  unfold addSupportedCxxflags
  split_ifs with h
  · rw [List.length_eq_zero.1 h]; rfl
  · rfl

theorem addSupportedLinkflags_eq (checks : Checks) (groups : List StrOrList) (env : Env) :
    addSupportedLinkflags checks groups env =
      { env with linkflags := supportedFlags (checks.linkflags env) groups ++ env.linkflags } := by
  unfold addSupportedLinkflags
  split_ifs with h
  · rw [List.length_eq_zero.1 h]; rfl
  · rfl

theorem splitWs_generalLinkflags (host : Host) (cls : FlagsClass) :
    ∀ y ∈ (cls.getGeneralFlags host).linkflags, splitWs y = [y] := by
  cases cls <;>
    simp only [FlagsClass.getGeneralFlags, ClangFlags.getGeneralFlags, GccBasicFlags.getGeneralFlags,
      CompilerFlags.getGeneralFlags] <;> (try split_ifs) <;> decide

theorem configure_eq_ok {checks : Checks} {cxx : Str} {v : List Nat} {host : Host} {env : Env}
    {c : Conf} (h : configure checks cxx v host env = .ok c) :
    c.flags = (compilerCheck cxx host v).1 ∧
      c.areCustomCxxflagsPresent = decide (env.cxxflags.length > 0) ∧
      c.env.cxxflags = supportedFlags (checks.cxxflags env)
        ((compilerCheck cxx host v).1.getGeneralFlags host).cxxflags ++ env.cxxflags ∧
      (∃ added, c.env.linkflags = added ++ env.linkflags ∧
        ∀ x ∈ added, x ∈ ((compilerCheck cxx host v).1.getGeneralFlags host).linkflags) ∧
      c.env.defines = env.defines ++ ((compilerCheck cxx host v).1.getGeneralFlags host).defines := by
  rcases hcc : compilerCheck cxx host v with ⟨cls, err, warn⟩
  simp only [configure, hcc] at h
  split_ifs at h <;> cases h <;> rw [addSupportedLinkflags_eq, addSupportedCxxflags_eq] <;>
    exact ⟨rfl, rfl, rfl, ⟨_, rfl,
      fun x hx => (mem_supportedFlags_words (splitWs_generalLinkflags host cls) hx).1⟩, rfl⟩

theorem checkCompilerFlags_cxxflags (checks : Checks) (host : Host) (debug : Bool) (c : Conf) :
    (checkCompilerFlags checks host debug c).env.cxxflags =
      (if c.areCustomCxxflagsPresent then [] else supportedFlags (checks.cxxflags c.env)
        ((extraFlags host debug c.flags).cxxflags.map .str)) ++ c.env.cxxflags := by
  cases hc : c.areCustomCxxflagsPresent <;>
    simp [checkCompilerFlags, hc, addSupportedCxxflags_eq, addSupportedLinkflags_eq]

theorem checkCompilerFlags_linkflags (checks : Checks) (host : Host) (debug : Bool) (c : Conf) :
    ∃ added, (checkCompilerFlags checks host debug c).env.linkflags = added ++ c.env.linkflags ∧
      (c.areCustomCxxflagsPresent = true → added = []) ∧
      ∀ x ∈ added, x ∈ (extraFlags host debug c.flags).linkflags := by
  cases hc : c.areCustomCxxflagsPresent
  · simp only [checkCompilerFlags, hc, Bool.not_false, if_true, addSupportedLinkflags_eq,
      addSupportedCxxflags_eq]
    exact ⟨_, rfl, by simp,
      fun x hx => (mem_supportedFlags_words (splitWs_extraFlags host debug c.flags).2 hx).1⟩
  · exact ⟨[], by simp [checkCompilerFlags, hc], fun _ => rfl, by simp⟩

theorem checkCompilerFlags_defines (checks : Checks) (host : Host) (debug : Bool) (c : Conf) :
    (checkCompilerFlags checks host debug c).env.defines =
      c.env.defines ++ (extraFlags host debug c.flags).defines := by
  cases hc : c.areCustomCxxflagsPresent <;>
    simp [checkCompilerFlags, hc, addSupportedCxxflags_eq, addSupportedLinkflags_eq]

section Pipeline

variable {checks : Checks} {cxx : Str} {v : List Nat} {host : Host} {env : Env} {c : Conf}

theorem cxxflags_of_configure (hc : configure checks cxx v host env = .ok c) (debug : Bool) :
    (checkCompilerFlags checks host debug c).env.cxxflags =
      (if env.cxxflags = [] then supportedFlags (checks.cxxflags c.env)
          ((extraFlags host debug c.flags).cxxflags.map .str) else []) ++
        supportedFlags (checks.cxxflags env) (c.flags.getGeneralFlags host).cxxflags ++
          env.cxxflags := by
  obtain ⟨hcls, hcustom, hcxx, -⟩ := configure_eq_ok hc
  rw [checkCompilerFlags_cxxflags, hcustom, hcxx, hcls, List.append_assoc]
  cases env.cxxflags <;> simp

/-- The final `CXXFLAGS`: the accepted mode flags unless `CXXFLAGS` was given, then the accepted
general flags, then the given ones, each group checked under `-Werror` against the environment of
its own step. An optimised build holds `-Werror` only when the given `CXXFLAGS` do: no group of
general or optimised flags has it, and the check's own `-Werror` is never added. -/
theorem configured_cxxflags (hc : configure checks cxx v host env = .ok c) :
    (∀ debug, (checkCompilerFlags checks host debug c).env.cxxflags =
      (if env.cxxflags = [] then supportedFlags (checks.cxxflags c.env)
          ((extraFlags host debug c.flags).cxxflags.map .str) else []) ++
        supportedFlags (checks.cxxflags env) (c.flags.getGeneralFlags host).cxxflags ++
          env.cxxflags) ∧
      ("-Werror".toList ∈ (checkCompilerFlags checks host false c).env.cxxflags ↔
        "-Werror".toList ∈ env.cxxflags) := by
  refine ⟨cxxflags_of_configure hc, ?_⟩
  rw [cxxflags_of_configure hc, List.mem_append, List.mem_append]
  refine ⟨fun h => ?_, fun h => .inr h⟩
  rcases h with (h | h) | h
  · split_ifs at h
    · exact absurd (mem_supportedFlags_words (splitWs_extraFlags host false c.flags).1 h).1
        (werror_not_mem_optimized host c.flags)
    · simp at h
  · obtain ⟨g, hg, hx, -⟩ := mem_supportedFlags h
    exact absurd hx (werror_not_mem_general host c.flags g hg)
  · exact h

def acceptAll : Checks := ⟨fun _ _ => true, fun _ _ => true⟩

def linuxHost : Host := ⟨"linux".toList, "x86_64".toList⟩

theorem configured_cxxflags_custom_gcc :
    configure acceptAll "gcc".toList [12, 2, 0] linuxHost ⟨["-O0".toList], [], []⟩ =
      .ok ⟨⟨["-std=c++17".toList, "-O0".toList], strs ["-fuse-ld=lld"], []⟩, .gccFlags, true, []⟩ ∧
    (∀ debug, (checkCompilerFlags acceptAll linuxHost debug
        ⟨⟨["-std=c++17".toList, "-O0".toList], strs ["-fuse-ld=lld"], []⟩, .gccFlags, true, []⟩).env.cxxflags =
      (if ["-O0".toList] = ([] : List Str) then supportedFlags
          (acceptAll.cxxflags ⟨["-std=c++17".toList, "-O0".toList], strs ["-fuse-ld=lld"], []⟩)
          ((extraFlags linuxHost debug .gccFlags).cxxflags.map .str) else []) ++
        supportedFlags (acceptAll.cxxflags ⟨["-O0".toList], [], []⟩)
          (FlagsClass.gccFlags.getGeneralFlags linuxHost).cxxflags ++ ["-O0".toList]) ∧
    ("-Werror".toList ∈ (checkCompilerFlags acceptAll linuxHost false
        ⟨⟨["-std=c++17".toList, "-O0".toList], strs ["-fuse-ld=lld"], []⟩, .gccFlags, true, []⟩).env.cxxflags ↔
      "-Werror".toList ∈ ["-O0".toList]) := by
  have h : configure acceptAll "gcc".toList [12, 2, 0] linuxHost ⟨["-O0".toList], [], []⟩ =
      .ok ⟨⟨["-std=c++17".toList, "-O0".toList], strs ["-fuse-ld=lld"], []⟩, .gccFlags, true, []⟩ := rfl
  exact ⟨h, configured_cxxflags h⟩

/-- The final `DEFINES` are the given ones and the mode's one define; the final `LINKFLAGS` are
accepted general or, without given `CXXFLAGS`, mode link flags in front of the given ones. -/
theorem configured_defines_linkflags (hc : configure checks cxx v host env = .ok c)
    (debug : Bool) :
    (checkCompilerFlags checks host debug c).env.defines =
        env.defines ++ [if debug then "_DEBUG".toList else "NDEBUG".toList] ∧
      ∃ added, (checkCompilerFlags checks host debug c).env.linkflags = added ++ env.linkflags ∧
        ∀ x ∈ added, x ∈ (c.flags.getGeneralFlags host).linkflags ∨
          (env.cxxflags = [] ∧ x ∈ (extraFlags host debug c.flags).linkflags) := by
  obtain ⟨hcls, hcustom, -, ⟨added₁, hl₁, hadd₁⟩, hdef⟩ := configure_eq_ok hc
  obtain ⟨added₂, hl₂, hcust₂, hadd₂⟩ := checkCompilerFlags_linkflags checks host debug c
  refine ⟨by rw [checkCompilerFlags_defines, hdef, extraFlags_defines,
    generalFlags_defines, List.append_nil], added₂ ++ added₁, by rw [hl₂, hl₁, List.append_assoc],
    fun x hx => ?_⟩
  rcases List.mem_append.1 hx with hx | hx
  · cases hnil : env.cxxflags with
    | nil => exact .inr ⟨rfl, hadd₂ x hx⟩
    | cons _ _ =>
      rw [hcust₂ (by simp [hcustom, hnil])] at hx
      simp at hx
  · exact .inl (hcls ▸ hadd₁ x hx)

theorem configured_defines_linkflags_gcc :
    configure acceptAll "gcc".toList [12, 2, 0] linuxHost ⟨[], [], []⟩ =
      .ok ⟨⟨["-std=c++17".toList], strs ["-fuse-ld=lld"], []⟩, .gccFlags, false, []⟩ ∧
    (checkCompilerFlags acceptAll linuxHost true
        ⟨⟨["-std=c++17".toList], strs ["-fuse-ld=lld"], []⟩, .gccFlags, false, []⟩).env.defines =
        [] ++ [if true then "_DEBUG".toList else "NDEBUG".toList] ∧
      ∃ added, (checkCompilerFlags acceptAll linuxHost true
          ⟨⟨["-std=c++17".toList], strs ["-fuse-ld=lld"], []⟩, .gccFlags, false, []⟩).env.linkflags =
          added ++ [] ∧
        ∀ x ∈ added, x ∈ (FlagsClass.gccFlags.getGeneralFlags linuxHost).linkflags ∨
          (([] : List Str) = [] ∧ x ∈ (extraFlags linuxHost true .gccFlags).linkflags) := by
  have h : configure acceptAll "gcc".toList [12, 2, 0] linuxHost ⟨[], [], []⟩ =
      .ok ⟨⟨["-std=c++17".toList], strs ["-fuse-ld=lld"], []⟩, .gccFlags, false, []⟩ := rfl
  exact ⟨h, configured_defines_linkflags h true⟩

theorem configure_warnings (hc : configure checks cxx v host env = .ok c) :
    c.warnings = if (compilerCheck cxx host v).2.2 ≠ [] then
      ["WARNING: ".toList ++ (compilerCheck cxx host v).2.2] else [] := by
  rcases hcc : compilerCheck cxx host v with ⟨cls, err, warn⟩
  simp only [configure, hcc] at hc
  split_ifs at hc <;> cases hc <;> simp_all

/-- The warnings of `configure` and `check_compiler_flags`: the compiler warning, then, in debug
mode with `CXXFLAGS` given and some debug flag absent from it, the two lines on the custom value.
The value they quote is `CXXFLAGS` after `configure`: the accepted general flags in front of the
given ones. -/
theorem configured_warnings (hc : configure checks cxx v host env = .ok c) (debug : Bool) :
    (checkCompilerFlags checks host debug c).warnings =
      (if (compilerCheck cxx host v).2.2 ≠ [] then
        ["WARNING: ".toList ++ (compilerCheck cxx host v).2.2] else []) ++
      let cxxflags := supportedFlags (checks.cxxflags env) (c.flags.getGeneralFlags host).cxxflags ++
        env.cxxflags
      let missingFlags := (extraFlags host true c.flags).cxxflags.filter (· ∉ cxxflags)
      if debug = true ∧ env.cxxflags ≠ [] ∧ missingFlags ≠ [] then
        [("Selected debug mode, but CXXFLAGS is set to a custom value \"".toList ++
            join [' '] cxxflags ++ ['"']),
          "Default flags \"".toList ++ join [' '] missingFlags ++ "\" will not be used".toList]
      else [] := by
  obtain ⟨hcls, hcustom, hcxx, -⟩ := configure_eq_ok hc
  simp only [checkCompilerFlags, configure_warnings hc, hcustom, hcxx, hcls, Bool.and_eq_true,
    decide_eq_true_eq, gt_iff_lt, List.length_pos]
  cases debug
  · simp only [Bool.false_eq_true, false_and, ↓reduceIte, List.append_nil]
  · simp only [true_and, ite_and]
    split_ifs <;> simp only [List.append_nil]

theorem configured_warnings_custom_gcc :
    configure acceptAll "gcc".toList [12, 2, 0] linuxHost ⟨["-O0".toList], [], []⟩ =
      .ok ⟨⟨["-std=c++17".toList, "-O0".toList], strs ["-fuse-ld=lld"], []⟩, .gccFlags, true, []⟩ ∧
    (checkCompilerFlags acceptAll linuxHost true
        ⟨⟨["-std=c++17".toList, "-O0".toList], strs ["-fuse-ld=lld"], []⟩, .gccFlags, true, []⟩).warnings =
      (if (compilerCheck "gcc".toList linuxHost [12, 2, 0]).2.2 ≠ [] then
        ["WARNING: ".toList ++ (compilerCheck "gcc".toList linuxHost [12, 2, 0]).2.2] else []) ++
      let cxxflags := supportedFlags (acceptAll.cxxflags ⟨["-O0".toList], [], []⟩)
        (FlagsClass.gccFlags.getGeneralFlags linuxHost).cxxflags ++ ["-O0".toList]
      let missingFlags := (extraFlags linuxHost true .gccFlags).cxxflags.filter (· ∉ cxxflags)
      if true = true ∧ ["-O0".toList] ≠ ([] : List Str) ∧ missingFlags ≠ [] then
        [("Selected debug mode, but CXXFLAGS is set to a custom value \"".toList ++
            join [' '] cxxflags ++ ['"']),
          "Default flags \"".toList ++ join [' '] missingFlags ++ "\" will not be used".toList]
      else [] := by
  have h : configure acceptAll "gcc".toList [12, 2, 0] linuxHost ⟨["-O0".toList], [], []⟩ =
      .ok ⟨⟨["-std=c++17".toList, "-O0".toList], strs ["-fuse-ld=lld"], []⟩, .gccFlags, true, []⟩ := rfl
  exact ⟨h, configured_warnings h true⟩

end Pipeline

end WafDoxygen.DefaultCompilerFlags
