import WafDoxygen.Scan

/-!
# `coverage.py`

`configure` refuses `--with-coverage` without `--debug`, and otherwise requires that the compiler
builds with the coverage flags, which it stores as the library `GCOV`. `add_coverage` runs on
every C and C++ task generator, with or without `--with-coverage`, and names `GCOV` in its `use`
attribute; waf reads that attribute through `Utils.to_list`. The outcome of the mandatory
`check_cxx` is a parameter.
-/

namespace WafDoxygen.Coverage

structure Options where
  withCoverage : Bool
  debug : Bool

structure UselibStore where
  cxxflags : List Str
  linkflags : List Str
deriving DecidableEq

def gcov : UselibStore :=
  ⟨["-fprofile-arcs".toList, "-ftest-coverage".toList, "-fPIC".toList], ["-fprofile-arcs".toList]⟩

inductive ConfigureError
  | fatal (msg : Str)
  | checkFailed
deriving DecidableEq

/-- `configure`, where `check` says whether a test build with the flags succeeds: the `GCOV`
library, none without `--with-coverage`. -/
def configure (check : UselibStore → Bool) (opts : Options) :
    Except ConfigureError (Option UselibStore) :=
  if opts.withCoverage then
    if !opts.debug then
      .error (.fatal "Code coverage flags require debug mode compilation (add --debug)".toList)
    else if check gcov then .ok (some gcov) else .error .checkFailed
  else .ok none

def truthy : StrOrList → Bool
  | .str s => !s.isEmpty
  | .list l => !l.isEmpty

/-- `use += t`: concatenation for a string; for a list, Python's `+=` extends it by the
characters of `t`. -/
def appendUse : StrOrList → Str → StrOrList
  | .str s, t => .str (s ++ t)
  | .list l, t => .list (l ++ t.map fun ch => [ch])

/-- `add_coverage`, on the task generator's `use` (none when it has no such attribute). -/
def addCoverage : Option StrOrList → StrOrList
  | some use => if truthy use then appendUse use " GCOV".toList else .str "GCOV".toList
  | none => .str "GCOV".toList

def useNames (use : Option StrOrList) : List Str := (use.map toList).getD []

theorem configure_eq_ok {check : UselibStore → Bool} {opts : Options}
    {store : Option UselibStore} (h : configure check opts = .ok store) :
    store = (if opts.withCoverage then some gcov else none) ∧
      (opts.withCoverage = true → opts.debug = true) := by
  unfold configure at h
  split_ifs at h with hc hd <;> cases h <;> simp_all

theorem splitOnP_append_sep {α : Type} {p : α → Bool} {sep : α} (hsep : p sep) (xs as : List α) :
    (xs ++ sep :: as).splitOnP p = xs.splitOnP p ++ as.splitOnP p := by
  induction xs with
  | nil => simp [hsep]
  | cons x xs ih =>
    rw [List.cons_append, List.splitOnP_cons, List.splitOnP_cons, ih]
    split_ifs
    · rfl
    · obtain ⟨y, ys, hy⟩ := List.exists_cons_of_ne_nil (List.splitOnP_ne_nil p xs)
      rw [hy]; rfl

theorem splitWs_append_space (s t : Str) : splitWs (s ++ ' ' :: t) = splitWs s ++ splitWs t := by
  rw [splitWs, splitOnP_append_sep isSpace_space, List.filter_append]; rfl

/-- `add_coverage` keeps every name of `use` in order and adds `GCOV` after them, unless `use` is
a non-empty list: there `+=` adds the characters of `' GCOV'`, one name each. -/
theorem useNames_addCoverage (use : Option StrOrList) :
    ∃ extra, useNames (some (addCoverage use)) = useNames use ++ extra ∧
      ("GCOV".toList ∈ extra ↔ ∀ l, use = some (.list l) → l = []) := by
  rcases use with _ | ⟨_ | ⟨c, s⟩⟩ | ⟨_ | ⟨x, l⟩⟩
  · exact ⟨["GCOV".toList], rfl, by simp⟩
  · exact ⟨["GCOV".toList], rfl, by simp⟩
  · refine ⟨["GCOV".toList], ?_, by simp⟩
    have hw : splitWs "GCOV".toList = ["GCOV".toList] := by decide
    simp only [useNames, addCoverage, truthy, appendUse, Option.map_some', Option.getD_some, toList,
      List.isEmpty_cons, Bool.not_false, ↓reduceIte]
    rw [show (c :: s) ++ " GCOV".toList = (c :: s) ++ ' ' :: "GCOV".toList from rfl,
      splitWs_append_space, hw]
  · exact ⟨["GCOV".toList], rfl, by simp⟩
  · refine ⟨" GCOV".toList.map fun ch => [ch], rfl, ?_⟩
    exact ⟨fun h => absurd h (by decide), fun h => absurd (h _ rfl) (List.cons_ne_nil x l)⟩

/-- The coverage flags reach a C or C++ target exactly when `--with-coverage` was configured,
which takes `--debug`, and the target's `use` names `GCOV` after `add_coverage`: always, unless
`use` is a non-empty list that did not already name it. -/
theorem coverage_reaches_target {check : UselibStore → Bool} {opts : Options}
    {store : Option UselibStore} (h : configure check opts = .ok store) (use : Option StrOrList) :
    (∀ s, store = some s → opts.debug = true ∧ s = gcov) ∧
      ((∃ s, store = some s ∧ "GCOV".toList ∈ useNames (some (addCoverage use))) ↔
        opts.withCoverage = true ∧
          ("GCOV".toList ∈ useNames use ∨ ∀ l, use = some (.list l) → l = [])) := by
  obtain ⟨hstore, hdebug⟩ := configure_eq_ok h
  obtain ⟨extra, hnames, hextra⟩ := useNames_addCoverage use
  rw [hnames, List.mem_append, hextra]
  subst hstore
  cases hc : opts.withCoverage
  · simp
  · simpa using hdebug hc

theorem coverage_reaches_target_list :
    configure (fun _ => true) ⟨true, true⟩ = .ok (some gcov) ∧
    (∀ s, some gcov = some s → (⟨true, true⟩ : Options).debug = true ∧ s = gcov) ∧
      ((∃ s, some gcov = some s ∧
          "GCOV".toList ∈ useNames (some (addCoverage (some (.list ["ndn-cxx".toList]))))) ↔
        (⟨true, true⟩ : Options).withCoverage = true ∧
          ("GCOV".toList ∈ useNames (some (.list ["ndn-cxx".toList])) ∨
            ∀ l, some (StrOrList.list ["ndn-cxx".toList]) = some (.list l) → l = [])) := by
  have h : configure (fun _ => true) ⟨true, true⟩ = .ok (some gcov) := rfl
  exact ⟨h, coverage_reaches_target h _⟩

end WafDoxygen.Coverage
