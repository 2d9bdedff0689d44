import WafDoxygen.PyStr

/-!
# `sqlite3.py`

`check_sqlite3` looks for the SQLite3 library under a root directory with `check_cxx`, or, without
one, through `pkg-config` with `check_cfg`, and falls back to `check_cxx` when that raises. The
outcome of each check is a parameter: a check that fails raises when it is mandatory and fills
nothing otherwise. `--without-sqlite-locking` reaches `conf.define`, where `conf` is the decorator
imported from `waflib.Configure` and has no `define`.
-/

namespace WafDoxygen.Sqlite3

/-- `conf.options.sqlite3_dir` and `conf.options.with_sqlite_locking`. A directory of `None`
is `[]`: both are false, and the value is read only when it is true. -/
structure Options where
  sqlite3Dir : Str
  withSqliteLocking : Bool

structure Kw where
  path : Option Str
  mandatory : Option Bool
  uselibStore : Option Str

structure CheckCxx where
  lib : Str
  msg : Str
  defineName : Str
  uselibStore : Str
  mandatory : Bool
  includes : Option Str
  libpath : Option Str
deriving DecidableEq

structure CheckCfg where
  package : Str
  args : List Str
  uselibStore : Str
  mandatory : Bool
deriving DecidableEq

inductive Error
  | attributeError (name : Str)
  | configurationError
deriving DecidableEq

def runCheck (ok : Bool) (store : Str) (mandatory : Bool) : Except Error (Option Str) :=
  if ok then .ok (some store) else if mandatory then .error .configurationError else .ok none

/-- `root = k and k[0] or kw.get('path', self.options.sqlite3_dir)`. -/
def root (opts : Options) (k : List Str) (kw : Kw) : Str :=
  match k with
  | r :: _ => if r ≠ [] then r else kw.path.getD opts.sqlite3Dir
  | [] => kw.path.getD opts.sqlite3Dir

/-- `var = kw.get('uselib_store', 'SQLITE3')`. -/
def var (kw : Kw) : Str := kw.uselibStore.getD "SQLITE3".toList

def libCheck (kw : Kw) (dir : Option Str) : CheckCxx :=
  ⟨"sqlite3".toList, "Checking for SQLite3 library".toList, "HAVE_".toList ++ var kw, var kw,
    kw.mandatory.getD true, dir.map (· ++ "/include".toList), dir.map (· ++ "/lib".toList)⟩

def pkgConfigCheck : CheckCfg :=
  ⟨"sqlite3".toList, ["--cflags".toList, "--libs".toList], "SQLITE3".toList, true⟩

/-- `check_sqlite3`: the library store filled, none when a check that is not mandatory fails. -/
def checkSqlite3 (cxxOk : CheckCxx → Bool) (cfgOk : CheckCfg → Bool) (opts : Options)
    (k : List Str) (kw : Kw) : Except Error (Option Str) :=
  let root := root opts k kw
  let mandatory := kw.mandatory.getD true
  if !opts.withSqliteLocking then .error (.attributeError "define".toList)
  else if root ≠ [] then runCheck (cxxOk (libCheck kw (some root))) (var kw) mandatory
  else
    match runCheck (cfgOk pkgConfigCheck) "SQLITE3".toList true with
    | .ok r => .ok r
    | .error _ => runCheck (cxxOk (libCheck kw none)) (var kw) mandatory

theorem runCheck_eq_ok {ok : Bool} {store : Str} {mandatory : Bool} {r : Option Str}
    (h : runCheck ok store mandatory = .ok r) :
    (r = none → mandatory = false) ∧ ∀ s, r = some s → s = store := by
  unfold runCheck at h
  split_ifs at h <;> cases h <;> simp_all

theorem getD_true_eq_false {o : Option Bool} (h : o.getD true = false) : o = some false := by
  cases o <;> simp_all

/-- What a successful `check_sqlite3` did: it ran with locking, a mandatory search found the
library, and the library went to the store `uselib_store` names, except when `pkg-config` found
it, which stores it as `SQLITE3` whatever that argument says. -/
theorem checkSqlite3_eq_ok {cxxOk : CheckCxx → Bool} {cfgOk : CheckCfg → Bool} {opts : Options}
    {k : List Str} {kw : Kw} {r : Option Str} (h : checkSqlite3 cxxOk cfgOk opts k kw = .ok r) :
    opts.withSqliteLocking = true ∧ (r = none → kw.mandatory = some false) ∧
      ∀ s, r = some s →
        (s = var kw ∧ (root opts k kw ≠ [] ∨ cfgOk pkgConfigCheck = false)) ∨
          (s = "SQLITE3".toList ∧ root opts k kw = [] ∧ cfgOk pkgConfigCheck = true) := by
  have hl : opts.withSqliteLocking = true := by
    cases hl : opts.withSqliteLocking
    · simp [checkSqlite3, hl] at h
    · rfl
  simp only [checkSqlite3, hl, Bool.not_true, Bool.false_eq_true, ↓reduceIte] at h
  refine ⟨hl, ?_⟩
  by_cases hr : root opts k kw = []
  · rw [if_neg (not_not.2 hr)] at h
    cases hc : cfgOk pkgConfigCheck
    · simp only [hc, runCheck, Bool.false_eq_true, ↓reduceIte] at h
      obtain ⟨hn, hs⟩ := runCheck_eq_ok h
      exact ⟨fun e => getD_true_eq_false (hn e), fun s e => .inl ⟨hs s e, .inr rfl⟩⟩
    · simp only [hc, runCheck, ↓reduceIte] at h
      cases h
      exact ⟨fun e => (by cases e), fun s e => .inr ⟨(Option.some_injective _ e).symm, hr, rfl⟩⟩
  · rw [if_pos hr] at h
    obtain ⟨hn, hs⟩ := runCheck_eq_ok h
    exact ⟨fun e => getD_true_eq_false (hn e), fun s e => .inl ⟨hs s e, .inl hr⟩⟩

theorem checkSqlite3_eq_ok_pkgConfig :
    checkSqlite3 (fun _ => true) (fun _ => true) ⟨[], true⟩ [] ⟨none, none, some "NDNS".toList⟩ =
        .ok (some "SQLITE3".toList) ∧
      (⟨[], true⟩ : Options).withSqliteLocking = true ∧
      (some "SQLITE3".toList = none → (⟨none, none, some "NDNS".toList⟩ : Kw).mandatory = some false) ∧
      ∀ s, some "SQLITE3".toList = some s →
        (s = var ⟨none, none, some "NDNS".toList⟩ ∧
          (root ⟨[], true⟩ [] ⟨none, none, some "NDNS".toList⟩ ≠ [] ∨
            (fun _ => true : CheckCfg → Bool) pkgConfigCheck = false)) ∨
        (s = "SQLITE3".toList ∧ root ⟨[], true⟩ [] ⟨none, none, some "NDNS".toList⟩ = [] ∧
          (fun _ => true : CheckCfg → Bool) pkgConfigCheck = true) := by
  have h : checkSqlite3 (fun _ => true) (fun _ => true) ⟨[], true⟩ [] ⟨none, none, some "NDNS".toList⟩ =
      .ok (some "SQLITE3".toList) := rfl
  exact ⟨h, checkSqlite3_eq_ok h⟩

end WafDoxygen.Sqlite3
