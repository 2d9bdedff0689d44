import WafDoxygen.PyDict
import WafDoxygen.Lines

/-!
# `parse_doxy`

The Doxyfile reader: continuations are deleted, the text is split into lines, and each
stripped line that is neither blank nor a comment and holds a `=` is an assignment. A line
holding `+=` appends to its key, any other line sets it. `assignment?` reads one stripped line
the way the spec words it, and `parseDoxy_eq_foldl_assign` shows the loop is the fold of those
assignments.
-/

namespace WafDoxygen

def parseDoxyLine (tbl : PyDict) (x : Str) : PyDict :=
  let x := strip x
  if x.isEmpty || startswith x ['#'] || decide (find x ['='] < 0) then tbl
  else if decide (find x ['+', '='] ≥ 0) then
    let tmp := split x ['+', '=']
    let key := strip (tmp.headD [])
    match tbl.get key with
    | some w => tbl.set key (w ++ [' '] ++ strip (join ['+', '='] tmp.tail))
    | none => tbl.set key (strip (join ['+', '='] tmp.tail))
  else
    let tmp := split x ['=']
    tbl.set (strip (tmp.headD [])) (strip (join ['='] tmp.tail))

def parseDoxy (txt : Str) : PyDict :=
  (reNlSplit (reRlSub txt)).foldl parseDoxyLine PyDict.empty

/-- `parse_doxy` reads the same map whether lines end in LF or in CR LF. -/
theorem parseDoxy_crlf (t : Str) : parseDoxy (crlf t) = parseDoxy t := by
  rw [parseDoxy, reRlSub_crlf, reNlSplit_crlf, parseDoxy]

structure Assignment where
  key : Str
  value : Str
  additive : Bool
deriving DecidableEq

/-- A stripped line as an assignment: non-empty, not a comment, holding `=`; additive when it
holds `+=`, split at its first `+=`, otherwise split at its first `=`. -/
def assignment? (x : Str) : Option Assignment :=
  if x = [] ∨ x.head? = some '#' ∨ '=' ∉ x then none
  else match breakOn ['+', '='] x with
    | (b, some a) => some ⟨strip b, strip a, true⟩
    | (_, none) =>
      match breakOn ['='] x with
      | (b, some a) => some ⟨strip b, strip a, false⟩
      | (_, none) => none

/-- What an assignment does to the table: `tbl[key] += ' ' + value` for an additive one on a
present key, `tbl[key] = value` otherwise. -/
def assign (tbl : PyDict) (a : Assignment) : PyDict :=
  if a.additive then
    match tbl.get a.key with
    | some w => tbl.set a.key (w ++ ' ' :: a.value)
    | none => tbl.set a.key a.value
  else tbl.set a.key a.value

def logicalLines (txt : Str) : List Str := (reNlSplit (reRlSub txt)).map strip

theorem strip_strip (s : Str) : strip (strip s) = strip s := by
  show strip ((s.dropWhile isSpace).rdropWhile isSpace) = _
  rw [strip_rdropWhile, strip_dropWhile]

theorem startswith_hash_iff (x : Str) : startswith x ['#'] = true ↔ x.head? = some '#' := by
  cases x with
  | nil => simp [startswith]
  | cons c x => simpa [startswith] using eq_comm

theorem parseDoxyLine_eq (tbl : PyDict) (x : Str) :
    parseDoxyLine tbl x = ((assignment? (strip x)).map (assign tbl)).getD tbl := by
  simp only [parseDoxyLine, assignment?]
  generalize strip x = y
  have hguard : (y.isEmpty || startswith y ['#'] || decide (find y ['='] < 0)) = true ↔
      (y = [] ∨ y.head? = some '#' ∨ '=' ∉ y) := by
    simp only [Bool.or_eq_true, List.isEmpty_iff, startswith_hash_iff, decide_eq_true_eq,
      find_lt_zero_iff, singleton_infix_iff, or_assoc]
  by_cases hg : y = [] ∨ y.head? = some '#' ∨ '=' ∉ y
  · rw [if_pos (hguard.2 hg), if_pos hg]; rfl
  · rw [if_neg (mt hguard.1 hg), if_neg hg]
    have he : '=' ∈ y := by tauto
    rcases hp : breakOn ['+', '='] y with ⟨b, _ | a⟩
    · have hf : ¬ find y ['+', '='] ≥ 0 := by
        rw [not_le, find_lt_zero_iff, ← breakOn_snd_eq_none_iff, hp]
      rcases hq : breakOn ['='] y with ⟨b', _ | a'⟩
      · exact absurd (singleton_infix_iff.2 he) ((breakOn_snd_eq_none_iff _ _).1 (by rw [hq]))
      · obtain ⟨h1, h2⟩ := split_head_join_tail (by decide) hq
        rw [if_neg (by simpa using hf), h1, h2]
        rfl
    · have hf : find y ['+', '='] ≥ 0 := by
        rw [ge_iff_le, ← not_lt, find_lt_zero_iff, not_not, ← not_not (a := _ <:+: _),
          ← breakOn_snd_eq_none_iff, hp]
        simp
      obtain ⟨h1, h2⟩ := split_head_join_tail (by decide) hp
      rw [if_pos (by simpa using hf), h1, h2]
      simp only [Option.map_some', Option.getD_some, assign, if_true, List.append_assoc,
        List.singleton_append]
/-- A line that splits at its only `=` and holds no `+=` is a plain assignment of its two
stripped sides. -/
theorem assignment?_plain {p q : Str} (hp : '=' ∉ p) (hpq : ¬ ['+', '='] <:+: p ++ '=' :: q)
    (hh : (p.dropWhile isSpace).head? ≠ some '#') :
    assignment? (strip (p ++ '=' :: q)) = some ⟨strip p, strip q, false⟩ := by
  have hy := strip_isInfix (p ++ '=' :: q)
  rw [strip_append_cons (by decide)] at hy ⊢
  have hp' : '=' ∉ p.dropWhile isSpace := fun h => hp ((List.dropWhile_suffix _).subset h)
  have hguard : ¬ (p.dropWhile isSpace ++ '=' :: q.rdropWhile isSpace = [] ∨
      (p.dropWhile isSpace ++ '=' :: q.rdropWhile isSpace).head? = some '#' ∨
      '=' ∉ p.dropWhile isSpace ++ '=' :: q.rdropWhile isSpace) := by
    cases h : p.dropWhile isSpace <;> simp_all
  have hplus := (breakOn_snd_eq_none_iff _ _).2 (fun h => hpq (h.trans hy))
  rw [assignment?, if_neg hguard]
  rcases hb : breakOn ['+', '='] (p.dropWhile isSpace ++ '=' :: q.rdropWhile isSpace) with ⟨b, _ | a⟩
  · rw [breakOn_singleton_append hp']
    simp [strip_dropWhile, strip_rdropWhile]
  · simp [hb] at hplus

theorem assignment?_eq_some {y : Str} {a : Assignment} (h : assignment? y = some a) :
    y.head? ≠ some '#' ∧ ∃ b sep r, y = b ++ sep ++ r ∧ a.key = strip b ∧ a.value = strip r := by
  unfold assignment? at h
  split_ifs at h with hg
  refine ⟨fun h' => hg (Or.inr (Or.inl h')), ?_⟩
  split at h
  · next b r hb =>
    cases h
    exact ⟨b, _, r, breakOn_eq_some hb, rfl, rfl⟩
  · split at h
    · next b r hb =>
      cases h
      exact ⟨b, _, r, breakOn_eq_some hb, rfl, rfl⟩
    · cases h

theorem foldl_parseDoxyLine (xs : List Str) (tbl : PyDict) :
    xs.foldl parseDoxyLine tbl = ((xs.map strip).filterMap assignment?).foldl assign tbl := by
  induction xs generalizing tbl with
  | nil => rfl
  | cons x xs ih =>
    rw [List.foldl_cons, ih, parseDoxyLine_eq, List.map_cons, List.filterMap_cons]
    cases assignment? (strip x) <;> rfl

/-- `parse_doxy` is the fold of `assign` over the assignments among the logical lines. -/
theorem parseDoxy_eq_foldl_assign (t : Str) :
    parseDoxy t = ((logicalLines t).filterMap assignment?).foldl assign PyDict.empty :=
  foldl_parseDoxyLine _ _

end WafDoxygen
