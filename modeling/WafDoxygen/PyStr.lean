import Mathlib.Data.List.DropRight
import Mathlib.Data.List.Infix

/-!
# Python string primitives

The `str` methods the doxygen tool calls, on a string taken as its list of code points:
`strip`, `startswith`, `find`, `split` with a separator and without one, and `join`.
Whitespace is Python's `str.isspace`, which is what `strip()` and `split()` remove.
A separator is looked for left to right and matches do not overlap, as in CPython.
-/

namespace WafDoxygen

abbrev Str := List Char

/-- Python's `str.isspace` on one code point. -/
def isSpace (c : Char) : Bool :=
  let n := c.toNat
  (9 ≤ n && n ≤ 13) || (28 ≤ n && n ≤ 32) || n == 0x85 || n == 0xA0 || n == 0x1680 ||
    (0x2000 ≤ n && n ≤ 0x200A) || n == 0x2028 || n == 0x2029 || n == 0x202F ||
    n == 0x205F || n == 0x3000

def strip (s : Str) : Str := (s.dropWhile isSpace).rdropWhile isSpace

def startswith (s pre : Str) : Bool := pre.isPrefixOf s

def endswith (s suf : Str) : Bool := suf.isSuffixOf s

/-- The text before the first occurrence of `sep`, and the text after it if there is one. -/
def breakOn (sep : Str) : Str → Str × Option Str
  | [] => if sep.isPrefixOf [] then ([], some []) else ([], none)
  | c :: t =>
    if sep.isPrefixOf (c :: t) then ([], some ((c :: t).drop sep.length))
    else (c :: (breakOn sep t).1, (breakOn sep t).2)

def find (s sub : Str) : Int :=
  match breakOn sub s with
  | (b, some _) => b.length
  | (_, none) => -1

def splitAux (sep : Str) : Nat → Str → Str → List Str
  | _, [], acc => [acc.reverse]
  | k + 1, _ :: s, acc => splitAux sep k s acc
  | 0, c :: s, acc =>
    if sep.isPrefixOf (c :: s) then acc.reverse :: splitAux sep (sep.length - 1) s []
    else splitAux sep 0 s (c :: acc)

def split (s sep : Str) : List Str := splitAux sep 0 s []

def join (sep : Str) (xs : List Str) : Str := sep.intercalate xs

/-- `s.split()`: the maximal runs of non-whitespace. -/
def splitWs (s : Str) : List Str := (s.splitOnP isSpace).filter (!·.isEmpty)

theorem isSpace_space : isSpace ' ' = true := rfl

theorem strip_space_append {w : Str} (hw : ∀ c ∈ w, isSpace c) (s : Str) :
    strip (w ++ s) = strip s := by
  simp [strip, List.dropWhile_append_of_pos hw]

theorem strip_append_space (s : Str) {w : Str} (hw : ∀ c ∈ w, isSpace c) :
    strip (s ++ w) = strip s := by
  have hrev : ∀ c ∈ w.reverse, isSpace c := by simpa using hw
  by_cases hs : ∀ c ∈ s, isSpace c
  · have hall : ∀ c ∈ s ++ w, isSpace c := by simp only [List.mem_append]; tauto
    simp [strip, List.dropWhile_eq_nil_iff.2 hall, List.dropWhile_eq_nil_iff.2 hs]
  · have hne : (s.dropWhile isSpace).isEmpty = false := by
      simpa [List.dropWhile_eq_nil_iff] using hs
    simp [strip, List.dropWhile_append, hne, List.rdropWhile, List.dropWhile_append_of_pos hrev]

theorem strip_dropWhile (s : Str) : strip (s.dropWhile isSpace) = strip s := by
  simp [strip, List.dropWhile_idempotent]

theorem rdropWhile_append_rtakeWhile (p : Char → Bool) (s : Str) :
    s.rdropWhile p ++ s.rtakeWhile p = s := by
  simp [List.rdropWhile, List.rtakeWhile, ← List.reverse_append]

theorem strip_rdropWhile (s : Str) : strip (s.rdropWhile isSpace) = strip s := by
  conv_rhs => rw [← rdropWhile_append_rtakeWhile isSpace s]
  exact (strip_append_space _ fun _ => List.mem_rtakeWhile_imp).symm

theorem strip_isInfix (s : Str) : strip s <:+: s :=
  ((List.rdropWhile_prefix _ _).isInfix).trans (List.dropWhile_suffix isSpace).isInfix

theorem dropWhile_eq_self_of_strip {s : Str} (h : strip s = s) : s.dropWhile isSpace = s := by
  refine (List.dropWhile_suffix isSpace).eq_of_length_le ?_
  have := (List.rdropWhile_prefix isSpace (s.dropWhile isSpace)).length_le
  rw [← strip, h] at this
  exact this

theorem rdropWhile_eq_self_of_strip {s : Str} (h : strip s = s) : s.rdropWhile isSpace = s := by
  have h' := h
  rwa [strip, dropWhile_eq_self_of_strip h] at h'

/-- A prefix of a text with no leading whitespace strips to nothing or keeps its first
character. -/
theorem head?_strip_of_prefix {b y : Str} (hb : b <+: y) (hy : y.dropWhile isSpace = y) :
    (strip b).head? = none ∨ (strip b).head? = y.head? := by
  obtain ⟨t, rfl⟩ := hb
  cases b with
  | nil => exact Or.inl rfl
  | cons c b =>
    have hc : isSpace c = false := by
      by_contra hc
      rw [List.cons_append, List.dropWhile_cons, if_pos (by simpa using hc)] at hy
      have := (List.dropWhile_suffix isSpace (l := b ++ t)).length_le
      rw [hy] at this
      simp only [List.length_cons, List.length_append] at this; omega
    have hpre := List.rdropWhile_prefix isSpace (c :: b)
    rw [strip, List.dropWhile_cons, if_neg (by simp [hc])]
    rcases h : (c :: b).rdropWhile isSpace with _ | ⟨d, u⟩
    · exact Or.inl rfl
    · rw [h, List.cons_prefix_cons] at hpre
      simp [hpre.1]

theorem strip_append_cons {c : Char} (hc : isSpace c = false) (l r : Str) :
    strip (l ++ c :: r) = l.dropWhile isSpace ++ c :: r.rdropWhile isSpace := by
  have hd : (l ++ c :: r).dropWhile isSpace = l.dropWhile isSpace ++ c :: r := by
    rw [List.dropWhile_append]
    split_ifs with h
    · simp [List.isEmpty_iff.1 h, hc]
    · rfl
  have hr : ∀ m : Str, (m ++ c :: r).rdropWhile isSpace = m ++ c :: r.rdropWhile isSpace := by
    intro m
    simp only [List.rdropWhile, List.reverse_append, List.reverse_cons, List.append_assoc,
      List.singleton_append, List.dropWhile_append]
    split_ifs with h
    · simp [List.isEmpty_iff.1 h, hc]
    · simp
  rw [strip, hd, hr]

theorem breakOn_eq_some {sep s b a : Str} (h : breakOn sep s = (b, some a)) :
    s = b ++ sep ++ a := by
  induction s generalizing b with
  | nil =>
    simp only [breakOn] at h
    split_ifs at h with hp <;> simp_all [List.isPrefixOf_iff_prefix]
  | cons c t ih =>
    simp only [breakOn] at h
    split_ifs at h with hp
    · simp only [Prod.mk.injEq, Option.some.injEq] at h
      obtain ⟨rfl, rfl⟩ := h
      simpa only [List.nil_append] using
        (List.prefix_iff_eq_append.1 (List.isPrefixOf_iff_prefix.1 hp)).symm
    · simp only [Prod.mk.injEq] at h
      obtain ⟨rfl, h2⟩ := h
      rw [List.cons_append, List.cons_append, ← ih (Prod.ext rfl h2)]

theorem breakOn_snd_eq_none_iff (sep s : Str) :
    (breakOn sep s).2 = none ↔ ¬ sep <:+: s := by
  induction s with
  | nil => simp only [breakOn]; split_ifs with hp <;> simp_all [List.isPrefixOf_iff_prefix]
  | cons c t ih =>
    simp only [breakOn]
    split_ifs with hp
    · simpa using (List.isPrefixOf_iff_prefix.1 hp).isInfix
    · rw [ih, List.infix_cons_iff]
      simp_all [List.isPrefixOf_iff_prefix]

theorem breakOn_eq_none {sep s b : Str} (h : breakOn sep s = (b, none)) : b = s := by
  induction s generalizing b with
  | nil => simp only [breakOn] at h; split_ifs at h <;> simp_all
  | cons c t ih =>
    simp only [breakOn] at h
    split_ifs at h
    · simp at h
    · simp only [Prod.mk.injEq] at h
      obtain ⟨rfl, h2⟩ := h
      exact congrArg _ (ih (Prod.ext rfl h2))

theorem find_lt_zero_iff (s sub : Str) : find s sub < 0 ↔ ¬ sub <:+: s := by
  rw [← breakOn_snd_eq_none_iff, find]
  rcases breakOn sub s with ⟨b, _ | a⟩
  · exact iff_of_true (by dsimp only; decide) rfl
  · exact iff_of_false (by dsimp only; omega) (Option.some_ne_none a)

theorem singleton_infix_iff {c : Char} {s : Str} : [c] <:+: s ↔ c ∈ s :=
  ⟨fun h => h.subset (List.mem_singleton_self c), fun h => by
    obtain ⟨a, b, rfl⟩ := List.append_of_mem h
    exact ⟨a, b, by simp⟩⟩

theorem breakOn_singleton_append {c : Char} {b : Str} (hb : c ∉ b) (a : Str) :
    breakOn [c] (b ++ c :: a) = (b, some a) := by
  induction b with
  | nil => simp [breakOn]
  | cons d b ih =>
    have hd : c ≠ d := by rintro rfl; exact hb (List.mem_cons_self _ _)
    simp [breakOn, hd, ih (fun h => hb (.tail _ h))]

@[simp] theorem join_singleton (sep a : Str) : join sep [a] = a := by
  simp [join, List.intercalate]

theorem join_cons_cons (sep a b : Str) (l : List Str) :
    join sep (a :: b :: l) = a ++ sep ++ join sep (b :: l) := by
  simp [join, List.intercalate, List.intersperse_cons_cons]

theorem splitAux_skip (sep : Str) (k : Nat) (s acc : Str) :
    splitAux sep k s acc = splitAux sep 0 (s.drop k) acc := by
  induction s generalizing k with
  | nil => cases k <;> simp [splitAux]
  | cons c t ih => cases k <;> simp [splitAux, ih]

theorem splitAux_zero {sep : Str} (hsep : sep ≠ []) (s acc : Str) :
    splitAux sep 0 s acc =
      (acc.reverse ++ (breakOn sep s).1) :: (breakOn sep s).2.elim [] (split · sep) := by
  induction s generalizing acc with
  | nil => simp [splitAux, breakOn, List.isPrefixOf_iff_prefix, hsep]
  | cons c t ih =>
    simp only [splitAux, breakOn]
    split_ifs
    · obtain ⟨n, hn⟩ := Nat.exists_eq_succ_of_ne_zero (List.length_pos.2 hsep).ne'
      simp [splitAux_skip, split, hn]
    · simp [ih]

theorem split_of_breakOn_some {sep s b a : Str} (hsep : sep ≠ [])
    (h : breakOn sep s = (b, some a)) : split s sep = b :: split a sep := by
  rw [split, splitAux_zero hsep, h]
  rfl

theorem split_of_breakOn_none {sep s b : Str} (hsep : sep ≠ []) (h : breakOn sep s = (b, none)) :
    split s sep = [s] := by
  rw [split, splitAux_zero hsep, h, breakOn_eq_none h]
  rfl

theorem split_ne_nil {sep : Str} (hsep : sep ≠ []) (s : Str) : split s sep ≠ [] := by
  rw [split, splitAux_zero hsep]
  exact List.cons_ne_nil _ _

theorem join_split {sep : Str} (hsep : sep ≠ []) (s : Str) : join sep (split s sep) = s := by
  induction' hs : s.length using Nat.strong_induction_on with n ih generalizing s
  rcases hb : breakOn sep s with ⟨b, _ | a⟩
  · simp [split_of_breakOn_none hsep hb]
  · have hs' := breakOn_eq_some hb
    have hlt : a.length < n := by
      subst hs'; simp only [List.length_append] at hs
      have := List.length_pos.2 hsep; omega
    obtain ⟨x, l, hxl⟩ := List.exists_cons_of_ne_nil (split_ne_nil hsep a)
    rw [split_of_breakOn_some hsep hb, hxl, join_cons_cons, ← hxl, ih _ hlt a rfl, hs']

/-- What the doxygen tool reads off `s.split(sep)`: `tmp[0]` and `sep.join(tmp[1:])` are the
text before the first `sep` and the text after it. -/
theorem split_head_join_tail {sep s b a : Str} (hsep : sep ≠ [])
    (h : breakOn sep s = (b, some a)) :
    (split s sep).headD [] = b ∧ join sep (split s sep).tail = a := by
  rw [split_of_breakOn_some hsep h]
  exact ⟨rfl, join_split hsep a⟩

end WafDoxygen
