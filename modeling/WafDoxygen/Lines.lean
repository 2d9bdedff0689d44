import WafDoxygen.PyStr

/-!
# Continuation lines and line splitting

`parse_doxy` first deletes every match of `re_rl = '\\\\\r*\n'` (a backslash, carriage
returns, a line feed) and then splits at every match of `re_nl = '\r*\n'`. Both regexes are
scanned leftmost first without overlap, and are written here as automata over the text: a
pending backslash or a run of carriage returns is held until the next character decides
whether it belongs to a match. The scan equations `reRlSub_backslash` and `reRlSub_cons` give
the regex reading back.
-/

namespace WafDoxygen

def contMatch : Str → Option Str
  | '\r' :: s => contMatch s
  | '\n' :: s => some s
  | _ => none

/-- `pending k` stands for a backslash followed by `k` carriage returns not yet emitted. -/
def reRlSubAux : Option Nat → Str → Str
  | none, [] => []
  | some k, [] => '\\' :: List.replicate k '\r'
  | none, c :: s => if c = '\\' then reRlSubAux (some 0) s else c :: reRlSubAux none s
  | some k, c :: s =>
    if c = '\r' then reRlSubAux (some (k + 1)) s
    else if c = '\n' then reRlSubAux none s
    else '\\' :: List.replicate k '\r' ++
      (if c = '\\' then reRlSubAux (some 0) s else c :: reRlSubAux none s)

def reRlSub (s : Str) : Str := reRlSubAux none s

/-- `k` carriage returns are pending; `acc` is the current piece, reversed. -/
def reNlSplitAux : Nat → Str → Str → List Str
  | k, [], acc => [acc.reverse ++ List.replicate k '\r']
  | k, c :: s, acc =>
    if c = '\r' then reNlSplitAux (k + 1) s acc
    else if c = '\n' then acc.reverse :: reNlSplitAux 0 s []
    else reNlSplitAux 0 s (c :: (List.replicate k '\r' ++ acc))

def reNlSplit (s : Str) : List Str := reNlSplitAux 0 s []

def crlf : Str → Str
  | [] => []
  | c :: s => if c = '\n' then '\r' :: '\n' :: crlf s else c :: crlf s

theorem reRlSubAux_some (k : Nat) (s : Str) :
    reRlSubAux (some k) s =
      match contMatch s with
      | some r => reRlSub r
      | none => '\\' :: List.replicate k '\r' ++ reRlSub s := by
  induction s generalizing k with
  | nil => simp [reRlSubAux, contMatch, reRlSub]
  | cons c s ih =>
    by_cases hr : c = '\r'
    · subst hr
      rw [reRlSubAux, if_pos rfl, ih, contMatch]
      split <;> simp [reRlSub, reRlSubAux, List.replicate_succ']
    · by_cases hn : c = '\n'
      · subst hn; simp [reRlSubAux, contMatch, reRlSub]
      · have : contMatch (c :: s) = none := by
          unfold contMatch; split <;> simp_all
        simp [reRlSubAux, hr, hn, this, reRlSub]

@[simp] theorem reRlSub_nil : reRlSub [] = [] := rfl

theorem reRlSub_backslash (s : Str) :
    reRlSub ('\\' :: s) =
      match contMatch s with
      | some r => reRlSub r
      | none => '\\' :: reRlSub s := by
  rw [reRlSub, reRlSubAux, if_pos rfl, reRlSubAux_some]
  rfl

theorem reRlSub_cons {c : Char} (hc : c ≠ '\\') (s : Str) : reRlSub (c :: s) = c :: reRlSub s := by
  simp [reRlSub, reRlSubAux, hc]

theorem contMatch_eq_none_of_not_mem {s : Str} (hn : '\n' ∉ s) : contMatch s = none := by
  induction s with
  | nil => rfl
  | cons c s ih =>
    have hc : c ≠ '\n' := fun h => hn (h ▸ List.mem_cons_self _ _)
    by_cases hr : c = '\r'
    · subst hr; rw [contMatch]; exact ih (fun h => hn (.tail _ h))
    · unfold contMatch; split <;> simp_all

theorem contMatch_append_eq_none {l : Str} (hn : '\n' ∉ l) (hne : l ≠ [])
    (hl : l.getLast? ≠ some '\r') (r : Str) : contMatch (l ++ r) = none := by
  induction l with
  | nil => exact absurd rfl hne
  | cons c l ih =>
    have hc : c ≠ '\n' := fun h => hn (h ▸ List.mem_cons_self _ _)
    by_cases hr : c = '\r'
    · subst hr
      obtain ⟨d, l, rfl⟩ := List.exists_cons_of_ne_nil (show l ≠ [] by rintro rfl; simp at hl)
      rw [List.cons_append, contMatch]
      exact ih (fun h => hn (.tail _ h)) (List.cons_ne_nil _ _) (by simpa using hl)
    · rw [List.cons_append]; unfold contMatch; split <;> simp_all

theorem reRlSub_of_not_mem {s : Str} (hn : '\n' ∉ s) : reRlSub s = s := by
  induction s with
  | nil => rfl
  | cons c s ih =>
    have hs : '\n' ∉ s := fun h => hn (.tail _ h)
    by_cases hb : c = '\\'
    · subst hb; rw [reRlSub_backslash, contMatch_eq_none_of_not_mem hs, ih hs]
    · rw [reRlSub_cons hb, ih hs]

theorem reRlSub_append {l : Str} (hn : '\n' ∉ l) (hb : l.getLast? ≠ some '\\')
    (hr : l.getLast? ≠ some '\r') (r : Str) : reRlSub (l ++ r) = l ++ reRlSub r := by
  induction l with
  | nil => rfl
  | cons c l ih =>
    have hl : '\n' ∉ l := fun h => hn (.tail _ h)
    by_cases hc : c = '\\'
    · subst hc
      obtain ⟨d, l, rfl⟩ := List.exists_cons_of_ne_nil (show l ≠ [] by rintro rfl; simp at hb)
      rw [List.getLast?_cons_cons] at hb hr
      rw [List.cons_append, reRlSub_backslash, contMatch_append_eq_none hl (List.cons_ne_nil _ _) hr,
        ih hl hb hr]
      rfl
    · have hlast : l.getLast? ≠ some '\\' ∧ l.getLast? ≠ some '\r' := by
        cases l with
        | nil => simp
        | cons d l => rw [List.getLast?_cons_cons] at hb hr; exact ⟨hb, hr⟩
      rw [List.cons_append, reRlSub_cons hc, ih hl hlast.1 hlast.2]
      rfl

/-- `re_rl` deletes nothing from lines joined by line feeds when every line but the last ends
in neither a backslash nor a carriage return. -/
theorem reRlSub_join_lines : ∀ (ls : List Str), (∀ l ∈ ls, '\n' ∉ l) →
    (∀ l ∈ ls.dropLast, l.getLast? ≠ some '\\' ∧ l.getLast? ≠ some '\r') →
    reRlSub (join ['\n'] ls) = join ['\n'] ls
  | [], _, _ => rfl
  | [l], hn, _ => by rw [join_singleton, reRlSub_of_not_mem (hn l (List.mem_singleton_self l))]
  | l :: l' :: ls, hn, hend => by
    have hl := hend l (by simp)
    rw [join_cons_cons, List.append_assoc, reRlSub_append (hn l (List.mem_cons_self _ _)) hl.1 hl.2,
      List.singleton_append, reRlSub_cons (by decide),
      reRlSub_join_lines (l' :: ls) (fun x hx => hn x (.tail _ hx))
        (fun x hx => hend x (by simp_all [List.dropLast_cons₂]))]

theorem not_mem_of_mem_reNlSplitAux {k : Nat} {s acc p : Str} (hacc : '\n' ∉ acc)
    (hp : p ∈ reNlSplitAux k s acc) : '\n' ∉ p := by
  induction s generalizing k acc with
  | nil =>
    simp only [reNlSplitAux, List.mem_singleton] at hp
    subst hp
    simp [hacc, List.mem_replicate]
  | cons c s ih =>
    simp only [reNlSplitAux] at hp
    split_ifs at hp with hr hn
    · exact ih hacc hp
    · rcases List.mem_cons.1 hp with rfl | hp
      · simpa using hacc
      · exact ih (List.not_mem_nil _) hp
    · refine ih ?_ hp
      simp [hacc, List.mem_replicate, Ne.symm hn]

theorem not_mem_of_mem_reNlSplit {s p : Str} (hp : p ∈ reNlSplit s) : '\n' ∉ p :=
  not_mem_of_mem_reNlSplitAux (List.not_mem_nil _) hp

@[simp] theorem crlf_append (a b : Str) : crlf (a ++ b) = crlf a ++ crlf b := by
  induction a with
  | nil => rfl
  | cons c a ih => by_cases h : c = '\n' <;> simp [crlf, h, ih]

@[simp] theorem crlf_replicate_cr (k : Nat) : crlf (List.replicate k '\r') = List.replicate k '\r' := by
  induction k with
  | zero => rfl
  | succ k ih => simp [List.replicate_succ, crlf, ih]

theorem reRlSubAux_crlf (st : Option Nat) (s : Str) :
    reRlSubAux st (crlf s) = crlf (reRlSubAux st s) := by
  induction s generalizing st with
  | nil => cases st <;> simp [crlf, reRlSubAux]
  | cons c s ih =>
    by_cases hn : c = '\n'
    · subst hn
      cases st <;> simp [crlf, reRlSubAux, ih]
    · cases st <;> by_cases hb : c = '\\' <;> by_cases hr : c = '\r' <;>
        simp_all [crlf, reRlSubAux]

/-- Deleting continuations commutes with writing line feeds as CR LF. -/
theorem reRlSub_crlf (s : Str) : reRlSub (crlf s) = crlf (reRlSub s) := reRlSubAux_crlf none s

theorem reNlSplitAux_crlf (k : Nat) (s acc : Str) :
    reNlSplitAux k (crlf s) acc = reNlSplitAux k s acc := by
  induction s generalizing k acc with
  | nil => rfl
  | cons c s ih =>
    by_cases hn : c = '\n'
    · subst hn; simp [crlf, reNlSplitAux, ih]
    · simp [crlf, reNlSplitAux, hn, ih]

/-- A carriage return inserted before each line feed joins the separator it precedes. -/
theorem reNlSplit_crlf (s : Str) : reNlSplit (crlf s) = reNlSplit s := reNlSplitAux_crlf 0 s []

theorem isSpace_cr : isSpace '\r' = true := rfl

theorem reNlSplitAux_strip (k : Nat) (s acc : Str) :
    (reNlSplitAux k s acc).map strip =
      (List.splitOnP.go (· == '\n') s (List.replicate k '\r' ++ acc)).map strip := by
  induction s generalizing k acc with
  | nil => simp [reNlSplitAux, List.splitOnP.go]
  | cons c s ih =>
    have hcr : ∀ c ∈ List.replicate k '\r', isSpace c := by simp [isSpace_cr]
    by_cases hr : c = '\r'
    · subst hr; simp [reNlSplitAux, List.splitOnP.go, ih, List.replicate_succ]
    · by_cases hn : c = '\n'
      · subst hn
        simp [reNlSplitAux, List.splitOnP.go, ih, strip_append_space _ hcr]
      · simp [reNlSplitAux, List.splitOnP.go, hr, hn, ih]

/-- Up to the whitespace `strip` removes, `re_nl.split` splits at line feeds. -/
theorem reNlSplit_map_strip (s : Str) :
    (reNlSplit s).map strip = (s.splitOn '\n').map strip := by
  simpa using reNlSplitAux_strip 0 s []

end WafDoxygen
