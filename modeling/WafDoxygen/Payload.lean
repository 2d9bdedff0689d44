import WafDoxygen.ClosedForm

/-!
# The configuration written to doxygen's standard input

`doxygen.run` copies `self.pars`, sets `INPUT` in the copy to the quoted absolute paths of
`doxy_inputs`, and writes one `key = value` line for each key of `self.pars`. Read back by
`parse_doxy`, such a text gives the map it was written from when no key holds `=`, no value
holds `+=` or surrounding whitespace, and no value but the last ends in a backslash. The keys
and values `parse_doxy` produces hold no line feed, and its keys are stripped and never start
a comment, so those conditions are all a round trip needs.
-/

namespace WafDoxygen

/-- `'\n'.join(['%s = %s' % (x, d[x]) for x in keys])`. -/
def payloadText (keys : List Str) (d : PyDict) : Str :=
  join ['\n'] (keys.map fun x => x ++ [' ', '=', ' '] ++ (d.get x).getD [])

def inputKey : Str := "INPUT".toList

def inputValue {Node : Type} (abspath : Node → Str) (doxyInputs : List Node) : Str :=
  join [' '] (doxyInputs.map fun x => '"' :: abspath x ++ ['"'])

/-- The text `doxygen.run` writes to doxygen's standard input. -/
def runPayload {Node : Type} (abspath : Node → Str) (pars : PyDict) (doxyInputs : List Node) :
    Str :=
  payloadText pars.keys (pars.set inputKey (inputValue abspath doxyInputs))

def EntryOk (k v : Str) : Prop := '\n' ∉ k ∧ '\n' ∉ v ∧ strip k = k ∧ k.head? ≠ some '#'

/-- What every map `parse_doxy` returns satisfies. -/
def WellFormed (m : PyDict) : Prop := ∀ e ∈ m.entries, EntryOk e.1 e.2

theorem assignment?_entryOk {y : Str} (hy : strip y = y) (hn : '\n' ∉ y) {a : Assignment}
    (h : assignment? y = some a) : EntryOk a.key a.value := by
  obtain ⟨hh, b, sep, r, rfl, hk, hv⟩ := assignment?_eq_some h
  rw [hk, hv]
  refine ⟨fun h' => hn ?_, fun h' => hn ?_, strip_strip b, ?_⟩
  · exact List.mem_append_left _ (List.mem_append_left _ ((strip_isInfix b).subset h'))
  · exact List.mem_append_right _ ((strip_isInfix r).subset h')
  · rcases head?_strip_of_prefix ⟨sep ++ r, (List.append_assoc b sep r).symm⟩
      (dropWhile_eq_self_of_strip hy) with h' | h' <;> rw [h']
    · simp
    · exact hh

theorem wellFormed_assign {tbl : PyDict} (ht : WellFormed tbl) {a : Assignment}
    (ha : EntryOk a.key a.value) : WellFormed (assign tbl a) := by
  have hset : ∀ v, '\n' ∉ v → WellFormed (tbl.set a.key v) := fun v hv e he => by
    rcases mem_setEntry he with he | rfl
    · exact ht e he
    · exact ⟨ha.1, hv, ha.2.2⟩
  unfold assign
  split_ifs
  · split
    · next w hw =>
      refine hset _ ?_
      have := (ht _ (mem_of_lookupEntry hw)).2.1
      simp [this, ha.2.1]
    · exact hset _ ha.2.1
  · exact hset _ ha.2.1

theorem parseDoxy_wellFormed (t : Str) : WellFormed (parseDoxy t) := by
  rw [parseDoxy_eq_foldl_assign]
  have hlines : ∀ y ∈ logicalLines t, strip y = y ∧ '\n' ∉ y := by
    intro y hy
    obtain ⟨p, hp, rfl⟩ := List.mem_map.1 hy
    exact ⟨strip_strip p, fun h => not_mem_of_mem_reNlSplit hp ((strip_isInfix p).subset h)⟩
  have hall : ∀ a ∈ (logicalLines t).filterMap assignment?, EntryOk a.key a.value := by
    intro a ha
    obtain ⟨y, hy, hya⟩ := List.mem_filterMap.1 ha
    exact assignment?_entryOk (hlines y hy).1 (hlines y hy).2 hya
  generalize (logicalLines t).filterMap assignment? = as at hall
  suffices ∀ tbl, WellFormed tbl → WellFormed (as.foldl assign tbl) from
    this _ fun e he => by cases he
  induction as with
  | nil => exact fun _ ht => ht
  | cons a as ih =>
    exact fun tbl ht => ih (fun b hb => hall b (.tail _ hb)) _
      (wellFormed_assign ht (hall a (List.mem_cons_self _ _)))

/-- The conditions under which a map survives being written as `key = value` lines. -/
def Serializable (m : PyDict) : Prop :=
  (∀ e ∈ m.entries, '=' ∉ e.1 ∧ ¬ ['+', '='] <:+: e.2 ∧ strip e.2 = e.2) ∧
    ∀ e ∈ m.entries.dropLast, e.2.getLast? ≠ some '\\'

instance (m : PyDict) : Decidable (Serializable m) :=
  inferInstanceAs (Decidable ((∀ e ∈ m.entries, '=' ∉ e.1 ∧ ¬ ['+', '='] <:+: e.2 ∧ strip e.2 = e.2) ∧
    ∀ e ∈ m.entries.dropLast, e.2.getLast? ≠ some '\\'))

instance (m : PyDict) : Decidable (WellFormed m) :=
  inferInstanceAs (Decidable (∀ e ∈ m.entries,
    '\n' ∉ e.1 ∧ '\n' ∉ e.2 ∧ strip e.1 = e.1 ∧ e.1.head? ≠ some '#'))

def entryLine (e : Str × Str) : Str := e.1 ++ [' ', '=', ' '] ++ e.2

theorem payloadText_self (m : PyDict) : payloadText m.keys m = join ['\n'] (m.entries.map entryLine) := by
  rw [payloadText, PyDict.keys, List.map_map]
  congr 1
  refine List.map_congr_left fun e he => ?_
  simp [entryLine, PyDict.get, PyDict.lookupEntry_of_mem m.nodup he]

theorem not_plusEq_infix_line {k v : Str} (hk : '=' ∉ k) (hv : ¬ ['+', '='] <:+: v) :
    ¬ ['+', '='] <:+: k ++ ' ' :: '=' :: ' ' :: v := by
  induction k with
  | nil => simpa [List.infix_cons_iff] using hv
  | cons c k ih =>
    rw [List.cons_append, List.infix_cons_iff, not_or, List.cons_prefix_cons]
    refine ⟨?_, ih (fun h => hk (.tail _ h))⟩
    rintro ⟨-, h⟩
    cases k with
    | nil => simp at h
    | cons d k => exact hk (by simp_all)

theorem assignment?_entryLine {e : Str × Str} (hk : strip e.1 = e.1) (hh : e.1.head? ≠ some '#')
    (hs : '=' ∉ e.1 ∧ ¬ ['+', '='] <:+: e.2 ∧ strip e.2 = e.2) :
    assignment? (strip (entryLine e)) = some ⟨e.1, e.2, false⟩ := by
  have hline : entryLine e = (e.1 ++ [' ']) ++ '=' :: ' ' :: e.2 := by simp [entryLine]
  have hd : (e.1 ++ [' ']).dropWhile isSpace = if e.1 = [] then [] else e.1 ++ [' '] := by
    rw [List.dropWhile_append, dropWhile_eq_self_of_strip hk]
    cases e.1 <;> simp [isSpace_space]
  have hv : strip (' ' :: e.2) = strip e.2 := strip_space_append (w := [' ']) (by simp [isSpace_space]) _
  rw [hline, assignment?_plain (by simpa using hs.1) (by simpa using not_plusEq_infix_line hs.1 hs.2.1)
    (by rw [hd]; split_ifs <;> simp_all), strip_append_space _ (by simp [isSpace_space]), hv, hk,
    hs.2.2]

theorem getLast?_ne_of_strip {v : Str} (hv : strip v = v) {c : Char} (hc : isSpace c = true) :
    v.getLast? ≠ some c := by
  intro hlast
  have hne : v ≠ [] := by rintro rfl; simp at hlast
  have hnot := (List.rdropWhile_eq_self_iff.1 (rdropWhile_eq_self_of_strip hv)) hne
  rw [List.getLast?_eq_getLast v hne, Option.some.injEq] at hlast
  exact hnot (hlast ▸ hc)

theorem logicalLines_join {ls : List Str} (hne : ls ≠ []) (hn : ∀ l ∈ ls, '\n' ∉ l)
    (hend : ∀ l ∈ ls.dropLast, l.getLast? ≠ some '\\' ∧ l.getLast? ≠ some '\r') :
    logicalLines (join ['\n'] ls) = ls.map strip := by
  rw [logicalLines, reRlSub_join_lines ls hn hend, reNlSplit_map_strip, join,
    List.splitOn_intercalate ls '\n' hn hne]

theorem foldl_set_entries (es : List (Str × Str)) (d : PyDict)
    (hes : (d.entries ++ es).map Prod.fst |>.Nodup) :
    (es.foldl (fun d e => d.set e.1 e.2) d).entries = d.entries ++ es := by
  induction es generalizing d with
  | nil => simp
  | cons e es ih =>
    have hnew : e.1 ∉ d.keys := by
      simp only [List.map_append, List.map_cons, List.nodup_append, List.nodup_cons] at hes
      exact fun h => hes.2.2 h (List.mem_cons_self _ _)
    have hset : (d.set e.1 e.2).entries = d.entries ++ [e] := setEntry_of_not_mem hnew e.2
    rw [List.foldl_cons, ih _ (by rwa [hset, List.append_assoc]), hset, List.append_assoc,
      List.singleton_append]

/-- `parse_doxy` reads back every well-formed, serializable map from its payload. -/
theorem parseDoxy_payloadText {m : PyDict} (hw : WellFormed m) (hs : Serializable m) :
    parseDoxy (payloadText m.keys m) = m := by
  rw [parseDoxy_eq_foldl_assign, payloadText_self]
  by_cases hm : m.entries = []
  · obtain rfl : m = PyDict.empty := PyDict.ext' hm
    rfl
  have hn : ∀ l ∈ m.entries.map entryLine, '\n' ∉ l := by
    intro l hl
    obtain ⟨e, he, rfl⟩ := List.mem_map.1 hl
    simp [entryLine, (hw e he).1, (hw e he).2.1]
  have hend : ∀ l ∈ (m.entries.map entryLine).dropLast,
      l.getLast? ≠ some '\\' ∧ l.getLast? ≠ some '\r' := by
    rw [← List.map_dropLast]
    intro l hl
    obtain ⟨e, he, rfl⟩ := List.mem_map.1 hl
    have hv := getLast?_ne_of_strip (hs.1 e (List.dropLast_subset _ he)).2.2 isSpace_cr
    have hb := hs.2 e he
    simp only [entryLine, List.getLast?_append]
    rcases hl2 : e.2.getLast? with _ | c
    · simp
    · rw [hl2] at hv hb
      exact ⟨hb, hv⟩
  have hassign : ∀ e ∈ m.entries,
      (assignment? ∘ strip ∘ entryLine) e = some ⟨e.1, e.2, false⟩ := fun e he =>
    assignment?_entryLine (hw e he).2.2.1 (hw e he).2.2.2 (hs.1 e he)
  rw [logicalLines_join (by simpa using hm) hn hend, List.map_map, List.filterMap_map,
    List.filterMap_congr hassign,
    show (fun e : Str × Str => some (⟨e.1, e.2, false⟩ : Assignment)) = some ∘ fun e => ⟨e.1, e.2, false⟩
      from rfl, List.filterMap_eq_map, List.foldl_map]
  exact PyDict.ext' (foldl_set_entries m.entries PyDict.empty (by simpa using m.nodup))

/-- Writing the map `parse_doxy` read as `key = value` lines and reading them again gives the
same map, whenever that map is serializable. -/
theorem parseDoxy_payload_round_trip (t : Str) (h : Serializable (parseDoxy t)) :
    parseDoxy (payloadText (parseDoxy t).keys (parseDoxy t)) = parseDoxy t :=
  parseDoxy_payloadText (parseDoxy_wellFormed t) h

theorem parseDoxy_payload_round_trip_sample :
    Serializable (parseDoxy "PROJECT_NAME = ndns\nINPUT = src \\\n  docs\nFILE_PATTERNS += *.md".toList) ∧
    parseDoxy (payloadText
        (parseDoxy "PROJECT_NAME = ndns\nINPUT = src \\\n  docs\nFILE_PATTERNS += *.md".toList).keys
        (parseDoxy "PROJECT_NAME = ndns\nINPUT = src \\\n  docs\nFILE_PATTERNS += *.md".toList)) =
      parseDoxy "PROJECT_NAME = ndns\nINPUT = src \\\n  docs\nFILE_PATTERNS += *.md".toList :=
  ⟨by decide, parseDoxy_payload_round_trip _ (by decide)⟩

/-- `A += b += c` reads as `A` with value `b += c`; written back as `A = b += c`, it reads as
the key `A = b` with value `c`. -/
theorem payload_misreads_second_addition :
    parseDoxy (payloadText (parseDoxy "A += b += c".toList).keys (parseDoxy "A += b += c".toList)) ≠
      parseDoxy "A += b += c".toList := by
  decide

end WafDoxygen
