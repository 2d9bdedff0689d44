import WafDoxygen.ParseDoxy

/-!
# The map `parse_doxy` reads, in closed form

Keys come in the order they first appear. A key's value is that of its last plain assignment,
or of its first assignment when none is plain, followed by a blank and the value of every
additive assignment after it. The proof folds `assign` over the assignments one at a time.
-/

namespace WafDoxygen

/-- The keys of a list, each once, in order of first occurrence. -/
def firstOccurrences (ks : List Str) : List Str :=
  ks.foldl (fun acc k => if k ∈ acc then acc else acc ++ [k]) []

/-- The value the assignments of one key leave. -/
def closedValue (as : List Assignment) : Str :=
  let tail (bs : List Assignment) := (bs.map (' ' :: ·.value)).flatten
  match as.reverse.dropWhile (·.additive) with
  | p :: _ => p.value ++ tail (as.reverse.takeWhile (·.additive)).reverse
  | [] =>
    match as with
    | [] => []
    | a :: rest => a.value ++ tail rest

def assignmentsFor (K : Str) (as : List Assignment) : List Assignment := as.filter (·.key = K)

theorem firstOccurrences_append (ks : List Str) (k : Str) :
    firstOccurrences (ks ++ [k]) =
      if k ∈ firstOccurrences ks then firstOccurrences ks else firstOccurrences ks ++ [k] := by
  simp [firstOccurrences]

theorem closedValue_singleton (a : Assignment) : closedValue [a] = a.value := by
  cases h : a.additive <;> simp [closedValue, h]

theorem closedValue_append_plain (as : List Assignment) {a : Assignment} (ha : a.additive = false) :
    closedValue (as ++ [a]) = a.value := by
  simp [closedValue, ha]

theorem closedValue_append_additive {as : List Assignment} (hne : as ≠ []) {a : Assignment}
    (ha : a.additive = true) :
    closedValue (as ++ [a]) = closedValue as ++ ' ' :: a.value := by
  rcases hd : as.reverse.dropWhile (·.additive) with _ | ⟨p, rest⟩ <;>
    simp only [closedValue, List.reverse_append, List.reverse_singleton, List.singleton_append,
      List.takeWhile_cons, List.dropWhile_cons, ha, if_true, hd]
  · obtain ⟨b, bs, rfl⟩ := List.exists_cons_of_ne_nil hne
    simp
  · simp
theorem mem_firstOccurrences {K : Str} {ks : List Str} : K ∈ firstOccurrences ks ↔ K ∈ ks := by
  induction ks using List.reverseRecOn generalizing K with
  | nil => simp [firstOccurrences]
  | append_singleton ks k ih =>
    rw [firstOccurrences_append]
    split_ifs with h <;> simp only [List.mem_append, List.mem_singleton, ih]
    exact ⟨Or.inl, fun h' => h'.elim id (· ▸ (ih.1 h))⟩

theorem assignmentsFor_eq_nil_iff {K : Str} {as : List Assignment} :
    assignmentsFor K as = [] ↔ K ∉ as.map (·.key) := by
  simp [assignmentsFor, List.filter_eq_nil_iff]

theorem assign_eq_set (tbl : PyDict) (a : Assignment) : ∃ v, assign tbl a = tbl.set a.key v := by
  unfold assign
  split_ifs
  · split <;> exact ⟨_, rfl⟩
  · exact ⟨_, rfl⟩

theorem keys_assign (tbl : PyDict) (a : Assignment) :
    (assign tbl a).keys = if a.key ∈ tbl.keys then tbl.keys else tbl.keys ++ [a.key] := by
  obtain ⟨v, hv⟩ := assign_eq_set tbl a
  rw [hv, PyDict.keys_set]

theorem keys_foldl_assign (as : List Assignment) :
    (as.foldl assign PyDict.empty).keys = firstOccurrences (as.map (·.key)) := by
  induction as using List.reverseRecOn with
  | nil => rfl
  | append_singleton as a ih =>
    rw [List.foldl_append, List.foldl_cons, List.foldl_nil, keys_assign, ih, List.map_append,
      List.map_singleton, firstOccurrences_append]

theorem get_foldl_assign (as : List Assignment) (K : Str) :
    (as.foldl assign PyDict.empty).get K =
      if assignmentsFor K as = [] then none else some (closedValue (assignmentsFor K as)) := by
  induction as using List.reverseRecOn with
  | nil => rfl
  | append_singleton as a ih =>
    rw [List.foldl_append, List.foldl_cons, List.foldl_nil]
    by_cases hK : a.key = K
    · subst hK
      have hfor : assignmentsFor a.key (as ++ [a]) = assignmentsFor a.key as ++ [a] := by
        simp [assignmentsFor]
      rw [hfor, if_neg (by simp)]
      cases ha : a.additive
      · simp [assign, ha, closedValue_append_plain _ ha]
      · by_cases hn : assignmentsFor a.key as = []
        · simp [assign, ha, ih, hn, closedValue_singleton]
        · simp [assign, ha, ih, hn, closedValue_append_additive hn ha]
    · have hfor : assignmentsFor K (as ++ [a]) = assignmentsFor K as := by
        simp [assignmentsFor, hK]
      obtain ⟨v, hv⟩ := assign_eq_set (as.foldl assign PyDict.empty) a
      rw [hfor, ← ih, hv, PyDict.get_set, if_neg (Ne.symm hK)]

/-- The assignments among the logical lines of a Doxyfile text. -/
def doxyAssignments (t : Str) : List Assignment := (logicalLines t).filterMap assignment?

theorem parseDoxy_closed_form (t : Str) :
    (∀ K, K ∈ (parseDoxy t).keys ↔ ∃ a ∈ doxyAssignments t, a.key = K) ∧
    (parseDoxy t).entries = (firstOccurrences ((doxyAssignments t).map (·.key))).map
      fun K => (K, closedValue (assignmentsFor K (doxyAssignments t))) := by
  rw [parseDoxy_eq_foldl_assign, ← doxyAssignments]
  refine ⟨fun K => by simp [keys_foldl_assign, mem_firstOccurrences], ?_⟩
  rw [PyDict.entries_eq_map_keys, keys_foldl_assign]
  refine List.map_congr_left fun K hK => ?_
  have hne : assignmentsFor K (doxyAssignments t) ≠ [] :=
    mt assignmentsFor_eq_nil_iff.1 (not_not.2 (mem_firstOccurrences.1 hK))
  simp [get_foldl_assign, hne]

end WafDoxygen
