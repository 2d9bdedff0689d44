import WafDoxygen.PyStr
import Mathlib.Data.List.Nodup

/-!
# Python dictionaries

A `dict` from strings to strings, as its entries in insertion order; the keys are distinct by
construction. Assigning to a present key keeps its place, a new key goes last, and iteration
follows insertion order, as for CPython dictionaries.
-/

namespace WafDoxygen

def lookupEntry (k : Str) : List (Str × Str) → Option Str
  | [] => none
  | e :: es => if e.1 = k then some e.2 else lookupEntry k es

/-- `d[k] = v` on the entry list. -/
def setEntry (k v : Str) : List (Str × Str) → List (Str × Str)
  | [] => [(k, v)]
  | e :: es => if e.1 = k then (k, v) :: es else e :: setEntry k v es

theorem keys_setEntry (k v : Str) (es : List (Str × Str)) :
    (setEntry k v es).map Prod.fst =
      if k ∈ es.map Prod.fst then es.map Prod.fst else es.map Prod.fst ++ [k] := by
  induction es with
  | nil => simp [setEntry]
  | cons e es ih =>
    by_cases he : e.1 = k
    · simp [setEntry, he]
    · simp only [setEntry, if_neg he, List.map_cons, ih, List.mem_cons, Ne.symm he, false_or]
      split_ifs <;> rfl

theorem setEntry_of_not_mem {k : Str} {es : List (Str × Str)} (h : k ∉ es.map Prod.fst) (v : Str) :
    setEntry k v es = es ++ [(k, v)] := by
  induction es with
  | nil => rfl
  | cons e es ih =>
    simp only [List.map_cons, List.mem_cons, not_or] at h
    simp [setEntry, Ne.symm h.1, ih h.2]

theorem mem_setEntry {k v : Str} {es : List (Str × Str)} {e : Str × Str} (h : e ∈ setEntry k v es) :
    e ∈ es ∨ e = (k, v) := by
  induction es with
  | nil => simpa [setEntry] using h
  | cons e' es ih =>
    simp only [setEntry] at h
    split_ifs at h
    · rcases List.mem_cons.1 h with rfl | h
      · exact Or.inr rfl
      · exact Or.inl (.tail _ h)
    · rcases List.mem_cons.1 h with rfl | h
      · exact Or.inl (List.mem_cons_self _ _)
      · exact (ih h).imp_left (.tail _)

theorem mem_of_lookupEntry {k w : Str} {es : List (Str × Str)} (h : lookupEntry k es = some w) :
    (k, w) ∈ es := by
  induction es with
  | nil => cases h
  | cons e es ih =>
    simp only [lookupEntry] at h
    split_ifs at h with he
    · cases h; subst he; exact List.mem_cons_self _ _
    · exact .tail _ (ih h)

theorem lookupEntry_setEntry (k v k' : Str) (es : List (Str × Str)) :
    lookupEntry k' (setEntry k v es) = if k' = k then some v else lookupEntry k' es := by
  induction es with
  | nil =>
    by_cases h : k' = k
    · subst h; simp [setEntry, lookupEntry]
    · simp [setEntry, lookupEntry, h, Ne.symm h]
  | cons e es ih =>
    by_cases he : e.1 = k
    · subst he
      rw [setEntry, if_pos rfl]
      by_cases h : k' = e.1
      · subst h; simp [lookupEntry]
      · simp [lookupEntry, h, Ne.symm h]
    · rw [setEntry, if_neg he, lookupEntry, lookupEntry, ih]
      by_cases h1 : e.1 = k' <;> by_cases h2 : k' = k <;> simp_all

theorem lookupEntry_isSome_iff (k : Str) (es : List (Str × Str)) :
    (lookupEntry k es).isSome ↔ k ∈ es.map Prod.fst := by
  induction es with
  | nil => simp [lookupEntry]
  | cons e es ih =>
    simp only [lookupEntry, List.map_cons, List.mem_cons]
    split_ifs with he
    · simp [he]
    · have hk : k ≠ e.1 := fun h => he h.symm
      simp [ih, hk]

structure PyDict where
  entries : List (Str × Str)
  nodup : (entries.map Prod.fst).Nodup

namespace PyDict

theorem ext' {d d' : PyDict} (h : d.entries = d'.entries) : d = d' := by
  cases d; cases d'; simp_all

instance : DecidableEq PyDict := fun d d' =>
  decidable_of_iff (d.entries = d'.entries) ⟨ext', fun h => h ▸ rfl⟩

def empty : PyDict := ⟨[], List.nodup_nil⟩

def keys (d : PyDict) : List Str := d.entries.map Prod.fst

/-- `d.get(k)`, `None` when `k` is absent. -/
def get (d : PyDict) (k : Str) : Option Str := lookupEntry k d.entries

/-- `d[k] = v`. -/
def set (d : PyDict) (k v : Str) : PyDict :=
  ⟨setEntry k v d.entries, by
    rw [keys_setEntry]
    split_ifs with h
    · exact d.nodup
    · exact List.nodup_append.2 ⟨d.nodup, List.nodup_singleton k, by simpa using h⟩⟩

/-- `for k, v in o.items(): d[k] = v`. -/
def update (d o : PyDict) : PyDict := o.entries.foldl (fun d e => d.set e.1 e.2) d

@[simp] theorem get_empty (k : Str) : empty.get k = none := rfl

@[simp] theorem keys_empty : empty.keys = [] := rfl

@[simp] theorem get_set (d : PyDict) (k v k' : Str) :
    (d.set k v).get k' = if k' = k then some v else d.get k' :=
  lookupEntry_setEntry k v k' d.entries

theorem keys_set (d : PyDict) (k v : Str) :
    (d.set k v).keys = if k ∈ d.keys then d.keys else d.keys ++ [k] :=
  keys_setEntry k v d.entries

theorem get_isSome_iff (d : PyDict) (k : Str) : (d.get k).isSome ↔ k ∈ d.keys :=
  lookupEntry_isSome_iff k d.entries

theorem mem_keys_set (d : PyDict) (k v k' : Str) :
    k' ∈ (d.set k v).keys ↔ k' = k ∨ k' ∈ d.keys := by
  rw [keys_set]
  split_ifs with h
  · exact ⟨Or.inr, fun h' => h'.elim (· ▸ h) id⟩
  · simp [or_comm]

theorem lookupEntry_of_mem {es : List (Str × Str)} (hes : (es.map Prod.fst).Nodup)
    {e : Str × Str} (he : e ∈ es) : lookupEntry e.1 es = some e.2 := by
  induction es with
  | nil => cases he
  | cons e' es ih =>
    simp only [List.map_cons, List.nodup_cons] at hes
    rcases List.mem_cons.1 he with rfl | he
    · simp [lookupEntry]
    · have hne : e'.1 ≠ e.1 := fun h => hes.1 (h ▸ List.mem_map_of_mem _ he)
      simp [lookupEntry, hne, ih hes.2 he]

/-- A dictionary is its keys, each with the value `get` gives it. -/
theorem entries_eq_map_keys (d : PyDict) :
    d.entries = d.keys.map fun k => (k, (d.get k).getD []) := by
  conv_lhs => rw [← List.map_id d.entries]
  rw [keys, List.map_map]
  refine List.map_congr_left fun e he => ?_
  simp [get, lookupEntry_of_mem d.nodup he]

theorem get_foldl_set (es : List (Str × Str)) (hes : (es.map Prod.fst).Nodup) (d : PyDict)
    (k : Str) :
    (es.foldl (fun d e => d.set e.1 e.2) d).get k = (lookupEntry k es).or (d.get k) := by
  induction es generalizing d with
  | nil => simp [lookupEntry]
  | cons e es ih =>
    simp only [List.map_cons, List.nodup_cons] at hes
    rw [List.foldl_cons, ih hes.2, get_set, lookupEntry]
    by_cases he : e.1 = k
    · subst he
      have : lookupEntry e.1 es = none := by
        simpa [← Option.not_isSome_iff_eq_none, lookupEntry_isSome_iff] using hes.1
      simp [this]
    · simp [he, Ne.symm he]

theorem get_update (d o : PyDict) (k : Str) : (d.update o).get k = (o.get k).or (d.get k) :=
  get_foldl_set o.entries o.nodup d k

theorem mem_keys_update (d o : PyDict) (k : Str) :
    k ∈ (d.update o).keys ↔ k ∈ o.keys ∨ k ∈ d.keys := by
  simp only [← get_isSome_iff, get_update, Option.isSome_or, Bool.or_eq_true]

end PyDict

end WafDoxygen
