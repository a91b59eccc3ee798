/-
Module: Csgdb.Foundation.Replacement
Purpose: Lists in which one entry is replaced: what is counted or collected over them
  changes by the old and by the new entry.  Lists of keys with values.
Trusted boundary: none
Main exports: set_split, countP_replaced, count_flatMap_replaced, countP_set_add,
  count_flatMap_set_add, map_replaceKey, replaceKey_of_absent, mem_replaceKey_iff, lookup_of_mem,
  lookup_of_not_mem, map_eq_of_forall_mem_zip
-/
import Mathlib.Data.List.Basic

namespace Foundation

variable {Entry Value : Type} {entries : List Entry} {place : Nat} {old : Entry}

/-- The entries before and behind the replaced one stay. -/
theorem set_split (found : entries[place]? = some old) :
    ∃ before after, entries = before ++ old :: after ∧
      ∀ new, entries.set place new = before ++ new :: after := by
  obtain ⟨inRange, same⟩ := List.getElem?_eq_some_iff.mp found
  refine ⟨entries.take place, entries.drop (place + 1), ?_, ?_⟩
  · rw [← same, List.getElem_cons_drop, List.take_append_drop]
  · intro new
    rw [List.set_eq_take_append_cons_drop, if_pos inRange]

theorem countP_replaced (counted : Entry → Bool) (before after : List Entry)
    (old new : Entry) :
    (before ++ new :: after).countP counted + (counted old).toNat =
      (before ++ old :: after).countP counted + (counted new).toNat := by
  simp only [List.countP_append, List.countP_cons]
  cases counted old <;> cases counted new <;> simp <;> omega

theorem count_flatMap_replaced [DecidableEq Value] (collect : Entry → List Value)
    (before after : List Entry) (old new : Entry) (value : Value) :
    ((before ++ new :: after).flatMap collect).count value + (collect old).count value =
      ((before ++ old :: after).flatMap collect).count value + (collect new).count value := by
  simp only [List.flatMap_append, List.flatMap_cons, List.count_append]
  omega

theorem countP_set_add (found : entries[place]? = some old) (counted : Entry → Bool)
    (new : Entry) :
    (entries.set place new).countP counted + (counted old).toNat =
      entries.countP counted + (counted new).toNat := by
  obtain ⟨before, after, rfl, replaced⟩ := set_split found
  rw [replaced]
  exact countP_replaced counted before after old new

theorem count_flatMap_set_add [DecidableEq Value] (found : entries[place]? = some old)
    (collect : Entry → List Value) (new : Entry) (value : Value) :
    ((entries.set place new).flatMap collect).count value + (collect old).count value =
      (entries.flatMap collect).count value + (collect new).count value := by
  obtain ⟨before, after, rfl, replaced⟩ := set_split found
  rw [replaced]
  exact count_flatMap_replaced collect before after old new value

/-! ## Entries that are replaced by their key -/

section Keys

variable [DecidableEq Value] (key : Entry → Value) (new : Entry)

/-- The keys stay. -/
theorem map_replaceKey (entries : List Entry) :
    (entries.map fun entry => if key entry = key new then new else entry).map key =
      entries.map key := by
  rw [List.map_map]
  apply List.map_congr_left
  intro entry member
  by_cases same : key entry = key new
  · simp [same]
  · simp [same]

variable {key new}

theorem replaceKey_of_absent (absent : ∀ entry ∈ entries, key entry ≠ key new) :
    (entries.map fun entry => if key entry = key new then new else entry) = entries := by
  conv_rhs => rw [← List.map_id entries]
  apply List.map_congr_left
  intro entry member
  rw [if_neg (absent entry member), id_eq]

theorem mem_replaceKey_iff (member : old ∈ entries) (replaced : key old = key new)
    (entry : Entry) :
    entry ∈ (entries.map fun entry => if key entry = key new then new else entry) ↔
      entry = new ∨ (entry ∈ entries ∧ key entry ≠ key new) := by
  rw [List.mem_map]
  constructor
  · rintro ⟨before, present, rfl⟩
    by_cases same : key before = key new
    · rw [if_pos same]
      exact Or.inl rfl
    · rw [if_neg same]
      exact Or.inr ⟨present, same⟩
  · rintro (rfl | ⟨present, differs⟩)
    · exact ⟨old, member, if_pos replaced⟩
    · exact ⟨entry, present, if_neg differs⟩

end Keys

/-! ## Lists of pairs -/

section Pairs

variable {α β : Type}

/-- Under distinct keys, every pair is found by its key. -/
theorem lookup_of_mem [DecidableEq α] {pairs : List (α × β)} (nodup : (pairs.map Prod.fst).Nodup)
    {key : α} {value : β} (member : (key, value) ∈ pairs) :
    pairs.lookup key = some value := by
  induction pairs with
  | nil => cases member
  | cons pair rest inductionHypothesis =>
      rw [List.map_cons, List.nodup_cons] at nodup
      rcases List.mem_cons.mp member with rfl | inRest
      · simp
      · have differ : key ≠ pair.1 := by
          rintro rfl
          exact nodup.1 (List.mem_map.mpr ⟨(pair.1, value), inRest, rfl⟩)
        rw [List.lookup_cons, beq_false_of_ne differ]
        exact inductionHypothesis nodup.2 inRest

theorem lookup_of_not_mem [DecidableEq α] {pairs : List (α × β)} {key : α}
    (absent : key ∉ pairs.map Prod.fst) : pairs.lookup key = none := by
  rw [List.lookup_eq_none_iff]
  intro pair member
  have differ : key ≠ pair.1 := by
    rintro rfl
    exact absent (List.mem_map.mpr ⟨pair, member, rfl⟩)
  exact bne_iff_ne.mpr differ

/-- Reading each key gives the list of the values. -/
theorem map_eq_of_forall_mem_zip {keys : List α} {values : List β} {read : α → β}
    (sameLength : keys.length = values.length)
    (each : ∀ pair ∈ keys.zip values, read pair.1 = pair.2) :
    keys.map read = values := by
  induction keys generalizing values with
  | nil =>
      cases values with
      | nil => rfl
      | cons value values => cases sameLength
  | cons key keys inductionHypothesis =>
      cases values with
      | nil => cases sameLength
      | cons value values =>
          simp only [List.zip_cons_cons, List.mem_cons, forall_eq_or_imp] at each
          rw [List.map_cons, each.1, inductionHypothesis (by simpa using sameLength) each.2]

end Pairs

end Foundation
