/-
Module: Csgdb.Foundation.Overwrite
Purpose: Slots that values are written into one after the other, by writes that may fail: a
  pass over all of them leaves nothing of what they held before.
Trusted boundary: none
Main exports: overwrite, overwrite_set, overwrite_all, writeAll, WritesSlots,
  WritesSlots.slots_writeAll
-/
import Mathlib.Data.List.Basic

namespace Foundation

/-! ## Slots -/

section Slots

variable {Slot : Type*}

/-- The slots from a place on hold the given contents, the others what they held. -/
def overwrite (slots : List Slot) (place : Nat) (contents : List Slot) : List Slot :=
  slots.take place ++ contents ++ slots.drop (place + contents.length)

theorem overwrite_nil (slots : List Slot) (place : Nat) : overwrite slots place [] = slots := by
  unfold overwrite
  rw [List.append_nil, List.length_nil, Nat.add_zero, List.take_append_drop]

/-- One slot is written, and then those behind it. -/
theorem overwrite_set {slots : List Slot} {place : Nat} (inRange : place < slots.length)
    (content : Slot) (rest : List Slot) :
    overwrite (slots.set place content) (place + 1) rest =
      overwrite slots place (content :: rest) := by
  have written : (slots.set place content).take (place + 1) = slots.take place ++ [content] := by
    rw [List.set_eq_take_append_cons_drop, if_pos inRange, List.take_append,
      List.take_take, List.length_take, Nat.min_eq_left (Nat.le_of_lt inRange),
      Nat.min_eq_right (Nat.le_succ place), Nat.add_sub_cancel_left]
    rfl
  have behind : (slots.set place content).drop (place + 1 + rest.length) =
      slots.drop (place + (content :: rest).length) := by
    rw [List.drop_set_of_lt (by omega), List.length_cons]
    congr 1
    omega
  unfold overwrite
  rw [written, behind, List.append_assoc (slots.take place)]
  rfl

/-- As many contents as slots leave nothing of what was there. -/
theorem overwrite_all {slots contents : List Slot}
    (sameCount : contents.length = slots.length) : overwrite slots 0 contents = contents := by
  unfold overwrite
  rw [sameCount, Nat.zero_add, List.drop_length, List.take_zero, List.nil_append,
    List.append_nil]

end Slots

/-! ## Writes that may fail -/

section Writes

variable {State Slot Value Failure : Type*}
  (write : Nat → Value → State → Except Failure Unit × State)

/-- Writes values into the slots from a place on, up to the first write that fails. -/
def writeAll : Nat → List Value → State → Except Failure Unit × State
  | _, [], state => (.ok (), state)
  | place, value :: rest, state =>
      match write place value state with
      | (.ok (), next) => writeAll (place + 1) rest next
      | (.error failure, next) => (.error failure, next)

/-- A write that succeeds fills its slot, and none adds or removes slots. -/
structure WritesSlots (slots : State → List Slot) (form : Value → Slot) : Prop where
  fills : ∀ {place value state next}, write place value state = (.ok (), next) →
    slots next = (slots state).set place (form value)
  keepsCount : ∀ {place value state failure next},
    write place value state = (.error failure, next) →
      (slots next).length = (slots state).length

namespace WritesSlots

variable {write} {slots : State → List Slot} {form : Value → Slot}

theorem length_writeAll (writes : WritesSlots write slots form) (place : Nat)
    (values : List Value) (state : State) :
    (slots (writeAll write place values state).2).length = (slots state).length := by
  induction values generalizing place state with
  | nil => rfl
  | cons value rest inductionHypothesis =>
      unfold writeAll
      split
      case h_1 next written =>
        rw [inductionHypothesis, writes.fills written, List.length_set]
      case h_2 failure next failed => exact writes.keepsCount failed

/-- A pass that succeeds has filled its slots with the values. -/
theorem slots_writeAll (writes : WritesSlots write slots form) {place : Nat}
    {values : List Value} {state next : State}
    (inRange : place + values.length ≤ (slots state).length)
    (written : writeAll write place values state = (.ok (), next)) :
    slots next = overwrite (slots state) place (values.map form) := by
  induction values generalizing place state with
  | nil =>
      obtain rfl := (Prod.mk.inj written).2
      exact (overwrite_nil _ _).symm
  | cons value rest inductionHypothesis =>
      rw [List.length_cons] at inRange
      unfold writeAll at written
      split at written
      case h_1 middle first =>
        have filled := writes.fills first
        have later : place + 1 + rest.length ≤ (slots middle).length := by
          rw [filled, List.length_set]
          omega
        rw [inductionHypothesis later written, filled, List.map_cons,
          overwrite_set (by omega)]
      case h_2 failure middle failed => cases (Prod.mk.inj written).1

end WritesSlots

end Writes

end Foundation
