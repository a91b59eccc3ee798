/-
Module: Csgdb.Foundation.RecordStore
Purpose: Stores of records, each under its key: what a request to a store changes and
  answers, listings of the selected records in an order, and machines that simulate a
  store over whole runs.
Trusted boundary: none
Main exports: StoreRequest, StoreAnswer, Lists, StoreStep, StoreRun, StoreStep.unique,
  StoreRun.simulated
-/
import Mathlib.Data.List.Perm.Basic
import Mathlib.Data.List.Pairwise
import Mathlib.Data.Set.Basic
import Mathlib.Logic.Function.Basic
import Csgdb.Foundation.Fallible

namespace Foundation

variable {Key Record Other Failure : Type}

/-! ## Requests and answers -/

/-- What a store can be asked. -/
inductive StoreRequest (Key Record : Type) where
  | insert (record : Record)
  | update (record : Record)
  | delete (key : Key)
  | get (key : Key)
  /-- The selected records in an order, up to a limit. -/
  | list (selected : Set Record) (before : Record → Record → Prop) (limit : Nat)
  /-- Whether a record is selected. -/
  | any (selected : Set Record)

/-- What a store can answer. -/
inductive StoreAnswer (Record Failure : Type) where
  | changed (count : Nat)
  | found (record : Option Record)
  | listed (records : List Record)
  | present (holds : Bool)
  | refused (failure : Failure)
deriving Repr, DecidableEq

def StoreAnswer.map (view : Record → Other) :
    StoreAnswer Record Failure → StoreAnswer Other Failure
  | .changed count => .changed count
  | .found record => .found (record.map view)
  | .listed records => .listed (records.map view)
  | .present holds => .present holds
  | .refused failure => .refused failure

/-! ## Stores -/

/-- A store has at most one record under each key. -/
abbrev Store (Key Record : Type) : Type :=
  Key → Option Record

/-- The records of a store. -/
def Store.records (store : Store Key Record) : Set Record :=
  { record | ∃ key, store key = some record }

/-- Every record of the store is a proper one and is under its own key. -/
structure Store.Sound (store : Store Key Record) (keyOf : Record → Key)
    (proper : Set Record) : Prop where
  keyed : ∀ {key record}, store key = some record → keyOf record = key
  proper : ∀ record ∈ store.records, record ∈ proper

/-- A listing: the selected records, each once, arranged as the order allows, up to the
limit. -/
def Lists (store : Store Key Record) (selected : Set Record)
    (before : Record → Record → Prop) (limit : Nat) (records : List Record) : Prop :=
  ∃ arranged : List Record,
    arranged.Nodup ∧ (∀ record, record ∈ arranged ↔ record ∈ store.records ∧ record ∈ selected) ∧
      arranged.Pairwise before ∧ records = arranged.take limit

/-- An order that leaves two records of a store no choice has one listing. -/
theorem Lists.unique {store : Store Key Record} {selected : Set Record}
    {before : Record → Record → Prop} {limit : Nat} {records others : List Record}
    (decides : ∀ left ∈ store.records, ∀ right ∈ store.records,
      before left right → before right left → left = right)
    (lists : Lists store selected before limit records)
    (otherLists : Lists store selected before limit others) : records = others := by
  obtain ⟨one, oneNodup, oneMem, oneSorted, rfl⟩ := lists
  obtain ⟨two, twoNodup, twoMem, twoSorted, rfl⟩ := otherLists
  have perm : one.Perm two := by
    rw [List.perm_ext_iff_of_nodup oneNodup twoNodup]
    intro record
    rw [oneMem, twoMem]
  have same : one = two := by
    apply List.Perm.eq_of_pairwise ?_ oneSorted twoSorted perm
    intro left right inOne inTwo leftFirst rightFirst
    exact decides left ((oneMem left).mp inOne).1 right ((twoMem right).mp inTwo).1
      leftFirst rightFirst
  rw [same]

section Machine

/-- What a store is made of: the keys of records, the contents that its constraints
admit, and the failure that it reports for the others. -/
structure StoreRules (Key Record Failure : Type) where
  keyOf : Record → Key
  admits : Store Key Record → Prop
  violation : Failure

variable [DecidableEq Key] (rules : StoreRules Key Record Failure)

/-- The store with a record put under its key. -/
def StoreRules.put (store : Store Key Record) (record : Record) : Store Key Record :=
  Function.update store (rules.keyOf record) (some record)

/-- The store with nothing under a key. -/
def Store.remove (store : Store Key Record) (key : Key) : Store Key Record :=
  Function.update store key none

theorem Store.remove_of_none {store : Store Key Record} {key : Key}
    (missing : store key = none) : store.remove key = store := by
  unfold Store.remove
  rw [← missing, Function.update_eq_self]

variable {proper : Set Record}

theorem Store.Sound.mem_put {store : Store Key Record}
    (sound : store.Sound rules.keyOf proper) {record other : Record} :
    other ∈ (rules.put store record).records ↔
      other = record ∨ other ∈ store.records ∧ rules.keyOf other ≠ rules.keyOf record := by
  constructor
  · rintro ⟨key, stored⟩
    by_cases same : key = rules.keyOf record
    · subst same
      rw [StoreRules.put, Function.update_self, Option.some.injEq] at stored
      exact Or.inl stored.symm
    · rw [StoreRules.put, Function.update_of_ne same] at stored
      exact Or.inr ⟨⟨key, stored⟩, sound.keyed stored ▸ same⟩
  · rintro (rfl | ⟨⟨key, stored⟩, differs⟩)
    · exact ⟨rules.keyOf other, Function.update_self _ _ _⟩
    · refine ⟨key, ?_⟩
      rw [StoreRules.put, Function.update_of_ne (sound.keyed stored ▸ differs), stored]

theorem Store.Sound.mem_remove {store : Store Key Record} {keyOf : Record → Key}
    (sound : store.Sound keyOf proper) {key : Key} {other : Record} :
    other ∈ (store.remove key).records ↔ other ∈ store.records ∧ keyOf other ≠ key := by
  constructor
  · rintro ⟨otherKey, stored⟩
    by_cases same : otherKey = key
    · subst same
      rw [Store.remove, Function.update_self] at stored
      cases stored
    · rw [Store.remove, Function.update_of_ne same] at stored
      exact ⟨⟨otherKey, stored⟩, sound.keyed stored ▸ same⟩
  · rintro ⟨⟨otherKey, stored⟩, differs⟩
    refine ⟨otherKey, ?_⟩
    rw [Store.remove, Function.update_of_ne (sound.keyed stored ▸ differs), stored]

theorem Store.Sound.put {store : Store Key Record}
    (sound : store.Sound rules.keyOf proper) {record : Record} (isProper : record ∈ proper) :
    (rules.put store record).Sound rules.keyOf proper where
  keyed := by
    intro key other stored
    by_cases same : key = rules.keyOf record
    · subst same
      rw [StoreRules.put, Function.update_self, Option.some.injEq] at stored
      rw [stored]
    · rw [StoreRules.put, Function.update_of_ne same] at stored
      exact sound.keyed stored
  proper := by
    intro other member
    rcases (sound.mem_put rules).mp member with rfl | ⟨inStore, -⟩
    · exact isProper
    · exact sound.proper other inStore

theorem Store.Sound.remove {store : Store Key Record} {keyOf : Record → Key}
    (sound : store.Sound keyOf proper) (key : Key) :
    (store.remove key).Sound keyOf proper where
  keyed := by
    intro otherKey other stored
    by_cases same : otherKey = key
    · subst same
      rw [Store.remove, Function.update_self] at stored
      cases stored
    · rw [Store.remove, Function.update_of_ne same] at stored
      exact sound.keyed stored
  proper := fun other member => sound.proper other (sound.mem_remove.mp member).1

/-- One request to a store.  A refused request leaves the store as it was. -/
inductive StoreStep (store : Store Key Record) :
    StoreRequest Key Record → StoreAnswer Record Failure → Store Key Record → Prop
  | inserted {record : Record} (free : store (rules.keyOf record) = none)
      (admitted : rules.admits (rules.put store record)) :
      StoreStep store (.insert record) (.changed 1) (rules.put store record)
  | insertRefused {record : Record}
      (conflict : store (rules.keyOf record) ≠ none ∨
        ¬ rules.admits (rules.put store record)) :
      StoreStep store (.insert record) (.refused rules.violation) store
  | updated {record : Record} (stored : store (rules.keyOf record) ≠ none)
      (admitted : rules.admits (rules.put store record)) :
      StoreStep store (.update record) (.changed 1) (rules.put store record)
  | updateMissed {record : Record} (missing : store (rules.keyOf record) = none) :
      StoreStep store (.update record) (.changed 0) store
  | updateRefused {record : Record} (stored : store (rules.keyOf record) ≠ none)
      (conflict : ¬ rules.admits (rules.put store record)) :
      StoreStep store (.update record) (.refused rules.violation) store
  | deleted {key : Key} (stored : store key ≠ none) :
      StoreStep store (.delete key) (.changed 1) (store.remove key)
  | deleteMissed {key : Key} (missing : store key = none) :
      StoreStep store (.delete key) (.changed 0) store
  | got (key : Key) : StoreStep store (.get key) (.found (store key)) store
  | listed {selected : Set Record} {before : Record → Record → Prop} {limit : Nat}
      {records : List Record} (lists : Lists store selected before limit records) :
      StoreStep store (.list selected before limit) (.listed records) store
  | asked {selected : Set Record} {holds : Bool}
      (agrees : holds = true ↔ ∃ record ∈ store.records, record ∈ selected) :
      StoreStep store (.any selected) (.present holds) store

/-- A request about proper records.  Two of them that its order lets stand either way
have one key. -/
def StoreRequest.Decided (keyOf : Record → Key) (proper : Set Record) :
    StoreRequest Key Record → Prop
  | .insert record | .update record => record ∈ proper
  | .list _ before _ => ∀ left ∈ proper, ∀ right ∈ proper,
      before left right → before right left → keyOf left = keyOf right
  | _ => True

variable {rules}

/-- A store has one answer to a request, and one content after it. -/
theorem StoreStep.unique {store next other : Store Key Record}
    {request : StoreRequest Key Record} {answer reply : StoreAnswer Record Failure}
    (sound : store.Sound rules.keyOf proper) (decided : request.Decided rules.keyOf proper)
    (step : StoreStep rules store request answer next)
    (otherStep : StoreStep rules store request reply other) :
    answer = reply ∧ next = other := by
  cases step with
  | inserted free admitted =>
      cases otherStep with
      | inserted => exact ⟨rfl, rfl⟩
      | insertRefused conflict =>
          rcases conflict with taken | rejected
          · exact absurd free taken
          · exact absurd admitted rejected
  | insertRefused conflict =>
      cases otherStep with
      | inserted free admitted =>
          rcases conflict with taken | rejected
          · exact absurd free taken
          · exact absurd admitted rejected
      | insertRefused => exact ⟨rfl, rfl⟩
  | updated stored admitted =>
      cases otherStep with
      | updated => exact ⟨rfl, rfl⟩
      | updateMissed missing => exact absurd missing stored
      | updateRefused _ conflict => exact absurd admitted conflict
  | updateMissed missing =>
      cases otherStep with
      | updated stored => exact absurd missing stored
      | updateMissed => exact ⟨rfl, rfl⟩
      | updateRefused stored => exact absurd missing stored
  | updateRefused stored conflict =>
      cases otherStep with
      | updated _ admitted => exact absurd admitted conflict
      | updateMissed missing => exact absurd missing stored
      | updateRefused => exact ⟨rfl, rfl⟩
  | deleted stored =>
      cases otherStep with
      | deleted => exact ⟨rfl, rfl⟩
      | deleteMissed missing => exact absurd missing stored
  | deleteMissed missing =>
      cases otherStep with
      | deleted stored => exact absurd missing stored
      | deleteMissed => exact ⟨rfl, rfl⟩
  | got key =>
      cases otherStep with
      | got => exact ⟨rfl, rfl⟩
  | listed lists =>
      cases otherStep with
      | listed otherLists =>
          refine ⟨congrArg StoreAnswer.listed (lists.unique ?_ otherLists), rfl⟩
          intro left leftMember right rightMember leftFirst rightFirst
          have sameKey := decided left (sound.proper left leftMember) right
            (sound.proper right rightMember) leftFirst rightFirst
          obtain ⟨leftKey, leftStored⟩ := leftMember
          obtain ⟨rightKey, rightStored⟩ := rightMember
          rw [sound.keyed leftStored, sound.keyed rightStored] at sameKey
          rw [sameKey, rightStored] at leftStored
          exact (Option.some.inj leftStored).symm
  | asked agrees =>
      cases otherStep with
      | asked otherAgrees =>
          refine ⟨congrArg StoreAnswer.present ?_, rfl⟩
          rw [Bool.eq_iff_iff, agrees, otherAgrees]

/-- Proper records stay under their keys. -/
theorem StoreStep.sound {store next : Store Key Record} {request : StoreRequest Key Record}
    {answer : StoreAnswer Record Failure} (sound : store.Sound rules.keyOf proper)
    (decided : request.Decided rules.keyOf proper)
    (step : StoreStep rules store request answer next) : next.Sound rules.keyOf proper := by
  cases step with
  | inserted | updated => exact sound.put rules decided
  | deleted => exact sound.remove _
  | insertRefused | updateMissed | updateRefused | deleteMissed | got | listed | asked =>
      exact sound

/-! ## Runs -/

/-- A sequence of calls.  A call that fails before it reaches the store is answered with
its failure. -/
inductive StoreRun (rules : StoreRules Key Record Failure) :
    Store Key Record → List (Except Failure (StoreRequest Key Record)) →
      List (StoreAnswer Record Failure) → Store Key Record → Prop
  | nil (store : Store Key Record) : StoreRun rules store [] [] store
  | failed {store last : Store Key Record} {failure : Failure}
      {calls : List (Except Failure (StoreRequest Key Record))}
      {answers : List (StoreAnswer Record Failure)}
      (rest : StoreRun rules store calls answers last) :
      StoreRun rules store (.error failure :: calls) (.refused failure :: answers) last
  | step {store next last : Store Key Record} {request : StoreRequest Key Record}
      {answer : StoreAnswer Record Failure}
      {calls : List (Except Failure (StoreRequest Key Record))}
      {answers : List (StoreAnswer Record Failure)}
      (one : StoreStep rules store request answer next)
      (rest : StoreRun rules next calls answers last) :
      StoreRun rules store (.ok request :: calls) (answer :: answers) last

theorem StoreRun.append {store middle last : Store Key Record}
    {calls more : List (Except Failure (StoreRequest Key Record))}
    {answers later : List (StoreAnswer Record Failure)}
    (run : StoreRun rules store calls answers middle)
    (further : StoreRun rules middle more later last) :
    StoreRun rules store (calls ++ more) (answers ++ later) last := by
  induction run with
  | nil => exact further
  | failed _ inductionHypothesis => exact .failed (inductionHypothesis further)
  | step one _ inductionHypothesis => exact .step one (inductionHypothesis further)

/-- A sequence of calls has one sequence of answers. -/
theorem StoreRun.unique {store last other : Store Key Record}
    {calls : List (Except Failure (StoreRequest Key Record))}
    {answers replies : List (StoreAnswer Record Failure)}
    (sound : store.Sound rules.keyOf proper)
    (decided : ∀ request, .ok request ∈ calls → request.Decided rules.keyOf proper)
    (run : StoreRun rules store calls answers last)
    (otherRun : StoreRun rules store calls replies other) :
    answers = replies ∧ last = other := by
  induction run generalizing replies other with
  | nil store =>
      cases otherRun with
      | nil => exact ⟨rfl, rfl⟩
  | failed rest inductionHypothesis =>
      cases otherRun with
      | failed otherRest =>
          obtain ⟨rfl, rfl⟩ := inductionHypothesis sound
            (fun request member => decided request (List.mem_cons_of_mem _ member)) otherRest
          exact ⟨rfl, rfl⟩
  | step one rest inductionHypothesis =>
      cases otherRun with
      | step otherOne otherRest =>
          have first := decided _ List.mem_cons_self
          obtain ⟨rfl, rfl⟩ := one.unique sound first otherOne
          obtain ⟨rfl, rfl⟩ := inductionHypothesis (one.sound sound first)
            (fun request member => decided request (List.mem_cons_of_mem _ member)) otherRest
          exact ⟨rfl, rfl⟩

/-- The answers of a machine to a sequence of commands, and the state it ends in. -/
def answerAll {State Command Answer : Type} (execute : State → Command → Answer × State) :
    State → List Command → List Answer × State
  | state, [] => ([], state)
  | state, command :: rest =>
      let (answer, next) := execute state command
      let (answers, last) := answerAll execute next rest
      (answer :: answers, last)

/-- A machine simulates a store over whole runs when it answers every single command as
the store does, in every state that stands for a content of the store. -/
theorem StoreRun.simulated {State Command View : Type} (view : Record → View)
    {execute : State → Command → StoreAnswer View Failure × State}
    {request : Command → Except Failure (StoreRequest Key Record)}
    {standsFor : State → Store Key Record → Prop}
    (fails : ∀ state store command failure, standsFor state store →
      request command = .error failure → execute state command = (.refused failure, state))
    (answers : ∀ state store command call, standsFor state store →
      request command = .ok call → ∃ answer next,
        StoreStep rules store call answer next ∧
          (execute state command).1 = answer.map view ∧
          standsFor (execute state command).2 next)
    {state : State} {store : Store Key Record} (start : standsFor state store)
    (commands : List Command) :
    ∃ replies last, StoreRun rules store (commands.map request) replies last ∧
      (answerAll execute state commands).1 = replies.map (StoreAnswer.map view) ∧
      standsFor (answerAll execute state commands).2 last := by
  induction commands generalizing state store with
  | nil => exact ⟨[], store, .nil store, rfl, start⟩
  | cons command rest inductionHypothesis =>
      rw [List.map_cons]
      cases called : request command with
      | error failure =>
          have same := fails state store command failure start called
          obtain ⟨replies, last, run, answered, stands⟩ := inductionHypothesis start
          refine ⟨.refused failure :: replies, last, .failed run, ?_, ?_⟩
          · simp only [answerAll, same, List.map_cons, answered, StoreAnswer.map]
          · simpa only [answerAll, same] using stands
      | ok call =>
          obtain ⟨answer, next, one, sameAnswer, stands⟩ :=
            answers state store command call start called
          obtain ⟨replies, last, run, answered, standsLast⟩ := inductionHypothesis stands
          refine ⟨answer :: replies, last, .step one run, ?_, ?_⟩
          · simp only [answerAll, List.map_cons, sameAnswer, answered]
          · simpa only [answerAll] using standsLast

end Machine

end Foundation
