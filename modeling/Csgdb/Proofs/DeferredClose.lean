/-
Module: Csgdb.Proofs.DeferredClose
Purpose: The last owner of a connection closes it, once, behind the finalization of every
  statement, in every order of the releases.
Trusted boundary: none
Main exports: InOrder, OwnersSound, OwnerStep.sound, close_is_deferred,
  quiet_owners_closed
-/
import Csgdb.Ffi.Lifetime
import Csgdb.Foundation.Replacement

namespace Csgdb.Ffi

/-! ## The order of engine events -/

/-- Statements are used and finalized between their preparation and the close, finalized
once; the close comes once, when every prepared statement has been finalized. -/
inductive InOrder : List OwnerEvent → Prop
  | opened : InOrder []
  | prepared {earlier : List OwnerEvent} (number : Nat) (before : InOrder earlier)
      (isOpen : .closed ∉ earlier) (fresh : .prepared number ∉ earlier) :
      InOrder (.prepared number :: earlier)
  | used {earlier : List OwnerEvent} (number : Nat) (before : InOrder earlier)
      (isOpen : .closed ∉ earlier) (known : .prepared number ∈ earlier)
      (present : .finalized number ∉ earlier) : InOrder (.used number :: earlier)
  | finalized {earlier : List OwnerEvent} (number : Nat) (before : InOrder earlier)
      (isOpen : .closed ∉ earlier) (known : .prepared number ∈ earlier)
      (present : .finalized number ∉ earlier) : InOrder (.finalized number :: earlier)
  | closed {earlier : List OwnerEvent} (before : InOrder earlier)
      (isOpen : .closed ∉ earlier)
      (finalized : ∀ number, .prepared number ∈ earlier → .finalized number ∈ earlier) :
      InOrder (.closed :: earlier)

/-! ## The shares -/

def StatementPhase.holdsShare : StatementPhase → Bool
  | .live | .finalized => true
  | _ => false

def StatementPhase.isFinalized : StatementPhase → Bool
  | .finalized | .dropping | .released => true
  | _ => false

def StatementPhase.closes : StatementPhase → Bool
  | .dropping => true
  | _ => false

def HandlePhase.shares : HandlePhase → Nat
  | .live | .keeping => 1
  | _ => 0

/-- Whether a handle has the connection to itself and closes it next. -/
def HandlePhase.closers : HandlePhase → Nat
  | .unwrapped | .dropping => 1
  | _ => 0

namespace Owners

/-- The shares that owners hold. -/
def shares (owners : Owners) : Nat :=
  owners.handle.shares + owners.statements.countP StatementPhase.holdsShare

/-- The owners that have dropped the last share and close the connection next. -/
def closers (owners : Owners) : Nat :=
  owners.handle.closers + owners.statements.countP StatementPhase.closes

end Owners

/-- The state of the owners: the count is the count of the shares; without shares the
connection is closed or one owner is about to close it; and the engine events tell how far
the statements have come. -/
structure OwnersSound (owners : Owners) : Prop where
  strong_eq : owners.strong = owners.shares
  shared : owners.strong ≠ 0 → owners.closers = 0 ∧ .closed ∉ owners.events
  last : owners.strong = 0 →
    (owners.closers = 1 ∧ .closed ∉ owners.events) ∨
      (owners.closers = 0 ∧ .closed ∈ owners.events)
  preparing_live : StatementPhase.preparing ∈ owners.statements → owners.handle = .live
  prepared_iff : ∀ number, .prepared number ∈ owners.events ↔
    number < owners.statements.length
  finalized_iff : ∀ number phase, owners.statements[number]? = some phase →
    (.finalized number ∈ owners.events ↔ phase.isFinalized = true)
  inOrder : InOrder owners.events

theorem InOrder.prepared_of_finalized {events : List OwnerEvent} (inOrder : InOrder events)
    {number : Nat} (member : .finalized number ∈ events) : .prepared number ∈ events := by
  induction inOrder with
  | opened => cases member
  | prepared other before isOpen fresh inductionHypothesis
  | used other before isOpen known present inductionHypothesis =>
      rcases List.mem_cons.mp member with same | earlier
      · cases same
      · exact List.mem_cons_of_mem _ (inductionHypothesis earlier)
  | finalized other before isOpen known present inductionHypothesis =>
      rcases List.mem_cons.mp member with same | earlier
      · obtain rfl := OwnerEvent.finalized.inj same
        exact List.mem_cons_of_mem _ known
      · exact List.mem_cons_of_mem _ (inductionHypothesis earlier)
  | closed before isOpen finalized inductionHypothesis =>
      rcases List.mem_cons.mp member with same | earlier
      · cases same
      · exact List.mem_cons_of_mem _ (inductionHypothesis earlier)

namespace OwnersSound

variable {owners : Owners} {number : Nat} {phase next : StatementPhase}

theorem isOpen (sound : OwnersSound owners) (held : owners.strong ≠ 0) :
    .closed ∉ owners.events :=
  (sound.shared held).2

theorem lt_length (place : owners.statements[number]? = some phase) :
    number < owners.statements.length :=
  (List.getElem?_eq_some_iff.mp place).1

theorem known (sound : OwnersSound owners) (place : owners.statements[number]? = some phase) :
    .prepared number ∈ owners.events :=
  (sound.prepared_iff number).mpr (lt_length place)

/-- A holder of a share keeps the count above zero. -/
theorem held_of_holdsShare (sound : OwnersSound owners)
    (place : owners.statements[number]? = some phase) (holds : phase.holdsShare = true) :
    owners.strong ≠ 0 := by
  have positive : 0 < owners.statements.countP StatementPhase.holdsShare :=
    List.countP_pos_iff.mpr ⟨phase, List.mem_of_getElem? place, holds⟩
  rw [sound.strong_eq, Owners.shares]
  omega

theorem held_of_handle (sound : OwnersSound owners) (holds : owners.handle.shares = 1) :
    owners.strong ≠ 0 := by
  rw [sound.strong_eq, Owners.shares, holds]
  omega

/-- The phase of every statement when one of them has moved on. -/
theorem getElem?_set (place : owners.statements[number]? = some phase) (other : Nat) :
    (owners.statements.set number next)[other]? =
      if number = other then some next else owners.statements[other]? := by
  rw [List.getElem?_set]
  by_cases same : number = other
  · rw [if_pos same, if_pos same, if_pos (lt_length place)]
  · rw [if_neg same, if_neg same]

theorem finalized_iff_set (sound : OwnersSound owners)
    (place : owners.statements[number]? = some phase) {events : List OwnerEvent}
    (others : ∀ other, number ≠ other →
      (.finalized other ∈ events ↔ .finalized other ∈ owners.events))
    (here : .finalized number ∈ events ↔ next.isFinalized = true) :
    ∀ other found, (owners.statements.set number next)[other]? = some found →
      (.finalized other ∈ events ↔ found.isFinalized = true) := by
  intro other found atOther
  rw [getElem?_set place] at atOther
  by_cases same : number = other
  · rw [if_pos same, Option.some.injEq] at atOther
    subst same atOther
    exact here
  · rw [if_neg same] at atOther
    exact (others other same).trans (sound.finalized_iff other found atOther)

theorem preparing_live_set (sound : OwnersSound owners) (moved : next ≠ .preparing)
    (member : StatementPhase.preparing ∈ owners.statements.set number next) :
    owners.handle = .live := by
  rcases List.mem_or_eq_of_mem_set member with before | same
  · exact sound.preparing_live before
  · exact absurd same.symm moved

/-- Once no share is left, every prepared statement has been finalized. -/
theorem all_finalized (sound : OwnersSound owners) (unheld : owners.strong = 0) :
    ∀ number, .prepared number ∈ owners.events → .finalized number ∈ owners.events := by
  intro number prepared
  have inRange := (sound.prepared_iff number).mp prepared
  have place : owners.statements[number]? = some owners.statements[number] :=
    List.getElem?_eq_getElem inRange
  apply (sound.finalized_iff number _ place).mpr
  have notHolding : (owners.statements[number]).holdsShare ≠ true := fun holds =>
    sound.held_of_holdsShare place holds unheld
  have notPreparing : owners.statements[number] ≠ .preparing := by
    intro preparing
    have isLive := sound.preparing_live (preparing ▸ List.getElem_mem inRange)
    exact sound.held_of_handle (by rw [isLive]; rfl) unheld
  cases found : owners.statements[number] with
  | preparing => exact absurd found notPreparing
  | live | finalized => rw [found] at notHolding; exact absurd rfl notHolding
  | dropping | released => rfl

/-- An owner that is about to close the connection is the last one. -/
theorem unheld_of_closers (sound : OwnersSound owners) (closers : owners.closers ≠ 0) :
    owners.strong = 0 ∧ owners.closers = 1 ∧ .closed ∉ owners.events := by
  have unheld : owners.strong = 0 := by
    apply Classical.byContradiction
    intro held
    exact closers (sound.shared held).1
  rcases sound.last unheld with ⟨one, isOpen⟩ | ⟨none, -⟩
  · exact ⟨unheld, one, isOpen⟩
  · exact absurd none closers

/-! ### One step -/

theorem opened : OwnersSound .opened where
  strong_eq := rfl
  shared := fun _ => ⟨rfl, by simp [Owners.opened]⟩
  last := fun unheld => absurd unheld Nat.one_ne_zero
  preparing_live := fun _ => rfl
  prepared_iff := by simp [Owners.opened]
  finalized_iff := by simp [Owners.opened]
  inOrder := .opened

theorem prepare (sound : OwnersSound owners) (live : owners.handle = .live) :
    OwnersSound
      ({ owners with statements := owners.statements ++ [StatementPhase.preparing] }.record
        (.prepared owners.statements.length)) := by
  have held := sound.held_of_handle (by rw [live]; rfl)
  have fresh : .prepared owners.statements.length ∉ owners.events := by
    rw [sound.prepared_iff]
    exact Nat.lt_irrefl _
  have unfinalized : .finalized owners.statements.length ∉ owners.events := fun member =>
    fresh (sound.inOrder.prepared_of_finalized member)
  constructor
  case strong_eq =>
    rw [Owners.shares, Owners.record, List.countP_append]
    exact sound.strong_eq
  case shared =>
    intro _
    obtain ⟨noCloser, isOpen⟩ := sound.shared held
    rw [Owners.closers, Owners.record, List.countP_append]
    exact ⟨noCloser, by simpa using isOpen⟩
  case last => exact fun unheld => absurd unheld held
  case preparing_live => exact fun _ => live
  case prepared_iff =>
    intro number
    simp only [Owners.record, List.mem_cons, OwnerEvent.prepared.injEq, List.length_append,
      List.length_singleton, sound.prepared_iff]
    omega
  case finalized_iff =>
    intro number phase place
    simp only [Owners.record, List.mem_cons, reduceCtorEq, false_or]
    rcases Nat.lt_or_ge number owners.statements.length with inRange | beyond
    · apply sound.finalized_iff number phase
      rwa [← List.getElem?_append_left inRange]
    · have isLast : number = owners.statements.length := by
        have inRange : number < (owners.statements ++ [StatementPhase.preparing]).length :=
          (List.getElem?_eq_some_iff.mp place).1
        rw [List.length_append, List.length_singleton] at inRange
        omega
      subst isLast
      simp only [Owners.record, List.getElem?_concat_length, Option.some.injEq] at place
      subst place
      simpa [StatementPhase.isFinalized] using unfinalized
  case inOrder => exact .prepared _ sound.inOrder (sound.isOpen held) fresh

/-- A statement that is not finalized yet is finalized while its connection is open. -/
theorem finalizes (sound : OwnersSound owners) (held : owners.strong ≠ 0)
    (place : owners.statements[number]? = some phase) (unfinalized : phase.isFinalized = false)
    (sameShare : phase.holdsShare = next.holdsShare) (finalized : next.isFinalized = true)
    (notClosing : phase.closes = false ∧ next.closes = false) :
    OwnersSound ((owners.setStatement number next).record (.finalized number)) := by
  have present : .finalized number ∉ owners.events := by
    rw [sound.finalized_iff number phase place, unfinalized]
    exact Bool.false_ne_true
  have moved : next ≠ .preparing := by
    rintro rfl
    cases finalized
  have sharesKept := Foundation.countP_set_add place StatementPhase.holdsShare next
  have closersKept := Foundation.countP_set_add place StatementPhase.closes next
  rw [sameShare] at sharesKept
  rw [notClosing.1, notClosing.2] at closersKept
  constructor
  case strong_eq =>
    have counted := sound.strong_eq
    simp only [Owners.shares, Owners.record, Owners.setStatement] at counted ⊢
    omega
  case shared =>
    intro _
    obtain ⟨noCloser, isOpen⟩ := sound.shared held
    simp only [Owners.closers, Owners.record, Owners.setStatement] at noCloser ⊢
    exact ⟨by omega, by simpa using isOpen⟩
  case last => exact fun unheld => absurd unheld held
  case preparing_live => exact sound.preparing_live_set moved
  case prepared_iff =>
    intro other
    simpa [Owners.record, Owners.setStatement] using sound.prepared_iff other
  case finalized_iff =>
    apply sound.finalized_iff_set place
    · intro other different
      simp [Owners.record, Owners.setStatement, Ne.symm different]
    · simp [Owners.record, finalized]
  case inOrder =>
    exact .finalized number sound.inOrder (sound.isOpen held) (sound.known place) present

theorem use (sound : OwnersSound owners) (place : owners.statements[number]? = some .live) :
    OwnersSound (owners.record (.used number)) := by
  have held := sound.held_of_holdsShare place rfl
  have present : .finalized number ∉ owners.events := by
    rw [sound.finalized_iff number _ place]
    exact Bool.false_ne_true
  constructor
  case strong_eq => exact sound.strong_eq
  case shared =>
    intro _
    obtain ⟨noCloser, isOpen⟩ := sound.shared held
    exact ⟨noCloser, by simpa [Owners.record] using isOpen⟩
  case last => exact fun unheld => absurd unheld held
  case preparing_live => exact sound.preparing_live
  case prepared_iff =>
    intro other
    simpa [Owners.record] using sound.prepared_iff other
  case finalized_iff =>
    intro other phase atOther
    simpa [Owners.record] using sound.finalized_iff other phase atOther
  case inOrder =>
    exact .used number sound.inOrder (sound.isOpen held) (sound.known place) present

theorem share (sound : OwnersSound owners)
    (place : owners.statements[number]? = some .preparing) :
    OwnersSound { owners.setStatement number .live with strong := owners.strong + 1 } := by
  have live := sound.preparing_live (List.mem_of_getElem? place)
  have held := sound.held_of_handle (by rw [live]; rfl)
  have sharesMore := Foundation.countP_set_add place StatementPhase.holdsShare .live
  have closersKept := Foundation.countP_set_add place StatementPhase.closes .live
  simp only [StatementPhase.holdsShare, StatementPhase.closes, Bool.toNat_true,
    Bool.toNat_false] at sharesMore closersKept
  constructor
  case strong_eq =>
    have counted := sound.strong_eq
    simp only [Owners.shares, Owners.setStatement] at counted ⊢
    omega
  case shared =>
    intro _
    obtain ⟨noCloser, isOpen⟩ := sound.shared held
    simp only [Owners.closers, Owners.setStatement] at noCloser ⊢
    exact ⟨by omega, isOpen⟩
  case last => exact fun unheld => absurd unheld (Nat.succ_ne_zero _)
  case preparing_live => exact fun _ => live
  case prepared_iff =>
    intro other
    simpa [Owners.setStatement] using sound.prepared_iff other
  case finalized_iff =>
    apply sound.finalized_iff_set place
    · exact fun other _ => Iff.rfl
    · show _ ↔ StatementPhase.preparing.isFinalized = true
      exact sound.finalized_iff number _ place
  case inOrder => exact sound.inOrder

theorem dropStatement (sound : OwnersSound owners)
    (place : owners.statements[number]? = some .finalized) :
    OwnersSound (owners.dropStatement number) := by
  have held := sound.held_of_holdsShare place rfl
  obtain ⟨noCloser, isOpen⟩ := sound.shared held
  have counted := sound.strong_eq
  have sharesFewer := Foundation.countP_set_add place StatementPhase.holdsShare
    (if owners.strong = 1 then .dropping else .released)
  have closersMore := Foundation.countP_set_add place StatementPhase.closes
    (if owners.strong = 1 then .dropping else .released)
  have notHolding : (if owners.strong = 1 then StatementPhase.dropping else .released).holdsShare
      = false := by split <;> rfl
  have finalized : (if owners.strong = 1 then StatementPhase.dropping else .released).isFinalized
      = true := by split <;> rfl
  have moved : (if owners.strong = 1 then StatementPhase.dropping else .released) ≠ .preparing := by
    split <;> exact fun same => by cases same
  rw [notHolding] at sharesFewer
  simp only [StatementPhase.holdsShare, StatementPhase.closes, Bool.toNat_true,
    Bool.toNat_false] at sharesFewer closersMore
  simp only [Owners.shares, Owners.closers] at counted noCloser
  constructor
  case strong_eq =>
    simp only [Owners.shares, Owners.dropStatement, Owners.setStatement]
    omega
  case shared =>
    intro remaining
    have notLast : owners.strong ≠ 1 := by
      intro lastShare
      exact remaining (by simp [Owners.dropStatement, lastShare])
    simp only [Owners.closers, Owners.dropStatement, Owners.setStatement]
    rw [if_neg notLast] at closersMore ⊢
    simp only [Bool.toNat_false] at closersMore
    exact ⟨by omega, isOpen⟩
  case last =>
    intro unheld
    have lastShare : owners.strong = 1 := by
      simp only [Owners.dropStatement] at unheld
      omega
    left
    simp only [Owners.closers, Owners.dropStatement, Owners.setStatement]
    rw [if_pos lastShare] at closersMore ⊢
    simp only [Bool.toNat_true] at closersMore
    exact ⟨by omega, isOpen⟩
  case preparing_live => exact sound.preparing_live_set moved
  case prepared_iff =>
    intro other
    simpa [Owners.dropStatement, Owners.setStatement] using sound.prepared_iff other
  case finalized_iff =>
    apply sound.finalized_iff_set place
    · exact fun other _ => Iff.rfl
    · rw [finalized]
      exact sound.finalized_iff number _ place
  case inOrder => exact sound.inOrder

/-- The last owner closes the connection. -/
theorem closes (sound : OwnersSound owners) (closers : owners.closers ≠ 0) {after : Owners}
    (sameStrong : after.strong = owners.strong) (sameShares : after.shares = owners.shares)
    (oneCloserLess : after.closers + 1 = owners.closers)
    (preparing : StatementPhase.preparing ∈ after.statements → after.handle = .live)
    (sameLength : after.statements.length = owners.statements.length)
    (finalized : ∀ other found, after.statements[other]? = some found →
      (.finalized other ∈ owners.events ↔ found.isFinalized = true))
    (events : after.events = .closed :: owners.events) : OwnersSound after := by
  obtain ⟨unheld, oneCloser, isOpen⟩ := sound.unheld_of_closers closers
  constructor
  case strong_eq => rw [sameStrong, sameShares, sound.strong_eq]
  case shared => exact fun held => absurd (sameStrong.trans unheld) held
  case last =>
    intro _
    right
    exact ⟨by omega, by simp [events]⟩
  case preparing_live => exact preparing
  case prepared_iff =>
    intro other
    rw [events, sameLength, ← sound.prepared_iff]
    simp
  case finalized_iff =>
    intro other found atOther
    rw [events, ← finalized other found atOther]
    simp
  case inOrder =>
    rw [events]
    exact .closed sound.inOrder isOpen (sound.all_finalized unheld)

theorem closeByStatement (sound : OwnersSound owners)
    (place : owners.statements[number]? = some .dropping) :
    OwnersSound ((owners.setStatement number .released).record .closed) := by
  have sharesKept := Foundation.countP_set_add place StatementPhase.holdsShare .released
  have closersFewer := Foundation.countP_set_add place StatementPhase.closes .released
  simp only [StatementPhase.holdsShare, StatementPhase.closes, Bool.toNat_true,
    Bool.toNat_false] at sharesKept closersFewer
  have closing : owners.closers =
      owners.handle.closers + (owners.statements.set number .released).countP
        StatementPhase.closes + 1 := by
    simp only [Owners.closers]
    omega
  apply sound.closes (by omega)
  · rfl
  · simp only [Owners.shares, Owners.record, Owners.setStatement]
    omega
  · rw [closing]
    rfl
  · exact sound.preparing_live_set (fun same => by cases same)
  · exact List.length_set
  · apply sound.finalized_iff_set place
    · exact fun other _ => Iff.rfl
    · show _ ↔ StatementPhase.dropping.isFinalized = true
      exact sound.finalized_iff number _ place
  · rfl

theorem closeByHandle (sound : OwnersSound owners)
    (closing : owners.handle = .unwrapped ∨ owners.handle = .dropping) :
    OwnersSound ({ owners with handle := .released }.record .closed) := by
  have closer : owners.handle.closers = 1 ∧ owners.handle.shares = 0 ∧
      owners.handle ≠ .live := by
    rcases closing with unwrapped | dropping
    · rw [unwrapped]
      decide
    · rw [dropping]
      decide
  obtain ⟨closes, shareless, notLive⟩ := closer
  apply sound.closes (by rw [Owners.closers, closes]; omega)
  · rfl
  · simp only [Owners.shares, Owners.record, shareless]
    rfl
  · rw [Owners.closers, Owners.closers, closes]
    show 0 + owners.statements.countP _ + 1 = 1 + owners.statements.countP _
    omega
  · exact fun member => absurd (sound.preparing_live member) notLive
  · rfl
  · exact sound.finalized_iff
  · rfl

/-- The handle gives its share up, or takes the connection out of the last one. -/
theorem handleMoves (sound : OwnersSound owners) (held : owners.handle.shares = 1)
    (settled : StatementPhase.preparing ∉ owners.statements) {next : HandlePhase}
    {strong : Nat} (lessShares : strong + 1 = owners.strong + next.shares)
    (closes : next.closers = if strong = 0 then 1 else 0) :
    OwnersSound { owners with handle := next, strong := strong } := by
  have heldCount := sound.held_of_handle held
  obtain ⟨noCloser, isOpen⟩ := sound.shared heldCount
  have counted := sound.strong_eq
  simp only [Owners.shares, Owners.closers, held] at counted noCloser
  constructor
  case strong_eq =>
    simp only [Owners.shares]
    omega
  case shared =>
    intro remaining
    rw [if_neg remaining] at closes
    simp only [Owners.closers, closes]
    exact ⟨by omega, isOpen⟩
  case last =>
    intro unheld
    replace unheld : strong = 0 := unheld
    rw [if_pos unheld] at closes
    left
    simp only [Owners.closers, closes]
    exact ⟨by omega, isOpen⟩
  case preparing_live => exact fun member => absurd member settled
  case prepared_iff => exact sound.prepared_iff
  case finalized_iff => exact sound.finalized_iff
  case inOrder => exact sound.inOrder

theorem tryUnwrap (sound : OwnersSound owners) (live : owners.handle = .live)
    (settled : StatementPhase.preparing ∉ owners.statements) :
    OwnersSound owners.tryUnwrap := by
  have held : owners.handle.shares = 1 := by rw [live]; rfl
  unfold Owners.tryUnwrap
  by_cases last : owners.strong = 1
  · rw [if_pos last]
    exact sound.handleMoves held settled (by rw [last]; rfl) rfl
  · rw [if_neg last]
    have closesNothing : HandlePhase.keeping.closers = if owners.strong = 0 then 1 else 0 := by
      rw [if_neg (sound.held_of_handle held)]
      rfl
    exact @handleMoves _ sound held settled .keeping owners.strong rfl closesNothing

theorem dropHandle (sound : OwnersSound owners) (keeping : owners.handle = .keeping) :
    OwnersSound owners.dropHandle := by
  have held : owners.handle.shares = 1 := by rw [keeping]; rfl
  have positive := sound.held_of_handle held
  have settled : StatementPhase.preparing ∉ owners.statements := by
    intro member
    have live := sound.preparing_live member
    rw [keeping] at live
    cases live
  unfold Owners.dropHandle
  by_cases last : owners.strong = 1
  · rw [if_pos last, last]
    exact sound.handleMoves held settled (by rw [last]; rfl) rfl
  · rw [if_neg last]
    apply sound.handleMoves held settled
    · show owners.strong - 1 + 1 = owners.strong + 0
      omega
    · rw [if_neg (by omega)]
      rfl

end OwnersSound

/-- Every step keeps the owners sound. -/
theorem OwnerStep.sound {owners next : Owners} (moves : OwnerStep owners next)
    (sound : OwnersSound owners) : OwnersSound next := by
  cases moves with
  | prepare live => exact sound.prepare live
  | discard place =>
      have live := sound.preparing_live (List.mem_of_getElem? place)
      exact sound.finalizes (sound.held_of_handle (by rw [live]; rfl)) place rfl rfl rfl
        ⟨rfl, rfl⟩
  | share place => exact sound.share place
  | use place => exact sound.use place
  | finalize place =>
      exact sound.finalizes (sound.held_of_holdsShare place rfl) place rfl rfl rfl ⟨rfl, rfl⟩
  | dropStatement place => exact sound.dropStatement place
  | closeByStatement place => exact sound.closeByStatement place
  | tryUnwrap live settled => exact sound.tryUnwrap live settled
  | dropHandle keeping => exact sound.dropHandle keeping
  | closeByHandle closing => exact sound.closeByHandle closing

theorem Owners.Reachable.sound {owners : Owners} (reached : owners.Reachable) :
    OwnersSound owners := by
  induction reached with
  | opened => exact .opened
  | step _ moves inductionHypothesis => exact moves.sound inductionHypothesis

/-! ## Runs -/

theorem InOrder.count_closed_le {events : List OwnerEvent} (inOrder : InOrder events) :
    events.count .closed ≤ 1 := by
  cases inOrder with
  | opened => exact Nat.zero_le _
  | prepared number before isOpen _ | used number before isOpen _ _
  | finalized number before isOpen _ _ =>
      rw [List.count_cons_of_ne (by simp), List.count_eq_zero_of_not_mem isOpen]
      exact Nat.zero_le _
  | closed before isOpen _ =>
      apply Nat.le_of_eq
      rw [List.count_cons_self, List.count_eq_zero_of_not_mem isOpen]

theorem InOrder.count_finalized_le {events : List OwnerEvent} (inOrder : InOrder events)
    (number : Nat) : events.count (.finalized number) ≤ 1 := by
  induction inOrder with
  | opened => exact Nat.zero_le _
  | prepared _ _ _ _ inductionHypothesis | used _ _ _ _ _ inductionHypothesis
  | closed _ _ _ inductionHypothesis =>
      rw [List.count_cons_of_ne (by simp)]
      exact inductionHypothesis
  | finalized other before isOpen known present inductionHypothesis =>
      by_cases same : other = number
      · subst same
        apply Nat.le_of_eq
        rw [List.count_cons_self, List.count_eq_zero_of_not_mem present]
      · rw [List.count_cons_of_ne (by simpa using same)]
        exact inductionHypothesis

/-- The connection is closed exactly when every owner has been released. -/
theorem OwnersSound.closed_iff {owners : Owners} (sound : OwnersSound owners) :
    .closed ∈ owners.events ↔
      owners.handle = .released ∧ ∀ phase ∈ owners.statements, phase = .released := by
  constructor
  · intro isClosed
    have unheld : owners.strong = 0 := by
      apply Classical.byContradiction
      intro held
      exact (sound.shared held).2 isClosed
    have noCloser : owners.closers = 0 := by
      apply Classical.byContradiction
      intro closing
      exact (sound.unheld_of_closers closing).2.2 isClosed
    have noShare : owners.shares = 0 := sound.strong_eq.symm.trans unheld
    obtain ⟨handleShares, statementShares⟩ := Nat.add_eq_zero_iff.mp noShare
    obtain ⟨handleCloses, statementCloses⟩ := Nat.add_eq_zero_iff.mp noCloser
    have released : owners.handle = .released := by
      cases handle : owners.handle with
      | live | keeping => rw [handle] at handleShares; cases handleShares
      | unwrapped | dropping => rw [handle] at handleCloses; cases handleCloses
      | released => rfl
    refine ⟨released, ?_⟩
    intro phase member
    have notHolding := List.countP_eq_zero.mp statementShares phase member
    have notClosing := List.countP_eq_zero.mp statementCloses phase member
    cases phase with
    | preparing =>
        have live := sound.preparing_live member
        rw [released] at live
        cases live
    | live | finalized => exact absurd rfl notHolding
    | dropping => exact absurd rfl notClosing
    | released => rfl
  · rintro ⟨released, allReleased⟩
    have noneCounted : ∀ counted : StatementPhase → Bool, counted .released = false →
        owners.statements.countP counted = 0 := by
      intro counted uncounted
      apply List.countP_eq_zero.mpr
      intro phase member
      rw [allReleased phase member, uncounted]
      exact Bool.false_ne_true
    have unheld : owners.strong = 0 := by
      rw [sound.strong_eq, Owners.shares, released, noneCounted _ rfl]
      rfl
    rcases sound.last unheld with ⟨closing, -⟩ | ⟨-, isClosed⟩
    · rw [Owners.closers, released, noneCounted _ rfl] at closing
      cases closing
    · exact isClosed

/-- The close of a connection is deferred to its last owner.  However the steps of the
owners interleave, engine statements are finalized once, before the connection is closed;
the connection is closed once, when every owner has been released and not before; and a
statement that is not released yet can still be used, the close of its handle
notwithstanding. -/
theorem close_is_deferred {owners : Owners} (reached : owners.Reachable) :
    InOrder owners.events ∧
      (∀ number, owners.statements[number]? = some .released →
        owners.events.count (.finalized number) = 1) ∧
      owners.events.count .closed =
        (if owners.handle = .released ∧ ∀ phase ∈ owners.statements, phase = .released
          then 1 else 0) ∧
      ∀ number, owners.statements[number]? = some .live →
        .closed ∉ owners.events ∧ .finalized number ∉ owners.events ∧
          OwnerStep owners (owners.record (.used number)) := by
  have sound := reached.sound
  refine ⟨sound.inOrder, ?_, ?_, ?_⟩
  · intro number place
    have finalized : .finalized number ∈ owners.events :=
      (sound.finalized_iff number _ place).mpr rfl
    exact Nat.le_antisymm (sound.inOrder.count_finalized_le number)
      (List.count_pos_iff.mpr finalized)
  · split
    case isTrue allReleased =>
      exact Nat.le_antisymm sound.inOrder.count_closed_le
        (List.count_pos_iff.mpr (sound.closed_iff.mpr allReleased))
    case isFalse remaining =>
      exact List.count_eq_zero_of_not_mem fun isClosed =>
        remaining (sound.closed_iff.mp isClosed)
  · intro number place
    have held := sound.held_of_holdsShare place rfl
    refine ⟨sound.isOpen held, ?_, .use place⟩
    rw [sound.finalized_iff number _ place]
    exact Bool.false_ne_true

/-- A statement outlives its handle and takes the connection with it. -/
theorem statement_outlives_its_handle :
    ∃ owners : Owners, owners.Reachable ∧ owners.handle = .released ∧
      owners.statements = [.released] ∧
      owners.events = [.closed, .finalized 0, .used 0, .prepared 0] ∧
      owners.events.count .closed = 1 := by
  have start : Owners.opened.Reachable := .opened
  have prepared := start.step (.prepare rfl)
  have shared := prepared.step (@OwnerStep.share _ 0 rfl)
  have kept := shared.step (.tryUnwrap rfl (by decide))
  have handleReleased := kept.step (.dropHandle rfl)
  have used := handleReleased.step (@OwnerStep.use _ 0 rfl)
  have finalized := used.step (@OwnerStep.finalize _ 0 rfl)
  have dropped := finalized.step (@OwnerStep.dropStatement _ 0 rfl)
  have closed := dropped.step (@OwnerStep.closeByStatement _ 0 rfl)
  exact ⟨_, closed, rfl, rfl, rfl, (close_is_deferred closed).2.2.1⟩

/-- When no owner can take a step any more, the connection has been closed. -/
theorem quiet_owners_closed {owners : Owners} (reached : owners.Reachable)
    (quiet : ∀ next, ¬ OwnerStep owners next) : .closed ∈ owners.events := by
  rw [reached.sound.closed_iff]
  constructor
  · cases handle : owners.handle with
    | live => exact absurd (.prepare handle) (quiet _)
    | keeping => exact absurd (.dropHandle handle) (quiet _)
    | unwrapped => exact absurd (.closeByHandle (.inl handle)) (quiet _)
    | dropping => exact absurd (.closeByHandle (.inr handle)) (quiet _)
    | released => rfl
  · intro phase member
    obtain ⟨number, place⟩ := List.mem_iff_getElem?.mp member
    cases phase with
    | preparing => exact absurd (.discard place) (quiet _)
    | live => exact absurd (.use place) (quiet _)
    | finalized => exact absurd (.dropStatement place) (quiet _)
    | dropping => exact absurd (.closeByStatement place) (quiet _)
    | released => rfl

end Csgdb.Ffi
