/-
Module: Csgdb.Proofs.HmacRefinement
Purpose: The replacement message authentication calls compute HMAC, for every digest,
  key, message, way of cutting the message and order of calls on one context, and
  every buffer access they make is in bounds.
Trusted boundary: the laws of the SHA primitives are assumed as `ShaLaws`.
Main exports: ShaLaws, Session, Session.Promises, call_refines, runCalls_refines,
  mac_layer_is_hmac
-/
import Csgdb.Crypto.ProviderCache

namespace Csgdb.Crypto

open Foundation

variable {Context : Type} {library : ShaLibrary Context}

/-- Each SHA primitive computes a hash of its digest length. -/
abbrev ShaLaws (library : ShaLibrary Context) : Type :=
  ∀ algorithm, IncrementalHash (library.primitive algorithm) (hmacOutputSize (some algorithm))

/-- No SHA call on a context in use fails. -/
def ShaLaws.Reliable (laws : ShaLaws library) : Prop :=
  ∀ algorithm, (laws algorithm).Reliable

/-! ## Sizes -/

theorem hmacOutputSize_pos (algorithm : HmacAlgorithm) :
    0 < hmacOutputSize (some algorithm) := by
  cases algorithm <;> decide

theorem hmacOutputSize_le_digest (algorithm : HmacAlgorithm) :
    hmacOutputSize (some algorithm) ≤ sha512DigestLength := by
  cases algorithm <;> decide

theorem hmacOutputSize_le_block (algorithm : HmacAlgorithm) :
    hmacOutputSize (some algorithm) ≤ hmacBlockSize (some algorithm) := by
  cases algorithm <;> decide

theorem hmacBlockSize_le (algorithm : HmacAlgorithm) :
    hmacBlockSize (some algorithm) ≤ sha512Cblock := by
  cases algorithm <;> decide

section Laws

variable (laws : ShaLaws library)

/-- The key of an algorithm, hashed when it is longer than a block. -/
def shortKey (algorithm : HmacAlgorithm) (key : List UInt8) : List UInt8 :=
  hmacShortKey (laws algorithm).hash (hmacBlockSize (some algorithm)) key

def keyPad (algorithm : HmacAlgorithm) (key : List UInt8) (byte : UInt8) : List UInt8 :=
  hmacPad (laws algorithm).hash (hmacBlockSize (some algorithm)) key byte

/-- The HMAC of a message. -/
def hmacTag (algorithm : HmacAlgorithm) (key message : List UInt8) : List UInt8 :=
  hmac (laws algorithm).hash (hmacBlockSize (some algorithm)) key message

theorem length_shortKey_le (algorithm : HmacAlgorithm) (key : List UInt8) :
    (shortKey laws algorithm key).length ≤ hmacBlockSize (some algorithm) := by
  unfold shortKey hmacShortKey
  split
  case isTrue long =>
    rw [(laws algorithm).hash_length]
    exact hmacOutputSize_le_block algorithm
  case isFalse short => exact Nat.not_lt.mp short

/-! ## Digest calls -/

/-- An update of bytes that the input holds reads them without fault. -/
theorem digestUpdate_eq (algorithm : HmacAlgorithm) (context : Context) {input : Buffer}
    {piece : List UInt8} (starts : input.StartsWith piece) :
    digestUpdate library (some algorithm) context input piece.length =
      .ok ((library.primitive algorithm).update context piece) := by
  simp only [digestUpdate, starts.load, ok_bind]

include laws in
/-- A final call writes inside any output that has room for a digest. -/
theorem digestFinal_eq (algorithm : HmacAlgorithm) (context : Context) {output : Buffer}
    (room : hmacOutputSize (some algorithm) ≤ output.size) :
    digestFinal library (some algorithm) context output =
      .ok (((library.primitive algorithm).final context).1,
        ((library.primitive algorithm).final context).2.1,
        { bytes := ((library.primitive algorithm).final context).2.2.map some ++
            output.bytes.drop ((library.primitive algorithm).final context).2.2.length }) := by
  have fits := Nat.le_trans ((laws algorithm).final_bounded context) room
  simp only [digestFinal, Buffer.store_of_le fits, ok_bind]

/-! ## The key -/

/-- The digest of a long key starts the buffer of 64 bytes. -/
theorem digestKey_spec (algorithm : HmacAlgorithm) (keyContext : Context)
    (key : List UInt8) :
    ∃ finished keyDigest,
      digestKey library (some algorithm) keyContext (Buffer.ofBytes key) key.length
        (Buffer.uninitialized sha512DigestLength) = .ok (finished, keyDigest) ∧
      (finished = true → keyDigest.StartsWith ((laws algorithm).hash key)) ∧
      (laws.Reliable → finished = true) := by
  have room : hmacOutputSize (some algorithm) ≤
      (Buffer.uninitialized sha512DigestLength).size := by
    simpa [Buffer.size, Buffer.uninitialized] using hmacOutputSize_le_digest algorithm
  have updated := @digestUpdate_eq _ library algorithm
    ((library.primitive algorithm).init keyContext).2 _ _ (Buffer.startsWith_ofBytes key)
  unfold digestKey
  simp only [digestInit, updated, ok_bind, digestFinal_eq laws algorithm _ room]
  by_cases started : ((library.primitive algorithm).init keyContext).1 = true
  · have empty := (laws algorithm).init_absorbed keyContext started
    simp only [started, Bool.not_true, Bool.false_eq_true, if_false]
    by_cases fed : ((library.primitive algorithm).update
        ((library.primitive algorithm).init keyContext).2 key).1 = true
    · have whole := (laws algorithm).update_absorbed _ _ key empty fed
      simp only [fed, Bool.not_true, Bool.false_eq_true, if_false]
      refine ⟨_, _, rfl, ?_, ?_⟩
      · intro finished
        rw [(laws algorithm).final_hash _ _ whole finished]
        exact ⟨_, rfl⟩
      · intro reliable
        exact (reliable algorithm).final_ok _ _ whole
    · simp only [fed, Bool.not_false, if_true]
      refine ⟨_, _, rfl, by simp, ?_⟩
      intro reliable
      exact absurd ((reliable algorithm).update_ok _ _ key empty) fed
  · simp only [started, Bool.not_false, if_true]
    refine ⟨_, _, rfl, by simp, ?_⟩
    intro reliable
    exact absurd ((reliable algorithm).init_ok keyContext) started

end Laws

/-- The loop reads and writes the positions it has not passed yet, and no other. -/
theorem combineKey_eq {key inner outer : List UInt8}
    {keyTail innerTail outerTail : List (Option UInt8)}
    (innerLength : inner.length = key.length) (outerLength : outer.length = key.length) :
    ∀ {keyDone innerDone outerDone : List (Option UInt8)},
      innerDone.length = keyDone.length → outerDone.length = keyDone.length →
        combineKey ⟨keyDone ++ (key.map some ++ keyTail)⟩ key.length keyDone.length
            ⟨innerDone ++ (inner.map some ++ innerTail)⟩
            ⟨outerDone ++ (outer.map some ++ outerTail)⟩ =
          .ok (⟨innerDone ++ ((List.zipWith (· ^^^ ·) inner key).map some ++ innerTail)⟩,
            ⟨outerDone ++ ((List.zipWith (· ^^^ ·) outer key).map some ++ outerTail)⟩) := by
  induction key generalizing inner outer with
  | nil =>
      intro keyDone innerDone outerDone _ _
      rw [List.length_eq_zero_iff.mp innerLength, List.length_eq_zero_iff.mp outerLength]
      rfl
  | cons keyByte key inductionHypothesis =>
      intro keyDone innerDone outerDone innerAt outerAt
      obtain ⟨innerByte, inner, rfl⟩ := List.exists_cons_of_length_eq_add_one innerLength
      obtain ⟨outerByte, outer, rfl⟩ := List.exists_cons_of_length_eq_add_one outerLength
      have readKey := @Buffer.read_at keyDone (key.map some ++ keyTail) keyByte
      have readInner := @Buffer.read_at innerDone (inner.map some ++ innerTail) innerByte
      have readOuter := @Buffer.read_at outerDone (outer.map some ++ outerTail) outerByte
      have writeInner := @Buffer.write_at innerDone (inner.map some ++ innerTail)
        (some innerByte) (innerByte ^^^ keyByte)
      have writeOuter := @Buffer.write_at outerDone (outer.map some ++ outerTail)
        (some outerByte) (outerByte ^^^ keyByte)
      rw [innerAt] at readInner writeInner
      rw [outerAt] at readOuter writeOuter
      have rest := @inductionHypothesis inner outer (by simpa using innerLength)
        (by simpa using outerLength) (keyDone ++ [some keyByte])
        (innerDone ++ [some (innerByte ^^^ keyByte)])
        (outerDone ++ [some (outerByte ^^^ keyByte)]) (by simp [innerAt])
        (by simp [outerAt])
      simp only [List.length_append, List.length_singleton, List.append_assoc,
        List.cons_append, List.nil_append] at rest
      simp only [List.map_cons, List.cons_append, List.length_cons, combineKey, readKey,
        readInner, readOuter, writeInner, writeOuter, ok_bind, rest, List.zipWith_cons_cons]

section Init

variable (laws : ShaLaws library)

/-- A context that a key was loaded into and that was fed a message. -/
structure Keyed (context : HmacContext Context) (algorithm : HmacAlgorithm)
    (key message : List UInt8) : Prop where
  algorithm_eq : context.algorithm = some algorithm
  inner_absorbed : (laws algorithm).absorbed context.inner
    (keyPad laws algorithm key 0x36 ++ message)
  outer_absorbed : (laws algorithm).absorbed context.outer (keyPad laws algorithm key 0x5c)

/-- A digest that is started with a block has absorbed that block. -/
theorem absorbPad_spec (algorithm : HmacAlgorithm) (context : Context) {pad : Buffer}
    {block : List UInt8} (starts : pad.StartsWith block) :
    ∃ absorbedOk next,
      absorbPad library (some algorithm) context pad block.length = .ok (absorbedOk, next) ∧
      (absorbedOk = true → (laws algorithm).absorbed next block) ∧
      (laws.Reliable → absorbedOk = true) := by
  unfold absorbPad
  simp only [digestInit, digestUpdate_eq algorithm _ starts]
  by_cases started : ((library.primitive algorithm).init context).1 = true
  · have empty := (laws algorithm).init_absorbed context started
    simp only [started, Bool.not_true, Bool.false_eq_true, if_false]
    refine ⟨_, _, rfl, ?_, ?_⟩
    · intro fed
      exact (laws algorithm).update_absorbed _ _ block empty fed
    · intro reliable
      exact (reliable algorithm).update_ok _ _ block empty
  · simp only [started, Bool.not_false, if_true]
    refine ⟨_, _, rfl, by simp, ?_⟩
    intro reliable
    exact absurd ((reliable algorithm).init_ok context) started

/-- What stands behind the key in a filled pad: the rest of its block, and bytes that
nobody wrote. -/
def padTail (algorithm : HmacAlgorithm) (key : List UInt8) (byte : UInt8) :
    List (Option UInt8) :=
  (List.replicate (hmacBlockSize (some algorithm) - (shortKey laws algorithm key).length)
    byte).map some ++ List.replicate (sha512Cblock - hmacBlockSize (some algorithm)) none

/-- A pad before and after the key is combined with it. -/
def filledPad (algorithm : HmacAlgorithm) (key : List UInt8) (byte : UInt8) : Buffer where
  bytes := (List.replicate (shortKey laws algorithm key).length byte).map some ++
    padTail laws algorithm key byte

def combinedPad (algorithm : HmacAlgorithm) (key : List UInt8) (byte : UInt8) : Buffer where
  bytes := (List.zipWith (· ^^^ ·) (List.replicate (shortKey laws algorithm key).length byte)
      (shortKey laws algorithm key)).map some ++ padTail laws algorithm key byte

theorem fill_eq_filledPad (algorithm : HmacAlgorithm) (key : List UInt8) (byte : UInt8) :
    (Buffer.uninitialized sha512Cblock).fill byte (hmacBlockSize (some algorithm)) =
      .ok (filledPad laws algorithm key byte) := by
  have split : List.replicate (hmacBlockSize (some algorithm)) byte =
      List.replicate (shortKey laws algorithm key).length byte ++
        List.replicate (hmacBlockSize (some algorithm) -
          (shortKey laws algorithm key).length) byte := by
    rw [List.replicate_append_replicate,
      Nat.add_sub_cancel' (length_shortKey_le laws algorithm key)]
  rw [Buffer.fill_uninitialized (hmacBlockSize_le algorithm), split, List.map_append,
    List.append_assoc]
  rfl

/-- The loop over the effective key turns the filled pads into the combined ones. -/
theorem combineKey_pads (algorithm : HmacAlgorithm) (key : List UInt8)
    (keyTail : List (Option UInt8)) :
    combineKey ⟨(shortKey laws algorithm key).map some ++ keyTail⟩
        (shortKey laws algorithm key).length 0 (filledPad laws algorithm key 0x36)
        (filledPad laws algorithm key 0x5c) =
      .ok (combinedPad laws algorithm key 0x36, combinedPad laws algorithm key 0x5c) :=
  @combineKey_eq (shortKey laws algorithm key)
    (List.replicate (shortKey laws algorithm key).length 0x36)
    (List.replicate (shortKey laws algorithm key).length 0x5c) keyTail
    (padTail laws algorithm key 0x36) (padTail laws algorithm key 0x5c)
    List.length_replicate List.length_replicate [] [] [] rfl rfl

theorem combinedPad_startsWith (algorithm : HmacAlgorithm) (key : List UInt8) (byte : UInt8) :
    (combinedPad laws algorithm key byte).StartsWith (keyPad laws algorithm key byte) := by
  refine ⟨List.replicate (sha512Cblock - hmacBlockSize (some algorithm)) none, ?_⟩
  unfold keyPad
  rw [← zipWith_xor_eq_hmacPad, List.map_append, List.append_assoc]
  rfl

/-- A context that absorbs the combined pad has absorbed the pad of the key. -/
theorem absorbPad_combined (algorithm : HmacAlgorithm) (context : Context)
    (key : List UInt8) (byte : UInt8) :
    ∃ absorbedOk next,
      absorbPad library (some algorithm) context (combinedPad laws algorithm key byte)
        (hmacBlockSize (some algorithm)) = .ok (absorbedOk, next) ∧
      (absorbedOk = true → (laws algorithm).absorbed next (keyPad laws algorithm key byte)) ∧
      (laws.Reliable → absorbedOk = true) := by
  have size : (keyPad laws algorithm key byte).length = hmacBlockSize (some algorithm) :=
    length_hmacPad (length_shortKey_le laws algorithm key) byte
  rw [← size]
  exact absorbPad_spec laws algorithm context (combinedPad_startsWith laws algorithm key byte)

/-- Loading the effective key keys the context, and no loop leaves its block. -/
theorem absorbKey_spec (context : HmacContext Context) {algorithm : HmacAlgorithm}
    (isAlgorithm : context.algorithm = some algorithm) (key : List UInt8)
    {effectiveKey : Buffer} (starts : effectiveKey.StartsWith (shortKey laws algorithm key)) :
    ∃ result next,
      absorbKey library context effectiveKey (shortKey laws algorithm key).length
        (hmacBlockSize (some algorithm)) = .ok (result, next) ∧
      (result = true → Keyed laws next algorithm key []) ∧
      (laws.Reliable → result = true) := by
  obtain ⟨keyTail, keyBytes⟩ := starts
  obtain ⟨bytes⟩ := effectiveKey
  obtain rfl := keyBytes
  obtain ⟨innerOk, inner, innerRan, innerKeyed, innerSure⟩ :=
    absorbPad_combined laws algorithm context.inner key 0x36
  obtain ⟨outerOk, outer, outerRan, outerKeyed, outerSure⟩ :=
    absorbPad_combined laws algorithm context.outer key 0x5c
  unfold absorbKey
  simp only [fill_eq_filledPad laws algorithm key, ok_bind, combineKey_pads, isAlgorithm,
    innerRan]
  cases innerOk with
  | false =>
      simp only [Bool.not_false, if_true]
      exact ⟨_, _, rfl, by simp, fun reliable => innerSure reliable⟩
  | true =>
      simp only [Bool.not_true, Bool.false_eq_true, if_false, outerRan, ok_bind]
      refine ⟨_, _, rfl, ?_, outerSure⟩
      intro outerDone
      exact
        { algorithm_eq := rfl
          inner_absorbed := by
            rw [List.append_nil]
            exact innerKeyed rfl
          outer_absorbed := outerKeyed outerDone }

/-- An initialization with a key never faults; when it reports success the context is
keyed, whatever it held before. -/
theorem evpMacInit_spec (stack : Context) (context : HmacContext Context)
    (key : List UInt8) (parameters : Option (List OsslParam)) :
    ∃ result next,
      evpMacInit library stack (some context) (some key) parameters =
        .ok (result, some next) ∧
      (hmacAlgorithm parameters = none → result = false) ∧
      ∀ algorithm, hmacAlgorithm parameters = some algorithm →
        (result = true → Keyed laws next algorithm key []) ∧
        (laws.Reliable → result = true) := by
  unfold evpMacInit
  cases isAlgorithm : hmacAlgorithm parameters with
  | none => exact ⟨_, _, by simp; rfl, fun _ => rfl, fun _ other => by cases other⟩
  | some algorithm =>
      have fits : ¬ hmacBlockSize (some algorithm) > sha512Cblock :=
        Nat.not_lt.mpr (hmacBlockSize_le algorithm)
      simp only [fits, decide_false, Bool.or_false, reduceCtorEq, Bool.false_eq_true, if_false]
      let started : HmacContext Context :=
        { algorithm := some algorithm, inner := library.cleansed, outer := library.cleansed }
      by_cases long : key.length > hmacBlockSize (some algorithm)
      · have isDigest : shortKey laws algorithm key = (laws algorithm).hash key := if_pos long
        obtain ⟨digested, keyDigest, ran, starts, sure⟩ :=
          digestKey_spec laws algorithm stack key
        simp only [long, if_true, ran, ok_bind]
        cases digested with
        | false =>
            simp only [Bool.not_false, if_true]
            refine ⟨_, _, rfl, fun other => (by cases other), ?_⟩
            intro other same
            obtain rfl := Option.some.inj same
            exact ⟨by simp, sure⟩
        | true =>
            obtain ⟨result, next, absorbedRan, keyed, certain⟩ :=
              absorbKey_spec laws started rfl key (isDigest ▸ starts rfl)
            have size : (shortKey laws algorithm key).length =
                hmacOutputSize (some algorithm) := by
              rw [isDigest, (laws algorithm).hash_length]
            rw [size] at absorbedRan
            simp only [Bool.not_true, Bool.false_eq_true, if_false]
            refine ⟨result, next, ?_, fun other => (by cases other), ?_⟩
            · rw [absorbedRan]
              rfl
            · intro other same
              obtain rfl := Option.some.inj same
              exact ⟨keyed, certain⟩
      · have isKey : shortKey laws algorithm key = key := if_neg long
        obtain ⟨result, next, absorbedRan, keyed, certain⟩ :=
          absorbKey_spec laws started rfl key (isKey.symm ▸ Buffer.startsWith_ofBytes key)
        rw [isKey] at absorbedRan
        simp only [long, if_false]
        refine ⟨result, next, ?_, fun other => (by cases other), ?_⟩
        · rw [absorbedRan]
          rfl
        · intro other same
          obtain rfl := Option.some.inj same
          exact ⟨keyed, certain⟩

end Init

/-! ## Calls in terms of a session -/

/-- The bytes of an input; `NULL` has none. -/
def Input.data : Input → List UInt8
  | .null _ => []
  | .bytes data => data

/-- A `NULL` input that claims a size. -/
def Input.isMalformed : Input → Bool
  | .null size => size != 0
  | .bytes _ => false

/-- A final call that asks for no tag, or for one that does not fit. -/
def withholds (algorithm : HmacAlgorithm) (sizePointer : Bool) (output : Option Buffer) :
    Bool :=
  !sizePointer ||
    match output with
    | none => true
    | some buffer => decide (buffer.size < hmacOutputSize (some algorithm))

/-- What a caller may rely on: nothing, or that a key is loaded and a message was fed. -/
inductive Session where
  | unkeyed
  | keyed (algorithm : HmacAlgorithm) (key message : List UInt8)
deriving Repr, DecidableEq

/-- The session behind a call, given whether the call reported success. -/
def Session.after (call : Call Context) (result : Bool) (session : Session) : Session :=
  match call, session with
  | .init _ none _, session => session
  | .init _ (some key) parameters, _ =>
      match hmacAlgorithm parameters with
      | none => .unkeyed
      | some algorithm => if result then .keyed algorithm key [] else .unkeyed
  | _, .unkeyed => .unkeyed
  | .update input, .keyed algorithm key message =>
      if input.isMalformed then .keyed algorithm key message
      else if result then .keyed algorithm key (message ++ input.data)
      else .unkeyed
  | .final sizePointer output, .keyed algorithm key message =>
      if withholds algorithm sizePointer output then .keyed algorithm key message
      else .unkeyed

/-- The reply of a final call that withholds the tag. -/
def withheldReply (algorithm : HmacAlgorithm) (sizePointer : Bool) (output : Option Buffer) :
    Reply where
  result := sizePointer && output.isNone
  outputSize := if sizePointer then some (hmacOutputSize (some algorithm)) else none
  output := output

/-- A final call that does not withhold the tag has room for it. -/
theorem of_withholds_eq_false {algorithm : HmacAlgorithm} {sizePointer : Bool}
    {output : Option Buffer} (asked : withholds algorithm sizePointer output = false) :
    ∃ buffer, sizePointer = true ∧ output = some buffer ∧
      hmacOutputSize (some algorithm) ≤ buffer.size := by
  cases sizePointer with
  | false => simp [withholds] at asked
  | true =>
      cases output with
      | none => simp [withholds] at asked
      | some buffer => exact ⟨buffer, rfl, rfl, by simpa [withholds] using asked⟩

section Sessions

variable (laws : ShaLaws library)

/-- The output of a final call that succeeds starts with the tag. -/
def tagged (algorithm : HmacAlgorithm) (key message : List UInt8) (buffer : Buffer) : Buffer
    where
  bytes := (hmacTag laws algorithm key message).map some ++
    buffer.bytes.drop (hmacOutputSize (some algorithm))

/-- What a session promises about the reply of a call. -/
def Session.Promises (session : Session) (call : Call Context) (reply : Reply) : Prop :=
  match call, session with
  | .init _ none _, _ => reply.result = false
  | .init _ (some _) parameters, _ =>
      (hmacAlgorithm parameters = none → reply.result = false) ∧
      (laws.Reliable → hmacAlgorithm parameters ≠ none → reply.result = true)
  | _, .unkeyed => True
  | .update input, .keyed _ _ _ =>
      (input.isMalformed = true → reply.result = false) ∧
      (laws.Reliable → input.isMalformed = false → reply.result = true)
  | .final sizePointer output, .keyed algorithm key message =>
      (withholds algorithm sizePointer output = true →
        reply = withheldReply algorithm sizePointer output) ∧
      (withholds algorithm sizePointer output = false →
        reply.outputSize = some (hmacOutputSize (some algorithm)) ∧
        (reply.result = true →
          reply.output = output.map (tagged laws algorithm key message)) ∧
        (laws.Reliable → reply.result = true))

/-- A context holds what its session says. -/
def Holds (context : HmacContext Context) : Session → Prop
  | .unkeyed => True
  | .keyed algorithm key message => Keyed laws context algorithm key message

/-! ## Updates -/

/-- A well-formed update reads its input without fault. -/
theorem evpMacUpdate_eq (context : HmacContext Context) {algorithm : HmacAlgorithm}
    (isAlgorithm : context.algorithm = some algorithm) {input : Input}
    (wellFormed : input.isMalformed = false) :
    evpMacUpdate library (some context) input =
      .ok (((library.primitive algorithm).update context.inner input.data).1,
        some { context with
          inner := ((library.primitive algorithm).update context.inner input.data).2 }) := by
  have reads := fun data => @digestUpdate_eq _ library algorithm context.inner _ _
    (Buffer.startsWith_ofBytes data)
  cases input with
  | null size =>
      cases size with
      | zero =>
          have none := reads []
          simp only [List.length_nil] at none
          simp only [evpMacUpdate, isAlgorithm, none, ok_bind, Input.data]
      | succ size => simp [Input.isMalformed] at wellFormed
  | bytes data => simp only [evpMacUpdate, isAlgorithm, reads, ok_bind, Input.data]

/-- An update never faults. -/
theorem evpMacUpdate_runs (context : HmacContext Context) (input : Input) :
    ∃ result next, evpMacUpdate library (some context) input = .ok (result, some next) := by
  by_cases malformed : input.isMalformed = true
  · cases input with
    | null size =>
        cases size with
        | zero => simp [Input.isMalformed] at malformed
        | succ size => exact ⟨_, _, rfl⟩
    | bytes data => simp [Input.isMalformed] at malformed
  · cases isAlgorithm : context.algorithm with
    | none =>
        cases input with
        | null size =>
            cases size <;> simp [evpMacUpdate, digestUpdate, isAlgorithm]
        | bytes data => simp [evpMacUpdate, digestUpdate, isAlgorithm]
    | some algorithm =>
        exact ⟨_, _, evpMacUpdate_eq context isAlgorithm (by simpa using malformed)⟩

/-! ## The final call -/

/-- A final call that withholds the tag leaves the context as it is. -/
theorem evpMacFinal_withheld (context : HmacContext Context) {algorithm : HmacAlgorithm}
    (isAlgorithm : context.algorithm = some algorithm) {sizePointer : Bool}
    {output : Option Buffer} (held : withholds algorithm sizePointer output = true) :
    evpMacFinal library (some context) sizePointer output =
      .ok (withheldReply algorithm sizePointer output, some context) := by
  have positive := Nat.ne_of_gt (hmacOutputSize_pos algorithm)
  cases sizePointer with
  | false => simp [evpMacFinal, withheldReply]
  | true =>
      cases output with
      | none => simp [evpMacFinal, withheldReply, isAlgorithm, positive]
      | some buffer =>
          have small : buffer.size < hmacOutputSize (some algorithm) := by
            simpa [withholds] using held
          simp [evpMacFinal, withheldReply, isAlgorithm, positive, small]

include laws in
/-- A final call with room for the tag never faults; on a keyed context it writes the
tag of the message. -/
theorem evpMacFinal_spec (context : HmacContext Context) {algorithm : HmacAlgorithm}
    (isAlgorithm : context.algorithm = some algorithm) {buffer : Buffer}
    (room : hmacOutputSize (some algorithm) ≤ buffer.size) :
    ∃ reply next,
      evpMacFinal library (some context) true (some buffer) = .ok (reply, some next) ∧
      reply.outputSize = some (hmacOutputSize (some algorithm)) ∧
      ∀ key message, Keyed laws context algorithm key message →
        (reply.result = true →
          reply.output = some (tagged laws algorithm key message buffer)) ∧
        (laws.Reliable → reply.result = true) := by
  have positive := Nat.ne_of_gt (hmacOutputSize_pos algorithm)
  have innerRoom : hmacOutputSize (some algorithm) ≤
      (Buffer.uninitialized sha512DigestLength).size := by
    simpa [Buffer.size, Buffer.uninitialized] using hmacOutputSize_le_digest algorithm
  simp only [evpMacFinal, isAlgorithm, Bool.not_true, Bool.false_or, beq_iff_eq, positive,
    if_false, Nat.not_lt.mpr room, digestFinal_eq laws algorithm _ innerRoom, ok_bind]
  by_cases finished : ((library.primitive algorithm).final context.inner).1 = true
  · have innerLength := (laws algorithm).final_length context.inner finished
    have updated := @digestUpdate_eq _ library algorithm context.outer _ _
      (⟨_, rfl⟩ : Buffer.StartsWith
        ⟨((library.primitive algorithm).final context.inner).2.2.map some ++
          (Buffer.uninitialized sha512DigestLength).bytes.drop
            ((library.primitive algorithm).final context.inner).2.2.length⟩ _)
    rw [innerLength] at updated
    simp only [finished, Bool.not_true, Bool.false_eq_true, if_false, innerLength, updated,
      ok_bind]
    by_cases fed : ((library.primitive algorithm).update context.outer
        ((library.primitive algorithm).final context.inner).2.2).1 = true
    · simp only [fed, Bool.not_true, Bool.false_eq_true, if_false,
        digestFinal_eq laws algorithm _ room, ok_bind]
      refine ⟨_, _, rfl, rfl, ?_⟩
      intro key message keyed
      have innerDigest := (laws algorithm).final_hash _ _ keyed.inner_absorbed finished
      have absorbedAll := (laws algorithm).update_absorbed _ _ _ keyed.outer_absorbed fed
      constructor
      · intro written
        have outerDigest := (laws algorithm).final_hash _ _ absorbedAll written
        have outerLength := (laws algorithm).final_length _ written
        rw [outerLength, outerDigest, innerDigest]
        rfl
      · intro reliable
        exact (reliable algorithm).final_ok _ _ absorbedAll
    · simp only [fed, Bool.not_false, if_true]
      refine ⟨_, _, rfl, rfl, ?_⟩
      intro key message keyed
      refine ⟨by simp, fun reliable => ?_⟩
      exact absurd ((reliable algorithm).update_ok _ _ _ keyed.outer_absorbed) fed
  · simp only [finished, Bool.not_false, if_true]
    refine ⟨_, _, rfl, rfl, ?_⟩
    intro key message keyed
    refine ⟨by simp, fun reliable => ?_⟩
    exact absurd ((reliable algorithm).final_ok _ _ keyed.inner_absorbed) finished

include laws in
/-- A final call never faults. -/
theorem evpMacFinal_runs (context : HmacContext Context) (sizePointer : Bool)
    (output : Option Buffer) :
    ∃ reply next,
      evpMacFinal library (some context) sizePointer output = .ok (reply, some next) := by
  cases isAlgorithm : context.algorithm with
  | none => exact ⟨_, _, by simp [evpMacFinal, isAlgorithm, hmacOutputSize]; exact ⟨rfl, rfl⟩⟩
  | some algorithm =>
      by_cases held : withholds algorithm sizePointer output = true
      · exact ⟨_, _, evpMacFinal_withheld context isAlgorithm held⟩
      · obtain ⟨buffer, rfl, rfl, room⟩ := of_withholds_eq_false (by simpa using held)
        obtain ⟨reply, next, ran, -⟩ := evpMacFinal_spec laws context isAlgorithm room
        exact ⟨reply, next, ran⟩

/-! ## One call -/

/-- An update of a keyed context. -/
theorem update_refines {context : HmacContext Context} {algorithm : HmacAlgorithm}
    {key message : List UInt8} (keyed : Keyed laws context algorithm key message)
    (input : Input) :
    ∃ result next, evpMacUpdate library (some context) input = .ok (result, some next) ∧
      (input.isMalformed = true → result = false ∧ next = context) ∧
      (input.isMalformed = false →
        (result = true → Keyed laws next algorithm key (message ++ input.data)) ∧
        (laws.Reliable → result = true)) := by
  by_cases malformed : input.isMalformed = true
  · cases input with
    | null size =>
        cases size with
        | zero => simp [Input.isMalformed] at malformed
        | succ size => exact ⟨false, context, rfl, fun _ => ⟨rfl, rfl⟩, by simp [malformed]⟩
    | bytes data => simp [Input.isMalformed] at malformed
  · refine ⟨_, _, evpMacUpdate_eq context keyed.algorithm_eq (by simpa using malformed),
      fun other => absurd other malformed, fun _ => ⟨?_, ?_⟩⟩
    · intro updated
      have fed := (laws algorithm).update_absorbed _ _ _ keyed.inner_absorbed updated
      exact
        { algorithm_eq := keyed.algorithm_eq
          inner_absorbed := by
            rw [← List.append_assoc]
            exact fed
          outer_absorbed := keyed.outer_absorbed }
    · intro reliable
      exact (reliable algorithm).update_ok _ _ _ keyed.inner_absorbed

/-- A call never faults, keeps the promise of the session and leaves a context that
holds the session behind it. -/
theorem call_refines {context : HmacContext Context} {session : Session}
    (holds : Holds laws context session) (call : Call Context) :
    ∃ reply next, call.run library (some context) = .ok (reply, some next) ∧
      session.Promises laws call reply ∧
      Holds laws next (session.after call reply.result) := by
  cases call with
  | init stack key parameters =>
      cases key with
      | none =>
          refine ⟨_, context, rfl, ?_, ?_⟩
          · cases session <;> rfl
          · cases session <;> exact holds
      | some key =>
          obtain ⟨result, next, ran, unknown, known⟩ :=
            evpMacInit_spec laws stack context key parameters
          refine ⟨_, next, by simp only [Call.run, ran, ok_bind]; rfl, ?_, ?_⟩
          · have promise : (hmacAlgorithm parameters = none → result = false) ∧
                (laws.Reliable → hmacAlgorithm parameters ≠ none → result = true) := by
              refine ⟨unknown, fun reliable some_ => ?_⟩
              obtain ⟨algorithm, isAlgorithm⟩ := Option.ne_none_iff_exists'.mp some_
              exact (known algorithm isAlgorithm).2 reliable
            cases session <;> exact promise
          · have after : Holds laws next (match hmacAlgorithm parameters with
                | none => .unkeyed
                | some algorithm => if result then .keyed algorithm key [] else .unkeyed) := by
              cases isAlgorithm : hmacAlgorithm parameters with
              | none => trivial
              | some algorithm =>
                  cases result with
                  | false => trivial
                  | true => exact (known algorithm isAlgorithm).1 rfl
            cases session <;> exact after
  | update input =>
      cases session with
      | unkeyed =>
          obtain ⟨result, next, ran⟩ := @evpMacUpdate_runs _ library context input
          exact ⟨_, next, by simp only [Call.run, ran, ok_bind]; rfl, trivial, trivial⟩
      | keyed algorithm key message =>
          obtain ⟨result, next, ran, refused, accepted⟩ := update_refines laws holds input
          refine ⟨_, next, by simp only [Call.run, ran, ok_bind]; rfl, ?_, ?_⟩
          · exact ⟨fun malformed => (refused malformed).1,
              fun reliable wellFormed => (accepted wellFormed).2 reliable⟩
          · by_cases malformed : input.isMalformed = true
            · simp only [Session.after, malformed, if_true]
              rw [(refused malformed).2]
              exact holds
            · simp only [Session.after, malformed, Bool.false_eq_true, if_false]
              cases result with
              | false => trivial
              | true => exact (accepted (by simpa using malformed)).1 rfl
  | final sizePointer output =>
      cases session with
      | unkeyed =>
          obtain ⟨reply, next, ran⟩ := evpMacFinal_runs laws context sizePointer output
          exact ⟨reply, next, ran, trivial, trivial⟩
      | keyed algorithm key message =>
          have isAlgorithm : context.algorithm = some algorithm := holds.algorithm_eq
          by_cases held : withholds algorithm sizePointer output = true
          · refine ⟨_, context, evpMacFinal_withheld context isAlgorithm held, ?_, ?_⟩
            · exact ⟨fun _ => rfl, fun other => absurd held (by simp [other])⟩
            · simp only [Session.after, held, if_true]
              exact holds
          · have asked : withholds algorithm sizePointer output = false := by
              simpa using held
            obtain ⟨buffer, rfl, rfl, room⟩ := of_withholds_eq_false asked
            obtain ⟨reply, next, ran, size, tag⟩ :=
              evpMacFinal_spec laws context isAlgorithm room
            refine ⟨reply, next, ran, ?_, ?_⟩
            · exact ⟨fun other => absurd other held, fun _ => ⟨size, tag key message holds⟩⟩
            · simp only [Session.after, held, Bool.false_eq_true, if_false]
              trivial

/-! ## Whole runs -/

/-- Every reply keeps the promise that the session makes at its point of the run. -/
def Session.Follows : Session → List (Call Context) → List Reply → Prop
  | _, [], [] => True
  | session, call :: calls, reply :: replies =>
      session.Promises laws call reply ∧
        (session.after call reply.result).Follows calls replies
  | _, _, _ => False

/-- The session behind a run. -/
def Session.afterAll : Session → List (Call Context) → List Reply → Session
  | session, call :: calls, reply :: replies =>
      (session.after call reply.result).afterAll calls replies
  | session, _, _ => session

/-- Any sequence of calls runs without fault and follows its session. -/
theorem runCalls_refines (calls : List (Call Context)) {context : HmacContext Context}
    {session : Session} (holds : Holds laws context session) :
    ∃ replies last, runCalls library calls (some context) = .ok (replies, some last) ∧
      session.Follows laws calls replies ∧
      Holds laws last (session.afterAll calls replies) := by
  induction calls generalizing context session with
  | nil => exact ⟨[], context, rfl, trivial, holds⟩
  | cons call calls inductionHypothesis =>
      obtain ⟨reply, next, ran, promise, nextHolds⟩ := call_refines laws holds call
      obtain ⟨replies, last, ranAll, follows, lastHolds⟩ := inductionHypothesis nextHolds
      refine ⟨reply :: replies, last, ?_, ⟨promise, follows⟩, lastHolds⟩
      simp only [runCalls, ran, ok_bind, ranAll]

/-! ## Between an initialization and its tag -/

/-- The bytes that a call feeds. -/
def Call.data : Call Context → List UInt8
  | .update input => input.data
  | _ => []

/-- Updates, and final calls that withhold the tag. -/
def Call.Feeds (algorithm : HmacAlgorithm) : Call Context → Prop
  | .init _ _ _ => False
  | .update _ => True
  | .final sizePointer output => withholds algorithm sizePointer output = true

/-- Every update of a run reported success. -/
def UpdatesSucceeded (calls : List (Call Context)) (replies : List Reply) : Prop :=
  ∀ pair ∈ calls.zip replies, ∀ input, pair.1 = .update input → pair.2.result = true

/-- Calls that only feed extend the message by what their updates hold. -/
theorem afterAll_keyed {algorithm : HmacAlgorithm} {key : List UInt8}
    {calls : List (Call Context)} :
    ∀ {message : List UInt8} {replies : List Reply},
      (∀ call ∈ calls, call.Feeds algorithm) → UpdatesSucceeded calls replies →
      (Session.keyed algorithm key message).Follows laws calls replies →
        (Session.keyed algorithm key message).afterAll calls replies =
          .keyed algorithm key (message ++ calls.flatMap Call.data) := by
  induction calls with
  | nil =>
      intro message replies _ _ _
      simp [Session.afterAll]
  | cons call calls inductionHypothesis =>
      intro message replies feeds succeeded follows
      cases replies with
      | nil => exact follows.elim
      | cons reply replies =>
          obtain ⟨promise, follows⟩ := follows
          rw [List.forall_mem_cons] at feeds
          have rest : UpdatesSucceeded calls replies := fun pair member =>
            succeeded pair (List.mem_cons_of_mem _ member)
          have fed : (Session.keyed algorithm key message).after call reply.result =
              .keyed algorithm key (message ++ call.data) := by
            cases call with
            | init stack other parameters => exact feeds.1.elim
            | update input =>
                have ok : reply.result = true :=
                  succeeded (.update input, reply) List.mem_cons_self input rfl
                have wellFormed : input.isMalformed = false := by
                  cases malformed : input.isMalformed with
                  | false => rfl
                  | true => exact absurd (promise.1 malformed) (by simp [ok])
                simp only [Session.after, wellFormed, Bool.false_eq_true, if_false, ok,
                  if_true, Call.data]
            | final sizePointer output =>
                have held : withholds algorithm sizePointer output = true := feeds.1
                simp only [Session.after, held, if_true, Call.data, List.append_nil]
          rw [fed] at follows
          rw [Session.afterAll, fed, inductionHypothesis feeds.2 rest follows,
            List.flatMap_cons, List.append_assoc]

/-- The replacement calls are HMAC.  No call faults, in whatever order; an
initialization with a key does not depend on what the context held; a final call that
withholds the tag leaves the context alone; and after any history, an initialization
that reports success, updates that do and withheld final calls between them, a final
call with room for the digest reports its length and writes the HMAC of the key and of
all that was fed, unless a primitive fails. -/
theorem mac_layer_is_hmac :
    (∀ (calls : List (Call Context)) (context : HmacContext Context),
      ∃ replies last, runCalls library calls (some context) = .ok (replies, some last) ∧
        Session.unkeyed.Follows laws calls replies) ∧
    (∀ (stack : Context) (context other : HmacContext Context) (key : List UInt8)
        (parameters : Option (List OsslParam)),
      evpMacInit library stack (some context) (some key) parameters =
        evpMacInit library stack (some other) (some key) parameters) ∧
    (∀ (context : HmacContext Context) (algorithm : HmacAlgorithm) (sizePointer : Bool)
        (output : Option Buffer), context.algorithm = some algorithm →
      withholds algorithm sizePointer output = true →
        evpMacFinal library (some context) sizePointer output =
          .ok (withheldReply algorithm sizePointer output, some context)) ∧
    ∀ (history : List (Call Context)) (past : List Reply)
        (before started ready : Option (HmacContext Context)) (stack : Context)
        (key : List UInt8) (parameters : Option (List OsslParam))
        (algorithm : HmacAlgorithm) (between : List (Call Context))
        (replies : List Reply) (buffer : Buffer),
      runCalls library history (some (evpMacCtxNew library)) = .ok (past, before) →
      hmacAlgorithm parameters = some algorithm →
      evpMacInit library stack before (some key) parameters = .ok (true, started) →
      (∀ call ∈ between, call.Feeds algorithm) →
      runCalls library between started = .ok (replies, ready) →
      UpdatesSucceeded between replies →
      hmacOutputSize (some algorithm) ≤ buffer.size →
        ∃ reply last,
          evpMacFinal library ready true (some buffer) = .ok (reply, last) ∧
          reply.outputSize = some (hmacOutputSize (some algorithm)) ∧
          (reply.result = true → reply.output =
            some (tagged laws algorithm key (between.flatMap Call.data) buffer)) ∧
          (laws.Reliable → reply.result = true) := by
  refine ⟨?_, fun _ _ _ _ _ => rfl, ?_, ?_⟩
  · intro calls context
    obtain ⟨replies, last, ran, follows, -⟩ :=
      runCalls_refines laws calls (show Holds laws context .unkeyed from trivial)
    exact ⟨replies, last, ran, follows⟩
  · intro context algorithm sizePointer output isAlgorithm held
    exact evpMacFinal_withheld context isAlgorithm held
  · intro history past before started ready stack key parameters algorithm between replies
      buffer ranHistory isAlgorithm ranInit feeds ranBetween succeeded room
    obtain ⟨past', context, ranHistory', -⟩ := runCalls_refines laws history
      (show Holds laws (evpMacCtxNew library) .unkeyed from trivial)
    obtain rfl : before = some context :=
      (Prod.mk.inj (Except.ok.inj (ranHistory.symm.trans ranHistory'))).2
    obtain ⟨result, keyedContext, ranInit', -, known⟩ :=
      evpMacInit_spec laws stack context key parameters
    obtain ⟨sameResult, rfl⟩ := Prod.mk.inj (Except.ok.inj (ranInit.symm.trans ranInit'))
    have keyed := (known algorithm isAlgorithm).1 sameResult.symm
    obtain ⟨replies', last, ranBetween', follows, lastHolds⟩ :=
      runCalls_refines laws between
        (show Holds laws keyedContext (.keyed algorithm key []) from keyed)
    obtain ⟨rfl, rfl⟩ := Prod.mk.inj (Except.ok.inj (ranBetween.symm.trans ranBetween'))
    rw [afterAll_keyed laws feeds succeeded follows, List.nil_append] at lastHolds
    obtain ⟨reply, done, ran, size, tag⟩ :=
      evpMacFinal_spec laws last lastHolds.algorithm_eq room
    exact ⟨reply, some done, ran, size, tag key _ lastHolds⟩

end Sessions

/-! ## The vector of the self-test -/

/-- The key of the self-test, and what SHA-256 makes of the two messages of its HMAC. -/
def vectorKey : List UInt8 :=
  List.replicate 20 0x0b

def vectorInner : List UInt8 :=
  [0x92, 0xab, 0x4d, 0x9a, 0x1f, 0x3b, 0x61, 0x52, 0xbc, 0xa9, 0xdd, 0x9e, 0x69, 0xaf, 0x43,
    0xf4, 0xce, 0x99, 0xe4, 0x2f, 0xd4, 0xe3, 0x0f, 0xf9, 0x72, 0xc4, 0x80, 0x25, 0xb9, 0xf9,
    0xcf, 0xef]

def vectorTag : List UInt8 :=
  [0xb0, 0x34, 0x4c, 0x61, 0xd8, 0xdb, 0x38, 0x53, 0x5c, 0xa8, 0xaf, 0xce, 0xaf, 0x0b, 0xf1,
    0x2b, 0x88, 0x1d, 0xc2, 0x00, 0xc9, 0x83, 0x3d, 0xa7, 0x26, 0xe9, 0x37, 0x6c, 0x2e, 0x32,
    0xcf, 0xf7]

/-- SHA-256 on these two messages, and zeros elsewhere. -/
def vectorHash (message : List UInt8) : List UInt8 :=
  if message = List.replicate 20 0x3d ++ List.replicate 44 0x36 ++ asciiBytes "Hi There" then
    vectorInner
  else if message = List.replicate 20 0x57 ++ List.replicate 44 0x5c ++ vectorInner then
    vectorTag
  else
    List.replicate sha256DigestLength 0

theorem length_vectorHash (message : List UInt8) :
    (vectorHash message).length = sha256DigestLength := by
  unfold vectorHash
  split
  · rfl
  · split
    · rfl
    · rw [List.length_replicate]

/-- A library whose contexts keep their messages; only its SHA-256 is used. -/
def vectorLibrary : ShaLibrary (List UInt8) where
  sha1 := .ofHash fun _ => List.replicate shaDigestLength 0
  sha256 := .ofHash vectorHash
  sha512 := .ofHash fun _ => List.replicate sha512DigestLength 0
  cleansed := []

def vectorLaws : ShaLaws vectorLibrary
  | .sha1 => .ofHash _ _ fun _ => List.length_replicate
  | .sha256 => .ofHash _ _ length_vectorHash
  | .sha512 => .ofHash _ _ fun _ => List.length_replicate

theorem vectorLaws_reliable : vectorLaws.Reliable := by
  intro algorithm
  cases algorithm with
  | sha1 => exact IncrementalHash.reliable_ofHash _ _ _
  | sha256 => exact IncrementalHash.reliable_ofHash _ _ _
  | sha512 => exact IncrementalHash.reliable_ofHash _ _ _

def vectorParameters : Option (List OsslParam) :=
  some [{ key := asciiBytes "digest", data := some (asciiBytes "SHA256") }]

/-- The updates of the self-test, with a question for the size between them. -/
def vectorCalls : List (Call (List UInt8)) :=
  [.update (.bytes (asciiBytes "Hi ")), .final true none,
    .update (.bytes (asciiBytes "There"))]

/-- An abandoned use of the context, and the context after the initialization and after
the updates of the self-test. -/
def vectorHistory : List (Call (List UInt8)) :=
  [.init [1] (some [2]) vectorParameters, .update (.bytes [3])]

def vectorAbandoned : HmacContext (List UInt8) where
  algorithm := some .sha256
  inner := 0x34 :: List.replicate 63 0x36 ++ [3]
  outer := 0x5e :: List.replicate 63 0x5c

def vectorStarted : HmacContext (List UInt8) where
  algorithm := some .sha256
  inner := List.replicate 20 0x3d ++ List.replicate 44 0x36
  outer := List.replicate 20 0x57 ++ List.replicate 44 0x5c

def vectorReady : HmacContext (List UInt8) :=
  { vectorStarted with inner := vectorStarted.inner ++ asciiBytes "Hi There" }

def plainReply (result : Bool) (outputSize : Option Nat) : Reply where
  result := result
  outputSize := outputSize
  output := none

/-- The final call after these updates writes the vector of the self-test. -/
theorem vector_authenticated :
    ∃ reply last,
      evpMacFinal vectorLibrary (some vectorReady) true (some (Buffer.uninitialized 32)) =
        .ok (reply, last) ∧
      reply = { result := true, outputSize := some 32,
                output := some (Buffer.ofBytes vectorTag) } := by
  obtain ⟨-, -, -, authenticates⟩ := mac_layer_is_hmac vectorLaws
  obtain ⟨reply, last, ran, size, tag, sure⟩ := authenticates vectorHistory
    [plainReply true none, plainReply true none] (some vectorAbandoned) (some vectorStarted)
    (some vectorReady) [] vectorKey vectorParameters .sha256 vectorCalls
    [plainReply true none, plainReply true (some 32), plainReply true none]
    (Buffer.uninitialized 32) (by decide +kernel) (by decide +kernel) (by decide +kernel)
    (by simp [vectorCalls, Call.Feeds, withholds]) (by decide +kernel)
    (by simp [UpdatesSucceeded, vectorCalls, plainReply]) (by decide)
  have written := sure vectorLaws_reliable
  have output : reply.output = some (Buffer.ofBytes vectorTag) := by
    rw [tag written]
    decide +kernel
  refine ⟨reply, last, ran, ?_⟩
  cases reply with
  | mk result outputSize bytes =>
      obtain rfl : result = true := written
      obtain rfl : outputSize = some 32 := size
      obtain rfl : bytes = some (Buffer.ofBytes vectorTag) := output
      rfl

end Csgdb.Crypto
