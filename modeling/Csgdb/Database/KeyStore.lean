/-
Module: Csgdb.Database.KeyStore
Purpose: Any number of threads that open databases through the Rust and the C interface,
  with key providers that they share.
Trusted boundary: a key provider answers one call at a time, and only these opens create
  keys.
Main exports: KeyStore, KeyStore.Keeps, OpenCall, OpenCall.program, OpenShared, OpenThread,
  OpenMove, OpenShared.finish, openStart
-/
import Csgdb.Ffi.OpenCalls
import Csgdb.Foundation.Interleaving

namespace Csgdb

open Foundation Ffi

variable {Handle Store : Type}

/-! ## Key stores -/

/-- The key providers of a host, with the state behind them. -/
structure KeyStore (Handle Store : Type) where
  answer : (call : ProviderCall Handle) → Store → call.Reply × Store

/-- What a host documents about its providers: `load` finds the key that is kept, `create`
keeps the key that it makes, and one that fails keeps nothing.  A call leaves the keys of
others alone. -/
structure KeyStore.Keeps (store : KeyStore Handle Store)
    (keys : Store → Handle → DatabaseIdentity → Option SecretKey) : Prop where
  loads : ∀ {provider identity state found},
    (store.answer (.load provider identity) state).1 = .ok found →
      found = keys state provider identity
  loading : ∀ provider identity state,
    keys (store.answer (.load provider identity) state).2 = keys state
  creates : ∀ {provider identity state key},
    (store.answer (.create provider identity) state).1 = .ok key →
      keys (store.answer (.create provider identity) state).2 provider identity = some key
  failing : ∀ {provider identity state error},
    (store.answer (.create provider identity) state).1 = .error error →
      keys (store.answer (.create provider identity) state).2 = keys state
  others : ∀ provider identity state {otherProvider otherIdentity},
    (otherProvider, otherIdentity) ≠ (provider, identity) →
      keys (store.answer (.create provider identity) state).2 otherProvider otherIdentity =
        keys state otherProvider otherIdentity

/-! ## Opens -/

/-- An open of a builder, alone or for a pool, or through the C interface. -/
inductive OpenCall (Handle : Type) where
  | rust (builder : DatabaseBuilder Handle)
  | c (call : CsgdbOpen)

/-- How the part of an open ends that comes before storage. -/
inductive OpenAnswer where
  | refused (code : Code)
  | planned (result : Result ResolvedOpenPlan)

def OpenCall.request : OpenCall Handle → Except Code (Result (DatabaseBuilder Handle))
  | .rust builder => .ok (.ok builder)
  | .c call => call.request

def OpenCall.program (call : OpenCall Handle) :
    Asking (@ProviderCall.Reply Handle) OpenAnswer :=
  match call.request with
  | .error code => .done (.refused code)
  | .ok (.error error) => .done (.planned (.error error))
  | .ok (.ok builder) => builder.plan.map .planned

/-- An open that has come to its answer, with the calls that it made on the providers. -/
structure FinishedOpen (Handle : Type) where
  call : OpenCall Handle
  calls : List (ProviderCall Handle)
  answer : OpenAnswer

/-- The key that was created, when a provider has replied. -/
def createdBy (provider : Handle) (identity : DatabaseIdentity) :
    Result SecretKey → List (Handle × DatabaseIdentity)
  | .ok _ => [(provider, identity)]
  | .error _ => []

def ProviderCall.created : (made : ProviderCall Handle) → made.Reply →
    List (Handle × DatabaseIdentity)
  | .load _ _, _ => []
  | .create provider identity, reply => createdBy provider identity reply

/-- What the threads share: the providers, the keys that were created, and the opens that
are finished. -/
structure OpenShared (Handle Store : Type) where
  store : Store
  created : List (Handle × DatabaseIdentity)
  finished : List (FinishedOpen Handle)

/-- A provider is asked. -/
def OpenShared.ask (shared : OpenShared Handle Store) (store : KeyStore Handle Store)
    (made : ProviderCall Handle) : OpenShared Handle Store :=
  { shared with
    store := (store.answer made shared.store).2
    created := shared.created ++ made.created (store.answer made shared.store).1 }

inductive OpenThread (Handle : Type) where
  | outside
  | opening (call : OpenCall Handle) (calls : List (ProviderCall Handle))
      (program : Asking (@ProviderCall.Reply Handle) OpenAnswer)

/-- A thread moves.  Between the calls of one open the others go on. -/
inductive OpenMove (store : KeyStore Handle Store) : Nat → OpenShared Handle Store →
    OpenThread Handle → OpenShared Handle Store → OpenThread Handle → Prop
  | begins {place : Nat} {shared : OpenShared Handle Store} (call : OpenCall Handle) :
      OpenMove store place shared .outside shared (.opening call [] call.program)
  | asks {place : Nat} {shared : OpenShared Handle Store} {call : OpenCall Handle}
      {calls : List (ProviderCall Handle)} {made : ProviderCall Handle}
      {rest : made.Reply → Asking (@ProviderCall.Reply Handle) OpenAnswer} :
      OpenMove store place shared (.opening call calls (.ask made rest))
        (shared.ask store made)
        (.opening call (calls ++ [made]) (rest (store.answer made shared.store).1))
  | finishes {place : Nat} {shared : OpenShared Handle Store} {call : OpenCall Handle}
      {calls : List (ProviderCall Handle)} {answer : OpenAnswer} :
      OpenMove store place shared (.opening call calls (.done answer))
        { shared with finished := shared.finished ++ [⟨call, calls, answer⟩] }
        .outside

/-- What is shared when an open has gone on to its end and nothing came in between. -/
def OpenShared.finish (store : KeyStore Handle Store) (call : OpenCall Handle) :
    Asking (@ProviderCall.Reply Handle) OpenAnswer → List (ProviderCall Handle) →
      OpenShared Handle Store → OpenShared Handle Store
  | .done answer, calls, shared =>
      { shared with finished := shared.finished ++ [⟨call, calls, answer⟩] }
  | .ask made rest, calls, shared =>
      finish store call (rest (store.answer made shared.store).1) (calls ++ [made])
        (shared.ask store made)

/-- Threads before their first opens. -/
def openStart (threads : Nat) (store : Store) :
    Interleaving (OpenShared Handle Store) (OpenThread Handle) where
  shared := { store := store, created := [], finished := [] }
  threads := List.replicate threads .outside

end Csgdb
