/-
Module: Csgdb.Proofs.SecureOpens
Purpose: A database is opened in plaintext when that was asked for and never otherwise, and
  all opens with a key provider get the one key that the provider keeps.
Trusted boundary: key providers keep keys as their hosts document.
Main exports: KeyFrom, SecurePlan, FinishedOpen.Secure, OpenStage, openRule, runs_sound,
  opens_are_secure
-/
import Csgdb.Database.KeyStore
import Mathlib.Data.List.Duplicate

namespace Csgdb

open Foundation Ffi

variable {Handle Store : Type}

/-! ## Flags and plans -/

/-- Only the flags for reading and writing and for encryption go in by default. -/
theorem normalizeAndValidateFlags_contains {flags accepted flag : OpenFlags} {position : Nat}
    (normalized : normalizeAndValidateFlags flags = .ok accepted) (bit : flag.IsBit position)
    (inRange : position < 32) (notAccess : OpenFlags.readwrite.contains flag = false)
    (notSecurity : OpenFlags.encrypted.contains flag = false) :
    accepted.contains flag = flags.contains flag := by
  unfold normalizeAndValidateFlags at normalized
  obtain ⟨-, normalized⟩ := ite_error_eq_ok_iff.mp normalized
  obtain ⟨-, normalized⟩ := ite_error_eq_ok_iff.mp normalized
  obtain ⟨-, normalized⟩ := ite_error_eq_ok_iff.mp normalized
  obtain ⟨-, normalized⟩ := ite_error_eq_ok_iff.mp normalized
  rw [← Except.ok.inj normalized,
    OpenFlags.contains_default OpenFlags.encrypted_isBit OpenFlags.plaintext_isBit bit
      (by decide) (by decide) inRange _ .encrypted,
    OpenFlags.contains_default OpenFlags.readonly_isBit OpenFlags.readwrite_isBit bit
      (by decide) (by decide) inRange _ .readwrite,
    notAccess, notSecurity]
  simp

/-- A request that was accepted keeps its path, and what it asked for. -/
structure Prepared (builder : DatabaseBuilder Handle) (plan : OpenPlan) : Prop where
  path : plan.path = builder.path
  identity : plan.identity.path = builder.path
  plaintext : plan.security = .plaintext ↔ builder.options.flags.contains .plaintext = true
  creates : plan.flags.contains .create = builder.options.flags.contains .create

theorem Prepared.encrypted {builder : DatabaseBuilder Handle} {plan : OpenPlan}
    (prepared : Prepared builder plan) (encrypted : plan.security = .encrypted) :
    builder.options.flags.contains .plaintext = false := by
  refine Bool.eq_false_iff.mpr fun asked => ?_
  exact SecurityMode.noConfusion (encrypted.symm.trans (prepared.plaintext.mpr asked))

theorem prepareOpen_prepared {builder : DatabaseBuilder Handle} {plan : OpenPlan}
    (accepted : prepareOpen builder.path builder.options.unkeyed = .ok plan) :
    Prepared builder plan := by
  unfold prepareOpen at accepted
  cases named : DatabaseIdentity.fromPath builder.path with
  | error error =>
      rw [named] at accepted
      cases accepted
  | ok identity =>
      rw [named] at accepted
      dsimp only at accepted
      split at accepted
      case h_1 => cases accepted
      case h_2 flags normalized =>
        split at accepted
        case h_1 => cases accepted
        case h_2 =>
          obtain rfl := Except.ok.inj accepted
          have samePlaintext : flags.contains .plaintext =
              builder.options.flags.contains .plaintext :=
            normalizeAndValidateFlags_contains normalized OpenFlags.plaintext_isBit
              (by decide) (by decide) (by decide)
          refine ⟨rfl, ?_, ?_, normalizeAndValidateFlags_contains normalized
            OpenFlags.create_isBit (by decide) (by decide) (by decide)⟩
          · unfold DatabaseIdentity.fromPath at named
            split at named
            · cases named
            · obtain rfl := Except.ok.inj named
              rfl
          · dsimp only
            rw [← samePlaintext]
            split
            case isTrue contained => exact ⟨fun _ => contained, fun _ => rfl⟩
            case isFalse missing =>
              exact ⟨fun same => SecurityMode.noConfusion same,
                fun contained => absurd contained missing⟩

/-! ## What a secure open is -/

section Secure

variable (kept : Handle → DatabaseIdentity → SecretKey → Prop)

/-- How the key of a plan was come by, with the calls that were made for it. -/
inductive KeyFrom (builder : DatabaseBuilder Handle) :
    List (ProviderCall Handle) → Option ResolvedKey → Prop
  | plaintext (asked : builder.options.flags.contains .plaintext = true) :
      KeyFrom builder [] none
  | raw {key : SecretKey} (given : builder.options.key = .raw key) :
      KeyFrom builder [] (some (.raw key))
  | passphrase {bytes : List UInt8} (given : builder.options.key = .passphrase bytes)
      (nonempty : bytes ≠ []) : KeyFrom builder [] (some (.passphrase bytes))
  | loaded {provider : Handle} {identity : DatabaseIdentity} {key : SecretKey}
      (found : kept provider identity key) :
      KeyFrom builder [.load provider identity] (some (.raw key))
  | created {provider : Handle} {identity : DatabaseIdentity} {key : SecretKey}
      (made : kept provider identity key) :
      KeyFrom builder [.load provider identity, .create provider identity] (some (.raw key))

/-- The plan is for plaintext exactly if that was asked for, and its key is the one that was
given or the one that the provider keeps. -/
structure SecurePlan (builder : DatabaseBuilder Handle) (calls : List (ProviderCall Handle))
    (plan : ResolvedOpenPlan) : Prop where
  path : plan.path = builder.path
  plaintext : plan.security = .plaintext ↔ builder.options.flags.contains .plaintext = true
  key : KeyFrom kept builder calls plan.key

/-- The calls of an open: none, or those of an encrypted open on its own provider, about its
own database, of which the second needs `CREATE`. -/
inductive OpenCall.Asks (call : OpenCall Handle) : List (ProviderCall Handle) → Prop
  | nothing : Asks call []
  | load {builder : DatabaseBuilder Handle} {provider : Handle} {identity : DatabaseIdentity}
      (requested : call.request = .ok (.ok builder)) (source : builder.provider = some provider)
      (named : identity.path = builder.path)
      (encrypted : builder.options.flags.contains .plaintext = false) :
      Asks call [.load provider identity]
  | create {builder : DatabaseBuilder Handle} {provider : Handle}
      {identity : DatabaseIdentity} (requested : call.request = .ok (.ok builder))
      (source : builder.provider = some provider) (named : identity.path = builder.path)
      (encrypted : builder.options.flags.contains .plaintext = false)
      (creates : builder.options.flags.contains .create = true) :
      Asks call [.load provider identity, .create provider identity]

structure FinishedOpen.Secure (finished : FinishedOpen Handle) : Prop where
  asked : finished.call.Asks finished.calls
  planned : ∀ plan, finished.answer = .planned (.ok plan) →
    ∃ builder, finished.call.request = .ok (.ok builder) ∧
      SecurePlan kept builder finished.calls plan

variable {kept} {later : Handle → DatabaseIdentity → SecretKey → Prop}

theorem KeyFrom.mono
    (still : ∀ provider identity key, kept provider identity key → later provider identity key)
    {builder : DatabaseBuilder Handle} {calls : List (ProviderCall Handle)}
    {key : Option ResolvedKey} (origin : KeyFrom kept builder calls key) :
    KeyFrom later builder calls key := by
  cases origin with
  | plaintext asked => exact .plaintext asked
  | raw given => exact .raw given
  | passphrase given nonempty => exact .passphrase given nonempty
  | loaded found => exact .loaded (still _ _ _ found)
  | created made => exact .created (still _ _ _ made)

theorem FinishedOpen.Secure.mono
    (still : ∀ provider identity key, kept provider identity key → later provider identity key)
    {finished : FinishedOpen Handle} (secure : FinishedOpen.Secure kept finished) :
    FinishedOpen.Secure later finished := by
  refine ⟨secure.asked, fun plan planned => ?_⟩
  obtain ⟨builder, requested, securePlan⟩ := secure.planned plan planned
  exact ⟨builder, requested, securePlan.path, securePlan.plaintext, securePlan.key.mono still⟩

theorem secure_of_failed {call : OpenCall Handle} {calls : List (ProviderCall Handle)}
    {answer : OpenAnswer} (asked : call.Asks calls)
    (failed : ∀ plan, answer ≠ .planned (.ok plan)) :
    FinishedOpen.Secure kept ⟨call, calls, answer⟩ :=
  ⟨asked, fun plan planned => absurd planned (failed plan)⟩

theorem refused_ne_planned (code : Code) (plan : ResolvedOpenPlan) :
    OpenAnswer.refused code ≠ .planned (.ok plan) := by
  intro same
  cases same

theorem error_ne_planned (error : Error) (plan : ResolvedOpenPlan) :
    OpenAnswer.planned (.error error) ≠ .planned (.ok plan) := by
  intro same
  cases same

theorem secure_of_resolved {call : OpenCall Handle} {builder : DatabaseBuilder Handle}
    (requested : call.request = .ok (.ok builder)) {plan : OpenPlan}
    (prepared : Prepared builder plan) {calls : List (ProviderCall Handle)}
    (asked : call.Asks calls) {key : Option ResolvedKey}
    (keyed : plan.security = .encrypted ↔ key.isSome = true)
    (origin : KeyFrom kept builder calls key) :
    FinishedOpen.Secure kept ⟨call, calls, .planned (.ok (plan.resolved key keyed))⟩ := by
  refine ⟨asked, fun resolved planned => ?_⟩
  obtain rfl := Except.ok.inj (OpenAnswer.planned.inj planned)
  exact ⟨builder, requested, prepared.path, prepared.plaintext, origin⟩

end Secure

/-! ## The first step of an open -/

/-- How an open goes on with the key that it loaded or that was created. -/
def OpenPlan.finish (plan : OpenPlan) (encrypted : plan.security = .encrypted) :
    Result SecretKey → OpenAnswer := fun key =>
  .planned (key.map fun key =>
    plan.resolved (some (.raw key)) (OpenPlan.keyed_of_encrypted encrypted (.raw key)))

/-- An open is settled without a provider, or loads its key. -/
inductive FirstStep (call : OpenCall Handle) :
    Asking (@ProviderCall.Reply Handle) OpenAnswer → Prop
  | settled {answer : OpenAnswer}
      (secure : ∀ kept, FinishedOpen.Secure kept ⟨call, [], answer⟩) :
      FirstStep call (.done answer)
  | loads {builder : DatabaseBuilder Handle} {provider : Handle} {plan : OpenPlan}
      (requested : call.request = .ok (.ok builder)) (source : builder.provider = some provider)
      (prepared : Prepared builder plan) (encrypted : plan.security = .encrypted)
      {rest : (ProviderCall.load provider plan.identity).Reply →
        Asking (@ProviderCall.Reply Handle) OpenAnswer}
      (goesOn : ∀ loaded, rest loaded =
        (ProviderCall.afterLoad provider plan.identity plan.flags loaded).map
          (plan.finish encrypted)) :
      FirstStep call (.ask (.load provider plan.identity) rest)

theorem loadOrCreateKey_firstStep {call : OpenCall Handle} {builder : DatabaseBuilder Handle}
    {provider : Handle} {plan : OpenPlan} (requested : call.request = .ok (.ok builder))
    (source : builder.provider = some provider) (prepared : Prepared builder plan)
    (encrypted : plan.security = .encrypted) :
    FirstStep call
      ((((ProviderCall.loadOrCreateKey provider plan.identity plan.flags).map
        (Except.map .raw)).map (Except.map fun key =>
          plan.resolved (some key) (OpenPlan.keyed_of_encrypted encrypted key))).map .planned) := by
  refine .loads requested source prepared encrypted fun loaded => ?_
  change Asking.map _ (Asking.map _ (Asking.map _ _)) = _
  rw [Asking.map_map, Asking.map_map]
  refine congrArg (Asking.map · _) (funext fun key => ?_)
  cases key with
  | error error => rfl
  | ok key => rfl

theorem program_firstStep (call : OpenCall Handle) : FirstStep call call.program := by
  unfold OpenCall.program
  rcases requested : call.request with code | (error | builder)
  · exact .settled fun kept => secure_of_failed .nothing (refused_ne_planned _)
  · exact .settled fun kept => secure_of_failed .nothing (error_ne_planned _)
  · change FirstStep call (Asking.map _ builder.plan)
    unfold DatabaseBuilder.plan
    cases accepted : prepareOpen builder.path builder.options.unkeyed with
    | error error => exact .settled fun kept => secure_of_failed .nothing (error_ne_planned _)
    | ok plan =>
        have prepared := prepareOpen_prepared accepted
        change FirstStep call (Asking.map _ (plan.resolveSharedKey _ _))
        unfold OpenPlan.resolveSharedKey
        split
        case isTrue plaintext =>
          exact .settled fun kept => secure_of_resolved requested prepared .nothing _
            (.plaintext (prepared.plaintext.mp plaintext))
        case isFalse other =>
          have encrypted := OpenPlan.encrypted_of_ne other
          cases key : builder.options.key with
          | raw raw =>
              exact .settled fun kept => secure_of_resolved requested prepared .nothing
                (OpenPlan.keyed_of_encrypted encrypted _) (.raw key)
          | passphrase bytes =>
              by_cases empty : bytes = []
              · simp only [ProviderCall.resolveEncryptedKey, if_pos empty]
                exact .settled fun kept => secure_of_failed .nothing (error_ne_planned _)
              · simp only [ProviderCall.resolveEncryptedKey, if_neg empty]
                exact .settled fun kept => secure_of_resolved requested prepared .nothing
                  (OpenPlan.keyed_of_encrypted encrypted _) (.passphrase key empty)
          | provider provider =>
              have source : builder.provider = some provider := by
                unfold DatabaseBuilder.provider
                rw [key]
              exact loadOrCreateKey_firstStep requested source prepared encrypted
          | auto =>
              cases auto : builder.options.autoKeyProvider with
              | none => exact .settled fun kept => secure_of_failed .nothing (error_ne_planned _)
              | some provider =>
                  have source : builder.provider = some provider := by
                    unfold DatabaseBuilder.provider
                    rw [key, auto]
                  exact loadOrCreateKey_firstStep requested source prepared encrypted

/-! ## What the threads know -/

section Threads

variable (keys : Store → Handle → DatabaseIdentity → Option SecretKey) (initial : Store)

/-- The provider keeps a key, at least if it did not make two of them for the database. -/
def OpenShared.Kept (shared : OpenShared Handle Store) (provider : Handle)
    (identity : DatabaseIdentity) (key : SecretKey) : Prop :=
  ¬ List.Duplicate (provider, identity) shared.created →
    keys shared.store provider identity = some key

/-- The keys that changed are those that were created, and there were none before. -/
structure OpenShared.Traced (shared : OpenShared Handle Store) : Prop where
  unchanged : ∀ provider identity, (provider, identity) ∉ shared.created →
    keys shared.store provider identity = keys initial provider identity
  absent : ∀ provider identity, (provider, identity) ∈ shared.created →
    keys initial provider identity = none
  present : ∀ provider identity, (provider, identity) ∈ shared.created →
    keys shared.store provider identity ≠ none

/-- Where an open is: a key is asked for only where there was none at first. -/
inductive OpenStage (shared : OpenShared Handle Store) (call : OpenCall Handle) :
    List (ProviderCall Handle) → Asking (@ProviderCall.Reply Handle) OpenAnswer → Prop
  | begun : OpenStage shared call [] call.program
  | creating {builder : DatabaseBuilder Handle} {provider : Handle} {plan : OpenPlan}
      (requested : call.request = .ok (.ok builder)) (source : builder.provider = some provider)
      (prepared : Prepared builder plan) (encrypted : plan.security = .encrypted)
      (creates : plan.flags.contains .create = true)
      (absent : keys initial provider plan.identity = none)
      {rest : (ProviderCall.create provider plan.identity).Reply →
        Asking (@ProviderCall.Reply Handle) OpenAnswer}
      (goesOn : ∀ created, rest created = .done (plan.finish encrypted created)) :
      OpenStage shared call [.load provider plan.identity]
        (.ask (.create provider plan.identity) rest)
  | finishing {calls : List (ProviderCall Handle)} {answer : OpenAnswer}
      (secure : FinishedOpen.Secure (shared.Kept keys) ⟨call, calls, answer⟩) :
      OpenStage shared call calls (.done answer)

def OpenThread.Meets (shared : OpenShared Handle Store) : OpenThread Handle → Prop
  | .outside => True
  | .opening call calls program => OpenStage keys initial shared call calls program

/-- What a call may be when a provider is asked: a key is created only where there was none
at first. -/
def ProviderCall.Allowed : ProviderCall Handle → Prop
  | .load _ _ => True
  | .create provider identity => keys initial provider identity = none

variable {keys initial} {store : KeyStore Handle Store} {shared : OpenShared Handle Store}

theorem OpenStage.mono {later : OpenShared Handle Store}
    (still : ∀ provider identity key,
      shared.Kept keys provider identity key → later.Kept keys provider identity key)
    {call : OpenCall Handle} {calls : List (ProviderCall Handle)}
    {program : Asking (@ProviderCall.Reply Handle) OpenAnswer}
    (stage : OpenStage keys initial shared call calls program) :
    OpenStage keys initial later call calls program := by
  cases stage with
  | begun => exact .begun
  | creating requested source prepared encrypted creates absent goesOn =>
      exact .creating requested source prepared encrypted creates absent goesOn
  | finishing secure => exact .finishing (secure.mono still)

/-! ## Calls of the providers -/

theorem mem_createdBy {provider : Handle} {identity : DatabaseIdentity}
    {reply : Result SecretKey} {made : Handle × DatabaseIdentity} :
    made ∈ createdBy provider identity reply ↔
      (∃ key, reply = .ok key) ∧ made = (provider, identity) := by
  cases reply with
  | error error => simp [createdBy]
  | ok key => simp [createdBy]

/-- A call leaves the keys alone that it does not create. -/
theorem KeyStore.Keeps.unchanged (keeps : store.Keeps keys) (made : ProviderCall Handle)
    (state : Store) {provider : Handle} {identity : DatabaseIdentity}
    (other : (provider, identity) ∉ made.created (store.answer made state).1) :
    keys (store.answer made state).2 provider identity = keys state provider identity := by
  cases made with
  | load asked name => rw [keeps.loading]
  | create asked name =>
      by_cases same : (provider, identity) = (asked, name)
      · cases replied : (store.answer (.create asked name) state).1 with
        | error error => rw [keeps.failing replied]
        | ok key => exact absurd (mem_createdBy.mpr ⟨⟨key, replied⟩, same⟩) other
      · exact keeps.others asked name state same

theorem OpenShared.Traced.ask (keeps : store.Keeps keys)
    (traced : shared.Traced keys initial) {made : ProviderCall Handle}
    (allowed : made.Allowed keys initial) :
    (shared.ask store made).Traced keys initial := by
  constructor
  · intro provider identity missing
    obtain ⟨before, other⟩ := not_or.mp (mt List.mem_append.mpr missing)
    exact (keeps.unchanged made shared.store other).trans (traced.unchanged _ _ before)
  · intro provider identity created
    rcases List.mem_append.mp created with before | now
    · exact traced.absent _ _ before
    · cases made with
      | load asked name => cases now
      | create asked name =>
          obtain ⟨-, same⟩ := mem_createdBy.mp now
          cases same
          exact allowed
  · intro provider identity created
    by_cases now : (provider, identity) ∈ made.created (store.answer made shared.store).1
    · cases made with
      | load asked name => cases now
      | create asked name =>
          obtain ⟨⟨key, replied⟩, same⟩ := mem_createdBy.mp now
          cases same
          exact fun missing =>
            Option.some_ne_none key ((keeps.creates replied).symm.trans missing)
    · rw [show keys (shared.ask store made).store provider identity = _ from
        keeps.unchanged made shared.store now]
      exact traced.present _ _ ((List.mem_append.mp created).resolve_right now)

/-- A call keeps what was kept: where it creates a key, there was none, or it is the second
one. -/
theorem OpenShared.Traced.kept (keeps : store.Keeps keys)
    (traced : shared.Traced keys initial) {made : ProviderCall Handle}
    (allowed : made.Allowed keys initial) (provider : Handle) (identity : DatabaseIdentity)
    (key : SecretKey) (kept : shared.Kept keys provider identity key) :
    (shared.ask store made).Kept keys provider identity key := by
  intro single
  have before := kept fun twice =>
    single (twice.mono_sublist (List.sublist_append_left _ _))
  refine (keeps.unchanged made shared.store fun now => ?_).trans before
  cases made with
  | load asked name => cases now
  | create asked name =>
      obtain ⟨⟨created, replied⟩, same⟩ := mem_createdBy.mp now
      cases same
      by_cases earlier : (provider, identity) ∈ shared.created
      · refine single (List.duplicate_iff_sublist.mpr ?_)
        exact (List.singleton_sublist.mpr earlier).append (List.singleton_sublist.mpr now)
      · have missing := (traced.unchanged _ _ earlier).trans allowed
        exact Option.some_ne_none key (before.symm.trans missing)

/-- A key that was loaded is kept, and where none was found there was none at first. -/
theorem OpenStage.afterLoad (keeps : store.Keeps keys) (traced : shared.Traced keys initial)
    {call : OpenCall Handle} {builder : DatabaseBuilder Handle} {provider : Handle}
    {plan : OpenPlan} (requested : call.request = .ok (.ok builder))
    (source : builder.provider = some provider) (prepared : Prepared builder plan)
    (encrypted : plan.security = .encrypted) :
    OpenStage keys initial (shared.ask store (.load provider plan.identity)) call
      [.load provider plan.identity]
      ((ProviderCall.afterLoad provider plan.identity plan.flags
        (store.answer (.load provider plan.identity) shared.store).1).map
          (plan.finish encrypted)) := by
  have asked : call.Asks [.load provider plan.identity] :=
    .load requested source prepared.identity (prepared.encrypted encrypted)
  rcases replied : (store.answer (.load provider plan.identity) shared.store).1
    with error | (_ | key)
  · exact .finishing (secure_of_failed asked (error_ne_planned _))
  · have found := keeps.loads replied
    by_cases creates : plan.flags.contains .create = true
    · simp only [ProviderCall.afterLoad, if_pos creates]
      refine .creating requested source prepared encrypted creates ?_ fun created => rfl
      by_cases created : (provider, plan.identity) ∈ shared.created
      · exact absurd found.symm (traced.present _ _ created)
      · exact (traced.unchanged _ _ created).symm.trans found.symm
    · simp only [ProviderCall.afterLoad, if_neg creates]
      exact .finishing (secure_of_failed asked (error_ne_planned _))
  · refine .finishing (secure_of_resolved requested prepared asked _ (.loaded fun _ => ?_))
    exact (congrFun (congrFun (keeps.loading _ _ _) _) _).trans (keeps.loads replied).symm

/-- A key that was created is kept. -/
theorem OpenStage.afterCreate (keeps : store.Keeps keys) {call : OpenCall Handle}
    {builder : DatabaseBuilder Handle} {provider : Handle} {plan : OpenPlan}
    (requested : call.request = .ok (.ok builder))
    (source : builder.provider = some provider) (prepared : Prepared builder plan)
    (encrypted : plan.security = .encrypted) (creates : plan.flags.contains .create = true) :
    OpenStage keys initial (shared.ask store (.create provider plan.identity)) call
      [.load provider plan.identity, .create provider plan.identity]
      (.done (plan.finish encrypted
        (store.answer (.create provider plan.identity) shared.store).1)) := by
  have asked : call.Asks [.load provider plan.identity, .create provider plan.identity] :=
    .create requested source prepared.identity (prepared.encrypted encrypted)
      (prepared.creates.symm.trans creates)
  cases replied : (store.answer (.create provider plan.identity) shared.store).1 with
  | error error => exact .finishing (secure_of_failed asked (error_ne_planned _))
  | ok key =>
      refine .finishing (secure_of_resolved requested prepared asked _ (.created fun _ => ?_))
      exact keeps.creates replied

/-- An open that asks a provider may do so, and knows what it is told. -/
theorem OpenStage.ask (keeps : store.Keeps keys) (traced : shared.Traced keys initial)
    {call : OpenCall Handle} {calls : List (ProviderCall Handle)}
    {made : ProviderCall Handle}
    {rest : made.Reply → Asking (@ProviderCall.Reply Handle) OpenAnswer}
    (stage : OpenStage keys initial shared call calls (.ask made rest)) :
    made.Allowed keys initial ∧
      OpenStage keys initial (shared.ask store made) call (calls ++ [made])
        (rest (store.answer made shared.store).1) := by
  generalize asking : Asking.ask made rest = program at stage
  cases stage with
  | begun =>
      have first := program_firstStep call
      rw [← asking] at first
      cases first with
      | loads requested source prepared encrypted goesOn =>
          refine ⟨trivial, ?_⟩
          rw [goesOn]
          exact .afterLoad keeps traced requested source prepared encrypted
  | creating requested source prepared encrypted creates absent goesOn =>
      cases asking
      refine ⟨absent, ?_⟩
      rw [goesOn]
      exact .afterCreate keeps requested source prepared encrypted creates
  | finishing secure => cases asking

theorem OpenStage.secure {call : OpenCall Handle} {calls : List (ProviderCall Handle)}
    {answer : OpenAnswer} (stage : OpenStage keys initial shared call calls (.done answer)) :
    FinishedOpen.Secure (shared.Kept keys) ⟨call, calls, answer⟩ := by
  generalize ended : Asking.done answer = program at stage
  cases stage with
  | begun =>
      have first := program_firstStep call
      rw [← ended] at first
      cases first with
      | settled secure => exact secure _
  | creating => cases ended
  | finishing secure =>
      cases ended
      exact secure

/-! ## Runs -/

/-- What a thread knows, and leaves as it is for the others. -/
theorem openRule (keeps : store.Keeps keys) :
    RelyGuarantee (OpenMove store)
      (fun _ shared thread => shared.Traced keys initial ∧ thread.Meets keys initial shared)
      (fun _ shared later => later.Traced keys initial ∧
        ∀ provider identity key,
          shared.Kept keys provider identity key → later.Kept keys provider identity key) where
  own moved met := by
    cases moved with
    | begins call => exact ⟨met.1, .begun⟩
    | asks =>
        obtain ⟨allowed, stage⟩ := OpenStage.ask keeps met.1 met.2
        exact ⟨met.1.ask keeps allowed, stage⟩
    | finishes => exact ⟨⟨met.1.unchanged, met.1.absent, met.1.present⟩, trivial⟩
  guaranteed moved met := by
    cases moved with
    | begins call => exact ⟨met.1, fun _ _ _ kept => kept⟩
    | asks =>
        obtain ⟨allowed, -⟩ := OpenStage.ask keeps met.1 met.2
        exact ⟨met.1.ask keeps allowed, met.1.kept keeps allowed⟩
    | finishes =>
        exact ⟨⟨met.1.unchanged, met.1.absent, met.1.present⟩, fun _ _ _ kept => kept⟩
  stable {_ _ _ _ thread} _ guaranteed met := by
    refine ⟨guaranteed.1, ?_⟩
    cases thread with
    | outside => trivial
    | opening call calls program => exact OpenStage.mono guaranteed.2 met.2

theorem traced_start :
    (⟨initial, [], []⟩ : OpenShared Handle Store).Traced keys initial where
  unchanged _ _ _ := rfl
  absent _ _ created := absurd created List.not_mem_nil
  present _ _ created := absurd created List.not_mem_nil

theorem openStart_meets (threads : Nat) :
    Asserted (fun _ (shared : OpenShared Handle Store) thread =>
      shared.Traced keys initial ∧ thread.Meets keys initial shared)
      (openStart threads initial) := by
  intro place thread present
  obtain rfl := List.eq_of_mem_replicate (List.mem_of_getElem? present)
  exact ⟨traced_start, trivial⟩

/-- The finished opens are secure, by what the providers keep now. -/
structure OpenShared.Sound (keys : Store → Handle → DatabaseIdentity → Option SecretKey)
    (initial : Store) (shared : OpenShared Handle Store) : Prop where
  traced : shared.Traced keys initial
  secure : ∀ finished ∈ shared.finished, FinishedOpen.Secure (shared.Kept keys) finished

theorem runs_sound (keeps : store.Keeps keys) {threads : Nat}
    {state : Interleaving (OpenShared Handle Store) (OpenThread Handle)}
    (run : Runs (OpenMove store) (openStart threads initial) state) :
    state.shared.Sound keys initial := by
  refine (openRule keeps).runs_keep (OpenShared.Sound keys initial)
    (fun moved met sound => ?_) (openStart_meets threads)
    ⟨traced_start, List.forall_mem_nil _⟩ run
  have guaranteed := (openRule keeps).guaranteed moved met
  refine ⟨guaranteed.1, ?_⟩
  cases moved with
  | begins call => exact sound.secure
  | asks => exact fun finished among => (sound.secure finished among).mono guaranteed.2
  | finishes =>
      intro finished among
      rcases List.mem_append.mp among with before | now
      · exact sound.secure finished before
      · obtain rfl := List.mem_singleton.mp now
        exact (OpenStage.secure met.2 :)

/-! ## What opens are promised -/

theorem openFrom_ok {path : CString} {hasOutput : Bool}
    {operation : String → Result (DatabaseBuilder Handle)}
    {result : Result (DatabaseBuilder Handle)}
    (opened : openFrom path hasOutput operation = .ok result) :
    ∃ path, operation path = result := by
  unfold openFrom at opened
  obtain ⟨-, opened⟩ := ite_error_eq_ok_iff.mp opened
  obtain ⟨path, -, opened⟩ := map_eq_ok_iff.mp opened
  exact ⟨path, opened⟩

theorem sharedKeySource_ne_provider {source : KeySource} {handle : Handle} :
    sharedKeySource source ≠ some (.provider handle) := by
  cases source with
  | auto | raw | passphrase | provider =>
      intro same
      cases same

/-- Opens through the C interface have no provider. -/
theorem csgdbOpen_provider {call : CsgdbOpen} {builder : DatabaseBuilder Handle}
    (requested : call.request = .ok (.ok builder)) : builder.provider = none := by
  cases call with
  | csgdbOpen path hasOutput =>
      obtain ⟨path, opened⟩ := openFrom_ok requested
      obtain rfl := Except.ok.inj opened
      rfl
  | csgdbOpenV2 path hasOutput flags vfs =>
      obtain ⟨-, requested⟩ := ite_error_eq_ok_iff.mp requested
      obtain ⟨vfs, -, requested⟩ := bind_eq_ok_iff.mp requested
      obtain ⟨path, opened⟩ := openFrom_ok requested
      unfold openV2Builder at opened
      split at opened
      case h_1 => cases opened
      case h_2 flags known =>
        cases vfs with
        | none =>
            obtain rfl := Except.ok.inj opened
            rfl
        | some vfs =>
            obtain rfl := Except.ok.inj opened
            rfl
  | csgdbOpenWithKey path key hasOutput =>
      obtain ⟨-, requested⟩ := ite_error_eq_ok_iff.mp requested
      cases key with
      | none => cases requested
      | some bytes =>
          obtain ⟨key, -, requested⟩ := bind_eq_ok_iff.mp requested
          obtain ⟨path, opened⟩ := openFrom_ok requested
          obtain rfl := Except.ok.inj opened
          rfl
  | csgdbOpenV3 path hasOutput options =>
      obtain ⟨⟨path, options⟩, -, requested⟩ := bind_eq_ok_iff.mp requested
      cases shared : (sharedKeySource options.key : Option (SharedKeySource Handle)) with
      | none =>
          simp only [shared] at requested
          cases requested
      | some key =>
          simp only [shared] at requested
          obtain rfl := Except.ok.inj (Except.ok.inj requested)
          cases key with
          | provider handle => exact absurd shared sharedKeySource_ne_provider
          | auto | raw | passphrase => rfl

theorem KeyFrom.of_load {kept : Handle → DatabaseIdentity → SecretKey → Prop}
    {builder : DatabaseBuilder Handle} {calls : List (ProviderCall Handle)}
    {key : Option ResolvedKey} (origin : KeyFrom kept builder calls key) {provider : Handle}
    {identity : DatabaseIdentity} (asked : .load provider identity ∈ calls) :
    ∃ raw, key = some (.raw raw) ∧ kept provider identity raw := by
  cases origin with
  | plaintext | raw | passphrase => cases asked
  | loaded found =>
      cases List.mem_singleton.mp asked
      exact ⟨_, rfl, found⟩
  | created made =>
      rcases List.mem_cons.mp asked with same | other
      · cases same
        exact ⟨_, rfl, made⟩
      · cases List.mem_singleton.mp other

theorem FinishedOpen.Secure.calls_of_c {finished : FinishedOpen Handle}
    {kept : Handle → DatabaseIdentity → SecretKey → Prop}
    (secure : FinishedOpen.Secure kept finished) {call : CsgdbOpen}
    (opened : finished.call = .c call) : finished.calls = [] := by
  have noProvider {builder : DatabaseBuilder Handle} {provider : Handle}
      (requested : finished.call.request = .ok (.ok builder))
      (source : builder.provider = some provider) : False := by
    rw [opened] at requested
    exact Option.some_ne_none provider (source.symm.trans (csgdbOpen_provider requested))
  obtain ⟨asked, -⟩ := secure
  generalize finished.calls = calls at asked
  cases asked with
  | nothing => rfl
  | load requested source => exact (noProvider requested source).elim
  | create requested source => exact (noProvider requested source).elim

/-- Whatever opens run at the same time: each of them is in plaintext exactly if that was
asked for and has the key that it was given or that its provider keeps; a key that was kept
at first is not created again and not lost; two opens with one provider get the same key for
a database, unless the provider created two keys for it; and the C interface never asks a
provider. -/
theorem opens_are_secure (keeps : store.Keeps keys) {threads : Nat}
    {state : Interleaving (OpenShared Handle Store) (OpenThread Handle)}
    (run : Runs (OpenMove store) (openStart threads initial) state) :
    (∀ finished ∈ state.shared.finished,
      FinishedOpen.Secure (state.shared.Kept keys) finished) ∧
    (∀ provider identity key, keys initial provider identity = some key →
      keys state.shared.store provider identity = some key ∧
        (provider, identity) ∉ state.shared.created) ∧
    (∀ first ∈ state.shared.finished, ∀ second ∈ state.shared.finished,
      ∀ provider identity firstPlan secondPlan,
        ProviderCall.load provider identity ∈ first.calls →
        ProviderCall.load provider identity ∈ second.calls →
        first.answer = .planned (.ok firstPlan) → second.answer = .planned (.ok secondPlan) →
        ¬ List.Duplicate (provider, identity) state.shared.created →
          firstPlan.key = secondPlan.key) ∧
    (∀ finished ∈ state.shared.finished, ∀ call, finished.call = .c call →
      finished.calls = []) := by
  have sound := runs_sound keeps run
  refine ⟨sound.secure, fun provider identity key kept => ?_, ?_,
    fun finished among call opened => (sound.secure finished among).calls_of_c opened⟩
  · have uncreated : (provider, identity) ∉ state.shared.created := fun created =>
      Option.some_ne_none key (kept.symm.trans (sound.traced.absent _ _ created))
    exact ⟨(sound.traced.unchanged _ _ uncreated).trans kept, uncreated⟩
  · intro first amongFirst second amongSecond provider identity firstPlan secondPlan
      firstLoads secondLoads firstAnswer secondAnswer single
    obtain ⟨_, -, firstSecure⟩ := (sound.secure first amongFirst).planned _ firstAnswer
    obtain ⟨_, -, secondSecure⟩ := (sound.secure second amongSecond).planned _ secondAnswer
    obtain ⟨firstKey, firstHas, firstKept⟩ := firstSecure.key.of_load firstLoads
    obtain ⟨secondKey, secondHas, secondKept⟩ := secondSecure.key.of_load secondLoads
    have same := Option.some.inj ((firstKept single).symm.trans (secondKept single))
    rw [firstHas, secondHas, same]

end Threads

/-! ## A provider that numbers its keys -/

/-- An open that has begun comes to its end when the others wait. -/
theorem runs_finish (store : KeyStore Handle Store) (call : OpenCall Handle)
    {program : Asking (@ProviderCall.Reply Handle) OpenAnswer} :
    ∀ {calls : List (ProviderCall Handle)} {shared : OpenShared Handle Store}
      {threads : List (OpenThread Handle)} {place : Nat},
      threads[place]? = some (.opening call calls program) →
        Runs (OpenMove store) ⟨shared, threads⟩
          ⟨shared.finish store call program calls, threads.set place .outside⟩ := by
  induction program with
  | done answer => exact fun present => .single (.of present .finishes)
  | ask made rest inductionHypothesis =>
      intro calls shared threads place present
      have inRange := (List.getElem?_eq_some_iff.mp present).1
      have next : (threads.set place (.opening call (calls ++ [made])
          (rest (store.answer made shared.store).1)))[place]? = some _ :=
        List.getElem?_set_self inRange
      have later : Runs (OpenMove store) ⟨shared.ask store made, _⟩ _ :=
        inductionHypothesis _ next
      rw [List.set_set] at later
      exact .head (.of present .asks) later

/-- A thread that opens a database alone. -/
theorem runs_open (store : KeyStore Handle Store) (call : OpenCall Handle)
    {shared : OpenShared Handle Store} {threads : List (OpenThread Handle)} (place : Nat)
    (outside : threads[place]? = some .outside) :
    Runs (OpenMove store) ⟨shared, threads⟩
      ⟨shared.finish store call call.program [], threads⟩ := by
  obtain ⟨inRange, isOutside⟩ := List.getElem?_eq_some_iff.mp outside
  have begun : (threads.set place (.opening call [] call.program))[place]? =
      some (.opening call [] call.program) := List.getElem?_set_self inRange
  have later : Runs (OpenMove store) ⟨shared, _⟩ _ := runs_finish store call begun
  rw [List.set_set, ← isOutside, List.set_getElem_self] at later
  exact .head (.of outside (.begins call)) later

/-- Keys by path, and how many were made. -/
structure NumberedKeys where
  keys : String → Option SecretKey
  made : Nat

def numberedKey (number : Nat) : SecretKey :=
  ⟨List.replicate rawKeyLength (UInt8.ofNat number), List.length_replicate⟩

def numberedProvider : KeyStore Unit NumberedKeys where
  answer
    | .load _ identity, state => (.ok (state.keys identity.path), state)
    | .create _ identity, state =>
        (.ok (numberedKey state.made),
          { keys := fun path =>
              if path = identity.path then some (numberedKey state.made) else state.keys path
            made := state.made + 1 })

theorem numberedProvider_keeps :
    numberedProvider.Keeps fun state _ identity => state.keys identity.path where
  loads found := (Except.ok.inj found).symm
  loading _ _ _ := rfl
  creates made := (if_pos rfl).trans (congrArg some (Except.ok.inj made))
  failing failed := by cases failed
  others provider identity state otherProvider otherIdentity other := by
    refine if_neg fun same => other ?_
    obtain ⟨path, nonempty⟩ := identity
    obtain ⟨otherPath, otherNonempty⟩ := otherIdentity
    cases same
    rfl

def vaultOpen : OpenCall Unit := .rust ((DatabaseBuilder.new "vault").keyProvider ())

/-- A thread opens the database, and then another one does. -/
def vaultOpened : OpenShared Unit NumberedKeys :=
  ((openStart 2 ⟨fun _ => none, 0⟩).shared.finish numberedProvider vaultOpen
    vaultOpen.program []).finish numberedProvider vaultOpen vaultOpen.program []

/-- The first open creates the key, the second one finds it. -/
theorem opens_are_secure_vault :
    vaultOpened.finished.map (fun finished => finished.calls.length) = [2, 1] ∧
    (∀ finished ∈ vaultOpened.finished,
      FinishedOpen.Secure
        (vaultOpened.Kept fun state _ identity => state.keys identity.path) finished) ∧
    ∀ finished ∈ vaultOpened.finished, ∀ call, finished.call = .c call →
      finished.calls = [] := by
  have opened : Runs (OpenMove numberedProvider) (openStart 2 ⟨fun _ => none, 0⟩)
      ⟨vaultOpened, [.outside, .outside]⟩ :=
    (runs_open numberedProvider vaultOpen 0 rfl).trans
      (runs_open numberedProvider vaultOpen 1 rfl)
  have secure := opens_are_secure numberedProvider_keeps opened
  exact ⟨by decide, secure.1, secure.2.2.2⟩

end Csgdb
