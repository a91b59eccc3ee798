/-
Module: Csgdb.Foundation.Fallible
Purpose: Inversion of `Except` computations.  A successful `do` block is taken
  apart into its successful steps without unfolding the monad; two `do` blocks are
  compared step by step.  Computations that ask a service and go on with its replies.
Trusted boundary: none
Main exports: bind_eq_ok_iff, ite_error_eq_ok_iff, map_eq_ok_iff, mapM_eq_map, EndAlike,
  EndAlike.bind, Asking, Asking.map, Asking.answered
-/
import Mathlib.Tactic.Common

namespace Foundation

universe u v w

variable {ε : Type u} {α β : Type v}

/-- A bound computation succeeds exactly when both steps do. -/
theorem bind_eq_ok_iff {first : Except ε α} {next : α → Except ε β} {result : β} :
    (first >>= next) = .ok result ↔
      ∃ value, first = .ok value ∧ next value = .ok result := by
  cases first with
  | error failure => simp [bind, Except.bind]
  | ok value => simp [bind, Except.bind]

/-- A guarded computation succeeds exactly when the guard is false and the
guarded part succeeds. -/
theorem ite_error_eq_ok_iff {condition : Prop} [Decidable condition]
    {failure : ε} {next : Except ε α} {result : α} :
    (if condition then Except.error failure else next) = .ok result ↔
      ¬ condition ∧ next = .ok result := by
  by_cases holds : condition
  · simp [holds]
  · simp [holds]

@[simp] theorem ok_bind (value : α) (next : α → Except ε β) :
    ((Except.ok value : Except ε α) >>= next) = next value := rfl

@[simp] theorem error_bind (failure : ε) (next : α → Except ε β) :
    ((Except.error failure : Except ε α) >>= next) = .error failure := rfl

/-- A mapped computation succeeds exactly when the computation does. -/
theorem map_eq_ok_iff {result : Except ε α} {change : α → β} {value : β} :
    result.map change = .ok value ↔ ∃ inner, result = .ok inner ∧ change inner = value := by
  cases result with
  | error failure => simp [Except.map]
  | ok inner => simp [Except.map]

/-- A list on whose members a computation succeeds. -/
theorem mapM_eq_map {m : Type u → Type v} [Monad m] [LawfulMonad m] {α : Type w}
    {β : Type u} {change : α → m β} {result : α → β} {values : List α}
    (each : ∀ value ∈ values, change value = pure (result value)) :
    values.mapM change = pure (values.map result) := by
  induction values with
  | nil => rfl
  | cons value rest inductionHypothesis =>
      have others := inductionHypothesis fun other member =>
        each other (List.mem_cons_of_mem _ member)
      rw [List.mapM_cons, each value List.mem_cons_self, others]
      simp

/-! ## Two computations side by side -/

section EndAlike

variable {α β γ δ : Type v}

/-- Two computations end alike: with related values or with the same failure. -/
inductive EndAlike (related : α → β → Prop) : Except ε α → Except ε β → Prop
  | ok {left : α} {right : β} (values : related left right) :
      EndAlike related (.ok left) (.ok right)
  | error (failure : ε) : EndAlike related (.error failure) (.error failure)

/-- One computation ends like itself. -/
theorem EndAlike.refl {related : α → α → Prop} (same : ∀ value, related value value)
    (result : Except ε α) : EndAlike related result result := by
  cases result with
  | error failure => exact .error failure
  | ok value => exact .ok (same value)

theorem EndAlike.bind {related : α → β → Prop} {relatedNext : γ → δ → Prop}
    {left : Except ε α} {right : Except ε β} {leftNext : α → Except ε γ}
    {rightNext : β → Except ε δ} (first : EndAlike related left right)
    (next : ∀ leftValue rightValue, related leftValue rightValue →
      EndAlike relatedNext (leftNext leftValue) (rightNext rightValue)) :
    EndAlike relatedNext (left >>= leftNext) (right >>= rightNext) := by
  cases first with
  | ok values => exact next _ _ values
  | error failure => exact .error failure

/-- A step that both computations take. -/
theorem EndAlike.step {related : γ → δ → Prop} {first : Except ε α}
    {leftNext : α → Except ε γ} {rightNext : α → Except ε δ}
    (next : ∀ value, EndAlike related (leftNext value) (rightNext value)) :
    EndAlike related (first >>= leftNext) (first >>= rightNext) := by
  cases first with
  | error failure => exact .error failure
  | ok value => exact next value

/-- A guard passes or fails on both sides. -/
theorem EndAlike.guard {related : α → β → Prop} {condition : Prop} [Decidable condition]
    {failure : ε} {left : Except ε α} {right : Except ε β}
    (rest : EndAlike related left right) :
    EndAlike related (if condition then .error failure else left)
      (if condition then .error failure else right) := by
  by_cases holds : condition
  · rw [if_pos holds, if_pos holds]
    exact .error failure
  · rw [if_neg holds, if_neg holds]
    exact rest

/-- One of them succeeds when the other does. -/
theorem EndAlike.ok_iff {related : α → β → Prop} {left : Except ε α} {right : Except ε β}
    (alike : EndAlike related left right) :
    (∃ value, left = .ok value) ↔ ∃ value, right = .ok value := by
  cases alike with
  | ok values => exact ⟨fun _ => ⟨_, rfl⟩, fun _ => ⟨_, rfl⟩⟩
  | error failure => simp

theorem EndAlike.mono {related weaker : α → β → Prop} {left : Except ε α}
    {right : Except ε β} (alike : EndAlike related left right)
    (weaken : ∀ leftValue rightValue, left = .ok leftValue → right = .ok rightValue →
      related leftValue rightValue → weaker leftValue rightValue) :
    EndAlike weaker left right := by
  cases alike with
  | ok values => exact .ok (weaken _ _ rfl rfl values)
  | error failure => exact .error failure

end EndAlike

/-! ## Computations that ask -/

/-- A computation that asks questions, each with replies of its own type. -/
inductive Asking {Question : Type} (Reply : Question → Type) (α : Type) : Type where
  | done (result : α)
  | ask (question : Question) (rest : Reply question → Asking Reply α)

namespace Asking

variable {Question : Type} {Reply : Question → Type} {α β γ : Type}

def map (form : α → β) : Asking Reply α → Asking Reply β
  | .done result => .done (form result)
  | .ask question rest => .ask question fun reply => (rest reply).map form

theorem map_map (form : α → β) (next : β → γ) (asking : Asking Reply α) :
    (asking.map form).map next = asking.map (next ∘ form) := by
  induction asking with
  | done result => rfl
  | ask question rest inductionHypothesis =>
      exact congrArg (Asking.ask question) (funext inductionHypothesis)

/-- The result when the service always replies in the same way. -/
def answered (reply : (question : Question) → Reply question) : Asking Reply α → α
  | .done result => result
  | .ask question rest => (rest (reply question)).answered reply

@[simp] theorem answered_map (reply : (question : Question) → Reply question) (form : α → β)
    (asking : Asking Reply α) :
    (asking.map form).answered reply = form (asking.answered reply) := by
  induction asking with
  | done result => rfl
  | ask question rest inductionHypothesis => exact inductionHypothesis (reply question)

end Asking

end Foundation
