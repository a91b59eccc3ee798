/-
Module: Csgdb.Foundation.Transducer
Purpose: Finite transducers that read a text symbol by symbol and emit tokens.
  A symbol that brings the machine back to its initial state cuts a text into
  two parts that can be translated on their own.
Trusted boundary: none
Main exports: Transducer, Transducer.translate, Transducer.Resets,
  Transducer.translate_append
-/
import Mathlib.Data.List.Basic

namespace Foundation

universe u v w

/-- A machine that emits tokens while it reads, and may hold one back until it
sees how the text goes on.  `flush` gives what is held back when the text ends;
it is undefined in states in which the text must not end. -/
structure Transducer (σ : Type u) (α : Type v) (β : Type w) where
  start : σ
  step : σ → α → Option (List β × σ)
  flush : σ → Option (List β)

namespace Transducer

variable {σ : Type u} {α : Type v} {β : Type w} (machine : Transducer σ α β)

/-- The tokens emitted while reading a text, and the state reached. -/
def run : σ → List α → Option (List β × σ)
  | state, [] => some ([], state)
  | state, symbol :: rest =>
      (machine.step state symbol).bind fun (emitted, next) =>
        (run next rest).map fun (later, final) => (emitted ++ later, final)

/-- All tokens of a text that ends where it may. -/
def translate (text : List α) : Option (List β) :=
  (machine.run machine.start text).bind fun (emitted, final) =>
    (machine.flush final).map (emitted ++ ·)

/-- A separator closes the token that is held back and never holds one back
itself. -/
structure Resets (separator : α → Prop) : Prop where
  flush_start : machine.flush machine.start = some []
  closes : ∀ {state : σ} {pending : List β} {symbol : α},
    machine.flush state = some pending → separator symbol →
      machine.step state symbol =
        (machine.step machine.start symbol).map
          fun (emitted, next) => (pending ++ emitted, next)
  reopens : ∀ {state next : σ} {emitted pending : List β} {symbol : α},
    separator symbol → machine.step state symbol = some (emitted, next) →
      machine.flush next = some pending → next = machine.start

variable {machine}

theorem run_append {state : σ} {left right : List α} :
    machine.run state (left ++ right) =
      (machine.run state left).bind fun (emitted, middle) =>
        (machine.run middle right).map fun (later, final) =>
          (emitted ++ later, final) := by
  induction left generalizing state with
  | nil =>
      cases same : machine.run state right <;> simp [run, same]
  | cons symbol left inductionHypothesis =>
      simp only [List.cons_append, run]
      cases machine.step state symbol with
      | none => rfl
      | some result =>
          simp only [Option.bind_some, inductionHypothesis]
          cases machine.run result.2 left with
          | none => rfl
          | some afterLeft =>
              simp only [Option.bind_some, Option.map_some]
              cases machine.run afterLeft.2 right <;> simp

theorem translate_eq_some_iff {text : List α} {tokens : List β} :
    machine.translate text = some tokens ↔
      ∃ emitted final pending,
        machine.run machine.start text = some (emitted, final) ∧
          machine.flush final = some pending ∧ tokens = emitted ++ pending := by
  unfold translate
  constructor
  · intro read
    obtain ⟨⟨emitted, final⟩, ran, rest⟩ := Option.bind_eq_some_iff.mp read
    obtain ⟨pending, flushed, rfl⟩ := Option.map_eq_some_iff.mp rest
    exact ⟨emitted, final, pending, ran, flushed, rfl⟩
  · rintro ⟨emitted, final, pending, ran, flushed, rfl⟩
    simp [ran, flushed]

/-- A separator in front of the second part closes the first one. -/
theorem translate_append_separator {separator : α → Prop}
    (resets : machine.Resets separator) {left right : List α}
    {leftTokens rightTokens : List β} {symbol : α} (separates : separator symbol)
    (readLeft : machine.translate left = some leftTokens)
    (readRight : machine.translate (symbol :: right) = some rightTokens) :
    machine.translate (left ++ symbol :: right) =
      some (leftTokens ++ rightTokens) := by
  obtain ⟨emitted, middle, pending, ranLeft, flushed, rfl⟩ :=
    translate_eq_some_iff.mp readLeft
  obtain ⟨later, final, last, ranRight, flushedRight, rfl⟩ :=
    translate_eq_some_iff.mp readRight
  apply translate_eq_some_iff.mpr
  refine ⟨emitted ++ (pending ++ later), final, last, ?_, flushedRight, by simp⟩
  rw [run_append, ranLeft]
  simp only [run, Option.bind_some, resets.closes flushed separates] at ranRight ⊢
  cases opened : machine.step machine.start symbol with
  | none => simp [opened] at ranRight
  | some result =>
      simp only [opened, Option.bind_some, Option.map_some, Option.map_eq_some_iff,
        Prod.exists, Prod.mk.injEq] at ranRight ⊢
      obtain ⟨rest, reached, ranRest, rfl, rfl⟩ := ranRight
      exact ⟨pending ++ (result.1 ++ rest), reached,
        ⟨rest, reached, ranRest, by simp, rfl⟩, rfl, rfl⟩

/-- A separator at the end of the first part leaves nothing held back. -/
theorem translate_separator_append {separator : α → Prop}
    (resets : machine.Resets separator) {left right : List α}
    {leftTokens rightTokens : List β} {symbol : α} (separates : separator symbol)
    (readLeft : machine.translate (left ++ [symbol]) = some leftTokens)
    (readRight : machine.translate right = some rightTokens) :
    machine.translate (left ++ [symbol] ++ right) =
      some (leftTokens ++ rightTokens) := by
  obtain ⟨emitted, middle, pending, ranLeft, flushed, rfl⟩ :=
    translate_eq_some_iff.mp readLeft
  obtain ⟨later, final, last, ranRight, flushedRight, rfl⟩ :=
    translate_eq_some_iff.mp readRight
  have atStart : middle = machine.start := by
    have split := ranLeft
    rw [run_append] at split
    obtain ⟨⟨before, reached⟩, -, rest⟩ := Option.bind_eq_some_iff.mp split
    obtain ⟨⟨closing, final'⟩, stepped, same⟩ := Option.map_eq_some_iff.mp rest
    obtain ⟨⟨out, next⟩, took, ended⟩ := Option.bind_eq_some_iff.mp stepped
    simp only [run, Option.map_some, Option.some.injEq, Prod.mk.injEq] at ended same
    obtain ⟨-, rfl⟩ := ended
    obtain ⟨-, rfl⟩ := same
    exact resets.reopens separates took flushed
  subst atStart
  have nothing : pending = [] := by
    rw [resets.flush_start] at flushed
    exact (Option.some.inj flushed).symm
  subst nothing
  apply translate_eq_some_iff.mpr
  refine ⟨emitted ++ later, final, last, ?_, flushedRight, by simp⟩
  rw [run_append, ranLeft]
  simp [ranRight]

/-- Two texts keep their tokens when a separator stands between them. -/
theorem translate_append {separator : α → Prop}
    (resets : machine.Resets separator) {left right : List α}
    {leftTokens rightTokens : List β}
    (separated : (∃ symbol ∈ right.head?, separator symbol) ∨
      (∃ symbol ∈ left.getLast?, separator symbol))
    (readLeft : machine.translate left = some leftTokens)
    (readRight : machine.translate right = some rightTokens) :
    machine.translate (left ++ right) = some (leftTokens ++ rightTokens) := by
  rcases separated with ⟨symbol, atHead, separates⟩ | ⟨symbol, atEnd, separates⟩
  · obtain ⟨rest, rfl⟩ := List.head?_eq_some_iff.mp atHead
    exact translate_append_separator resets separates readLeft readRight
  · obtain ⟨front, rfl⟩ := List.getLast?_eq_some_iff.mp atEnd
    exact translate_separator_append resets separates readLeft readRight

end Transducer

end Foundation
