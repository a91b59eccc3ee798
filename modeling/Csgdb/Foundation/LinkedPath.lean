/-
Module: Csgdb.Foundation.LinkedPath
Purpose: Edges that lead one behind the other from one node to another, and what
  follows when every edge climbs in some order.
Trusted boundary: none
Main exports: Linked, Linked.append, Linked.snoc, Linked.rank_le, Linked.climbs,
  Linked.eq_last_of_target
-/
import Mathlib.Data.List.Basic
import Mathlib.Order.Basic

namespace Foundation

variable {Node Edge : Type}

/-- The edges lead, one behind the other, from the first node to the second. -/
inductive Linked (source target : Edge → Node) : Node → List Edge → Node → Prop
  | nil (node : Node) : Linked source target node [] node
  | cons {edge : Edge} {edges : List Edge} {last : Node}
      (rest : Linked source target (target edge) edges last) :
      Linked source target (source edge) (edge :: edges) last

namespace Linked

variable {source target : Edge → Node} {origin middle last : Node} {edges : List Edge}

theorem append {others : List Edge} (path : Linked source target origin edges middle)
    (more : Linked source target middle others last) :
    Linked source target origin (edges ++ others) last := by
  induction path with
  | nil => exact more
  | cons rest inductionHypothesis => exact .cons (inductionHypothesis more)

/-- One more edge at the end. -/
theorem snoc {edge : Edge} (path : Linked source target origin edges (source edge)) :
    Linked source target origin (edges ++ [edge]) (target edge) :=
  path.append (.cons (.nil _))

/-! ## Climbing paths -/

variable {Rank : Type} [Preorder Rank] {rank : Node → Rank}

theorem rank_le (path : Linked source target origin edges last)
    (climbs : ∀ edge ∈ edges, rank (source edge) < rank (target edge)) :
    rank origin ≤ rank last := by
  induction path with
  | nil => exact le_refl _
  | cons rest inductionHypothesis =>
      rw [List.forall_mem_cons] at climbs
      exact climbs.1.le.trans (inductionHypothesis climbs.2)

/-- On a climbing path every edge lies between the ends. -/
theorem rank_between (path : Linked source target origin edges last)
    (climbs : ∀ edge ∈ edges, rank (source edge) < rank (target edge)) :
    ∀ edge ∈ edges, rank origin ≤ rank (source edge) ∧ rank (target edge) ≤ rank last := by
  induction path with
  | nil => exact fun edge member => absurd member List.not_mem_nil
  | cons rest inductionHypothesis =>
      rw [List.forall_mem_cons] at climbs ⊢
      refine ⟨⟨le_refl _, rest.rank_le climbs.2⟩, ?_⟩
      intro later member
      obtain ⟨above, below⟩ := inductionHypothesis climbs.2 later member
      exact ⟨climbs.1.le.trans above, below⟩

/-- On a climbing path every edge ends below the start of each later one. -/
theorem climbs (path : Linked source target origin edges last)
    (climbs : ∀ edge ∈ edges, rank (source edge) < rank (target edge)) :
    edges.Pairwise fun earlier later => rank (target earlier) ≤ rank (source later) := by
  induction path with
  | nil => exact .nil
  | cons rest inductionHypothesis =>
      rw [List.forall_mem_cons] at climbs
      refine .cons ?_ (inductionHypothesis climbs.2)
      intro later member
      exact (rest.rank_between climbs.2 later member).1

/-- The only edge of a climbing path that ends at its end is the last one. -/
theorem eq_last_of_target (path : Linked source target origin edges last)
    (climbs : ∀ edge ∈ edges, rank (source edge) < rank (target edge)) {edge : Edge}
    (member : edge ∈ edges) (atEnd : rank (target edge) = rank last) :
    edges.getLast? = some edge := by
  induction path with
  | nil => cases member
  | @cons first rest last path inductionHypothesis =>
      rw [List.forall_mem_cons] at climbs
      rcases List.mem_cons.mp member with rfl | inRest
      · cases rest with
        | nil => rfl
        | cons next more =>
            -- the next edge would climb above the end
            obtain ⟨above, below⟩ := path.rank_between climbs.2 next List.mem_cons_self
            have climbed := climbs.2 next List.mem_cons_self
            exact absurd atEnd ((above.trans_lt climbed).trans_le below).ne
      · have later := inductionHypothesis climbs.2 inRest atEnd
        rw [List.getLast?_cons, later]
        rfl

end Linked

end Foundation
