import Mathlib

namespace MicroOpcua.Lib.Steps

variable {α σ β : Type} [Preorder β] {T : α → σ → σ → Prop} {s t : σ} {as : List α}

def InTurn (T : α → σ → σ → Prop) : List α → σ → σ → Prop
  | [], s, t => t = s
  | a :: as, s, t => ∃ u, T a s u ∧ InTurn T as u t

/-- An element that changes the state brings it down in `μ`, and an idle one does nothing: then a list of
elements does nothing if all are idle, and comes down otherwise. -/
theorem InTurn.idle_or_lt (I : σ → Prop) (Idle : α → σ → Prop) (μ : σ → β)
    (hstep : ∀ a s t, I s → T a s t → I t ∧ (Idle a s ∧ t = s ∨ ¬ Idle a s ∧ μ t < μ s)) (hs : I s)
    (h : InTurn T as s t) :
    I t ∧ ((∀ a ∈ as, Idle a s) ∧ t = s ∨ (¬ ∀ a ∈ as, Idle a s) ∧ μ t < μ s) := by
  induction as generalizing s with
  | nil =>
    obtain rfl : t = s := h
    exact ⟨hs, .inl ⟨nofun, rfl⟩⟩
  | cons a as ih =>
    obtain ⟨u, ha, has⟩ := h
    obtain ⟨hu, ⟨hidle, rfl⟩ | ⟨hactive, hlt⟩⟩ := hstep a s u hs ha
    · obtain ⟨ht, ⟨hall, rfl⟩ | ⟨hsome, hlt⟩⟩ := ih hu has
      · exact ⟨ht, .inl ⟨List.forall_mem_cons.mpr ⟨hidle, hall⟩, rfl⟩⟩
      · exact ⟨ht, .inr ⟨fun hall => hsome (List.forall_mem_cons.mp hall).2, hlt⟩⟩
    · obtain ⟨ht, hrest⟩ := ih hu has
      refine ⟨ht, .inr ⟨fun hall => hactive (List.forall_mem_cons.mp hall).1, ?_⟩⟩
      obtain ⟨-, rfl⟩ | ⟨-, hlt'⟩ := hrest
      · exact hlt
      · exact lt_trans hlt' hlt

end MicroOpcua.Lib.Steps
