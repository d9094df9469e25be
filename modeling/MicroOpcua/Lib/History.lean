import Mathlib

namespace MicroOpcua.Lib.History

variable {α : Type} {P : α → List α → Prop} {e : α} {l l' : List α}

/-- Every event of a history, newest event first, stands in relation `P` to what was before it. -/
def Always (P : α → List α → Prop) (l : List α) : Prop := ∀ e past, e :: past <:+ l → P e past

theorem always_nil : Always P [] := fun _ _ h => absurd (List.suffix_nil.mp h) (List.cons_ne_nil _ _)

theorem always_cons : Always P (e :: l) ↔ P e l ∧ Always P l := by
  constructor
  · exact fun h => ⟨h e l List.suffix_rfl, fun e' past hs => h e' past (hs.trans (List.suffix_cons e l))⟩
  · rintro ⟨hP, h⟩ e' past hs
    rcases List.suffix_cons_iff.mp hs with heq | hs
    · obtain ⟨rfl, rfl⟩ := List.cons.inj heq
      exact hP
    · exact h e' past hs

instance [∀ e past, Decidable (P e past)] : (l : List α) → Decidable (Always P l)
  | [] => isTrue always_nil
  | e :: l =>
    have := instDecidableAlways l
    decidable_of_iff (P e l ∧ Always P l) always_cons.symm

theorem Always.exists_past (h : Always P l) (he : e ∈ l) : ∃ past, past <:+ l ∧ P e past := by
  obtain ⟨pre, past, rfl⟩ := List.append_of_mem he
  have hsuffix : e :: past <:+ pre ++ e :: past := List.suffix_append pre _
  exact ⟨past, (List.suffix_cons e past).trans hsuffix, h e past hsuffix⟩

theorem Always.mem {Q : α → Prop} (h : Always (fun e _ => Q e) l) : ∀ e ∈ l, Q e := by
  intro e he
  obtain ⟨-, -, hQ⟩ := h.exists_past he
  exact hQ

end MicroOpcua.Lib.History
