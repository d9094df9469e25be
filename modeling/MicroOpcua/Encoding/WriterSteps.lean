import MicroOpcua.Encoding.Variant
import MicroOpcua.Encoding.WriterLaws

namespace MicroOpcua

open Lib.LittleEndian Lib.StateRun

variable {cap : Nat}

class WriterStep (R : Writer cap → Writer cap → Prop) :
    Prop extends Std.Refl R, IsTrans (Writer cap) R where
  bytes : ∀ bs, Moves R (writeBytes bs : WriteM cap Unit)
  string : ∀ s, Moves R (writeString s : WriteM cap Unit)

section

variable {R : Writer cap → Writer cap → Prop}

theorem uncheckedWrite_moves {m : WriteM cap Unit} (hm : Moves R m) : Moves R (uncheckedWrite m) := by
  intro w
  have h := hm w
  rw [uncheckedWrite, run_tryCatch]
  split <;> exact h

variable [WriterStep R]

open WriterStep

theorem checkWriter_moves : Moves R (checkWriter : WriteM cap Unit) := by
  rintro ⟨bytes, status, fits⟩
  cases status <;> exact refl _

theorem writeEach_moves {α : Type} {f : α → WriteM cap Unit} (hf : ∀ a, Moves R (f a)) (as : List α) :
    Moves R (writeEach f as) := by
  induction as with
  | nil => exact .pure ()
  | cons a as ih => exact .bind (hf a) (fun _ => ih)

theorem when_moves {p : Prop} [Decidable p] {m : WriteM cap PUnit} (hm : Moves R m) :
    Moves R (if p then m else pure ()) := by
  split
  · exact hm
  · exact .pure ()

theorem writeNodeId_moves (n : NodeId) : Moves R (writeNodeId n : WriteM cap Unit) := by
  obtain ⟨ns, id | s⟩ := n
  · simp only [writeNodeId]
    split
    · exact .bind (bytes _) (fun _ => bytes _)
    · split
      · exact .bind (bytes _) (fun _ => .bind (bytes _) (fun _ => bytes _))
      · exact .bind (bytes _) (fun _ => .bind (bytes _) (fun _ => bytes _))
  · exact .bind (bytes _) (fun _ => .bind (bytes _) (fun _ => string s))

theorem writeExtensionObjectHeader_moves (typeId : NodeId) (length : Nat) :
    Moves R (writeExtensionObjectHeader typeId length : WriteM cap Unit) := by
  refine .bind (writeNodeId_moves typeId) (fun _ => ?_)
  split
  · exact bytes _
  · exact .bind (bytes _) (fun _ => bytes _)

theorem writeScalarValue_moves (v : Scalar) : Moves R (writeScalarValue v : WriteM cap Unit) := by
  cases v with
  | null | unsupported tag => exact .throw _
  | string v | byteString v => exact string v
  | nodeId v => exact writeNodeId_moves v
  | qualifiedName ns name => exact .bind (bytes _) (fun _ => string name)
  | localizedText locale text =>
    have htext : Moves R (if text.isSome then writeString text else pure () : WriteM cap Unit) :=
      when_moves (string text)
    refine .bind (bytes _) (fun _ => ?_)
    dsimp only
    split
    · exact .bind (string locale) (fun _ => htext)
    · exact htext
  | _ => exact bytes _

theorem writeVariant_moves (v : Variant) : Moves R (writeVariant v : WriteM cap Unit) := by
  cases v with
  | scalar v => exact .bind (bytes _) (fun _ => when_moves (writeScalarValue_moves v))
  | array type length elements =>
    refine .bind (bytes _) (fun _ => when_moves (.bind (bytes _) (fun _ => ?_)))
    cases elements with
    | none => exact .pure ()
    | some es =>
      refine when_moves ?_
      dsimp only
      split
      · exact .bind (.throw _) (fun _ => writeEach_moves writeScalarValue_moves _)
      · exact writeEach_moves writeScalarValue_moves _

end

end MicroOpcua
