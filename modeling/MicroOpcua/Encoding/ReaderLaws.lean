import MicroOpcua.Encoding.Query

namespace MicroOpcua

open Lib.LittleEndian Lib.StateRun

variable {α β : Type} {r : Reader} {memory : Bytes} {n : Nat}

namespace Reader

def onMemory (r : Reader) (memory : Bytes) : Reader := { r with buffer := memory }

def Agrees (r : Reader) (memory : Bytes) : Prop := memory.take r.length = r.buffer.take r.length

def advance (r : Reader) (n : Nat) : Reader := { r with position := r.position + n }

theorem take_here_over (h : r.Agrees memory) (hn : r.position + n ≤ r.length) :
    (r.onMemory memory).here.take n = r.here.take n := by
  have hcut (bs : Bytes) :
      (bs.drop r.position).take n = ((bs.take r.length).take (r.position + n)).drop r.position := by
    rw [List.take_take, Nat.min_eq_left hn, List.drop_take, Nat.add_sub_cancel_left]
  change (memory.drop r.position).take n = (r.buffer.drop r.position).take n
  rw [hcut memory, hcut r.buffer, h]

end Reader

theorem readBytes_run (n : Nat) (r : Reader) :
    (readBytes n).run.run r =
      (match r.status with
        | some e => (.error e, r)
        | none =>
          if r.position ≤ r.length ∧ n ≤ r.length - r.position then (.ok (r.here.take n), r.advance n)
          else (.error .decodingError, { r with status := some .decodingError })) := by
  obtain ⟨buffer, length, position, status⟩ := r
  cases status with
  | some e => rfl
  | none =>
    change StateT.run (ExceptT.run (ite _ _ _)) _ = _
    dsimp only
    split <;> rfl

section Bounded

/-- `m` on `r` keeps the buffer, moves forward inside it, and does the same on any memory that
has the bytes of the buffer. -/
structure StaysInside (m : ReadM α) (r : Reader) : Prop where
  buffer : (m.run.run r).2.buffer = r.buffer
  length : (m.run.run r).2.length = r.length
  forward : r.position ≤ (m.run.run r).2.position
  inside : (m.run.run r).2.position ≤ r.length
  blind : ∀ memory, r.Agrees memory →
    m.run.run (r.onMemory memory) = ((m.run.run r).1, (m.run.run r).2.onMemory memory)

def Bounded (m : ReadM α) : Prop := ∀ r : Reader, r.position ≤ r.length → StaysInside m r

namespace StaysInside

variable {m : ReadM α} {f : α → ReadM β}

theorem bind (hm : StaysInside m r)
    (hf : ∀ a, (m.run.run r).1 = .ok a → StaysInside (f a) (m.run.run r).2) :
    StaysInside (m >>= f) r := by
  have hblind (memory : Bytes) (h : r.Agrees memory) := hm.blind memory h
  obtain ⟨e, he, hrun⟩ | ⟨a, ha, hrun⟩ := run_run_bind m f r
  · refine ⟨?_, ?_, ?_, ?_, fun memory h => ?_⟩
    · rw [hrun]
      exact hm.buffer
    · rw [hrun]
      exact hm.length
    · rw [hrun]
      exact hm.forward
    · rw [hrun]
      exact hm.inside
    · rw [hrun, ExceptT.run_bind, run_bind, hblind memory h, he]
      rfl
  · have hrest := hf a ha
    refine ⟨?_, ?_, ?_, ?_, fun memory h => ?_⟩
    · rw [hrun]
      exact hrest.buffer.trans hm.buffer
    · rw [hrun]
      exact hrest.length.trans hm.length
    · rw [hrun]
      exact hm.forward.trans hrest.forward
    · rw [hrun]
      exact hrest.inside.trans_eq hm.length
    · have hagree : (m.run.run r).2.Agrees memory := by
        change memory.take (m.run.run r).2.length = (m.run.run r).2.buffer.take (m.run.run r).2.length
        rw [hm.length, hm.buffer]
        exact h
      rw [hrun, ExceptT.run_bind, run_bind, hblind memory h, ha]
      exact hrest.blind memory hagree

theorem of_run (a : Except Fault α) (t : Reader) (hlength : t.length = r.length)
    (hforward : r.position ≤ t.position) (hinside : t.position ≤ r.length)
    (hrun : ∀ memory, r.Agrees memory → m.run.run (r.onMemory memory) = (a, t.onMemory memory)) :
    StaysInside m r := by
  have hself : m.run.run r = (a, t.onMemory r.buffer) := hrun r.buffer rfl
  refine ⟨?_, ?_, ?_, ?_, fun memory h => ?_⟩
  · rw [hself]
    rfl
  · rw [hself]
    exact hlength
  · rw [hself]
    exact hforward
  · rw [hself]
    exact hinside
  · rw [hself]
    exact hrun memory h

theorem of_kept (a : Except Fault α) (h : r.position ≤ r.length)
    (hm : ∀ memory, m.run.run (r.onMemory memory) = (a, r.onMemory memory)) : StaysInside m r :=
  of_run a r rfl (Nat.le_refl _) h (fun memory _ => hm memory)

end StaysInside

namespace Bounded

variable {m : ReadM α} {f : α → ReadM β}

theorem bind (hm : Bounded m) (hf : ∀ a, Bounded (f a)) : Bounded (m >>= f) := by
  intro r h
  have hfirst := hm r h
  exact hfirst.bind (fun a _ => hf a _ (hfirst.inside.trans_eq hfirst.length.symm))

theorem pure (a : α) : Bounded (Pure.pure a : ReadM α) := fun _ h => .of_kept (.ok a) h (fun _ => rfl)

theorem throw (e : Fault) : Bounded (throw e : ReadM α) :=
  fun _ h => .of_kept (.error e) h (fun _ => rfl)

theorem map (hm : Bounded m) (g : α → β) : Bounded (do return g (← m)) := hm.bind (fun _ => pure _)

theorem ite {p : Prop} [Decidable p] {m m' : ReadM α} (hm : Bounded m) (hm' : Bounded m') :
    Bounded (if p then m else m') := by
  split
  · exact hm
  · exact hm'

theorem guard {p : Prop} [Decidable p] {m : ReadM PUnit} {f : PUnit → ReadM β} (hm : Bounded m)
    (hf : Bounded (f ())) : Bounded (if p then m >>= f else f ()) :=
  .ite (hm.bind (fun _ => hf)) hf

end Bounded

theorem readerFail_bounded (e : Fault) : Bounded (readerFail e : ReadM α) :=
  fun _ h => ⟨rfl, rfl, Nat.le_refl _, h, fun _ _ => rfl⟩

theorem readBytes_bounded (n : Nat) : Bounded (readBytes n) := by
  intro r h
  cases hs : r.status with
  | some e =>
    refine .of_kept (.error e) h (fun memory => ?_)
    rw [readBytes_run]
    change (match r.status with | some e => _ | none => _) = _
    rw [hs]
  | none =>
    have hrun (memory : Bytes) : (readBytes n).run.run (r.onMemory memory) =
        if r.position ≤ r.length ∧ n ≤ r.length - r.position then
          (.ok ((r.onMemory memory).here.take n), (r.onMemory memory).advance n)
        else (.error .decodingError, { r.onMemory memory with status := some .decodingError }) := by
      rw [readBytes_run]
      change (match r.status with | some e => _ | none => _) = _
      rw [hs]
      rfl
    by_cases hn : r.position ≤ r.length ∧ n ≤ r.length - r.position
    · have hend : r.position + n ≤ r.length := by omega
      refine .of_run (.ok (r.here.take n)) (r.advance n) rfl (Nat.le_add_right ..) hend
        (fun memory hagree => ?_)
      rw [hrun, if_pos hn, Reader.take_here_over hagree hend]
      rfl
    · refine .of_run (.error .decodingError) { r with status := some .decodingError } rfl (Nat.le_refl _)
        h (fun memory _ => ?_)
      rw [hrun, if_neg hn]
      rfl

theorem readByte_bounded : Bounded readByte := (readBytes_bounded 1).map _

theorem readUInt16_bounded : Bounded readUInt16 := (readBytes_bounded 2).map _

theorem readUInt32_bounded : Bounded readUInt32 := (readBytes_bounded 4).map _

theorem readUInt64_bounded : Bounded readUInt64 := (readBytes_bounded 8).map _

theorem readInt32_bounded : Bounded readInt32 := readUInt32_bounded.map _

theorem readArrayLength_bounded : Bounded readArrayLength := by
  refine readInt32_bounded.bind (fun n => ?_)
  exact .ite ((readerFail_bounded _).bind (fun _ => .pure n)) (.pure n)

/-- A look at the reader before going on: what follows may depend on the position and on the length,
and on the memory only as far as it goes on the same way. -/
theorem get_bounded {f : Reader → ReadM α}
    (hf : ∀ r : Reader, r.position ≤ r.length → StaysInside (f r) r)
    (hblind : ∀ (r : Reader) (memory : Bytes), r.Agrees memory → r.position ≤ r.length →
      (f (r.onMemory memory)).run.run (r.onMemory memory) = (f r).run.run (r.onMemory memory)) :
        Bounded (get >>= f) := by
  intro r h
  have hrest := hf r h
  exact ⟨hrest.buffer, hrest.length, hrest.forward, hrest.inside,
    fun memory hagree => (hblind r memory hagree h).trans (hrest.blind memory hagree)⟩

/-- The check of a length against the rest of the buffer, and the step over that many bytes. -/
theorem advance_bounded {g : Reader → α} (n : Nat)
    (hg : ∀ (r : Reader) (memory : Bytes), r.Agrees memory → r.position + n ≤ r.length →
      g (r.onMemory memory) = g r) :
    Bounded (do
      let r ← get
      if n > r.length - r.position then readerFail .decodingError
      set (r.advance n)
      return g r : ReadM α) := by
  intro r h
  by_cases hn : n > r.length - r.position
  · refine .of_run (.error .decodingError) { r with status := some .decodingError } rfl (Nat.le_refl _) h
      (fun memory _ => ?_)
    change (if n > r.length - r.position then _ else _ : ReadM α).run.run _ = _
    rw [if_pos hn]
    rfl
  · have hend : r.position + n ≤ r.length := by omega
    refine .of_run (.ok (g r)) (r.advance n) rfl (Nat.le_add_right ..) hend (fun memory hagree => ?_)
    change (if n > r.length - r.position then _ else _ : ReadM α).run.run _ = _
    rw [if_neg hn, ← hg r memory hagree hend]
    rfl

theorem readString_bounded : Bounded readString := by
  refine readInt32_bounded.bind (fun n => .ite (.pure _) (.guard (.throw _) (.guard (.throw _) ?_)))
  exact advance_bounded n.toNat (fun r memory hagree h => congrArg some (Reader.take_here_over hagree h))

theorem readNodeId_bounded : Bounded readNodeId := by
  refine readByte_bounded.bind (fun mask => .ite ?_ (.ite ?_ (.ite ?_ (.ite ?_ (.throw _)))))
  · exact readByte_bounded.map _
  · exact readByte_bounded.bind (fun _ => readUInt16_bounded.map _)
  · exact readUInt16_bounded.bind (fun _ => readUInt32_bounded.map _)
  · exact readUInt16_bounded.bind (fun _ => readString_bounded.map _)

theorem headD_here_over (h : r.Agrees memory) (hpos : r.position < r.length) :
    (r.onMemory memory).here.headD 0 = r.here.headD 0 := by
  have hone : (r.onMemory memory).here.take 1 = r.here.take 1 := Reader.take_here_over h hpos
  have hhead (bs : Bytes) : bs.headD 0 = (bs.take 1).headD 0 := by cases bs <;> rfl
  rw [hhead, hhead r.here, hone]

theorem readExpandedNodeId_bounded : Bounded readExpandedNodeId := by
  refine get_bounded (fun r h => ?_) (fun r memory hagree h => ?_)
  · refine Bounded.guard (.throw _)
      (readNodeId_bounded.bind (fun _ => .ite (readString_bounded.bind (fun _ => ?_)) ?_)) r h
    · exact .ite (readUInt32_bounded.map _) (.pure _)
    · exact .ite (readUInt32_bounded.map _) (.pure _)
  · by_cases hpos : r.position ≥ r.length
    · change (if r.position ≥ r.length then _ else _ : ReadM _).run.run _ =
        (if r.position ≥ r.length then _ else _ : ReadM _).run.run _
      rw [if_pos hpos, if_pos hpos]
      rfl
    · rw [headD_here_over hagree (Nat.lt_of_not_ge hpos)]
      rfl

theorem readQualifiedName_bounded : Bounded readQualifiedName :=
  readUInt16_bounded.bind (fun _ => readString_bounded.map _)

theorem readExtensionObjectHeader_bounded : Bounded readExtensionObjectHeader :=
  readNodeId_bounded.bind (fun _ => readByte_bounded.bind (fun _ => .ite (.pure _) (.ite
    (readInt32_bounded.bind (fun _ => .guard (.throw _) (.pure _))) (.throw _))))

theorem skipBytes_inside (h : r.position + n ≤ r.length) : StaysInside (skipBytes n) r :=
  .of_run (.ok ()) (r.advance n) rfl (Nat.le_add_right ..) h (fun _ _ => rfl)

theorem skipExtensionObject_bounded : Bounded skipExtensionObject := by
  refine readExtensionObjectHeader_bounded.bind (fun p =>
    get_bounded (fun r h => ?_) (fun _ _ _ _ => rfl))
  dsimp only
  split
  · exact (readerFail_bounded _ r h).bind (fun _ ha => nomatch ha)
  · exact skipBytes_inside (by omega)

theorem endExtensionObjectBody_inside {length : Nat} (h : r.position + length ≤ r.length)
    (p : Except Fault α × Reader) : StaysInside (endExtensionObjectBody length p) r := by
  have hpos : r.position ≤ r.length := by omega
  obtain ⟨e | a, body⟩ := p
  · exact readerFail_bounded e r hpos
  · unfold endExtensionObjectBody
    dsimp only
    cases body.status with
    | some e => exact readerFail_bounded e r hpos
    | none =>
      dsimp only
      split
      · exact (readerFail_bounded _ r hpos).bind (fun _ ha => nomatch ha)
      · exact (skipBytes_inside h).bind (fun _ _ => Bounded.pure a (r.advance length) h)

theorem endExtensionObjectBody_over (length : Nat) (result : Except Fault α) (body : Reader)
    (memory : Bytes) :
    endExtensionObjectBody length (result, body.onMemory memory) =
      endExtensionObjectBody length (result, body) := by
  cases result <;> rfl

theorem readExtensionObjectBody_bounded {decoder : ReadM α} (hdecoder : Bounded decoder) (length : Nat) :
    Bounded (readExtensionObjectBody length decoder) := by
  refine get_bounded (fun r h => ?_) (fun r memory hagree h => ?_)
  · cases r.status with
    | some e => exact Bounded.throw e r h
    | none =>
      dsimp only
      split
      · exact readerFail_bounded _ r h
      · exact endExtensionObjectBody_inside (by omega) _
  · change (match r.status with
      | some e => throw e
      | none => if r.position > r.length ∨ length > r.length - r.position then _ else _ :
        ReadM α).run.run _ = _
    cases r.status with
    | some e => rfl
    | none =>
      dsimp only
      split
      · rfl
      · have hend : r.position + length ≤ r.length := by omega
        have hbody := (hdecoder ⟨r.here, length, 0, none⟩ (Nat.zero_le _)).blind (r.onMemory memory).here
          (Reader.take_here_over hagree hend)
        change (endExtensionObjectBody length
          (decoder.run.run
            ((⟨r.here, length, 0, none⟩ : Reader).onMemory (r.onMemory memory).here))).run.run _ = _
        rw [hbody, endExtensionObjectBody_over]
        rfl

theorem readScalarValue_bounded (type : UInt8) : Bounded (readScalarValue type) := by
  unfold readScalarValue
  split
  any_goals exact .throw _
  any_goals exact readByte_bounded.map _
  any_goals exact readUInt16_bounded.map _
  any_goals exact readUInt32_bounded.map _
  any_goals exact readUInt64_bounded.map _
  any_goals exact readString_bounded.map _
  · exact .pure _
  · exact (readByte_bounded.map _).map _
  · exact readNodeId_bounded.map _
  · exact readUInt16_bounded.bind (fun _ => readString_bounded.map _)
  · refine readByte_bounded.bind (fun mask => .ite (readString_bounded.bind (fun _ => ?_)) ?_)
    · exact .ite (readString_bounded.map _) (.pure _)
    · exact .ite (readString_bounded.map _) (.pure _)

theorem readVariant_bounded : Bounded readVariant :=
  readByte_bounded.bind (fun _ => .guard (.throw _) (readScalarValue_bounded _))

theorem readOptional_bounded {m : ReadM α} (hm : Bounded m) (present : Bool) :
    Bounded (readOptional present m) :=
  .ite (hm.map _) (.pure _)

theorem readDataValue_bounded : Bounded readDataValue :=
  readByte_bounded.bind (fun _ => (readOptional_bounded readVariant_bounded _).bind (fun _ =>
    (readOptional_bounded readUInt32_bounded _).bind (fun _ =>
      (readOptional_bounded readUInt64_bounded _).bind (fun _ =>
        (readOptional_bounded readUInt16_bounded _).bind (fun _ =>
          (readOptional_bounded readUInt64_bounded _).bind (fun _ =>
            (readOptional_bounded readUInt16_bounded _).map _))))))

theorem readEach_bounded {m : ReadM α} (hm : Bounded m) (n : Nat) : Bounded (readEach m n) := by
  induction n with
  | zero => exact .pure _
  | succ n ih => exact hm.bind (fun _ => ih.map _)

theorem queryRequireMinCountedBytes_bounded (count : UInt32) (minElementBytes : Nat) :
    Bounded (queryRequireMinCountedBytes count minElementBytes) := by
  refine get_bounded (fun r h => ?_) (fun _ _ _ _ => rfl)
  dsimp only
  cases r.status with
  | some e => exact Bounded.throw e r h
  | none => exact Bounded.guard (readerFail_bounded _) (.ite (readerFail_bounded _) (.pure _)) r h

theorem readFilterOperand_bounded : Bounded readFilterOperand := by
  refine readExtensionObjectHeader_bounded.bind (fun p => .ite (readUInt32_bounded.map _)
    (.ite (readVariant_bounded.map _)
      (.ite (get_bounded (fun r h => ?_) (fun _ _ _ _ => rfl)) (.throw _))))
  dsimp only
  split
  · exact (Bounded.throw _ r h).bind (fun _ ha => nomatch ha)
  · have hend : r.position + p.2 ≤ r.length := by omega
    exact (skipBytes_inside hend).bind (fun _ _ => Bounded.pure _ (r.advance p.2) hend)

theorem readFilterOperands_bounded (maxOperands operandIndex : Nat) :
    Bounded (readFilterOperands maxOperands operandIndex) :=
  readUInt32_bounded.bind (fun _ =>
      .ite (.pure _) ((queryRequireMinCountedBytes_bounded _ _).bind (fun _ =>
    .guard (readerFail_bounded _) (readEach_bounded readFilterOperand_bounded _))))

theorem readFilterElements_bounded (maxOperands count operandIndex : Nat) :
    Bounded (readFilterElements maxOperands count operandIndex) := by
  induction count generalizing operandIndex with
  | zero => exact .pure _
  | succ n ih =>
    exact readUInt32_bounded.bind (fun _ => (readFilterOperands_bounded _ _).bind (fun operands =>
      (ih (operandIndex + operands.length)).map _))

theorem contentFilterDecode_bounded (maxElements maxOperands : Nat) :
    Bounded (contentFilterDecode maxElements maxOperands) :=
  readUInt32_bounded.bind (fun _ =>
      .ite (.pure _) ((queryRequireMinCountedBytes_bounded _ _).bind (fun _ =>
    .guard (readerFail_bounded _) (readFilterElements_bounded _ _ _))))

end Bounded

end MicroOpcua
