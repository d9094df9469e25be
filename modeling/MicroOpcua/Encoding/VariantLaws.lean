import MicroOpcua.Encoding.Variant
import MicroOpcua.Encoding.WriterLaws

namespace MicroOpcua

open Lib.LittleEndian Lib.StateRun

variable {cap : Nat}

theorem Emits.returns {β : Type} {m : WriteM cap Unit} {f : Unit → WriteM cap β} {bs : Bytes}
    {w w' : Writer cap} {a : β} (hm : Emits m bs) (hrun : (m >>= f).run.run w = (.ok a, w'))
    (hs : w.status = none) :
    ∃ hfits, (f ()).run.run (w.append bs hfits) = (.ok a, w') := by
  obtain ⟨_, u, hfirst, hrest⟩ := bind_returns.mp hrun
  obtain ⟨hfits, rfl⟩ := hm w u hs hfirst
  exact ⟨hfits, hrest⟩

def Appends {α : Type} (m : WriteM cap α) : Prop :=
  ∀ w a w', w.status = none → m.run.run w = (.ok a, w') → ∃ bs h, w' = w.append bs h

theorem Emits.appends {m : WriteM cap Unit} {bs : Bytes} (hm : Emits m bs) : Appends m := by
  intro w a w' hs hrun
  obtain ⟨h, rfl⟩ := hm w w' hs hrun
  exact ⟨bs, h, rfl⟩

namespace Appends

variable {α β : Type}

theorem returns {m : WriteM cap α} {f : α → WriteM cap β} {w w' : Writer cap} {c : β} (hm : Appends m)
    (hrun : (m >>= f).run.run w = (.ok c, w')) (hs : w.status = none) :
    ∃ a bs h, m.run.run w = (.ok a, w.append bs h) ∧ (f a).run.run (w.append bs h) = (.ok c, w') := by
  obtain ⟨a, u, hfirst, hrest⟩ := bind_returns.mp hrun
  obtain ⟨bs, h, rfl⟩ := hm w a u hs hfirst
  exact ⟨a, bs, h, hfirst, hrest⟩

theorem bind {m : WriteM cap α} {f : α → WriteM cap β} (hm : Appends m) (hf : ∀ a, Appends (f a)) :
    Appends (m >>= f) := by
  intro w c w' hs hrun
  obtain ⟨a, bs, h, -, hrest⟩ := hm.returns hrun hs
  obtain ⟨cs, h', rfl⟩ := hf a (w.append bs h) c w' hs hrest
  refine ⟨bs ++ cs, by simpa [Writer.append, Nat.add_assoc] using h', ?_⟩
  simp only [Writer.append, List.append_assoc]

theorem pure (a : α) : Appends (Pure.pure a : WriteM cap α) := by
  intro w c w' _ h
  obtain ⟨-, rfl⟩ := pure_returns.mp h
  exact ⟨[], by simpa using w.fits, by simp [Writer.append]⟩

theorem throw (e : Fault) : Appends (throw e : WriteM cap α) :=
  fun _ _ _ _ h => (throw_returns.mp h).elim

theorem writeEach {f : α → WriteM cap Unit} (as : List α) (hf : ∀ a, Appends (f a)) :
    Appends (MicroOpcua.writeEach f as) := by
  induction as with
  | nil => exact pure ()
  | cons a as ih => exact (hf a).bind (fun _ => ih)

end Appends

theorem throw_emits (e : Fault) (bs : Bytes) : Emits (throw e : WriteM cap Unit) bs :=
  fun _ _ _ h => (throw_returns.mp h).elim

theorem Emits.unique {m : WriteM cap Unit} {bs cs : Bytes} {w : Writer cap} {h : _} (hm : Emits m bs)
    (hrun : m.run.run w = (.ok (), w.append cs h)) (hs : w.status = none) : cs = bs := by
  obtain ⟨h', heq⟩ := hm w _ hs hrun
  exact List.append_cancel_left (congrArg Writer.bytes heq)

theorem pure_emits : Emits (pure () : WriteM cap Unit) [] := by
  intro w w' _ h
  obtain ⟨-, rfl⟩ := pure_returns.mp h
  exact ⟨by simpa using w.fits, by simp [Writer.append]⟩

theorem writeBytes_emits (bs : Bytes) : Emits (writeBytes bs : WriteM cap Unit) bs :=
  (writeBytes_encodes bs).emits

theorem when_emits {p : Prop} [Decidable p] {m : WriteM cap Unit} {bs : Bytes} (hm : Emits m bs) :
    Emits (if p then m else pure ()) (if p then bs else []) := by
  split
  · exact hm
  · exact pure_emits

theorem writeEach_emits {α : Type} {f : α → WriteM cap Unit} {bytes : α → Bytes} (as : List α)
    (hf : ∀ a, Emits (f a) (bytes a)) : Emits (writeEach f as) (as.flatMap bytes) := by
  induction as with
  | nil => exact pure_emits
  | cons a as ih => exact (hf a).bind ih

def nodeIdBytes (n : NodeId) : Bytes :=
  match n.identifier with
  | .numeric id =>
    if n.namespaceIndex = 0 ∧ id ≤ 255 then [0] ++ [id.toUInt8]
    else if n.namespaceIndex ≤ 255 ∧ id ≤ 65535 then
      [1] ++ ([n.namespaceIndex.toUInt8] ++ put 2 id.toUInt16.toNat)
    else [2] ++ (put 2 n.namespaceIndex.toNat ++ put 4 id.toNat)
  | .string s => [3] ++ (put 2 n.namespaceIndex.toNat ++ stringBytes s)

theorem writeNodeId_emits (n : NodeId) : Emits (writeNodeId n : WriteM cap Unit) (nodeIdBytes n) := by
  obtain ⟨ns, id | s⟩ := n
  · simp only [writeNodeId, nodeIdBytes]
    split
    · exact .bind (writeBytes_emits _) (writeBytes_emits _)
    · split
      · exact .bind (writeBytes_emits _) (.bind (writeBytes_emits _) (writeBytes_emits _))
      · exact .bind (writeBytes_emits _) (.bind (writeBytes_emits _) (writeBytes_emits _))
  · exact .bind (writeBytes_emits _) (.bind (writeBytes_emits _) (writeString_emits s))

def scalarBytes : Scalar → Bytes
  | .boolean v => [if v then 1 else 0]
  | .sbyte v | .byte v => [v]
  | .int16 v | .uint16 v => put 2 v.toNat
  | .int32 v | .uint32 v | .float v => put 4 v.toNat
  | .int64 v | .uint64 v | .double v | .dateTime v => put 8 v.toNat
  | .string v | .byteString v => stringBytes v
  | .nodeId v => nodeIdBytes v
  | .statusCode v => put 4 v.toNat
  | .qualifiedName ns name => put 2 ns.toNat ++ stringBytes name
  | .localizedText locale text =>
    [(if locale.isSome then 1 else 0) ||| (if text.isSome then 2 else 0)] ++
      ((if locale.isSome then stringBytes locale else []) ++ if text.isSome then
        stringBytes text else [])
  | .null | .unsupported _ => []

theorem writeScalarValue_emits (v : Scalar) :
    Emits (writeScalarValue v : WriteM cap Unit) (scalarBytes v) := by
  cases v with
  | string v => exact writeString_emits v
  | byteString v => exact writeString_emits v
  | nodeId v => exact writeNodeId_emits v
  | qualifiedName ns name => exact .bind (writeBytes_emits _) (writeString_emits name)
  | localizedText locale text =>
    refine .bind (writeBytes_emits _) ?_
    cases locale with
    | none => exact when_emits (writeString_emits text)
    | some l => exact .bind (writeString_emits (some l)) (when_emits (writeString_emits text))
  | null => exact throw_emits _ _
  | unsupported tag => exact throw_emits _ _
  | boolean v => exact writeBytes_emits _
  | sbyte v => exact writeBytes_emits _
  | byte v => exact writeBytes_emits _
  | int16 v => exact writeBytes_emits _
  | uint16 v => exact writeBytes_emits _
  | int32 v => exact writeBytes_emits _
  | uint32 v => exact writeBytes_emits _
  | int64 v => exact writeBytes_emits _
  | uint64 v => exact writeBytes_emits _
  | float v => exact writeBytes_emits _
  | double v => exact writeBytes_emits _
  | dateTime v => exact writeBytes_emits _
  | statusCode v => exact writeBytes_emits _

def arrayBytes (length : Int) : Option (List Scalar) → Bytes
  | none => []
  | some es => if length ≥ 0 then (es.take length.toNat).flatMap scalarBytes else []

def variantBytes : Variant → Bytes
  | .scalar v => [v.type] ++ if v.type ≠ 0 then scalarBytes v else []
  | .array type length elements =>
    [type ||| 0x80] ++ if type ≠ 0 then
      put 4 (UInt32.ofInt length).toNat ++ arrayBytes length elements else []

theorem writeVariant_emits (v : Variant) :
    Emits (writeVariant v : WriteM cap Unit) (variantBytes v) := by
  cases v with
  | scalar v => exact .bind (writeBytes_emits _) (when_emits (writeScalarValue_emits v))
  | array type length elements =>
    refine .bind (writeBytes_emits _) (when_emits (.bind (writeBytes_emits _) ?_))
    cases elements with
    | none => exact pure_emits
    | some es =>
      refine when_emits ?_
      have hall : Emits (writeEach writeScalarValue (es.take length.toNat) : WriteM cap Unit) _ :=
        writeEach_emits _ writeScalarValue_emits
      intro w w' hs h
      rw [guard_returns] at h
      exact hall w w' hs h.2

def dataValueBytes (value : Variant) (status : StatusCode) : Bytes :=
  [if status = good then 1 else 3] ++ (variantBytes value ++ if status ≠ good then
    put 4 status.toNat else [])

theorem writeDataValue_emits (value : Variant) (status : StatusCode) :
    Emits (writeDataValue value status : WriteM cap Unit) (dataValueBytes value status) :=
  .bind (writeBytes_emits _) (.bind (writeVariant_emits value) (when_emits (writeBytes_emits _)))

section Fails

variable {α : Type} {P : Fault → Prop}

/-- A writer that fails only with errors that meet `P`, when its sticky status is one of them. -/
def FailsWith (P : Fault → Prop) (m : WriteM cap α) : Prop :=
  Fails (fun w => ∀ e, w.status = some e → P e) P m

def NodeId.strings (n : NodeId) : List MuString :=
  match n.identifier with
  | .numeric _ => []
  | .string s => [s]

def Scalar.strings : Scalar → List MuString
  | .string v | .byteString v => [v]
  | .nodeId n => n.strings
  | .qualifiedName _ name => [name]
  | .localizedText locale text => [locale, text]
  | _ => []

def Variant.strings : Variant → List MuString
  | .scalar v => v.strings
  | .array _ _ elements => (elements.getD []).flatMap Scalar.strings

def Encodable (strings : List MuString) : Prop := ∀ s ∈ strings, s.size ≤ maxEncodedStringLength

theorem writeBytes_fails (hP : P .encodingError) (bs : Bytes) :
    FailsWith P (writeBytes bs : WriteM cap Unit) := by
  intro w hw
  cases hs : w.status with
  | some e =>
    rw [writeBytes_run_of_failed hs]
    exact ⟨hw, fun e' he' => Except.error.inj he' ▸ hw e hs⟩
  | none =>
    by_cases hfits : w.bytes.length + bs.length ≤ cap
    · rw [writeBytes_run_of_fits hs hfits]
      exact ⟨hw, nofun⟩
    · rw [writeBytes_run_of_not_fits hs hfits]
      refine ⟨fun e he => ?_, fun e he => ?_⟩
      · exact Option.some.inj he ▸ hP
      · exact Except.error.inj he ▸ hP

theorem writeRaw_fails {e : Fault} (hP : P e) (bs : Bytes) :
    FailsWith P (writeRaw e bs : WriteM cap Unit) := by
  intro w hw
  by_cases hfits : w.bytes.length + bs.length ≤ cap
  · have hrun : (writeRaw e bs).run.run w = (.ok (), w.append bs hfits) := by
      change (dite _ _ _ : WriteM cap Unit).run.run w = _
      rw [dif_pos hfits]
      rfl
    rw [hrun]
    exact ⟨hw, nofun⟩
  · have hrun : (writeRaw e bs).run.run w = (.error e, w) := by
      change (dite _ _ _ : WriteM cap Unit).run.run w = _
      rw [dif_neg hfits]
      rfl
    rw [hrun]
    exact ⟨hw, fun e' he' => Except.error.inj he' ▸ hP⟩

theorem writeString_fails (hP : P .encodingError) {s : MuString} (h : s.size ≤ maxEncodedStringLength) :
    FailsWith P (writeString s : WriteM cap Unit) := by
  cases s with
  | none => exact writeBytes_fails hP _
  | some bs =>
    have hlength : bs.length ≤ maxEncodedStringLength := h
    simp only [writeString]
    rw [if_neg (Nat.not_lt.mpr hlength)]
    exact .bind (writeBytes_fails hP _) (fun _ => writeRaw_fails hP bs)

theorem writeEach_fails {f : α → WriteM cap Unit} {as : List α} (hf : ∀ a ∈ as, FailsWith P (f a)) :
    FailsWith P (writeEach f as) := by
  induction as with
  | nil => exact .pure ()
  | cons a as ih => exact .bind (hf a (.head _)) (fun _ => ih (fun a' ha' => hf a' (.tail _ ha')))

theorem writeNodeId_fails (hP : P .encodingError) {n : NodeId} (h : Encodable n.strings) :
    FailsWith P (writeNodeId n : WriteM cap Unit) := by
  obtain ⟨ns, id | s⟩ := n
  · simp only [writeNodeId]
    refine .ite (fun _ => .bind (writeBytes_fails hP _) (fun _ => writeBytes_fails hP _)) (fun _ =>
      .ite (fun _ => ?_) (fun _ => ?_))
    · exact .bind (writeBytes_fails hP _) (fun _ =>
        .bind (writeBytes_fails hP _) (fun _ => writeBytes_fails hP _))
    · exact .bind (writeBytes_fails hP _) (fun _ =>
        .bind (writeBytes_fails hP _) (fun _ => writeBytes_fails hP _))
  · exact .bind (writeBytes_fails hP _) (fun _ => .bind (writeBytes_fails hP _)
      (fun _ => writeString_fails hP (h s (.head _))))

theorem writeScalarValue_fails (hP : P .encodingError) {v : Scalar} (h : Encodable v.strings) :
    FailsWith P (writeScalarValue v : WriteM cap Unit) := by
  cases v with
  | string v => exact writeString_fails hP (h v (.head _))
  | byteString v => exact writeString_fails hP (h v (.head _))
  | nodeId v => exact writeNodeId_fails hP h
  | qualifiedName ns name =>
    exact .bind (writeBytes_fails hP _) (fun _ => writeString_fails hP (h name (.head _)))
  | localizedText locale text =>
    have htext :
        FailsWith P (if text.isSome = true then writeString text else pure () : WriteM cap Unit) :=
      .ite (fun _ => writeString_fails hP (h text (.tail _ (.head _)))) (fun _ => .pure ())
    refine .bind (writeBytes_fails hP _) (fun _ =>
      .ite (fun _ => .bind ?_ (fun _ => htext)) (fun _ => htext))
    exact writeString_fails hP (h locale (.head _))
  | null => exact .throw hP
  | unsupported tag => exact .throw hP
  | _ => exact writeBytes_fails hP _

theorem writeVariant_fails (hP : P .encodingError) {v : Variant} (h : Encodable v.strings) :
    FailsWith P (writeVariant v : WriteM cap Unit) := by
  cases v with
  | scalar v =>
    exact .bind (writeBytes_fails hP _) (fun _ =>
      .ite (fun _ => writeScalarValue_fails hP h) (fun _ => .pure ()))
  | array type length elements =>
    refine .bind (writeBytes_fails hP _) (fun _ =>
      .ite (fun _ => .bind (writeBytes_fails hP _) (fun _ => ?_)) (fun _ => .pure ()))
    cases elements with
    | none => exact .pure ()
    | some es =>
      have helements :
          FailsWith P (writeEach writeScalarValue (es.take length.toNat) : WriteM cap Unit) := by
        apply writeEach_fails
        intro v hv
        exact writeScalarValue_fails hP (fun s hs =>
          h s (List.mem_flatMap.mpr ⟨v, List.mem_of_mem_take hv, hs⟩))
      refine .ite (fun _ => .ite (fun _ => ?_) (fun _ => helements)) (fun _ => .pure ())
      exact .bind (.throw hP) (fun _ => helements)

theorem writeDataValue_fails (hP : P .encodingError) {v : Variant} (h : Encodable v.strings)
    (status : StatusCode) : FailsWith P (writeDataValue v status : WriteM cap Unit) := by
  refine .bind (writeBytes_fails hP _) (fun _ =>
    .bind (writeVariant_fails hP h) (fun _ => .ite (fun _ => ?_) (fun _ => .pure ())))
  exact writeBytes_fails hP _

end Fails

end MicroOpcua
