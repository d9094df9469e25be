import MicroOpcua.Encoding.RoundTrip
import MicroOpcua.Encoding.Uadp

namespace MicroOpcua

open Lib.LittleEndian Lib.StateRun

section Bounds

/-- Calls of the decoders, with what they return. A caller, and the callback that decodes the body of an
ExtensionObject, makes them one after the other and chooses each by how the ones before it ended. The
signed, floating-point and StatusCode reads take the same bytes as the unsigned ones of their size. -/
inductive Decoding : Type → Type 1 where
  | done {α : Type} (result : Except Fault α) : Decoding α
  | andThen {α β : Type} (first : Decoding α) (rest : Except Fault α → Decoding β) : Decoding β
  | boolean : Decoding Bool
  | byte : Decoding UInt8
  | uint16 : Decoding UInt16
  | int32 : Decoding Int
  | uint32 : Decoding UInt32
  | uint64 : Decoding UInt64
  | arrayLength : Decoding Int
  | string : Decoding MuString
  | bytestring : Decoding MuString
  | nodeId : Decoding NodeId
  | expandedNodeId : Decoding ExpandedNodeId
  | qualifiedName : Decoding (UInt16 × MuString)
  | variant : Decoding Scalar
  | dataValue : Decoding DataValue
  | extensionObjectHeader : Decoding (NodeId × Nat)
  | extensionObjectBody {α : Type} (length : Nat) (decoder : Decoding α) : Decoding α
  | skipExtensionObject : Decoding Unit
  | contentFilter (maxElements maxOperands : Nat) : Decoding (List ContentFilterElement)

def observe {α : Type} (m : ReadM α) : ReadM (Except Fault α) := ExceptT.mk (do return .ok (← m.run))

def Decoding.run {α : Type} : Decoding α → ReadM α
  | .done result => ExceptT.mk (pure result)
  | .andThen first rest => do (rest (← observe first.run)).run
  | .boolean => readBoolean
  | .byte => readByte
  | .uint16 => readUInt16
  | .int32 => readInt32
  | .uint32 => readUInt32
  | .uint64 => readUInt64
  | .arrayLength => readArrayLength
  | .string => readString
  | .bytestring => readBytestring
  | .nodeId => readNodeId
  | .expandedNodeId => readExpandedNodeId
  | .qualifiedName => readQualifiedName
  | .variant => readVariant
  | .dataValue => readDataValue
  | .extensionObjectHeader => readExtensionObjectHeader
  | .extensionObjectBody length decoder => readExtensionObjectBody length decoder.run
  | .skipExtensionObject => MicroOpcua.skipExtensionObject
  | .contentFilter maxElements maxOperands => contentFilterDecode maxElements maxOperands

theorem observe_bounded {α : Type} {m : ReadM α} (hm : Bounded m) : Bounded (observe m) := by
  intro r h
  obtain ⟨hbuffer, hlength, hforward, hinside, hblind⟩ := hm r h
  refine ⟨hbuffer, hlength, hforward, hinside, fun memory hagree => ?_⟩
  change (Except.ok (m.run.run (r.onMemory memory)).1, (m.run.run (r.onMemory memory)).2) = _
  rw [hblind memory hagree]
  rfl

theorem Decoding.bounded {α : Type} (d : Decoding α) : Bounded d.run := by
  induction d with
  | done result => exact fun r h => .of_kept result h (fun _ => rfl)
  | andThen first rest ihfirst ihrest => exact (observe_bounded ihfirst).bind ihrest
  | boolean => exact readByte_bounded.map _
  | byte => exact readByte_bounded
  | uint16 => exact readUInt16_bounded
  | int32 => exact readInt32_bounded
  | uint32 => exact readUInt32_bounded
  | uint64 => exact readUInt64_bounded
  | arrayLength => exact readArrayLength_bounded
  | string => exact readString_bounded
  | bytestring => exact readString_bounded
  | nodeId => exact readNodeId_bounded
  | expandedNodeId => exact readExpandedNodeId_bounded
  | qualifiedName => exact readQualifiedName_bounded
  | variant => exact readVariant_bounded
  | dataValue => exact readDataValue_bounded
  | extensionObjectHeader => exact readExtensionObjectHeader_bounded
  | extensionObjectBody length decoder ih => exact readExtensionObjectBody_bounded ih length
  | skipExtensionObject => exact skipExtensionObject_bounded
  | contentFilter maxElements maxOperands => exact contentFilterDecode_bounded _ _

def Reader.within (bytes beyond : Bytes) (position : Nat) (status : Option Fault) : Reader :=
  ⟨bytes ++ beyond, bytes.length, position, status⟩

theorem Decoding.within {α : Type} (d : Decoding α) (bytes : Bytes) {position : Nat}
    (status : Option Fault) (h : position ≤ bytes.length) :
    ∃ result position' status', position ≤ position' ∧ position' ≤ bytes.length ∧
      ∀ beyond, d.run.run.run (.within bytes beyond position status) =
        (result, .within bytes beyond position' status') := by
  obtain ⟨-, hlength, hforward, hinside, hblind⟩ := d.bounded (.within bytes [] position status) h
  refine ⟨(d.run.run.run (.within bytes [] position status)).1, _,
    (d.run.run.run (.within bytes [] position status)).2.status, hforward, hinside, fun beyond => ?_⟩
  have hagree : (Reader.within bytes [] position status).Agrees (bytes ++ beyond) := by
    simp [Reader.Agrees, Reader.within]
  refine (hblind (bytes ++ beyond) hagree).trans (congrArg (Prod.mk _) ?_)
  rw [Reader.onMemory, hlength]
  rfl

/-- The reader after the calls, each made whether or not the ones before it failed. -/
def afterCalls (calls : List ((α : Type) × Decoding α)) (r : Reader) : Reader :=
  calls.foldl (fun r call => (call.2.run.run.run r).2) r

theorem afterCalls_within (calls : List ((α : Type) × Decoding α)) (bytes : Bytes) {position : Nat}
    (status : Option Fault) (h : position ≤ bytes.length) :
    ∃ position' status', position' ≤ bytes.length ∧
      ∀ beyond, afterCalls calls (.within bytes beyond position status) =
        .within bytes beyond position' status' := by
  induction calls generalizing position status with
  | nil => exact ⟨position, status, h, fun _ => rfl⟩
  | cons call calls ih =>
    obtain ⟨result, position', status', -, hinside, hcall⟩ := call.2.within bytes status h
    obtain ⟨position'', status'', hle, hcalls⟩ := ih status' hinside
    refine ⟨position'', status'', hle, fun beyond => ?_⟩
    change afterCalls calls (call.2.run.run.run _).2 = _
    rw [hcall, hcalls]

/-- Whatever calls were made before it, a call moves the position forward, not past the end of the
buffer, and returns and leaves the same for every memory behind the buffer. -/
theorem decoders_stay_inside_buffer (bytes : Bytes) {position : Nat} (status : Option Fault)
    (h : position ≤ bytes.length) (calls : List ((α : Type) × Decoding α)) {α : Type}
    (call : Decoding α) :
    ∃ before statusBefore after statusAfter result, before ≤ after ∧ after ≤ bytes.length ∧ ∀ beyond,
      afterCalls calls (.within bytes beyond position status) =
        .within bytes beyond before statusBefore ∧
      call.run.run.run (.within bytes beyond before statusBefore) =
        (result, .within bytes beyond after statusAfter) := by
  obtain ⟨before, statusBefore, hbefore, hcalls⟩ := afterCalls_within calls bytes status h
  obtain ⟨result, after, statusAfter, hforward, hinside, hcall⟩ := call.within bytes statusBefore hbefore
  exact ⟨before, statusBefore, after, statusAfter, result, hforward, hinside, fun beyond =>
    ⟨hcalls beyond, hcall beyond⟩⟩

theorem decoders_stay_inside_buffer_failed_skip :
    ∃ before statusBefore after statusAfter result, before ≤ after ∧ after ≤ 6 ∧ ∀ beyond,
      afterCalls [⟨_, .byte⟩, ⟨_, .skipExtensionObject⟩]
      (.within [0, 0, 0, 1, 0xFF, 0xFF] beyond 0 none) =
        .within [0, 0, 0, 1, 0xFF, 0xFF] beyond before statusBefore ∧
      Decoding.dataValue.run.run.run (.within [0, 0, 0, 1, 0xFF, 0xFF] beyond before statusBefore) =
        (result, .within [0, 0, 0, 1, 0xFF, 0xFF] beyond after statusAfter) :=
  decoders_stay_inside_buffer [0, 0, 0, 1, 0xFF, 0xFF] none (Nat.zero_le _) _ _

end Bounds

section DataValues

theorem datavalue_decodes_as_written {v : DataValue} (h : v.Encodable) : ∃ bs : Bytes,
      (∀ (cap : Nat) (w : Writer cap) (_ : w.status = none) (hfits : w.bytes.length + bs.length ≤ cap),
        v.write.run.run w = (.ok (), w.append bs hfits)) ∧
      ∀ suffix,
          readDataValue.run.run (.init (bs ++ suffix)) =
            (.ok v, (Reader.init (bs ++ suffix)).advance bs.length) := by
  obtain ⟨-, bs, -, hwrite, hread⟩ := dataValue_roundTrip h
  refine ⟨bs, fun cap => (hwrite cap).fits, fun suffix =>
    hread (.init (bs ++ suffix)) suffix rfl (Nat.zero_le _) ?_⟩
  simp [Reader.remaining, Reader.here, Reader.init]

theorem datavalue_decodes_as_written_text : ∃ bs : Bytes,
      (∀ (cap : Nat) (w : Writer cap) (_ : w.status = none) (hfits : w.bytes.length + bs.length ≤ cap),
        (DataValue.mk (some (.scalar (.localizedText none (some [0x6F, 0x6B])))) none
          (some 7) none).write.run.run w = (.ok (), w.append bs hfits)) ∧ ∀ suffix,
            readDataValue.run.run (.init (bs ++ suffix)) =
        (.ok ⟨some (.scalar (.localizedText none (some [0x6F, 0x6B]))), none, some 7, none⟩,
          (Reader.init (bs ++ suffix)).advance bs.length) :=
  datavalue_decodes_as_written (v := ⟨some (.scalar (.localizedText none (some [0x6F, 0x6B]))),
    none, some 7, none⟩) ⟨by decide, by decide⟩

end DataValues

section Uadp

variable {α β : Type} {cap : Nat}

/-- The fields that reach a subscriber: scalars of a supported type with no string too long. -/
def PubSubField.Encodable : PubSubField → Prop
  | .variant (.scalar v) => v.Encodable
  | _ => False

def PubSubField.encodedSize : PubSubField → Nat
  | .variant (.scalar v) => 1 + v.encodedSize
  | _ => 0

def uadpMessageSize (fields : List PubSubField) : Nat := 12 + (fields.map PubSubField.encodedSize).sum

def Reader.Backed (r : Reader) : Prop := r.length ≤ r.buffer.length

variable {r r' : Reader}

theorem Reader.Backed.remaining_length (h : r.Backed) : r.remaining.length = r.length - r.position := by
  have hb : r.length ≤ r.buffer.length := h
  simp only [remaining, here, List.length_take, List.length_drop]
  omega

variable {room maxFields : Nat} (conn : PubSubConnection) {capacity : Nat} {writer : DataSetWriter}
    {bs : Bytes} {vs : List Scalar}

theorem orDecodingError_decodes {m : ReadM α} {a : α} (hm : Decodes m bs a) :
    Decodes (orDecodingError m) bs a := by
  intro r suffix hs hpos h
  rw [orDecodingError, run_tryCatch, hm r suffix hs hpos h]

theorem orDecodingError_takes {m : ReadM α} {P : α → Nat → Prop} (hm : Takes m P) :
    Takes (orDecodingError m) P := by
  intro r r' a h
  rw [orDecodingError, run_tryCatch] at h
  cases hrun : m.run.run r with
  | mk result u =>
    rw [hrun] at h
    cases result with
    | error e => cases h
    | ok b =>
      cases h
      exact hm r u a hrun

theorem readByte_returns {b : UInt8} (h : readByte.run.run r = (.ok b, r')) : b = r.here.headD 0 := by
  obtain ⟨bs, u, hbs, hpure⟩ := bind_returns.mp h
  obtain ⟨rfl, rfl⟩ := pure_returns.mp hpure
  have htake : bs = r.here.take 1 := by
    rw [readBytes_run] at hbs
    split at hbs
    · cases hbs
    · split at hbs
      · cases hbs
        rfl
      · cases hbs
  rw [htake]
  cases r.here with
  | nil => rfl
  | cons b bs => simp [Lib.LittleEndian.get]

theorem readVariant_supported {v : Scalar} (h : readVariant.run.run r = (.ok v, r')) :
    uadpVariantEncodingIsUnsupported (r.here.headD 0) = false := by
  obtain ⟨mask, u, hmask, h⟩ := bind_returns.mp h
  obtain ⟨hbits, h⟩ := guard_returns.mp h
  have hhead := readByte_returns hmask
  rw [← hhead]
  have htype : mask &&& 0x3F ∉ ([14, 16, 18, 22, 23, 24, 25] : List UInt8) := by
    intro hmem
    simp only [List.mem_cons, List.not_mem_nil, or_false] at hmem
    obtain htype | htype | htype | htype | htype | htype | htype := hmem <;> rw [htype] at h <;> cases h
  simp only [uadpVariantEncodingIsUnsupported, hbits, htype, or_self, decide_false]

def DecodesRest (m : ReadM α) (bs : Bytes) (a : α) : Prop :=
  ∀ r : Reader, r.status = none → r.position ≤ r.length → r.Backed → r.remaining = bs →
    m.run.run r = (.ok a, r.advance bs.length)

theorem readUadpFields_nil (room : Nat) : DecodesRest (readUadpFields room) [] [] := by
  intro r hs hpos hbacked h
  have hend : ¬ r.position < r.length := by
    have hlen := hbacked.remaining_length
    rw [h, List.length_nil] at hlen
    omega
  cases room with
  | zero =>
    change (if r.position < r.length then _ else _ : ReadM (List Scalar)).run.run r = _
    rw [if_neg hend]
    rfl
  | succ room =>
    change (if r.position < r.length then _ else _ : ReadM (List Scalar)).run.run r = _
    rw [if_neg hend]
    rfl

theorem readUadpFields_cons {v : Scalar} {cs : Bytes} (hbs : bs ≠ [])
    (hv : Decodes readVariant bs v) (hvs : DecodesRest (readUadpFields room) cs vs) :
    DecodesRest (readUadpFields (room + 1)) (bs ++ cs) (v :: vs) := by
  intro r hs hpos hbacked h
  have hle := Reader.length_le_of_remaining h
  have hmore : r.position < r.length := by
    have := List.length_pos_iff.mpr hbs
    omega
  have hvariant := hv r cs hs hpos h
  have hsupported := readVariant_supported hvariant
  have hrest := hvs (r.advance bs.length) hs (by change r.position + bs.length ≤ r.length; omega) hbacked
    (Reader.remaining_advance h)
  change (if r.position < r.length then
    (if uadpVariantEncodingIsUnsupported (r.here.headD 0) = true then _ else _) else _ :
      ReadM (List Scalar)).run.run r = _
  rw [if_pos hmore, hsupported, if_neg (by decide)]
  rw [ExceptT.run_bind, run_bind, orDecodingError_decodes hv r cs hs hpos h]
  change (do return v :: (← readUadpFields room) : ReadM (List Scalar)).run.run (r.advance bs.length) = _
  rw [ExceptT.run_bind, run_bind, hrest]
  simp only [Reader.advance, List.length_append, Nat.add_assoc]
  rfl

theorem DecodesRest.bind {m : ReadM α} {f : α → ReadM β} {cs : Bytes} {a : α} {b : β}
    (hm : Decodes m bs a) (hf : DecodesRest (f a) cs b) : DecodesRest (m >>= f) (bs ++ cs) b := by
  intro r hs hpos hbacked h
  have hle := Reader.length_le_of_remaining h
  have hrest := hf (r.advance bs.length) hs (by change r.position + bs.length ≤ r.length; omega) hbacked
    (Reader.remaining_advance h)
  rw [ExceptT.run_bind, run_bind, hm r cs hs hpos h]
  refine hrest.trans ?_
  simp only [Reader.advance, List.length_append, Nat.add_assoc]

theorem DecodesRest.skip {p : Prop} [Decidable p] {m : ReadM PUnit} {f : PUnit → ReadM β}
    {b : β} (hp : ¬ p) (hf : DecodesRest (f ()) bs b) :
    DecodesRest (if p then m >>= f else f ()) bs b := by
  rw [if_neg hp]
  exact hf

theorem fields_roundTrip {fields : List PubSubField} (h : ∀ f ∈ fields, f.Encodable) :
    ∃ (vs : List Scalar) (bs : Bytes), fields = vs.map (fun v => .variant (.scalar v)) ∧
      bs.length = (fields.map PubSubField.encodedSize).sum ∧
      (∀ cap, Puts (writeEach (fun f => uncheckedWrite f.write) fields : WriteM cap Unit) bs) ∧
      ∀ room, fields.length ≤ room → DecodesRest (readUadpFields room) bs vs := by
  induction fields with
  | nil =>
    refine ⟨[], [], rfl, rfl, fun cap w hs hfits => ?_, fun room _ => readUadpFields_nil room⟩
    simp only [Writer.append, List.append_nil]
    rfl
  | cons f fields ih =>
    obtain ⟨vs, cs, rfl, hcs, hputs, hreads⟩ := ih (fun f hf => h f (List.mem_cons_of_mem _ hf))
    have hf := h f List.mem_cons_self
    obtain ⟨v | _⟩ | _ := f
    · obtain ⟨bs, hbs, hwrite, hread⟩ := variant_roundTrip hf
      refine ⟨v :: vs, bs ++ cs, rfl, ?_, fun cap => ?_, fun room hroom => ?_⟩
      · rw [List.length_append, hbs, hcs]
        rfl
      · exact Puts.bind (Puts.unchecked (hwrite cap).fits) (hputs cap)
      · obtain _ | room := room
        · simp at hroom
        · have hne : bs ≠ [] := by
            rintro rfl
            simp at hbs
            omega
          exact readUadpFields_cons hne hread (hreads room (by simpa using hroom))
    all_goals exact hf.elim

def uadpHeader (conn : PubSubConnection) (writer : DataSetWriter) : Bytes :=
  [uadpNetworkFlags] ++
    ([uadpPublisherIdUInt32] ++
      (put 4 conn.publisherId.toNat ++ ([1] ++ put 2 writer.dataSetWriterId.toNat)))

theorem writeUadpHeader_puts (writer : DataSetWriter) :
    Puts (writeUadpHeader conn.publisherId writer.dataSetWriterId : WriteM cap Unit)
      (uadpHeader conn writer) :=
  (writeBytes_puts _).bind
    ((writeBytes_puts _).bind ((writeBytes_puts _).bind ((writeBytes_puts _).bind (writeBytes_puts _))))

theorem readDataSetMessage_decodes (h : DecodesRest (readUadpFields room) bs vs) :
    DecodesRest (readDataSetMessage room) ([uadpDataSetFlags] ++ bs) vs := by
  refine DecodesRest.bind (orDecodingError_decodes (readByte_decodes _)) (.skip (by decide) ?_)
  intro r hs hpos hbacked hrem
  have hend : ¬ r.position + bs.length ≠ r.length := by
    have := hbacked.remaining_length
    rw [hrem] at this
    omega
  rw [ExceptT.run_bind, run_bind, h r hs hpos hbacked hrem]
  change (if r.position + bs.length ≠ r.length then _ else _ : ReadM (List Scalar)).run.run _ = _
  rw [if_neg hend]
  rfl

theorem readUadpNetworkMessage_decodes (writer : DataSetWriter)
    {body : Bytes} (hsize : body.length ≤ 0xFFFF)
    (h : DecodesRest (readDataSetMessage (min capacity maxFields)) body vs) :
    DecodesRest (readUadpNetworkMessage maxFields capacity)
      (uadpHeader conn writer ++ (put 2 body.length ++ body))
      ⟨conn.publisherId, writer.dataSetWriterId, vs⟩ := by
  have hlen : (UInt16.ofNat body.length).toNat = body.length := by
    rw [UInt16.toNat_ofNat']
    omega
  rw [← hlen]
  simp only [uadpHeader, List.append_assoc]
  refine .bind (orDecodingError_decodes (readByte_decodes _)) (.skip (by decide) ?_)
  refine .bind (orDecodingError_decodes (readByte_decodes _)) (.skip (by decide) (.skip (by decide) ?_))
  refine .bind (orDecodingError_decodes (readUInt32_decodes _)) ?_
  refine .bind (orDecodingError_decodes (readByte_decodes _)) (.skip (by decide) ?_)
  refine .bind (orDecodingError_decodes (readUInt16_decodes _)) ?_
  refine .bind (orDecodingError_decodes (readUInt16_decodes _)) ?_
  intro r hs hpos hbacked hrem
  have hrest : r.length - r.position = body.length := by rw [← hbacked.remaining_length, hrem]
  have htake : r.here.take body.length = body := by rw [← hrest]; exact hrem
  have hmemory : body.length ≤ r.here.length := by
    have := List.length_take_le' body.length r.here
    rwa [htake] at this
  have hbody := h ⟨r.here, body.length, 0, none⟩ rfl (Nat.zero_le _) hmemory htake
  change (if (UInt16.ofNat body.length).toNat ≠ r.length - r.position then
    _ else _ : ReadM ReceivedMessage).run.run r = _
  rw [if_neg (by rw [hlen, hrest]; exact not_not_intro rfl), hlen]
  rw [hbody]
  change (if r.position + body.length ≠ r.length then _ else _ : ReadM ReceivedMessage).run.run
    (r.advance body.length) = _
  rw [if_neg (by omega)]
  rfl

theorem Puts.returned {m : WriteM cap Unit} (hm : Puts m bs) {w w' : Writer cap} {u : Unit}
    (hrun : m.run.run w = (.ok u, w')) (hs : w.status = none) (h : w.bytes.length + bs.length ≤ cap) :
    w'.bytes = w.bytes ++ bs ∧ w'.status = none := by
  rw [hm w hs h] at hrun
  cases hrun
  exact ⟨rfl, hs⟩

theorem writeUadpNetworkMessage_encode {conn : PubSubConnection} {bytes : Encoded cap}
    (hputs : Puts (writeEach (fun f => uncheckedWrite f.write) writer.fields : WriteM cap Unit) bs)
    (hfits : 12 + bs.length ≤ cap)
    (h : (writeUadpNetworkMessage conn writer : WriteM cap Unit).encode = .ok bytes) :
    1 + bs.length ≤ 0xFFFF ∧
      bytes.val = uadpHeader conn writer ++ (put 2 (1 + bs.length) ++ ([uadpDataSetFlags] ++ bs)) := by
  have hheader : (uadpHeader conn writer).length = 9 := by simp [uadpHeader]
  cases hrun : (writeUadpNetworkMessage conn writer : WriteM cap Unit).run.run Writer.init with
  | mk result w =>
    rw [WriteM.encode, hrun] at h
    cases result with
    | error e => cases h
    | ok =>
      obtain rfl := Except.ok.inj h
      obtain ⟨_, w₁, h₁, hrun⟩ := bind_returns.mp hrun
      obtain ⟨hw₁, hs₁⟩ :=
        (writeUadpHeader_puts conn writer).returned h₁ rfl (by simp [Writer.init, hheader]; omega)
      have hlen₁ : w₁.bytes.length = 9 := by simp [hw₁, Writer.init, hheader]
      obtain ⟨_, _, hget, hrun⟩ := bind_returns.mp hrun
      cases hget
      obtain ⟨_, w₂, h₂, hrun⟩ := bind_returns.mp hrun
      obtain ⟨hw₂, hs₂⟩ := (writeBytes_puts (put 2 0)).returned h₂ hs₁ (by simp [hlen₁]; omega)
      have hlen₂ : w₂.bytes.length = 11 := by simp [hw₂, hlen₁]
      obtain ⟨_, _, hget, hrun⟩ := bind_returns.mp hrun
      cases hget
      obtain ⟨_, w₃, h₃, hrun⟩ := bind_returns.mp hrun
      obtain ⟨hw₃, hs₃⟩ := (writeBytes_puts [uadpDataSetFlags]).returned h₃ hs₂ (by simp [hlen₂]; omega)
      have hlen₃ : w₃.bytes.length = 12 := by simp [hw₃, hlen₂]
      obtain ⟨_, w₄, h₄, hrun⟩ := bind_returns.mp hrun
      obtain ⟨hw₄, hs₄⟩ := hputs.returned h₄ hs₃ (by simp [hlen₃]; omega)
      have hlen₄ : w₄.bytes.length = 12 + bs.length := by simp [hw₄, hlen₃]
      obtain ⟨_, w₅, h₅, hrun⟩ := bind_returns.mp hrun
      obtain rfl : w₄ = w₅ := by
        obtain ⟨bytes, status, fits⟩ := w₄
        obtain rfl : status = none := hs₄
        cases h₅
        rfl
      obtain ⟨_, _, hget, hrun⟩ := bind_returns.mp hrun
      cases hget
      obtain ⟨hsize, hrun⟩ := guard_returns.mp hrun
      cases hrun
      have hmessage : w₄.position - w₂.position = 1 + bs.length := by
        simp only [Writer.position, hlen₄, hlen₂]
        omega
      rw [hmessage] at hsize
      refine ⟨by omega, ?_⟩
      change overwrite w₄.bytes w₁.bytes.length
        (put 2 (UInt16.ofNat (w₄.position - w₂.position)).toNat) = _
      rw [hmessage, UInt16.toNat_ofNat', Nat.mod_eq_of_lt (by omega), hw₄, hw₃, hw₂, List.append_assoc,
        List.append_assoc, overwrite_middle _ _ (by simp), hw₁]
      rfl

def fieldsSize (vs : List Scalar) : Nat := (vs.map (fun v => 1 + v.encodedSize)).sum

theorem readUadpFields_takes (room : Nat) :
    Takes (readUadpFields room) (fun vs k => (∀ v ∈ vs, v.Encodable) ∧ fieldsSize vs ≤ k) := by
  have hnil {r r' : Reader} {vs : List Scalar}
    (h : (pure [] : ReadM (List Scalar)).run.run r = (.ok vs, r')) :
      ∃ k, r'.position = r.position + k ∧ r'.length = r.length ∧ (∀ v ∈ vs, v.Encodable) ∧
      fieldsSize vs ≤ k :=
    Takes.pure (P := fun vs k => (∀ v ∈ vs, v.Encodable) ∧ fieldsSize vs ≤ k) ⟨nofun,
      Nat.le_refl _⟩ r r' vs h
  induction room with
  | zero =>
    intro r r' vs h
    change (if r.position < r.length then _ else _ : ReadM (List Scalar)).run.run r = _ at h
    exact hnil (guard_returns.mp h).2
  | succ room ih =>
    intro r r' vs h
    change (if r.position < r.length then _ else _ : ReadM (List Scalar)).run.run r = _ at h
    split at h
    · have hcons : Takes (do
          let v ← orDecodingError readVariant
          return v :: (← readUadpFields room)) (fun vs k =>
              (∀ v ∈ vs, v.Encodable) ∧ fieldsSize vs ≤ k) := by
        refine (orDecodingError_takes readVariant_takes).bind (fun v k hv =>
          ih.map (fun vs j hvs => ⟨?_, ?_⟩))
        · intro u hu
          obtain rfl | hu := List.mem_cons.mp hu
          · exact hv.1
          · exact hvs.1 u hu
        · have := hv.2
          have := hvs.2
          simp only [fieldsSize, List.map_cons, List.sum_cons] at *
          omega
      exact hcons r r' vs (guard_returns.mp h).2
    · exact hnil h

theorem readUadpFields_length
    (h : (readUadpFields room).run.run r = (.ok vs, r')) : vs.length ≤ room := by
  induction room generalizing r r' vs with
  | zero =>
    change (if r.position < r.length then _ else _ : ReadM (List Scalar)).run.run r = _ at h
    obtain ⟨rfl, -⟩ := pure_returns.mp (guard_returns.mp h).2
    exact Nat.le_refl _
  | succ room ih =>
    change (if r.position < r.length then _ else _ : ReadM (List Scalar)).run.run r = _ at h
    split at h
    · obtain ⟨v, u, -, h⟩ := bind_returns.mp (guard_returns.mp h).2
      obtain ⟨vs', u', hvs, h⟩ := bind_returns.mp h
      obtain ⟨rfl, -⟩ := pure_returns.mp h
      exact Nat.succ_le_succ (ih hvs)
    · obtain ⟨rfl, -⟩ := pure_returns.mp h
      exact Nat.zero_le _

theorem readDataSetMessage_returns (h : (readDataSetMessage room).run.run r = (.ok vs, r')) :
    (∀ v ∈ vs, v.Encodable) ∧ vs.length ≤ room ∧ r.position + 1 + fieldsSize vs ≤ r.length := by
  obtain ⟨flags, u, hflags, h⟩ := bind_returns.mp h
  obtain ⟨k, hk, hlength, rfl⟩ := orDecodingError_takes readByte_takes _ _ _ hflags
  obtain ⟨fields, u', hfields, h⟩ := bind_returns.mp (guard_returns.mp h).2
  obtain ⟨j, hj, hlength', hv, hsize⟩ := readUadpFields_takes room _ _ _ hfields
  obtain ⟨_, _, hget, h⟩ := bind_returns.mp h
  cases hget
  obtain ⟨hend, h⟩ := guard_returns.mp h
  obtain ⟨rfl, rfl⟩ := pure_returns.mp h
  exact ⟨hv, readUadpFields_length hfields, by omega⟩

/-- A NetworkMessage that is decoded has fields that can be encoded, as many as can be stored, and the
bytes they need. -/
theorem decodeUadpNetworkMessage_fields {buffer : Bytes} {message : ReceivedMessage}
    (h : decodeUadpNetworkMessage maxFields capacity buffer = .ok message) :
    (∀ v ∈ message.fields, v.Encodable) ∧ message.fields.length ≤ min capacity maxFields ∧
      1 + fieldsSize message.fields ≤ 0xFFFF ∧ 12 + fieldsSize message.fields ≤ buffer.length := by
  obtain ⟨r', h⟩ := ReadM.decode_eq_ok.mp h
  obtain ⟨flags, u₁, h₁, h⟩ := bind_returns.mp h
  obtain ⟨extended, u₂, h₂, h⟩ := bind_returns.mp (guard_returns.mp h).2
  obtain ⟨publisherId, u₃, h₃, h⟩ := bind_returns.mp (guard_returns.mp (guard_returns.mp h).2).2
  obtain ⟨count, u₄, h₄, h⟩ := bind_returns.mp h
  obtain ⟨writerId, u₅, h₅, h⟩ := bind_returns.mp (guard_returns.mp h).2
  obtain ⟨size, u₆, h₆, h⟩ := bind_returns.mp h
  obtain ⟨_, hk₁, hl₁, rfl⟩ := orDecodingError_takes readByte_takes _ _ _ h₁
  obtain ⟨_, hk₂, hl₂, rfl⟩ := orDecodingError_takes readByte_takes _ _ _ h₂
  obtain ⟨_, hk₃, hl₃, rfl⟩ := orDecodingError_takes readUInt32_takes _ _ _ h₃
  obtain ⟨_, hk₄, hl₄, rfl⟩ := orDecodingError_takes readByte_takes _ _ _ h₄
  obtain ⟨_, hk₅, hl₅, rfl⟩ := orDecodingError_takes readUInt16_takes _ _ _ h₅
  obtain ⟨_, hk₆, hl₆, rfl⟩ := orDecodingError_takes readUInt16_takes _ _ _ h₆
  have hposition : u₆.position = 11 := by
    rw [hk₆, hk₅, hk₄, hk₃, hk₂, hk₁]
    rfl
  have hlength : u₆.length = buffer.length := by
    rw [hl₆, hl₅, hl₄, hl₃, hl₂, hl₁]
    rfl
  obtain ⟨_, _, hget, h⟩ := bind_returns.mp h
  cases hget
  obtain ⟨hsize, h⟩ := guard_returns.mp h
  obtain ⟨_, u₇, hskip, h⟩ := bind_returns.mp h
  split at h
  · exact (throw_returns.mp h).elim
  · rename_i fields body hbody
    obtain ⟨hencodable, hcount, hfits⟩ := readDataSetMessage_returns hbody
    obtain ⟨_, _, hget, h⟩ := bind_returns.mp h
    cases hget
    obtain ⟨hend, h⟩ := guard_returns.mp h
    obtain ⟨rfl, rfl⟩ := pure_returns.mp h
    change 0 + 1 + fieldsSize fields ≤ size.toNat at hfits
    have hlt := size.toNat_lt
    exact ⟨hencodable, hcount, by change 1 + fieldsSize fields ≤ _; omega,
      by change 12 + fieldsSize fields ≤ _; omega⟩

theorem fieldsSize_eq (vs : List Scalar) :
    ((vs.map (fun v => PubSubField.variant (.scalar v))).map PubSubField.encodedSize).sum =
      fieldsSize vs := by
  rw [List.map_map]
  rfl

theorem decodeUadpNetworkMessage_written {conn : PubSubConnection}
    {bytes : Bytes} (hsize : 1 + bs.length ≤ 0xFFFF)
    (hreads : DecodesRest (readUadpFields (min capacity maxFields)) bs vs)
    (hbytes : bytes = uadpHeader conn writer ++ (put 2 (1 + bs.length) ++ ([uadpDataSetFlags] ++ bs))) :
    decodeUadpNetworkMessage maxFields capacity bytes =
      .ok ⟨conn.publisherId, writer.dataSetWriterId, vs⟩ := by
  have hbody := readDataSetMessage_decodes hreads
  have hmessage :=
    readUadpNetworkMessage_decodes conn writer (by rw [List.length_append]; exact hsize) hbody
  have hlength : ([uadpDataSetFlags] ++ bs).length = 1 + bs.length := List.length_append
  have hdecode := hmessage (.init bytes) rfl (Nat.zero_le _) (Nat.le_refl _)
    (by rw [hlength, ← hbytes]; exact List.take_of_length_le (Nat.le_refl _))
  exact congrArg Prod.fst hdecode

/-- The other direction: with room for the message and a size that its field can hold, the encoder
returns. -/
theorem writeUadpNetworkMessage_returns
    (hputs : Puts (writeEach (fun f => uncheckedWrite f.write) writer.fields : WriteM cap Unit) bs)
    (hfits : 12 + bs.length ≤ cap) (hsize : 1 + bs.length ≤ 0xFFFF) :
    ∃ bytes, (writeUadpNetworkMessage conn writer : WriteM cap Unit).encode = .ok bytes := by
  have hheader : (uadpHeader conn writer).length = 9 := by simp [uadpHeader]
  have hfits₁ : (Writer.init : Writer cap).bytes.length + (uadpHeader conn writer).length ≤ cap := by
    simp [Writer.init, hheader]
    omega
  let w₁ : Writer cap := Writer.init.append (uadpHeader conn writer) hfits₁
  have hlen₁ : w₁.bytes.length = 9 := by simp [w₁, Writer.append, Writer.init, hheader]
  have hfits₂ : w₁.bytes.length + (put 2 0).length ≤ cap := by simp [hlen₁]; omega
  let w₂ : Writer cap := w₁.append (put 2 0) hfits₂
  have hlen₂ : w₂.bytes.length = 11 := by simp [w₂, Writer.append, hlen₁]
  have hfits₃ : w₂.bytes.length + [uadpDataSetFlags].length ≤ cap := by simp [hlen₂]; omega
  let w₃ : Writer cap := w₂.append [uadpDataSetFlags] hfits₃
  have hlen₃ : w₃.bytes.length = 12 := by simp [w₃, Writer.append, hlen₂]
  have hfits₄ : w₃.bytes.length + bs.length ≤ cap := by omega
  let w₄ : Writer cap := w₃.append bs hfits₄
  have hlen₄ : w₄.bytes.length = 12 + bs.length := by simp [w₄, Writer.append, hlen₃]
  have hsmall : ¬ w₄.position - w₂.position > 0xFFFF := by
    simp only [Writer.position, hlen₄, hlen₂]
    omega
  have hend : (checkWriter >>= fun _ => get >>= fun w =>
      if w.position - w₂.position > 0xFFFF then throw Fault.encodingLimitsExceeded >>= fun _ : PUnit =>
        patchU16 w₁.position (UInt16.ofNat (w.position - w₂.position))
      else patchU16 w₁.position (UInt16.ofNat (w.position - w₂.position)) : WriteM cap Unit).run.run w₄ =
      (.ok (),
          ((patchU16 w₁.position (UInt16.ofNat (w₄.position - w₂.position)) : WriteM cap Unit).run.run
            w₄).2) :=
    bind_returns.mpr ⟨(), w₄, rfl, bind_returns.mpr ⟨w₄, w₄, rfl, guard_returns.mpr ⟨hsmall, rfl⟩⟩⟩
  have hrun :
      (writeUadpNetworkMessage conn writer : WriteM cap Unit).run.run Writer.init = (.ok (), _) :=
    bind_returns.mpr ⟨(), w₁, writeUadpHeader_puts conn writer _ rfl hfits₁,
      bind_returns.mpr ⟨w₁, w₁, rfl, bind_returns.mpr ⟨(), w₂, writeBytes_puts (put 2 0) w₁ rfl hfits₂,
        bind_returns.mpr ⟨w₂, w₂, rfl,
          bind_returns.mpr ⟨(), w₃, writeBytes_puts [uadpDataSetFlags] w₂ rfl hfits₃,
            bind_returns.mpr ⟨(), w₄, hputs w₃ rfl hfits₄, hend⟩⟩⟩⟩⟩⟩
  exact ⟨_, by rw [WriteM.encode, hrun]⟩

/-- What was received can be sent on: it is encoded into no more bytes, and received again as the same
message. -/
theorem uadp_message_reencoded {maxFields capacity bufferSize : Nat} {buffer : Bytes}
    {message : ReceivedMessage} (h : decodeUadpNetworkMessage maxFields capacity buffer = .ok message)
    (hroom : buffer.length ≤ bufferSize) :
    ∃ bytes, encodeUadpNetworkMessage maxFields ⟨message.publisherId⟩
        ⟨message.dataSetWriterId, message.fields.map (fun v => .variant (.scalar v))⟩ bufferSize =
          .ok bytes ∧
      bytes.val.length ≤ buffer.length ∧ decodeUadpNetworkMessage maxFields capacity bytes.val =
          .ok message := by
  obtain ⟨hencodable, hcount, hsize, hbytes⟩ := decodeUadpNetworkMessage_fields h
  let writer : DataSetWriter :=
    ⟨message.dataSetWriterId, message.fields.map (fun v => .variant (.scalar v))⟩
  have hfields : ∀ f ∈ writer.fields, f.Encodable := by
    intro f hf
    obtain ⟨v, hv, rfl⟩ := List.mem_map.mp hf
    exact hencodable v hv
  obtain ⟨vs, bs, hvs, hbs, hputs, hreads⟩ := fields_roundTrip hfields
  have hlength : bs.length = fieldsSize message.fields := hbs.trans (fieldsSize_eq message.fields)
  have hsame : message.fields = vs := by
    refine List.map_injective_iff.mpr (fun v w hvw => ?_) hvs
    injection hvw with hvw
    injection hvw
  have hfits : 12 + bs.length ≤ bufferSize := by omega
  obtain ⟨bytes, hencode⟩ :=
    writeUadpNetworkMessage_returns ⟨message.publisherId⟩ (hputs bufferSize) hfits (by omega)
  obtain ⟨hsmall, hcontent⟩ := writeUadpNetworkMessage_encode (hputs bufferSize) hfits hencode
  have hfew : ¬ writer.fields.length > maxFields := by
    simp only [writer, List.length_map]
    omega
  have hscalar : ¬ writer.fields.any PubSubField.isArray = true := by simp [writer, PubSubField.isArray]
  refine ⟨bytes, ?_, ?_, ?_⟩
  · unfold encodeUadpNetworkMessage
    refine guard_eq_ok.mpr ⟨hfew, ?_⟩
    exact guard_eq_ok.mpr ⟨hscalar, hencode⟩
  · rw [hcontent]
    simp [uadpHeader]
    omega
  · have hroom :
      writer.fields.length ≤
      min capacity maxFields := by simpa only [writer, List.length_map] using hcount
    rw [decodeUadpNetworkMessage_written hsmall (hreads (min capacity maxFields) hroom)
      hcontent, ← hsame]

/-- A NodeId in four bytes where two are enough. -/
theorem uadp_message_reencoded_node_id :
    ∃ bytes,
      encodeUadpNetworkMessage 8 ⟨7⟩ ⟨3, [.variant (.scalar (.nodeId ⟨0, .numeric 5⟩))]⟩ 17 = .ok bytes ∧
      bytes.val.length ≤ 17 ∧
      decodeUadpNetworkMessage 8 1 bytes.val = .ok ⟨7, 3, [.nodeId ⟨0, .numeric 5⟩]⟩ := by
  have hdecode : decodeUadpNetworkMessage 8 1 [0xD1, 2, 7, 0, 0, 0, 1, 3, 0, 6, 0, 1, 17, 1, 0, 5, 0] =
      .ok ⟨7, 3, [.nodeId ⟨0, .numeric 5⟩]⟩ := by decide +kernel
  exact uadp_message_reencoded hdecode (Nat.le_refl 17)

end Uadp

end MicroOpcua
