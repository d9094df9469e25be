import MicroOpcua.Encoding.ReaderLaws
import MicroOpcua.Encoding.WriterLaws

namespace MicroOpcua

open Lib.LittleEndian Lib.StateRun

variable {α β : Type} {r : Reader} {n cap : Nat}

section Decodes

/-- `m` takes `bs` from the front of what remains, whatever follows, and returns `a`. -/
def Decodes (m : ReadM α) (bs : Bytes) (a : α) : Prop :=
  ∀ (r : Reader) (suffix : Bytes), r.status = none → r.position ≤ r.length → r.remaining = bs ++ suffix →
    m.run.run r = (.ok a, r.advance bs.length)

section

variable {bs suffix : Bytes} (h : r.remaining = bs ++ suffix)

include h

theorem Reader.length_le_of_remaining : bs.length ≤ r.length - r.position := by
  have hle : r.remaining.length ≤ r.length - r.position := List.length_take_le ..
  rw [h, List.length_append] at hle
  omega

theorem Reader.remaining_advance : (r.advance bs.length).remaining = suffix := by
  have hcut : (r.advance bs.length).remaining = r.remaining.drop bs.length := by
    simp only [remaining, here, advance, List.drop_take, List.drop_drop, Nat.sub_add_eq]
  rw [hcut, h, List.drop_left]

theorem Reader.take_here : r.here.take bs.length = bs := by
  have hle := length_le_of_remaining h
  have hcut : r.here.take bs.length = r.remaining.take bs.length := by
    rw [remaining, List.take_take, Nat.min_eq_left hle]
  rw [hcut, h, List.take_left]

end

namespace Decodes

variable {m : ReadM α} {f : α → ReadM β} {bs cs : Bytes} {a : α} {b : β}

theorem bind (hm : Decodes m bs a) (hf : Decodes (f a) cs b) : Decodes (m >>= f) (bs ++ cs) b := by
  intro r suffix hs hpos h
  rw [List.append_assoc] at h
  have hle := Reader.length_le_of_remaining h
  have hpos' : (r.advance bs.length).position ≤ (r.advance bs.length).length := by
    change r.position + bs.length ≤ r.length
    omega
  have hrest := hf (r.advance bs.length) suffix hs hpos' (Reader.remaining_advance h)
  rw [ExceptT.run_bind, run_bind, hm r (cs ++ suffix) hs hpos h]
  refine hrest.trans ?_
  simp only [Reader.advance, List.length_append, Nat.add_assoc]

theorem pure (a : α) : Decodes (Pure.pure a : ReadM α) [] a := fun _ _ _ _ _ => rfl

theorem map (hm : Decodes m bs a) (g : α → β) : Decodes (do return g (← m)) bs (g a) := by
  have hmap := hm.bind (f := fun a => Pure.pure (g a)) (pure (g a))
  rwa [List.append_nil] at hmap

theorem skip {p : Prop} [Decidable p] (hp : ¬ p) {m : ReadM PUnit} {f : PUnit → ReadM β}
    (hf : Decodes (f ()) bs b) : Decodes (if p then m >>= f else f ()) bs b := by
  rw [if_neg hp]
  exact hf

theorem decode (hm : Decodes m bs a) : m.decode (bs ++ cs) = .ok a := by
  refine ReadM.decode_eq_ok.mpr ⟨_, hm (.init (bs ++ cs)) cs rfl (Nat.zero_le _) ?_⟩
  simp [Reader.remaining, Reader.here, Reader.init]

end Decodes

theorem skipBytes_decodes (bs : Bytes) : Decodes (skipBytes bs.length) bs () := fun _ _ _ _ _ => rfl

theorem readBytes_decodes (bs : Bytes) : Decodes (readBytes bs.length) bs bs := by
  intro r suffix hs hpos h
  have hle := Reader.length_le_of_remaining h
  rw [readBytes_run, hs]
  dsimp only
  rw [if_pos ⟨hpos, hle⟩, Reader.take_here h]

theorem readNumber_decodes (ofNat : Nat → α) {v : Nat} (h : v < 256 ^ n) :
    Decodes (do return ofNat (Lib.LittleEndian.get (← readBytes n))) (put n v) (ofNat v) := by
  have hread := (readBytes_decodes (put n v)).map (fun bs => ofNat (Lib.LittleEndian.get bs))
  rwa [put_length, get_put, Nat.mod_eq_of_lt h] at hread

theorem readByte_decodes (v : UInt8) : Decodes readByte [v] v := by
  have hread : Decodes readByte (put 1 v.toNat) (UInt8.ofNat v.toNat) := readNumber_decodes _ v.toNat_lt
  rwa [UInt8.ofNat_toNat, show put 1 v.toNat = [v] by simp [put]] at hread

theorem readBoolean_decodes (v : Bool) : Decodes readBoolean [if v then 1 else 0] v := by
  have hread := (readByte_decodes (if v then 1 else 0)).map (fun b => decide (b ≠ 0))
  cases v <;> exact hread

theorem readUInt16_decodes (v : UInt16) : Decodes readUInt16 (put 2 v.toNat) v := by
  have hread : Decodes readUInt16 (put 2 v.toNat) (UInt16.ofNat v.toNat) :=
    readNumber_decodes _ v.toNat_lt
  rwa [UInt16.ofNat_toNat] at hread

theorem readUInt32_decodes (v : UInt32) : Decodes readUInt32 (put 4 v.toNat) v := by
  have hread : Decodes readUInt32 (put 4 v.toNat) (UInt32.ofNat v.toNat) :=
    readNumber_decodes _ v.toNat_lt
  rwa [UInt32.ofNat_toNat] at hread

theorem readUInt64_decodes (v : UInt64) : Decodes readUInt64 (put 8 v.toNat) v := by
  have hread : Decodes readUInt64 (put 8 v.toNat) (UInt64.ofNat v.toNat) :=
    readNumber_decodes _ v.toNat_lt
  rwa [UInt64.ofNat_toNat] at hread

theorem int32_ofInt {v : Int} (hmin : -2147483648 ≤ v) (hmax : v < 2147483648) :
    int32 (UInt32.ofInt v) = v := by
  have hnat : (UInt32.ofInt v).toBitVec.toNat = (v % 4294967296).toNat := by
    simp only [UInt32.ofInt, UInt32.toNat_toBitVec, UInt32.toNat_ofNat']
    omega
  rw [int32, BitVec.toInt_eq_toNat_cond, hnat]
  split <;> omega

theorem readInt32_decodes {v : Int} (hmin : -2147483648 ≤ v) (hmax : v < 2147483648) :
    Decodes readInt32 (put 4 (UInt32.ofInt v).toNat) v := by
  have hread := (readUInt32_decodes (UInt32.ofInt v)).map int32
  rwa [int32_ofInt hmin hmax] at hread

theorem readCharacters_decodes (bs : Bytes) :
    Decodes (do
      let r ← get
      if bs.length > r.length - r.position then readerFail .decodingError
      set { r with position := r.position + bs.length }
      return some (r.here.take bs.length) : ReadM MuString) bs (some bs) := by
  intro r suffix hs hpos h
  have hle : ¬ bs.length > r.length - r.position := Nat.not_lt.mpr (Reader.length_le_of_remaining h)
  change (if bs.length > r.length - r.position then _ else _ : ReadM MuString).run.run r = _
  rw [if_neg hle]
  change (Except.ok (some (r.here.take bs.length)), r.advance bs.length) = _
  rw [Reader.take_here h]

theorem readString_decodes {s : MuString} (h : s.size ≤ maxEncodedStringLength) :
    Decodes readString (stringBytes s) s := by
  cases s with
  | none =>
    rw [← List.append_nil (stringBytes none)]
    exact (readInt32_decodes (by decide) (by decide)).bind (.pure none)
  | some bs =>
    have hsize : bs.length ≤ 4096 := h
    refine (readInt32_decodes (v := bs.length) (by omega) (by omega)).bind ?_
    rw [if_neg (by omega)]
    refine .skip (by omega) (.skip (by change ¬ (bs.length : Int) > 4096; omega) ?_)
    exact readCharacters_decodes bs

end Decodes

section RoundTrip

def RoundTrip (size : Nat) (write : (cap : Nat) → WriteM cap Unit) (read : ReadM α) (a : α) : Prop :=
  ∃ bs, bs.length = size ∧ (∀ cap, Encodes (write cap) bs) ∧ Decodes read bs a

namespace RoundTrip

variable {write write' : (cap : Nat) → WriteM cap Unit} {read : ReadM α} {f : α → ReadM β} {a : α}
    {b : β} {n k : Nat}

theorem bind (h : RoundTrip n write read a) (h' : RoundTrip k write' (f a) b) :
    RoundTrip (n + k) (fun cap => do write cap; write' cap) (read >>= f) b := by
  obtain ⟨bs, rfl, hw, hr⟩ := h
  obtain ⟨cs, rfl, hw', hr'⟩ := h'
  exact ⟨bs ++ cs, List.length_append, fun cap => (hw cap).bind (hw' cap), hr.bind hr'⟩

theorem pure (a : α) : RoundTrip 0 (fun _ => Pure.pure ()) (Pure.pure a : ReadM α) a := by
  refine ⟨[], rfl, fun cap => ⟨fun w hs h => ?_, fun w hs h => ?_⟩, .pure a⟩
  · simp only [Writer.append, List.append_nil]
    rfl
  · have := w.fits
    simp only [List.length_nil] at h
    omega

theorem map (h : RoundTrip n write read a) {g : α → β} (hg : g a = b) :
    RoundTrip n write (do return g (← read)) b := by
  obtain ⟨bs, hsize, hw, hr⟩ := h
  exact ⟨bs, hsize, hw, hg ▸ hr.map g⟩

theorem congr (h : RoundTrip n write read a) (hw : ∀ cap, write' cap = write cap) :
    RoundTrip n write' read a := by
  rwa [funext hw]

end RoundTrip

theorem byte_roundTrip (v : UInt8) : RoundTrip 1 (fun _ => writeByte v) readByte v :=
  ⟨[v], rfl, fun _ => writeBytes_encodes _, readByte_decodes v⟩

theorem boolean_roundTrip (v : Bool) : RoundTrip 1 (fun _ => writeBoolean v) readBoolean v :=
  ⟨_, rfl, fun _ => writeBytes_encodes _, readBoolean_decodes v⟩

theorem uint16_roundTrip (v : UInt16) : RoundTrip 2 (fun _ => writeUInt16 v) readUInt16 v :=
  ⟨_, put_length .., fun _ => writeBytes_encodes _, readUInt16_decodes v⟩

theorem uint32_roundTrip (v : UInt32) : RoundTrip 4 (fun _ => writeUInt32 v) readUInt32 v :=
  ⟨_, put_length .., fun _ => writeBytes_encodes _, readUInt32_decodes v⟩

theorem uint64_roundTrip (v : UInt64) : RoundTrip 8 (fun _ => writeUInt64 v) readUInt64 v :=
  ⟨_, put_length .., fun _ => writeBytes_encodes _, readUInt64_decodes v⟩

def MuString.Encodable (s : MuString) : Prop := s.size ≤ maxEncodedStringLength

instance (s : MuString) : Decidable s.Encodable :=
  inferInstanceAs (Decidable (s.size ≤ maxEncodedStringLength))

theorem string_roundTrip {s : MuString} (h : s.Encodable) :
    RoundTrip (4 + s.size) (fun _ => writeString s) readString s :=
  ⟨_, stringBytes_length s, fun _ => writeString_encodes h, readString_decodes h⟩

def NodeId.Encodable (n : NodeId) : Prop :=
  match n.identifier with
  | .numeric _ => True
  | .string s => s.Encodable

def NodeId.encodedSize (n : NodeId) : Nat :=
  match n.identifier with
  | .numeric id => if n.namespaceIndex = 0 ∧ id ≤ 255 then 2 else if n.namespaceIndex ≤ 255 ∧
    id ≤ 65535 then 4 else 7
  | .string s => 1 + (2 + (4 + s.size))

theorem toUInt32_toUInt8 {id : UInt32} (h : id ≤ 255) : id.toUInt8.toUInt32 = id := by
  have hle : id.toNat ≤ 255 := h
  apply UInt32.toNat_inj.mp
  simp only [UInt8.toNat_toUInt32, UInt32.toNat_toUInt8]
  omega

theorem toUInt32_toUInt16 {id : UInt32} (h : id ≤ 65535) : id.toUInt16.toUInt32 = id := by
  have hle : id.toNat ≤ 65535 := h
  apply UInt32.toNat_inj.mp
  simp only [UInt16.toNat_toUInt32, UInt32.toNat_toUInt16]
  omega

theorem toUInt16_toUInt8 {ns : UInt16} (h : ns ≤ 255) : ns.toUInt8.toUInt16 = ns := by
  have hle : ns.toNat ≤ 255 := h
  apply UInt16.toNat_inj.mp
  simp only [UInt8.toNat_toUInt16, UInt16.toNat_toUInt8]
  omega

theorem nodeId_roundTrip {n : NodeId} (h : n.Encodable) :
    RoundTrip n.encodedSize (fun _ => writeNodeId n) readNodeId n := by
  obtain ⟨ns, id | s⟩ := n
  · by_cases htwo : ns = 0 ∧ id ≤ 255
    · have hid : (⟨0, .numeric id.toUInt8.toUInt32⟩ : NodeId) = ⟨ns, .numeric id⟩ := by
        rw [htwo.1, toUInt32_toUInt8 htwo.2]
      rw [show NodeId.encodedSize ⟨ns, .numeric id⟩ = 1 + 1 from if_pos htwo]
      exact .congr ((byte_roundTrip 0).bind ((byte_roundTrip id.toUInt8).map hid)) (fun _ => if_pos htwo)
    · by_cases hfour : ns ≤ 255 ∧ id ≤ 65535
      · have hid :
            (⟨ns.toUInt8.toUInt16, .numeric id.toUInt16.toUInt32⟩ : NodeId) = ⟨ns, .numeric id⟩ := by
          rw [toUInt16_toUInt8 hfour.1, toUInt32_toUInt16 hfour.2]
        rw [show NodeId.encodedSize ⟨ns, .numeric id⟩ = 1 + (1 + 2) from
          (if_neg htwo).trans (if_pos hfour)]
        refine .congr
          ((byte_roundTrip 1).bind
            ((byte_roundTrip ns.toUInt8).bind ((uint16_roundTrip id.toUInt16).map hid))) (fun _ => ?_)
        exact (if_neg htwo).trans (if_pos hfour)
      · rw [show NodeId.encodedSize ⟨ns, .numeric id⟩ = 1 + (2 + 4) from
          (if_neg htwo).trans (if_neg hfour)]
        refine .congr
          ((byte_roundTrip 2).bind ((uint16_roundTrip ns).bind ((uint32_roundTrip id).map rfl)))
          (fun _ => ?_)
        exact (if_neg htwo).trans (if_neg hfour)
  · exact (byte_roundTrip 3).bind ((uint16_roundTrip ns).bind ((string_roundTrip h).map rfl))

def Scalar.Encodable : Scalar → Prop
  | .string s | .byteString s | .qualifiedName _ s => s.Encodable
  | .localizedText locale text => locale.Encodable ∧ text.Encodable
  | .nodeId n => n.Encodable
  | .unsupported _ => False
  | _ => True

def MuString.presentSize (s : MuString) : Nat := if s.isSome then 4 + s.size else 0

@[simp] theorem MuString.presentSize_none : MuString.presentSize none = 0 := rfl

def Scalar.encodedSize : Scalar → Nat
  | .null | .unsupported _ => 0
  | .boolean _ | .sbyte _ | .byte _ => 1
  | .int16 _ | .uint16 _ => 2
  | .int32 _ | .uint32 _ | .float _ | .statusCode _ => 4
  | .int64 _ | .uint64 _ | .double _ | .dateTime _ => 8
  | .string s | .byteString s => 4 + s.size
  | .nodeId n => n.encodedSize
  | .qualifiedName _ s => 2 + (4 + s.size)
  | .localizedText locale text => 1 + (locale.presentSize + text.presentSize)

theorem localizedText_roundTrip {locale text : MuString} (hlocale : locale.Encodable)
    (htext : text.Encodable) :
    RoundTrip (1 + (locale.presentSize + text.presentSize))
      (fun _ => writeScalarValue (.localizedText locale text)) (readScalarValue 21)
      (.localizedText locale text) := by
  cases locale with
  | none =>
    rw [MuString.presentSize_none, Nat.zero_add]
    cases text with
    | none => exact .congr ((byte_roundTrip 0).bind (.pure _)) (fun _ => rfl)
    | some t =>
      exact .congr ((byte_roundTrip 2).bind ((string_roundTrip htext).map rfl))
        (fun _ => by simp [writeScalarValue])
  | some l =>
    cases text with
    | none =>
      exact .congr ((byte_roundTrip 1).bind ((string_roundTrip hlocale).map rfl))
        (fun _ => by simp [writeScalarValue])
    | some t =>
      exact .congr
        ((byte_roundTrip 3).bind ((string_roundTrip hlocale).bind ((string_roundTrip htext).map rfl)))
        (fun _ => by simp [writeScalarValue, show (1 ||| 2 : UInt8) = 3 from rfl])

theorem variant_roundTrip {v : Scalar} (h : v.Encodable) :
    RoundTrip (1 + v.encodedSize) (fun _ => writeVariant (.scalar v)) readVariant v := by
  cases v with
  | null => exact .congr ((byte_roundTrip 0).bind (.pure Scalar.null)) (fun _ => rfl)
  | boolean v => exact (byte_roundTrip 1).bind ((boolean_roundTrip v).map rfl)
  | sbyte v => exact (byte_roundTrip 2).bind ((byte_roundTrip v).map rfl)
  | byte v => exact (byte_roundTrip 3).bind ((byte_roundTrip v).map rfl)
  | int16 v => exact (byte_roundTrip 4).bind ((uint16_roundTrip v).map rfl)
  | uint16 v => exact (byte_roundTrip 5).bind ((uint16_roundTrip v).map rfl)
  | int32 v => exact (byte_roundTrip 6).bind ((uint32_roundTrip v).map rfl)
  | uint32 v => exact (byte_roundTrip 7).bind ((uint32_roundTrip v).map rfl)
  | int64 v => exact (byte_roundTrip 8).bind ((uint64_roundTrip v).map rfl)
  | uint64 v => exact (byte_roundTrip 9).bind ((uint64_roundTrip v).map rfl)
  | float v => exact (byte_roundTrip 10).bind ((uint32_roundTrip v).map rfl)
  | double v => exact (byte_roundTrip 11).bind ((uint64_roundTrip v).map rfl)
  | string s => exact (byte_roundTrip 12).bind ((string_roundTrip h).map rfl)
  | dateTime v => exact (byte_roundTrip 13).bind ((uint64_roundTrip v).map rfl)
  | byteString s => exact (byte_roundTrip 15).bind ((string_roundTrip h).map rfl)
  | nodeId n => exact (byte_roundTrip 17).bind ((nodeId_roundTrip h).map rfl)
  | statusCode v => exact (byte_roundTrip 19).bind ((uint32_roundTrip v).map rfl)
  | qualifiedName ns s =>
    exact (byte_roundTrip 20).bind ((uint16_roundTrip ns).bind ((string_roundTrip h).map rfl))
  | localizedText locale text => exact (byte_roundTrip 21).bind (localizedText_roundTrip h.1 h.2)
  | unsupported tag => exact h.elim

theorem optional_roundTrip {write : (cap : Nat) → α → WriteM cap Unit} {read : ReadM α}
    {size : Nat} (o : Option α) (h : ∀ a, RoundTrip size (fun cap => write cap a) read a) :
    RoundTrip (if o.isSome then size else 0) (fun cap => writeOptional (write cap) o)
      (readOptional o.isSome read) o := by
  cases o with
  | none => exact .pure none
  | some a => exact (h a).map rfl

theorem mask_bits (v : DataValue) :
    (decide (v.mask &&& 0x01 ≠ 0) = v.value.isSome ∧ decide (v.mask &&& 0x02 ≠ 0) = v.status.isSome ∧
      decide (v.mask &&& 0x04 ≠ 0) = v.sourceTimestamp.isSome ∧ decide (v.mask &&& 0x08 ≠ 0) =
        v.serverTimestamp.isSome) ∧
    decide (v.mask &&& 0x10 ≠ 0) = false ∧ decide (v.mask &&& 0x20 ≠ 0) = false := by
  unfold DataValue.mask
  generalize v.value.isSome = value
  generalize v.status.isSome = status
  generalize v.sourceTimestamp.isSome = source
  generalize v.serverTimestamp.isSome = server
  decide +revert

def DataValue.Encodable (v : DataValue) : Prop :=
  match v.value with
  | none => True
  | some (.scalar s) => s.Encodable
  | some (.array ..) => False

theorem value_roundTrip {v : DataValue} (h : v.Encodable) :
    ∃ (size : Nat) (scalar : Option Scalar), scalar.map .scalar = v.value ∧
      RoundTrip size (fun _ => writeOptional writeVariant v.value)
      (readOptional v.value.isSome readVariant) scalar := by
  obtain ⟨_ | ⟨s | _⟩, status, source, server⟩ := v
  · exact ⟨0, none, rfl, .pure none⟩
  · exact ⟨1 + s.encodedSize, some s, rfl, (variant_roundTrip h).map rfl⟩
  · exact h.elim

theorem dataValue_roundTrip {v : DataValue} (h : v.Encodable) :
    ∃ size, RoundTrip size (fun _ => v.write) readDataValue v := by
  obtain ⟨⟨hvalue, hstatus, hsource, hserver⟩, hsourcePico, hserverPico⟩ := mask_bits v
  obtain ⟨size, scalar, hscalar, htrip⟩ := value_roundTrip h
  refine ⟨1 +
    (size + ((if v.status.isSome then 4 else 0) + ((if v.sourceTimestamp.isSome then 8 else 0) +
    if v.serverTimestamp.isSome then 8 else 0))), (byte_roundTrip v.mask).bind ?_⟩
  simp only [hvalue, hstatus, hsource, hserver, hsourcePico, hserverPico]
  refine htrip.bind ?_
  refine (optional_roundTrip v.status uint32_roundTrip).bind ?_
  refine (optional_roundTrip v.sourceTimestamp uint64_roundTrip).bind ?_
  exact (optional_roundTrip v.serverTimestamp uint64_roundTrip).map (by rw [hscalar])

end RoundTrip

section Takes

def Takes (m : ReadM α) (P : α → Nat → Prop) : Prop :=
  ∀ (r r' : Reader) (a : α), m.run.run r = (.ok a, r') →
    ∃ k, r'.position = r.position + k ∧ r'.length = r.length ∧ P a k

namespace Takes

variable {m : ReadM α} {f : α → ReadM β} {P : α → Nat → Prop} {Q : β → Nat → Prop}

theorem bind (hm : Takes m P) (hf : ∀ a k, P a k → Takes (f a) (fun b j => Q b (k + j))) :
    Takes (m >>= f) Q := by
  intro r r' b h
  obtain ⟨a, u, hfirst, hrest⟩ := bind_returns.mp h
  obtain ⟨k, hk, hlength, hP⟩ := hm r u a hfirst
  obtain ⟨j, hj, hlength', hQ⟩ := hf a k hP u r' b hrest
  exact ⟨k + j, by omega, hlength'.trans hlength, hQ⟩

theorem pure {a : α} (h : P a 0) : Takes (Pure.pure a : ReadM α) P := by
  intro r r' b hrun
  obtain ⟨rfl, rfl⟩ := pure_returns.mp hrun
  exact ⟨0, rfl, rfl, h⟩

theorem throw (e : Fault) : Takes (throw e : ReadM α) P := fun _ _ _ h => (throw_returns.mp h).elim

theorem map {g : α → β} (hm : Takes m P) (h : ∀ a k, P a k → Q (g a) k) : Takes (do return g (← m)) Q :=
  hm.bind (fun a k hP => pure (h a k hP))

theorem ite {p : Prop} [Decidable p] {m m' : ReadM α} (hm : p → Takes m P) (hm' : ¬ p → Takes m' P) :
    Takes (if p then m else m') P := by
  split
  · exact hm ‹_›
  · exact hm' ‹_›

theorem guard {p : Prop} [Decidable p] {e : Fault} {f : PUnit → ReadM β} (hf : ¬ p → Takes (f ()) Q) :
    Takes (if p then MonadExcept.throw e >>= f else f ()) Q := by
  intro r r' b h
  obtain ⟨hp, hrun⟩ := guard_returns.mp h
  exact hf hp r r' b hrun

end Takes

theorem readBytes_takes (n : Nat) : Takes (readBytes n) (fun _ k => k = n) := by
  intro r r' bs h
  rw [readBytes_run] at h
  cases hs : r.status with
  | some e =>
    rw [hs] at h
    cases h
  | none =>
    rw [hs] at h
    dsimp only at h
    split at h
    · cases h
      exact ⟨n, rfl, rfl, rfl⟩
    · cases h

theorem readByte_takes : Takes readByte (fun _ k => k = 1) := (readBytes_takes 1).map (fun _ _ h => h)

theorem readUInt16_takes : Takes readUInt16 (fun _ k => k = 2) :=
  (readBytes_takes 2).map (fun _ _ h => h)

theorem readUInt32_takes : Takes readUInt32 (fun _ k => k = 4) :=
  (readBytes_takes 4).map (fun _ _ h => h)

theorem readUInt64_takes : Takes readUInt64 (fun _ k => k = 8) :=
  (readBytes_takes 8).map (fun _ _ h => h)

theorem readInt32_takes : Takes readInt32 (fun _ k => k = 4) := readUInt32_takes.map (fun _ _ h => h)

theorem readString_takes : Takes readString (fun s k => s.Encodable ∧ 4 + s.size ≤ k) := by
  refine readInt32_takes.bind (fun n k hk =>
    .ite (fun _ => ?_) (fun _ => .guard (fun hneg => .guard (fun hmax => ?_))))
  · exact .pure ⟨Nat.zero_le _, by simp [MuString.size, hk]⟩
  · intro r r' s h
    change (if n.toNat > r.length - r.position then _ else _ : ReadM MuString).run.run r = _ at h
    split at h
    · obtain ⟨_, _, hfail, -⟩ := bind_returns.mp h
      cases hfail
    · cases h
      have hsize : MuString.size (some (r.here.take n.toNat)) ≤ n.toNat := List.length_take_le ..
      have hmax : n.toNat ≤ maxEncodedStringLength := by omega
      exact ⟨n.toNat, rfl, rfl, hsize.trans hmax, by omega⟩

theorem readNodeId_takes : Takes readNodeId (fun n k => n.Encodable ∧ n.encodedSize ≤ k) := by
  refine readByte_takes.bind (fun mask k hk =>
    .ite (fun _ => ?_) (fun _ =>
      .ite (fun _ => ?_) (fun _ =>
        .ite (fun _ => ?_) (fun _ => .ite (fun _ => ?_) (fun _ => .throw _)))))
  · refine readByte_takes.map (fun b j hj => ⟨trivial, ?_⟩)
    have hid : b.toUInt32 ≤ 255 := by
      have := b.toNat_lt
      change b.toUInt32.toNat ≤ 255
      rw [UInt8.toNat_toUInt32]
      omega
    simp only [NodeId.encodedSize, hid, and_self, if_true]
    omega
  · refine readByte_takes.bind (fun ns j hj => readUInt16_takes.map (fun id l hl => ⟨trivial, ?_⟩))
    have hns : ns.toUInt16 ≤ 255 := by
      have := ns.toNat_lt
      change ns.toUInt16.toNat ≤ 255
      rw [UInt8.toNat_toUInt16]
      omega
    have hid : id.toUInt32 ≤ 65535 := by
      have := id.toNat_lt
      change id.toUInt32.toNat ≤ 65535
      rw [UInt16.toNat_toUInt32]
      omega
    simp only [NodeId.encodedSize, hns, hid, and_self, if_true]
    split <;> omega
  · refine readUInt16_takes.bind (fun ns j hj => readUInt32_takes.map (fun id l hl => ⟨trivial, ?_⟩))
    simp only [NodeId.encodedSize]
    split <;> [skip; split] <;> omega
  · refine readUInt16_takes.bind (fun ns j hj => readString_takes.map (fun s l hl => ⟨hl.1, ?_⟩))
    have := hl.2
    simp only [NodeId.encodedSize]
    omega

theorem MuString.presentSize_le (s : MuString) : s.presentSize ≤ 4 + s.size := by
  unfold presentSize
  split <;> omega

theorem readLocalizedText_takes :
    Takes (do
      let mask ← readByte
      let locale ← if mask &&& 1 ≠ 0 then readString else pure none
      let text ← if mask &&& 2 ≠ 0 then readString else pure none
      return Scalar.localizedText locale text : ReadM Scalar) (fun v k =>
          v.Encodable ∧ v.encodedSize ≤ k) := by
  have hnull : MuString.Encodable none := by decide
  refine readByte_takes.bind (fun mask k hk =>
    .ite (fun _ => readString_takes.bind (fun locale j hlocale => ?_)) (fun _ => ?_))
  · have := locale.presentSize_le
    refine .ite (fun _ => readString_takes.map (fun text l htext => ⟨⟨hlocale.1, htext.1⟩, ?_⟩))
      (fun _ => .pure ⟨⟨hlocale.1, hnull⟩, ?_⟩)
    · have := text.presentSize_le
      simp only [Scalar.encodedSize]
      omega
    · simp only [Scalar.encodedSize, MuString.presentSize_none]
      omega
  · refine .ite (fun _ => readString_takes.map (fun text l htext => ⟨⟨hnull, htext.1⟩, ?_⟩)) (fun _ =>
      .pure ⟨⟨hnull, hnull⟩, ?_⟩)
    · have := text.presentSize_le
      simp only [Scalar.encodedSize, MuString.presentSize_none]
      omega
    · simp only [Scalar.encodedSize, MuString.presentSize_none]
      omega

theorem readScalarValue_takes (type : UInt8) :
    Takes (readScalarValue type) (fun v k => v.Encodable ∧ v.encodedSize ≤ k) := by
  have hnumber {α : Type} {n : Nat} {m : ReadM α} {g : α → Scalar} (hm : Takes m (fun _ k => k = n))
      (hg : ∀ a, (g a).Encodable ∧ (g a).encodedSize = n) :
      Takes (do return g (← m)) (fun v k => v.Encodable ∧ v.encodedSize ≤ k) :=
    hm.map (fun a k hk => ⟨(hg a).1, (hg a).2.le.trans hk.ge⟩)
  unfold readScalarValue
  split
  · exact .pure ⟨trivial, Nat.le_refl _⟩
  · exact hnumber (readByte_takes.map (fun _ _ h => h)) (fun _ => ⟨trivial, rfl⟩)
  · exact hnumber readByte_takes (fun _ => ⟨trivial, rfl⟩)
  · exact hnumber readByte_takes (fun _ => ⟨trivial, rfl⟩)
  · exact hnumber readUInt16_takes (fun _ => ⟨trivial, rfl⟩)
  · exact hnumber readUInt16_takes (fun _ => ⟨trivial, rfl⟩)
  · exact hnumber readUInt32_takes (fun _ => ⟨trivial, rfl⟩)
  · exact hnumber readUInt32_takes (fun _ => ⟨trivial, rfl⟩)
  · exact hnumber readUInt64_takes (fun _ => ⟨trivial, rfl⟩)
  · exact hnumber readUInt64_takes (fun _ => ⟨trivial, rfl⟩)
  · exact hnumber readUInt32_takes (fun _ => ⟨trivial, rfl⟩)
  · exact hnumber readUInt64_takes (fun _ => ⟨trivial, rfl⟩)
  · exact readString_takes.map (fun _ _ h => h)
  · exact hnumber readUInt64_takes (fun _ => ⟨trivial, rfl⟩)
  · exact readString_takes.map (fun _ _ h => h)
  · exact readNodeId_takes.map (fun _ _ h => h)
  · exact hnumber readUInt32_takes (fun _ => ⟨trivial, rfl⟩)
  · refine readUInt16_takes.bind (fun ns k hk => readString_takes.map (fun s j h => ⟨h.1, ?_⟩))
    have := h.2
    simp only [Scalar.encodedSize]
    omega
  · exact readLocalizedText_takes
  · exact .throw _

theorem readVariant_takes : Takes readVariant (fun v k => v.Encodable ∧ 1 + v.encodedSize ≤ k) := by
  refine readByte_takes.bind (fun mask k hk => .guard (fun _ => ?_))
  intro r r' v h
  obtain ⟨j, hj, hlength, hv, hsize⟩ := readScalarValue_takes _ r r' v h
  exact ⟨j, hj, hlength, hv, by omega⟩

end Takes

end MicroOpcua
