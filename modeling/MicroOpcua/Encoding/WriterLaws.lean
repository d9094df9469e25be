import MicroOpcua.Encoding.Writer

namespace MicroOpcua

open Lib.LittleEndian Lib.StateRun

variable {cap n k : Nat} {α β : Type}

def Writer.append (w : Writer cap) (bs : Bytes) (h : w.bytes.length + bs.length ≤ cap) : Writer cap :=
  ⟨w.bytes ++ bs, w.status, by simpa using h⟩

variable {w : Writer cap}

theorem writeBytes_run_of_fits {bs : Bytes} (hs : w.status = none)
    (h : w.bytes.length + bs.length ≤ cap) : (writeBytes bs).run.run w = (.ok (), w.append bs h) := by
  rcases w with ⟨bytes, status, fits⟩
  obtain rfl : status = none := hs
  change (dite _ _ _ : WriteM cap Unit).run.run _ = _
  rw [dif_pos h]
  rfl

theorem writeBytes_run_of_not_fits {bs : Bytes} (hs : w.status = none)
    (h : ¬ w.bytes.length + bs.length ≤ cap) :
    (writeBytes bs).run.run w = (.error .encodingError, { w with status := some .encodingError }) := by
  rcases w with ⟨bytes, status, fits⟩
  obtain rfl : status = none := hs
  change (dite _ _ _ : WriteM cap Unit).run.run _ = _
  rw [dif_neg h]
  rfl

theorem writeBytes_run_of_failed {bs : Bytes} {e : Fault} (hs : w.status = some e) :
    (writeBytes bs).run.run w = (.error e, w) := by
  rcases w with ⟨bytes, status, fits⟩
  obtain rfl : status = some e := hs
  rfl

section Grows

def Grows (n : Nat) (m : WriteM cap α) : Prop := Moves (fun s t => t.bytes.length ≤ s.bytes.length + n) m

namespace Grows

theorem bind {m : WriteM cap α} {f : α → WriteM cap β} (hm : Grows n m) (hf : ∀ a, Grows k (f a)) :
    Grows (n + k) (m >>= f) := by
  refine Moves.bind_of hm (fun s t h => by omega) (fun s a _ h => ?_)
  have := hf a (m.run.run s).2
  omega

theorem mono {m : WriteM cap α} (hm : Grows n m) (h : n ≤ k) : Grows k m :=
  Moves.mono hm (fun s t hst => by omega)

theorem throw (e : Fault) : Grows n (throw e : WriteM cap α) := fun _ => Nat.le_add_right ..

end Grows

theorem writeBytes_grows (bs : Bytes) : Grows bs.length (writeBytes bs : WriteM cap Unit) := by
  intro w
  cases hs : w.status with
  | some e => simp [writeBytes_run_of_failed hs]
  | none =>
    by_cases h : w.bytes.length + bs.length ≤ cap
    · simp [writeBytes_run_of_fits hs h, Writer.append]
    · simp [writeBytes_run_of_not_fits hs h]

theorem writeUInt32_grows (v : UInt32) : Grows 4 (writeUInt32 v : WriteM cap Unit) := by
  simpa [writeUInt32] using writeBytes_grows (put 4 v.toNat)

theorem writeUInt64_grows (v : UInt64) : Grows 8 (writeUInt64 v : WriteM cap Unit) := by
  simpa [writeUInt64] using writeBytes_grows (put 8 v.toNat)

theorem writeNodeId_grows (id : UInt32) : Grows 7 (writeNodeId (.ns0 id) : WriteM cap Unit) := by
  have hshort : Grows 2 (do writeByte 0; writeByte id.toUInt8 : WriteM cap Unit) :=
    .bind (writeBytes_grows _) (fun _ => writeBytes_grows _)
  have hfour (v : UInt8) :
      Grows 4 (do writeByte 1; writeByte v; writeUInt16 id.toUInt16 : WriteM cap Unit) :=
    .bind (writeBytes_grows _) (fun _ => .bind (writeBytes_grows _) (fun _ => writeBytes_grows _))
  have hlong : Grows 7 (do writeByte 2; writeUInt16 0; writeUInt32 id : WriteM cap Unit) :=
    .bind (writeBytes_grows _) (fun _ => .bind (writeBytes_grows _) (fun _ => writeBytes_grows _))
  change Grows 7 (ite _ _ (ite _ _ _) : WriteM cap Unit)
  split
  · exact hshort.mono (by omega)
  · split
    · exact (hfour _).mono (by omega)
    · exact hlong

theorem writeResponsePrefix_grows (id handle : UInt32) (status : StatusCode) :
    Grows 31 (writeResponsePrefix id handle status : WriteM cap Unit) := by
  have hnull : Grows 3 (writeExtensionObjectHeader (.ns0 0) 0 : WriteM cap Unit) :=
    .bind (.bind (writeBytes_grows _) (fun _ => writeBytes_grows _)) (fun _ => writeBytes_grows _)
  exact .bind (writeNodeId_grows id) (fun _ =>
    .bind (writeUInt64_grows _) (fun _ =>
        .bind (writeUInt32_grows _) (fun _ =>
            .bind (writeUInt32_grows _) (fun _ => .bind (writeBytes_grows _) (fun _ =>
      .bind (writeUInt32_grows _) (fun _ => hnull))))))

theorem uncheckedWrite_grows {m : WriteM cap Unit} (hm : Grows n m) : Grows n (uncheckedWrite m) := by
  intro w
  have h := hm w
  rw [uncheckedWrite, run_tryCatch]
  split <;> exact h

theorem checkWriter_grows : Grows 0 (checkWriter : WriteM cap Unit) := by
  rintro ⟨bytes, status, fits⟩
  cases status <;> exact Nat.le_refl _

theorem writeRaw_grows (e : Fault) (bs : Bytes) : Grows bs.length (writeRaw e bs : WriteM cap Unit) := by
  intro w
  change ((dite _ _ _ : WriteM cap Unit).run.run w).2.bytes.length ≤ _
  split
  · change (w.bytes ++ bs).length ≤ _
    simp
  · exact Nat.le_add_right ..

theorem writeString_grows (s : MuString) : Grows (4 + s.size) (writeString s : WriteM cap Unit) := by
  cases s with
  | none => exact (writeUInt32_grows _).mono (by omega)
  | some bs =>
    simp only [writeString]
    split
    · exact .mono
        (.bind (.throw (n := 0) _) (fun _ => .bind (writeUInt32_grows _) (fun _ => writeRaw_grows _ bs)))
        (by simp [MuString.size])
    · exact .bind (writeUInt32_grows _) (fun _ => writeRaw_grows _ bs)

end Grows

section Encodes

/-- `m` writes `bs`, or fails when the buffer has no room for it. -/
structure Encodes (m : WriteM cap Unit) (bs : Bytes) : Prop where
  fits : ∀ (w : Writer cap) (_ : w.status = none) (h : w.bytes.length + bs.length ≤ cap),
    m.run.run w = (.ok (), w.append bs h)
  fails : ∀ w : Writer cap, w.status = none → cap < w.bytes.length + bs.length →
    ∃ e w', m.run.run w = (.error e, w')

namespace Encodes

theorem bind {m : WriteM cap Unit} {f : Unit → WriteM cap Unit} {bs cs : Bytes} (hm : Encodes m bs)
    (hf : Encodes (f ()) cs) : Encodes (m >>= f) (bs ++ cs) := by
  constructor
  · intro w hs h
    rw [List.length_append] at h
    have hfirst : w.bytes.length + bs.length ≤ cap := by omega
    have hrest : (w.append bs hfirst).bytes.length + cs.length ≤ cap := by
      simp only [Writer.append, List.length_append]
      omega
    rw [ExceptT.run_bind, run_bind, hm.fits w hs hfirst]
    refine (hf.fits (w.append bs hfirst) hs hrest).trans ?_
    simp [Writer.append]
  · intro w hs h
    by_cases hfirst : w.bytes.length + bs.length ≤ cap
    · have hrest : cap < (w.append bs hfirst).bytes.length + cs.length := by
        simp only [Writer.append, List.length_append] at h ⊢
        omega
      obtain ⟨e, w', hrun⟩ := hf.fails (w.append bs hfirst) hs hrest
      refine ⟨e, w', ?_⟩
      rw [ExceptT.run_bind, run_bind, hm.fits w hs hfirst]
      exact hrun
    · obtain ⟨e, w', hrun⟩ := hm.fails w hs (by omega)
      refine ⟨e, w', ?_⟩
      rw [ExceptT.run_bind, run_bind, hrun]
      rfl

theorem encode {m : WriteM cap Unit} {bs : Bytes} (hm : Encodes m bs) (h : bs.length ≤ cap) :
    m.encode = .ok ⟨bs, h⟩ := by
  have hrun := hm.fits Writer.init rfl (by simpa [Writer.init] using h)
  simp only [WriteM.encode, hrun]
  rfl

end Encodes

theorem writeBytes_encodes (bs : Bytes) : Encodes (writeBytes bs : WriteM cap Unit) bs :=
  ⟨fun _ hs h => writeBytes_run_of_fits hs h, fun _ hs h =>
    ⟨_, _, writeBytes_run_of_not_fits hs (by omega)⟩⟩

theorem writeUInt32_encodes (v : UInt32) : Encodes (writeUInt32 v : WriteM cap Unit) (put 4 v.toNat) :=
  writeBytes_encodes _

theorem writeRaw_encodes (e : Fault) (bs : Bytes) : Encodes (writeRaw e bs : WriteM cap Unit) bs := by
  constructor
  · intro w _ hfits
    change (dite _ _ _ : WriteM cap Unit).run.run w = _
    rw [dif_pos hfits]
    rfl
  · intro w _ hfits
    refine ⟨e, w, ?_⟩
    change (dite _ _ _ : WriteM cap Unit).run.run w = _
    rw [dif_neg (by omega)]
    rfl

def stringBytes : MuString → Bytes
  | none => put 4 (UInt32.ofInt (-1)).toNat
  | some bs => put 4 (UInt32.ofInt bs.length).toNat ++ bs

@[simp] theorem stringBytes_length (s : MuString) : (stringBytes s).length = 4 + s.size := by
  cases s <;> simp [stringBytes, MuString.size]

theorem writeString_encodes {s : MuString} (h : s.size ≤ maxEncodedStringLength) :
    Encodes (writeString s : WriteM cap Unit) (stringBytes s) := by
  cases s with
  | none => exact writeUInt32_encodes _
  | some bs =>
    have hle : ¬ bs.length > maxEncodedStringLength := Nat.not_lt.mpr h
    simp only [writeString, hle, if_false]
    exact .bind (writeUInt32_encodes _) (writeRaw_encodes _ bs)

theorem writeNodeId_encodes {id : UInt32} (h : 255 < id ∧ id ≤ 65535) :
    Encodes (writeNodeId (.ns0 id) : WriteM cap Unit) ([1] ++ ([0] ++ put 2 id.toUInt16.toNat)) := by
  have hbig : ¬ id ≤ 255 := UInt32.not_le.mpr h.1
  simp only [writeNodeId, NodeId.ns0, hbig, and_false, if_false, UInt16.zero_le, h.2, and_self, if_true]
  exact .bind (writeBytes_encodes _) (.bind (writeBytes_encodes _) (writeBytes_encodes _))

def responsePrefix (responseTypeId requestHandle : UInt32) (serviceResult : StatusCode) : Bytes :=
  ([1] ++ ([0] ++ put 2 responseTypeId.toUInt16.toNat)) ++ (put 8 0 ++ (put 4 requestHandle.toNat ++
    (put 4 serviceResult.toNat ++ ([0] ++ (put 4 (UInt32.ofInt (-1)).toNat ++ (([0] ++ [0]) ++ [0]))))))

@[simp] theorem responsePrefix_length (id handle : UInt32) (status : StatusCode) :
    (responsePrefix id handle status).length = 28 := by
  simp [responsePrefix]

theorem writeResponsePrefix_encodes {id : UInt32} (h : 255 < id ∧ id ≤ 65535) (handle : UInt32)
    (status : StatusCode) :
    Encodes (writeResponsePrefix id handle status : WriteM cap Unit)
      (responsePrefix id handle status) := by
  have hnull : Encodes (writeNodeId (.ns0 0) : WriteM cap Unit) ([0] ++ [0]) :=
    .bind (writeBytes_encodes _) (writeBytes_encodes _)
  exact .bind (writeNodeId_encodes h) (.bind (writeBytes_encodes _) (.bind (writeBytes_encodes _)
    (.bind (writeBytes_encodes _) (.bind (writeBytes_encodes _) (.bind (writeBytes_encodes _)
      (.bind hnull (writeBytes_encodes _)))))))

theorem writeServiceFault_encode (h : 28 ≤ cap) (handle : UInt32) (status : StatusCode) :
    (writeServiceFault handle status : WriteM cap Unit).encode =
      .ok ⟨responsePrefix serviceFaultId handle status, by simpa using h⟩ :=
  (writeResponsePrefix_encodes (by decide) handle status).encode _

end Encodes

section Emits

def Emits (m : WriteM cap Unit) (bs : Bytes) : Prop :=
  ∀ w w' : Writer cap, w.status = none → m.run.run w = (.ok (), w') → ∃ h, w' = w.append bs h

variable {m : WriteM cap Unit}

theorem Encodes.emits {bs : Bytes} (hm : Encodes m bs) : Emits m bs := by
  intro w w' hs hrun
  by_cases h : w.bytes.length + bs.length ≤ cap
  · rw [hm.fits w hs h] at hrun
    exact ⟨h, (Prod.ext_iff.mp hrun).2.symm⟩
  · obtain ⟨e, u, hfail⟩ := hm.fails w hs (by omega)
    rw [hfail] at hrun
    cases hrun

theorem Emits.bind {f : Unit → WriteM cap Unit} {bs cs : Bytes} (hm : Emits m bs)
    (hf : Emits (f ()) cs) : Emits (m >>= f) (bs ++ cs) := by
  intro w w' hs hrun
  obtain ⟨⟨⟩, u, hfirst, hrest⟩ := bind_returns.mp hrun
  obtain ⟨h, rfl⟩ := hm w u hs hfirst
  obtain ⟨h', rfl⟩ := hf (w.append bs h) w' hs hrest
  refine ⟨by simpa [Writer.append, Nat.add_assoc] using h', ?_⟩
  simp only [Writer.append, List.append_assoc]

theorem Emits.encode {bs : Bytes} {r : Encoded cap} (hm : Emits m bs)
    (h : m.encode = .ok r) : r.1 = bs := by
  unfold WriteM.encode at h
  split at h
  · rename_i w hrun
    obtain ⟨hfits, rfl⟩ := hm _ _ rfl hrun
    rw [← Except.ok.inj h]
    rfl
  · cases h

theorem writeString_emits (s : MuString) : Emits (writeString s : WriteM cap Unit) (stringBytes s) := by
  by_cases h : s.size ≤ maxEncodedStringLength
  · exact (writeString_encodes h).emits
  · intro w w' hs hrun
    cases s with
    | none => exact absurd (Nat.zero_le _) h
    | some bs =>
      simp only [writeString, guard_returns] at hrun
      exact absurd (Nat.not_lt.mp hrun.1) h

end Emits

section Puts

def Puts (m : WriteM cap Unit) (bs : Bytes) : Prop :=
  ∀ (w : Writer cap) (_ : w.status = none) (h : w.bytes.length + bs.length ≤ cap),
    m.run.run w = (.ok (), w.append bs h)

theorem Puts.bind {m : WriteM cap Unit} {f : Unit → WriteM cap Unit} {bs cs : Bytes} (hm : Puts m bs)
    (hf : Puts (f ()) cs) : Puts (m >>= f) (bs ++ cs) := by
  intro w hs h
  rw [List.length_append] at h
  have hfirst : w.bytes.length + bs.length ≤ cap := by omega
  have hrest : (w.append bs hfirst).bytes.length + cs.length ≤ cap := by
    simp only [Writer.append, List.length_append]
    omega
  rw [ExceptT.run_bind, run_bind, hm w hs hfirst]
  refine (hf (w.append bs hfirst) hs hrest).trans ?_
  simp only [Writer.append, List.append_assoc]

theorem Puts.unchecked {m : WriteM cap Unit} {bs : Bytes} (hm : Puts m bs) :
    Puts (uncheckedWrite m) bs := by
  intro w hs h
  rw [uncheckedWrite, run_tryCatch, hm w hs h]

theorem writeBytes_puts (bs : Bytes) : Puts (uncheckedWrite (writeBytes bs) : WriteM cap Unit) bs :=
  Puts.unchecked (writeBytes_encodes bs).fits

theorem Puts.check {f : Unit → WriteM cap Unit} {bs : Bytes} (hf : Puts (f ()) bs) :
    Puts (checkWriter >>= f) bs := by
  intro w hs h
  have hrun : (checkWriter >>= f).run.run w = (f ()).run.run w := by
    obtain ⟨bytes, status, fits⟩ := w
    obtain rfl : status = none := hs
    rfl
  rw [hrun]
  exact hf w hs h

end Puts

section Sized

def Sized (n : Nat) (m : WriteM cap Unit) : Prop := ∃ bs, Encodes m bs ∧ bs.length = n

variable {f : Unit → WriteM cap Unit}

theorem Sized.bind {m : WriteM cap Unit} (hm : Sized n m) (hf : Sized k (f ())) :
    Sized (n + k) (m >>= f) := by
  obtain ⟨bs, hbs, rfl⟩ := hm
  obtain ⟨cs, hcs, rfl⟩ := hf
  exact ⟨bs ++ cs, hbs.bind hcs, List.length_append⟩

theorem writeBytes_sized (bs : Bytes) : Sized bs.length (writeBytes bs : WriteM cap Unit) :=
  ⟨bs, writeBytes_encodes bs, rfl⟩

theorem writeUInt32_sized (v : UInt32) : Sized 4 (writeUInt32 v : WriteM cap Unit) :=
  ⟨_, writeUInt32_encodes v, by simp⟩

theorem writeString_sized {s : MuString} (h : s.size ≤ maxEncodedStringLength) :
    Sized (4 + s.size) (writeString s : WriteM cap Unit) :=
  ⟨_, writeString_encodes h, by simp⟩

theorem writeEach_sized {f : α → WriteM cap Unit} {size : α → Nat} {as : List α}
    (hf : ∀ a ∈ as, Sized (size a) (f a)) : Sized (as.map size).sum (writeEach f as) := by
  induction as with
  | nil =>
    exact ⟨[], ⟨fun w _ _ => by simp [Writer.append]; rfl, fun w _ h =>
      absurd w.fits (by simpa using h)⟩, rfl⟩
  | cons a as ih => exact .bind (hf a (.head _)) (ih (fun a' ha' => hf a' (.tail _ ha')))

/-- What a write puts into a buffer with room for it is what it writes whenever it returns. -/
theorem Sized.emits {m : WriteM cap Unit} {bs : Bytes} (hm : Sized bs.length m) (hput : Puts m bs) :
    Emits m bs := by
  obtain ⟨cs, hcs, hlen⟩ := hm
  intro w w' hs hrun
  by_cases hfits : w.bytes.length + bs.length ≤ cap
  · rw [hput w hs hfits] at hrun
    exact ⟨hfits, (Prod.mk.inj hrun).2.symm⟩
  · obtain ⟨e, u, hfails⟩ := hcs.fails w hs (by omega)
    rw [hfails] at hrun
    cases hrun

/-- `m` writes `n` bytes and notices when a write before it has failed. -/
structure Notices (n : Nat) (m : WriteM cap Unit) : Prop where
  sized : Sized n m
  stops : ∀ w : Writer cap, w.status ≠ none → ∃ e w', m.run.run w = (.error e, w')

theorem Notices.check (hf : Sized n (f ())) : Notices n (checkWriter >>= f) := by
  have hrun (w : Writer cap) (hw : w.status = none) :
      (checkWriter >>= f).run.run w = (f ()).run.run w := by
    obtain ⟨bytes, status, fits⟩ := w
    obtain rfl : status = none := hw
    rfl
  obtain ⟨bs, hbs, hlen⟩ := hf
  refine ⟨⟨bs, ⟨fun w hw h => ?_, fun w hw h => ?_⟩, hlen⟩, fun w hw => ?_⟩
  · rw [hrun w hw]
    exact hbs.fits w hw h
  · rw [hrun w hw]
    exact hbs.fails w hw h
  · obtain ⟨bytes, status, fits⟩ := w
    obtain ⟨e, rfl⟩ := Option.ne_none_iff_exists'.mp hw
    exact ⟨e, _, rfl⟩

theorem Notices.unchecked (bs : Bytes) (hf : Notices n (f ())) :
    Notices (bs.length + n) (uncheckedWrite (writeBytes bs) >>= f) := by
  have hrun (w : Writer cap) :
      (uncheckedWrite (writeBytes bs) >>= f).run.run w =
        (f ()).run.run ((writeBytes bs).run.run w).2 := by
    rw [ExceptT.run_bind, run_bind, uncheckedWrite, run_tryCatch]
    cases ((writeBytes bs).run.run w).1 <;> rfl
  obtain ⟨⟨cs, hcs, rfl⟩, hstops⟩ := hf
  refine ⟨⟨bs ++ cs, ⟨fun w hw h => ?_, fun w hw h => ?_⟩, List.length_append⟩, fun w hw => ?_⟩
  · rw [List.length_append] at h
    have hfirst : w.bytes.length + bs.length ≤ cap := by omega
    have hrest : (w.append bs hfirst).bytes.length + cs.length ≤ cap := by
      simp only [Writer.append, List.length_append]
      omega
    rw [hrun, writeBytes_run_of_fits hw hfirst]
    refine (hcs.fits (w.append bs hfirst) hw hrest).trans ?_
    simp [Writer.append]
  · rw [hrun]
    by_cases hfirst : w.bytes.length + bs.length ≤ cap
    · rw [writeBytes_run_of_fits hw hfirst]
      apply hcs.fails (w.append bs hfirst) hw
      simp only [Writer.append, List.length_append] at h ⊢
      omega
    · rw [writeBytes_run_of_not_fits hw hfirst]
      exact hstops _ (Option.some_ne_none _)
  · obtain ⟨e, he⟩ := Option.ne_none_iff_exists'.mp hw
    rw [hrun, writeBytes_run_of_failed he]
    exact hstops w hw

def nodeIdSize (id : UInt32) : Nat :=
  if id ≤ 255 then 1 + 1 else if id ≤ 65535 then 1 + (1 + 2) else 1 + (2 + 4)

theorem writeNodeId_sized (id : UInt32) :
    Sized (nodeIdSize id) (writeNodeId (.ns0 id) : WriteM cap Unit) := by
  have hbyte (v : UInt8) : Sized 1 (writeByte v : WriteM cap Unit) := writeBytes_sized [v]
  have hshort (v : UInt16) : Sized 2 (writeUInt16 v : WriteM cap Unit) :=
    ⟨_, writeBytes_encodes _, by simp⟩
  simp only [writeNodeId, NodeId.ns0, nodeIdSize, true_and]
  split
  · exact .bind (hbyte 0) (hbyte _)
  · simp only [UInt16.zero_le, true_and]
    split
    · exact .bind (hbyte 1) (.bind (hbyte _) (hshort _))
    · exact .bind (hbyte 2) (.bind (hshort 0) (writeUInt32_sized id))

theorem responsePrefix_sized {id : UInt32} (h : 255 < id ∧ id ≤ 65535) (handle : UInt32)
    (status : StatusCode) : Sized 28 (writeResponsePrefix id handle status : WriteM cap Unit) :=
  ⟨_, writeResponsePrefix_encodes h handle status, responsePrefix_length _ _ _⟩

end Sized

section Overwrite

theorem overwrite_append_left (xs ys bs : Bytes) (i : Nat) :
    overwrite (xs ++ ys) (xs.length + i) bs = xs ++ overwrite ys i bs := by
  induction bs generalizing ys i with
  | nil => rfl
  | cons b bs ih =>
    have hset : (xs ++ ys).set (xs.length + i) b = xs ++ ys.set i b := by
      rw [List.set_append_right _ _ (by omega), Nat.add_sub_cancel_left]
    rw [overwrite, overwrite, hset, Nat.add_assoc, ih]

theorem overwrite_front {ys bs : Bytes} (zs : Bytes) (h : bs.length = ys.length) :
    overwrite (ys ++ zs) 0 bs = bs ++ zs := by
  induction bs generalizing ys with
  | nil =>
    obtain rfl := List.length_eq_zero_iff.mp h.symm
    rfl
  | cons b bs ih =>
    cases ys with
    | nil => cases h
    | cons y ys =>
      have hrest := overwrite_append_left [b] (ys ++ zs) bs 0
      rw [ih (by simpa using h)] at hrest
      exact hrest

theorem overwrite_middle (xs : Bytes) {ys bs : Bytes} (zs : Bytes) (h : bs.length = ys.length) :
    overwrite (xs ++ (ys ++ zs)) xs.length bs = xs ++ (bs ++ zs) := by
  have hleft := overwrite_append_left xs (ys ++ zs) bs 0
  rw [Nat.add_zero, overwrite_front zs h] at hleft
  exact hleft

end Overwrite

end MicroOpcua
