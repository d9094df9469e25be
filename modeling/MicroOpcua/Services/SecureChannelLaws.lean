import MicroOpcua.Services.SecureChannelService

namespace MicroOpcua

open HandlerM Lib.StateRun

variable {W : Type} {cap : Nat} {b : Build} {c : Config W} {security : Bool} {ch : SecureChannel}
    {uri : MuString} {ch' : SecureChannel} {mode : MessageSecurityMode}

/-- What the checks of `mu_secure_channel_open` guarantee: mode None goes with policy None, and the
policy is the one the OPN chunk named. -/
theorem secureChannelOpenCheck_eq_ok {policy : SecurityPolicyId}
    (h : secureChannelOpenCheck security policy uri mode = .ok ()) :
    mode ≠ .invalid ∧ policy ≠ .invalid ∧ requestedPolicyId security uri = policy ∧
      (policy = .none ↔ mode = .none) := by
  simp only [secureChannelOpenCheck, guard_eq_ok] at h
  obtain ⟨hvalid, hmode, h⟩ := h
  split at h
  · rename_i hpolicy
    split at h
    · cases h
    · rename_i hrequested
      split at h
      · cases h
      · rename_i hnone
        rw [hpolicy, not_not.mp hrequested, not_not.mp hnone]
        decide
  · rename_i hpolicy
    split at h
    · rename_i hsecured
      split at h
      · cases h
      · rename_i hrequested
        split at h
        · cases h
        · rename_i hnone
          exact ⟨hmode, hsecured.2, not_not.mp hrequested, iff_of_false hpolicy hnone⟩
    · cases h

structure Rekeyed (mode : MessageSecurityMode) (ch ch' : SecureChannel) : Prop where
  frame : ch' = { ch with
    mode := ch'.mode, clientKeys := ch'.clientKeys, serverKeys := ch'.serverKeys, keysValid :=
      ch'.keysValid }
  mode : ch.mode = mode → ch'.mode = mode

instance (mode : MessageSecurityMode) : Std.Refl (Rekeyed mode) := ⟨fun _ => ⟨rfl, id⟩⟩

instance (mode : MessageSecurityMode) : IsTrans SecureChannel (Rekeyed mode) :=
  ⟨fun _ _ _ h h' => ⟨by rw [h'.frame, h.frame], h'.mode ∘ h.mode⟩⟩

structure Opened (security : Bool) (securityPolicy : MuString) (ch ch' : SecureChannel) : Prop where
  checked : ∃ lifetime, secureChannelOpenCheck security ch.policy securityPolicy ch'.mode = .ok () ∧
    ch' = { ch.opened ch'.mode lifetime with
      clientKeys := ch'.clientKeys, serverKeys := ch'.serverKeys, keysValid := ch'.keysValid }

theorem Opened.sound (h : Opened security uri ch ch') :
    ch'.isOpen = true ∧ ch'.policy = ch.policy ∧ ch'.mode ≠ .invalid ∧ ch.policy ≠ .invalid ∧
      (ch.policy = .none ↔ ch'.mode = .none) := by
  obtain ⟨lifetime, hcheck, hopened⟩ := h.checked
  obtain ⟨hmode, hpolicy, -, hiff⟩ := secureChannelOpenCheck_eq_ok hcheck
  refine ⟨?_, ?_, hmode, hpolicy, hiff⟩ <;> rw [hopened] <;> rfl

theorem Rekeyed.opened
    {lifetime : UInt32} (hcheck : secureChannelOpenCheck security ch.policy uri mode = .ok ())
    (h : Rekeyed mode (ch.opened mode lifetime) ch') : Opened security uri ch ch' := by
  have hmode := h.mode rfl
  subst hmode
  exact ⟨lifetime, hcheck, h.frame⟩

theorem deriveInto_effect (cr : CryptoAdapter W) (secret seed : Bytes)
    {store : SymKeys → SecureChannel → SecureChannel} (h : ∀ keys ch, Rekeyed mode ch (store keys ch)) :
    Effect (Rekeyed mode) (deriveInto b cr secret seed store : ChannelM W cap Unit) := by
  refine .bind .state (fun ch => .bind (.adapter _) (fun p => ?_))
  exact .bind (.update (fun ch => h p.2 ch)) (fun _ => .checked _)

theorem deriveChannelKeys_effect (cr : CryptoAdapter W) (clientNonce serverNonce : Bytes)
    (mode : MessageSecurityMode) :
    Effect (Rekeyed mode) (deriveChannelKeys b cr clientNonce serverNonce : ChannelM W cap Unit) := by
  refine .guard (fun _ => .bind (deriveInto_effect cr _ _ (fun _ _ => ⟨rfl, id⟩)) (fun _ => ?_))
  refine .bind (deriveInto_effect cr _ _ (fun _ _ => ⟨rfl, id⟩)) (fun _ => ?_)
  refine .bind (.update (fun _ => ⟨rfl, id⟩)) (fun _ => .bind .state (fun _ => ?_))
  exact .bind (.adapter _) (fun _ => .bind (.adapter _) (fun _ => .update (fun _ => ⟨rfl, id⟩)))

theorem secureChannelOpen_eq_ok {lifetime : UInt32}
    (h : secureChannelOpen security ch uri mode lifetime = .ok ch') :
    secureChannelOpenCheck security ch.policy uri mode = .ok () ∧ ch' = ch.opened mode lifetime := by
  obtain ⟨⟨⟩, hcheck, hch⟩ := bind_eq_ok.mp h
  exact ⟨hcheck, (pure_eq_ok.mp hch).symm⟩

theorem completeOpen_effect (clientCert : MuString) (req : OpenSecureChannelRequest) (nonce : Bytes)
    (ch : SecureChannel) :
    Effect (Rekeyed req.securityMode)
      (completeOpen b c clientCert req nonce ch : ChannelM W cap Unit) := by
  refine .bind (.checked _) (fun _ => .bind (.encode _) (fun _ => .bind (.adapter _) (fun _ => ?_)))
  refine .bind (.encode _) (fun _ => .bind (.update (fun _ => ⟨rfl, fun _ => rfl⟩)) (fun _ => ?_))
  split
  · exact deriveChannelKeys_effect _ _ _ _
  · exact .pure ()

/-- The only way a request changes a channel: its check passes and the channel is opened or renewed. -/
theorem handleOpenSecureChannel_effect (policy clientCert : MuString) :
    Effect (fun ch ch' => ch' = ch ∨ Opened b.security policy ch ch')
      (handleOpenSecureChannel b c policy clientCert : ChannelM W cap Unit) := by
  have : Std.Refl (fun ch ch' => ch' = ch ∨ Opened b.security policy ch ch') := ⟨fun _ => .inl rfl⟩
  refine .bind_same (.decode _) (fun req =>
    .bind_same (.adapterChecked _) (fun nonce => .state_bind (fun ch => ?_)))
  have : Std.Refl (fun s t => s = ch → t = s ∨ Opened b.security policy s t) := ⟨fun _ _ => .inl rfl⟩
  refine .checked_bind (fun ch' hopen => ?_)
  obtain ⟨hcheck, rfl⟩ := secureChannelOpen_eq_ok hopen
  refine Moves.mono (Effect.set_bind (completeOpen_effect clientCert req nonce.1 _))
    (fun s t hrekeyed hs => .inr ?_)
  subst hs
  exact Rekeyed.opened hcheck hrekeyed

section Keys

variable {cr : CryptoAdapter W}

structure KeepsKeys (cr : CryptoAdapter W) (ch ch' : SecureChannel) : Prop where
  policy : ch'.policy = ch.policy
  ready : (ch.policy = .aes128Sha256RsaOaep → cr.aes128CbcEncrypt.isSome = true) →
    ch.serverKeys.Ready cr → ch'.serverKeys.Ready cr

instance : Std.Refl (KeepsKeys cr) := ⟨fun _ => ⟨rfl, fun _ h => h⟩⟩

instance : IsTrans SecureChannel (KeepsKeys cr) :=
  ⟨fun _ _ _ h h' => ⟨h'.policy.trans h.policy, fun hcipher hready =>
    h'.ready (h.policy ▸ hcipher) (h.ready hcipher hready)⟩⟩

theorem deriveInto_keepsKeys (secret seed : Bytes) {store : SymKeys → SecureChannel → SecureChannel}
    (h : ∀ keys ch, (store keys ch).policy = ch.policy ∧
      ((store keys ch).serverKeys = ch.serverKeys ∨ (store keys ch).serverKeys = keys)) :
    Effect (KeepsKeys cr) (deriveInto b cr secret seed store : ChannelM W cap Unit) := by
  refine .state_bind (fun ch => .adapter_bind (fun p w w' hderive => ?_))
  refine .bind_then (R := Eq) (.update (fun s hs => ?_)) (fun _ =>
    .checked _) (fun _ _ _ h heq => heq ▸ h)
  subst hs
  obtain ⟨hpolicy, hkeys⟩ := h p.2 s
  refine ⟨hpolicy, fun hcipher hready => ?_⟩
  rcases hkeys with hsame | hderived
  · exact hsame ▸ hready
  · have hnew : ((symKeysDerive b.security cr s.policy secret seed).run w).1.2.Ready cr :=
      symKeysDerive_ready hcipher secret seed w
    rw [hderive] at hnew
    change (store p.2 s).serverKeys.Ready cr
    rw [hderived]
    exact hnew

theorem deriveChannelKeys_keepsKeys (clientNonce serverNonce : Bytes) :
    Effect (KeepsKeys cr) (deriveChannelKeys b cr clientNonce serverNonce : ChannelM W cap Unit) := by
  refine .guard (fun _ => .bind (deriveInto_keepsKeys _ _ (fun _ _ => ⟨rfl, .inl rfl⟩)) (fun _ => ?_))
  refine .bind (deriveInto_keepsKeys _ _ (fun _ _ => ⟨rfl, .inr rfl⟩)) (fun _ => ?_)
  refine .bind (.update (fun _ => ⟨rfl, fun _ h => h⟩)) (fun _ => .state_bind (fun ch => ?_))
  refine .adapter_bind (fun _ _ _ _ =>
    .adapter_bind (fun keys w w' hprepare => .update (fun s hs => ?_)))
  subst hs
  refine ⟨rfl, fun _ hready => ?_⟩
  have hnew := symKeysPrepareCipher_ready hready w
  rwa [hprepare] at hnew

theorem completeOpen_keepsKeys (hcr : c.cryptoAdapter = some cr) (clientCert : MuString)
    (req : OpenSecureChannelRequest) (nonce : Bytes) (ch : SecureChannel) :
    Effect (KeepsKeys cr) (completeOpen b c clientCert req nonce ch : ChannelM W cap Unit) := by
  refine .bind (.checked _) (fun _ => .bind (.encode _) (fun _ => .bind (.adapter _) (fun _ => ?_)))
  refine .bind (.encode _) (fun _ => .bind (.update (fun _ => ⟨rfl, fun _ h => h⟩)) (fun _ => ?_))
  rw [hcr]
  split
  · rename_i heq
    obtain rfl := Option.some.inj heq
    exact deriveChannelKeys_keepsKeys _ _
  · exact .pure ()

theorem handleOpenSecureChannel_keepsKeys (hcr : c.cryptoAdapter = some cr)
    (policy clientCert : MuString) :
    Effect (KeepsKeys cr) (handleOpenSecureChannel b c policy clientCert : ChannelM W cap Unit) := by
  refine .bind_same (.decode _) (fun req =>
    .bind_same (.adapterChecked _) (fun nonce => .state_bind (fun ch => ?_)))
  have : Std.Refl (fun s t => s = ch → KeepsKeys cr s t) := ⟨fun s _ => refl s⟩
  refine .checked_bind (fun ch' hopen => ?_)
  obtain ⟨-, rfl⟩ := secureChannelOpen_eq_ok hopen
  refine Moves.mono (Effect.set_bind (completeOpen_keepsKeys hcr clientCert req nonce.1 _))
    (fun s t hkeeps hs => ?_)
  subst hs
  exact ⟨hkeeps.policy, hkeeps.ready⟩

end Keys

section Opens

variable (b c) in
def opensChannel (ch : SecureChannel) (policy : MuString) (body : Bytes) (w : W) : Bool :=
  match readOpenSecureChannel.decode body,
      ((c.platform.generateRandom serverNonceLength).run.run w).1 with
  | .ok req, .ok _ => secureChannelOpenCheck b.security ch.policy policy req.securityMode = .ok ()
  | _, _ => false

/-- Past `mu_secure_channel_open` the channel is opened or renewed, before it the channel is
untouched. -/
theorem handleOpenSecureChannel_opens (policy clientCert : MuString) (body : Bytes) (writer : Writer cap)
    (ch : SecureChannel) (w : W) :
    if opensChannel b c ch policy body w then
      Opened b.security policy ch ((handleOpenSecureChannel b c policy clientCert).run.run
        ⟨.init body, writer, ch, w⟩).2.state
    else ((handleOpenSecureChannel b c policy clientCert).run.run ⟨.init body, writer, ch, w⟩).2.state =
      ch := by
  simp only [handleOpenSecureChannel, run_decode_bind, run_adapterChecked_bind, run_state_bind,
    run_checked_bind, run_update_bind, orElseFail_run, opensChannel, ReadM.decode]
  generalize readOpenSecureChannel.run.run (.init body) = p
  generalize StateT.run (ExceptT.run (c.platform.generateRandom serverNonceLength)) w = q
  obtain ⟨e | req, r⟩ := p
  · rfl
  · obtain ⟨e | nonce, w'⟩ := q
    · rfl
    · dsimp only
      by_cases hcheck : secureChannelOpenCheck b.security ch.policy policy req.securityMode = .ok ()
      · have hopen : secureChannelOpen b.security ch policy req.securityMode req.requestedLifetime =
            .ok (ch.opened req.securityMode req.requestedLifetime) := by
          simp only [secureChannelOpen, hcheck]
          rfl
        simp only [hopen, hcheck, decide_true, if_true]
        have hrekeyed : Effect (Rekeyed req.securityMode) (completeOpen b c clientCert req nonce.1
            (ch.opened req.securityMode req.requestedLifetime) : ChannelM W cap Unit) :=
              fun s => completeOpen_effect clientCert req nonce.1 _ s
        exact Rekeyed.opened hcheck (hrekeyed ⟨r, writer, _, w'⟩)
      · simp only [hcheck, decide_false, Bool.false_eq_true, if_false]
        cases hopen : secureChannelOpen b.security ch policy req.securityMode req.requestedLifetime with
        | error e => rfl
        | ok ch' => exact absurd (secureChannelOpen_eq_ok hopen).1 hcheck

theorem Opened.changed {security : Bool} {uri : MuString} {ch ch' : SecureChannel}
    (h : Opened security uri ch ch') (hopen : ch'.isOpen = ch.isOpen) : ch'.tokenId ≠ ch.tokenId := by
  obtain ⟨lifetime, -, hopened⟩ := h.checked
  have hisOpen : ch.isOpen = true := hopen.symm.trans h.sound.1
  have htoken : ch'.tokenId = ch.tokenId + 1 := by
    rw [hopened]
    simp [SecureChannel.opened, hisOpen]
  rw [htoken]
  simp

end Opens

section Size

theorem writeSecurityToken_grows (ch : SecureChannel) (now : UInt64) {nonce : Bytes}
    (h : nonce.length = serverNonceLength) :
    Grows 60 (writeSecurityToken ch now nonce : WriteM cap Unit) := by
  refine .mono (.bind (uncheckedWrite_grows (writeUInt32_grows _)) (fun _ => .bind (uncheckedWrite_grows
    (writeUInt32_grows _)) (fun _ => .bind (uncheckedWrite_grows (writeUInt32_grows _)) (fun _ => .bind
      (uncheckedWrite_grows (writeUInt64_grows _)) (fun _ =>
        .bind (uncheckedWrite_grows (writeUInt32_grows _)) (fun _ =>
          .bind checkWriter_grows (fun _ => writeString_grows (some nonce)))))))) ?_
  simp [MuString.size, h, serverNonceLength]

def opnAnswerMax : Nat := 91

theorem deriveInto_silent (cr : CryptoAdapter W) (secret seed : Bytes)
    (store : SymKeys → SecureChannel → SecureChannel) :
    Silent (deriveInto b cr secret seed store : ChannelM W cap Unit) :=
  .bind state_writer (fun _ => .bind (adapter_writer · _) (fun _ => .bind (update_writer · _)
    (fun _ => (checked_writer · _))))

theorem deriveChannelKeys_silent (cr : CryptoAdapter W) (clientNonce serverNonce : Bytes) :
    Silent (deriveChannelKeys b cr clientNonce serverNonce : ChannelM W cap Unit) := by
  unfold deriveChannelKeys
  split
  · exact fun _ => rfl
  · refine .bind (deriveInto_silent _ _ _ _) (fun _ => .bind (deriveInto_silent _ _ _ _) (fun _ => ?_))
    refine .bind (update_writer · _) (fun _ => .bind state_writer (fun _ => ?_))
    exact .bind (adapter_writer · _) (fun _ => .bind (adapter_writer · _) (fun _ => (update_writer · _)))

theorem handleOpenSecureChannel_writes (policy clientCert : MuString) :
    WritesAtMost opnAnswerMax (handleOpenSecureChannel b c policy clientCert : ChannelM W cap Unit) := by
  refine .silent_bind (decode_writer · _) (fun req =>
    .silent_bind (adapterChecked_writer · _) (fun nonce => ?_))
  refine .silent_bind state_writer (fun ch => .silent_bind (checked_writer · _) (fun ch' => ?_))
  refine .silent_bind (update_writer · _) (fun _ => .silent_bind (checked_writer · _) (fun _ => ?_))
  refine .bind (n := 31) (k := 60) (.encode (writeResponsePrefix_grows _ _ _)) (fun _ => .silent_bind
    (adapter_writer · _) (fun now => ?_))
  refine .bind (n := 60) (k := 0) (.encode (writeSecurityToken_grows _ _ nonce.2)) (fun _ => ?_)
  refine .silent_bind (update_writer · _) (fun _ => ?_)
  split
  · exact .silent (deriveChannelKeys_silent _ _ _)
  · exact .silent (fun _ => rfl)

end Size

end MicroOpcua
