import MicroOpcua.Lib.Ledger
import MicroOpcua.Spec.Certificates

namespace MicroOpcua

open HandlerM Lib.Ledger Lib.StateRun

variable {W A : Type}

section Unchecked

variable {b : Build} {c : Config W} {app : Application W A} {s : Ctx W A}

/-- The chunk passes the checks of a MSG chunk on the channel: its MAC under the channel's keys, then
channel id, token id and sequence number. -/
def PassesMsgChecks (c : Config W) (ch : SecureChannel) (message : Bytes) : Prop :=
  ∃ cr w f ch', c.cryptoAdapter = some cr ∧ ((unwrapMsg cr ch message).run w).1 = some f ∧
    f.accept false ch = some ch'

variable (b c app) in
def ClosesOnlyChecked (s : Ctx W A) : Prop :=
  ∀ message, parseMessageHeader message = .ok .closeChannel → s.conn.channel.isOpen = true →
    ((processMessage b c app message).run s).2.conn.channel.isOpen = false →
    PassesMsgChecks c s.conn.channel message

theorem processMessage_close (established : s.conn.tcp.established = true) {message : Bytes}
    (parsed : parseMessageHeader message = .ok .closeChannel) :
    ((processMessage b c app message).run s).2.conn.channel.isOpen = false := by
  simp only [processMessage, run_bind, run_get, established, parsed, Bool.not_true,
    Bool.false_eq_true, if_false]
  simp only [processClose, closeChannel, run_bind, run_get, onWorld_run, run_modify,
    secureChannelClose_run, closeConnection_run]
  by_cases hopen : s.conn.channel.isOpen = true
  · rw [if_pos hopen]
    rfl
  · rw [if_neg hopen]
    exact Bool.eq_false_iff.mpr hopen

def bareClose : Bytes := Script.frame "CLOF" (Script.u32 1)

theorem bareClose_parses : parseMessageHeader bareClose = .ok .closeChannel := by decide

theorem bareClose_fails (c : Config W) (ch : SecureChannel) : ¬ PassesMsgChecks c ch bareClose := by
  rintro ⟨cr, w, f, ch', -, hunwrap, -⟩
  obtain ⟨-, m, hrun, -⟩ := unwrapMsg_returns hunwrap
  have hshort : bareClose.length < symHeaderSize := by decide
  rw [symChunkUnwrap, if_pos hshort] at hrun
  cases hrun

/-- No open channel is safe from a CLO chunk that passes no check. -/
theorem close_is_unchecked (established : s.conn.tcp.established = true)
    (opened : s.conn.channel.isOpen = true) : ¬ ClosesOnlyChecked b c app s := fun h =>
  bareClose_fails c s.conn.channel
    (h bareClose bareClose_parses opened (processMessage_close established bareClose_parses))

open Script

theorem signedCtx_open : signedCtx.conn.channel.mode = .sign ∧ signedCtx.conn.tcp.established = true ∧
    signedCtx.conn.channel.isOpen = true := by
  decide +kernel

theorem close_is_unchecked_signed : signedCtx.conn.channel.mode = .sign ∧
      ¬ ClosesOnlyChecked build (secured 6) application signedCtx :=
  ⟨signedCtx_open.1, close_is_unchecked signedCtx_open.2.1 signedCtx_open.2.2⟩

theorem signed_channel_closed_by_header : Reachable build (secured 6) application signedStart ∧
      (signedCtx.conn.channel.mode = .sign ∧ signedCtx.conn.channel.isOpen = true ∧
        (afterMessage bareClose).conn.channel.isOpen = false) ∧
      ¬ PassesMsgChecks (secured 6) signedCtx.conn.channel bareClose :=
  ⟨play_reachable (by decide) _, by decide +kernel, bareClose_fails _ _⟩

end Unchecked

section Ledger

/-- The contexts an adapter hands out for the ciphers of a channel, and its book of them: every context
that was initialised is entered, and every context that was freed. No other call of the adapters that the
OpenSecureChannel service uses changes the book. -/
structure CipherLedger (c : Config W) where
  cr : CryptoAdapter W
  init : (key : Bytes) → AdapterM W Bytes
  free : (ctx : Bytes) → StateM W Unit
  log : W → List (Entry Bytes)
  adapter : c.cryptoAdapter = some cr
  ctxInit : cr.cipherCtxInit = some init
  ctxFree : cr.cipherCtxFree = some free
  initialised : ∀ key w ctx w', (init key).run.run w = (.ok ctx, w') → log w' = .taken ctx :: log w
  refused : ∀ key w e w', (init key).run.run w = (.error e, w') → log w' = log w
  freed : ∀ ctx w, log ((free ctx).run w).2 = .returned ctx :: log w
  hmac : ∀ key data w, log ((cr.hmacSha256 key data).run.run w).2 = log w
  random : ∀ n w, log ((c.platform.generateRandom n).run.run w).2 = log w
  time : ∀ w, log (c.platform.getTime.run w).2 = log w

def SymKeys.held (keys : SymKeys) : Multiset Bytes :=
  if keys.cipherCtxValid ∧ keys.crypto then {keys.cipherCtx} else 0

def SecureChannel.held (ch : SecureChannel) : Multiset Bytes := ch.clientKeys.held + ch.serverKeys.held

theorem SecureChannel.held_eq_zero {ch : SecureChannel} :
    ch.held = 0 ↔ ch.clientKeys.held = 0 ∧ ch.serverKeys.held = 0 := by
  simp only [← Multiset.card_eq_zero, SecureChannel.held, Multiset.card_add]
  omega

namespace CipherLedger

variable {c : Config W} (ledger : CipherLedger c) {keys : SymKeys} {w : W} {m : Multiset Bytes}

def out (w : W) : Option (Multiset Bytes) := outstanding (ledger.log w)

theorem release (h : ledger.out w = some (keys.held + m)) :
    ledger.out ((symKeysReleaseCipher ledger.cr keys).run w).2 = some m := by
  by_cases hheld : keys.cipherCtxValid = true ∧ keys.crypto = true
  · rw [SymKeys.held, if_pos hheld, Multiset.singleton_add] at h
    have hrun :
        ((symKeysReleaseCipher ledger.cr keys).run w).2 = ((ledger.free keys.cipherCtx).run w).2 := by
      simp only [symKeysReleaseCipher, if_pos hheld, ledger.ctxFree]
      rfl
    rw [hrun, out, ledger.freed]
    exact outstanding_returned h
  · rw [SymKeys.held, if_neg hheld, Multiset.zero_add] at h
    have hrun : ((symKeysReleaseCipher ledger.cr keys).run w).2 = w := by
      simp only [symKeysReleaseCipher, if_neg hheld]
      rfl
    rwa [hrun]

theorem prepare (h : ledger.out w = some (keys.held + m)) :
    ledger.out ((symKeysPrepareCipher ledger.cr keys).run w).2 =
      some (((symKeysPrepareCipher ledger.cr keys).run w).1.held + m) := by
  have hreleased := ledger.release h
  have hkeys : ((symKeysReleaseCipher ledger.cr keys).run w).1 =
      { keys with cipherCtxValid := false, crypto := false } := by
    simp only [symKeysReleaseCipher, ledger.ctxFree]
    split <;> rfl
  generalize hw : ((symKeysReleaseCipher ledger.cr keys).run w).2 = u at hreleased
  rw [symKeysPrepareCipher, run_bind, hkeys, hw]
  dsimp only
  by_cases hpolicy : keys.policy = .aes128Sha256RsaOaep
  · rw [if_pos hpolicy]
    exact hreleased.trans (congrArg some (Multiset.zero_add m).symm)
  · rw [if_neg hpolicy, ledger.ctxInit]
    dsimp only
    rw [run_bind]
    cases hinit : ((ledger.init keys.encryptingKey).run.run u).1 with
    | error e =>
      have hlog := ledger.refused _ _ e _ (Prod.ext hinit rfl)
      refine Eq.trans ?_ (congrArg some (Multiset.zero_add m).symm)
      change outstanding (ledger.log ((ledger.init keys.encryptingKey).run.run u).2) = _
      rw [hlog]
      exact hreleased
    | ok ctx =>
      have hlog := ledger.initialised _ _ ctx _ (Prod.ext hinit rfl)
      change outstanding (ledger.log ((ledger.init keys.encryptingKey).run.run u).2) = some ({ctx} + m)
      rw [hlog, Multiset.singleton_add]
      exact outstanding_taken hreleased ctx

theorem pSha256_log (secret seed : Bytes) (n : Nat) (w : W) :
    ledger.log ((pSha256 ledger.cr secret seed n).run.run w).2 = ledger.log w := by
  have hmoves (key data : Bytes) :
      Moves (fun s t => ledger.log t = ledger.log s) (ledger.cr.hmacSha256 key data) :=
    ledger.hmac key data
  have : Std.Refl (fun s t : W => ledger.log t = ledger.log s) := ⟨fun _ => rfl⟩
  have : IsTrans W (fun s t : W => ledger.log t = ledger.log s) := ⟨fun _ _ _ h h' => h'.trans h⟩
  have hblocks (k : Nat) (a : Bytes) :
      Moves (fun s t => ledger.log t = ledger.log s) (pSha256Blocks ledger.cr secret seed k a) := by
    induction k generalizing a with
    | zero => exact .pure []
    | succ k ih =>
      apply (hmoves _ _).bind
      intro block
      apply (hmoves _ _).bind
      intro next
      exact (ih _).bind (fun _ => .pure _)
  have hall : Moves (fun s t => ledger.log t = ledger.log s) (pSha256 ledger.cr secret seed n) := by
    rw [pSha256]
    split
    · exact Moves.bind (.throw _) (fun _ => (hmoves _ _).bind fun _ =>
        (hblocks _ _).bind fun _ => .pure _)
    · exact (hmoves _ _).bind fun _ => (hblocks _ _).bind fun _ => .pure _
  exact hall w

theorem derive (security : Bool) (policy : SecurityPolicyId) (secret seed : Bytes) (w : W) :
    ((symKeysDerive security ledger.cr policy secret seed).run w).1.2.held = 0 ∧
      ledger.log ((symKeysDerive security ledger.cr policy secret seed).run w).2 = ledger.log w := by
  have hlog :=
    ledger.pSha256_log secret seed (policy.signatureKeyLength security +
      policy.encryptionKeyLength security + policy.encryptionBlockSize security) w
  simp only [symKeysDerive, run_bind]
  split
  · exact ⟨rfl, hlog⟩
  · exact ⟨rfl, hlog⟩

section Handler

variable {b : Build} {cap : Nat}

def Idle (s t : HandlerState SecureChannel W cap) : Prop :=
  s.state.held = 0 → t.state.held = 0 ∧ ledger.log t.world = ledger.log s.world

def Accounts (s t : HandlerState SecureChannel W cap) : Prop :=
  s.state.held = 0 → ∀ m, ledger.out s.world = some m → ledger.out t.world = some (t.state.held + m)

instance :
    Std.Refl (ledger.Idle : HandlerState SecureChannel W cap →
      HandlerState SecureChannel W cap → Prop) :=
  ⟨fun _ h => ⟨h, rfl⟩⟩

instance : IsTrans (HandlerState SecureChannel W cap) ledger.Idle :=
  ⟨fun _ _ _ h h' hs => ⟨(h' (h hs).1).1, (h' (h hs).1).2.trans (h hs).2⟩⟩

variable {ledger} in
theorem Idle.accounts {s t : HandlerState SecureChannel W cap} (h : ledger.Idle s t) :
    ledger.Accounts s t := by
  intro hs m hm
  rw [(h hs).1, Multiset.zero_add, out, (h hs).2]
  exact hm

theorem idle_bind {α β : Type} {m : ChannelM W cap α} {f : α → ChannelM W cap β}
    (hm : Moves ledger.Idle m) (hf : ∀ a, Moves ledger.Accounts (f a)) :
    Moves ledger.Accounts (m >>= f) := by
  refine hm.bind_of (fun _ _ => Idle.accounts) (fun s a _ hidle hs k hk => ?_)
  refine hf a _ (hidle hs).1 k ?_
  rw [out, (hidle hs).2]
  exact hk

theorem deriveInto_idle (secret seed : Bytes) {store : SymKeys → SecureChannel → SecureChannel}
    (h : ∀ keys ch, keys.held = 0 → ch.held = 0 → (store keys ch).held = 0) :
    Moves ledger.Idle (deriveInto b ledger.cr secret seed store : ChannelM W cap Unit) := by
  intro s hs
  obtain ⟨hkeys, hlog⟩ := ledger.derive b.security s.state.policy secret seed s.world
  have hrun : ((deriveInto b ledger.cr secret seed store : ChannelM W cap Unit).run.run s).2 =
      { s with
        state :=
          store ((symKeysDerive b.security ledger.cr s.state.policy secret seed).run s.world).1.2 s.state
        world := ((symKeysDerive b.security ledger.cr s.state.policy secret seed).run s.world).2 } := by
    rfl
  rw [hrun]
  exact ⟨h _ _ hkeys hs, hlog⟩

theorem prepareBoth_accounts : Moves ledger.Accounts (do
    let ch ← state
    let clientKeys ← HandlerM.adapter (symKeysPrepareCipher ledger.cr ch.clientKeys)
    let serverKeys ← HandlerM.adapter (symKeysPrepareCipher ledger.cr ch.serverKeys)
    update (fun ch => ((), { ch with clientKeys := clientKeys, serverKeys := serverKeys })) :
    ChannelM W cap Unit) := by
  intro s hs m hm
  obtain ⟨hclient, hserver⟩ := SecureChannel.held_eq_zero.mp hs
  have hfirst := ledger.prepare (show ledger.out s.world = some (s.state.clientKeys.held + m) by
    rw [hclient, Multiset.zero_add]
    exact hm)
  have hsecond := ledger.prepare (show ledger.out _ = some (s.state.serverKeys.held + _) by
    rw [hserver, Multiset.zero_add]
    exact hfirst)
  refine hsecond.trans (congrArg some ?_)
  change _ = _ + _ + m
  rw [← Multiset.add_assoc, Multiset.add_comm (SymKeys.held _)]
  rfl

theorem deriveChannelKeys_accounts (clientNonce serverNonce : Bytes) :
    Moves ledger.Accounts
      (deriveChannelKeys b ledger.cr clientNonce serverNonce : ChannelM W cap Unit) := by
  have hkeep (f : SecureChannel → SecureChannel) (h : ∀ ch : SecureChannel, (f ch).held = ch.held) :
      Moves ledger.Idle (update (fun ch => ((), f ch)) : ChannelM W cap Unit) :=
    fun s hs => ⟨(h s.state).trans hs, rfl⟩
  have hderive : Moves ledger.Accounts (do
      deriveInto b ledger.cr serverNonce clientNonce (fun keys ch => { ch with clientKeys := keys })
      deriveInto b ledger.cr clientNonce serverNonce (fun keys ch => { ch with serverKeys := keys })
      update (fun ch => ((), { ch with keysValid := true }))
      let ch ← state
      let clientKeys ← HandlerM.adapter (symKeysPrepareCipher ledger.cr ch.clientKeys)
      let serverKeys ← HandlerM.adapter (symKeysPrepareCipher ledger.cr ch.serverKeys)
      update (fun ch => ((), { ch with clientKeys := clientKeys, serverKeys := serverKeys })) :
          ChannelM W cap Unit) := by
    apply ledger.idle_bind (ledger.deriveInto_idle _ _ fun keys ch hkeys hch => ?_)
    · intro _
      apply ledger.idle_bind (ledger.deriveInto_idle _ _ fun keys ch hkeys hch => ?_)
      · intro _
        exact ledger.idle_bind (hkeep _ fun _ => rfl) (fun _ => ledger.prepareBoth_accounts)
      · exact SecureChannel.held_eq_zero.mpr ⟨(SecureChannel.held_eq_zero.mp hch).1, hkeys⟩
    · exact SecureChannel.held_eq_zero.mpr ⟨hkeys, (SecureChannel.held_eq_zero.mp hch).2⟩
  simp only [deriveChannelKeys]
  split
  · exact ledger.idle_bind (.throw _) (fun _ => hderive)
  · exact hderive

theorem completeOpen_accounts (clientCert : MuString) (req : OpenSecureChannelRequest) (nonce : Bytes)
    (ch : SecureChannel) :
    Moves ledger.Accounts (completeOpen b c clientCert req nonce ch : ChannelM W cap Unit) := by
  have htime : Moves ledger.Idle (HandlerM.adapter c.platform.getTime : ChannelM W cap UInt64) :=
    fun s hs => ⟨hs, ledger.time s.world⟩
  have hsame {α : Type} {m : ChannelM W cap α}
      (h : ∀ s, (m.run.run s).2.state = s.state ∧ (m.run.run s).2.world = s.world) :
      Moves ledger.Idle m := by
    intro s hs
    rw [(h s).1, (h s).2]
    exact ⟨hs, rfl⟩
  refine ledger.idle_bind (hsame fun _ => ⟨rfl, rfl⟩)
    (fun _ => ledger.idle_bind (hsame fun _ => ⟨rfl, rfl⟩) fun _ => ?_)
  refine ledger.idle_bind htime (fun _ => ledger.idle_bind (hsame fun _ => ⟨rfl, rfl⟩) fun _ => ?_)
  refine ledger.idle_bind (fun s hs => ⟨hs, rfl⟩) (fun _ => ?_)
  split
  · rename_i cr _ hcr
    obtain rfl := Option.some.inj (ledger.adapter.symm.trans hcr)
    exact ledger.deriveChannelKeys_accounts _ _
  · exact fun s => (refl s : ledger.Idle s s).accounts

theorem handleOpenSecureChannel_accounts (policy clientCert : MuString) :
    Moves ledger.Accounts (handleOpenSecureChannel b c policy clientCert : ChannelM W cap Unit) := by
  intro s
  have hidle (t : HandlerState SecureChannel W cap) (hstate : t.state.held = s.state.held)
      (hlog : ledger.log t.world = ledger.log s.world) : ledger.Idle s t :=
        fun hs => ⟨hstate.trans hs, hlog⟩
  have hrandom :
    ledger.log (((c.platform.generateRandom serverNonceLength).orElseFail .securityChecksFailed).run.run
      s.world).2 = ledger.log s.world := by
    have h := ledger.random serverNonceLength s.world
    rw [orElseFail_run]
    split <;> rename_i hrun <;> rw [hrun] at h <;> exact h
  rw [handleOpenSecureChannel, run_decode_bind]
  split
  · rw [run_adapterChecked_bind]
    split
    · rename_i nonce w hrun
      rw [hrun] at hrandom
      rw [run_state_bind, run_checked_bind]
      split
      · rename_i ch hopen
        obtain ⟨-, rfl⟩ := secureChannelOpen_eq_ok hopen
        rw [run_update_bind]
        intro hs m hm
        refine ledger.completeOpen_accounts _ _ _ _ _ ?_ m ?_
        · exact hs
        · exact (congrArg outstanding hrandom).trans hm
      · exact Idle.accounts (hidle _ (by rfl) hrandom)
    · rename_i e w hrun
      rw [hrun] at hrandom
      exact Idle.accounts (hidle _ (by rfl) hrandom)
  · exact (hidle _ rfl rfl).accounts

end Handler

theorem close {ch : SecureChannel} (h : ledger.out w = some (ch.held + m)) :
    ledger.out ((secureChannelClose c.cryptoAdapter ch).run w).2 =
      some (((secureChannelClose c.cryptoAdapter ch).run w).1.held + m) := by
  rw [secureChannelClose]
  split
  · rw [SecureChannel.held, Multiset.add_assoc] at h
    have hclient := ledger.release h
    have hserver := ledger.release hclient
    refine Eq.trans ?_ (congrArg some (Multiset.zero_add m).symm)
    rw [ledger.adapter]
    exact hserver
  · exact h

section Runs

variable {b : Build}

/-- Everything else that happens around a channel: other chunks, a lost connection, calls of the
adapters. It touches neither keys nor contexts. -/
structure Traffic where
  onChannel : SecureChannel → SecureChannel
  onWorld : W → W
  clientKeys : ∀ ch, (onChannel ch).clientKeys = ch.clientKeys
  serverKeys : ∀ ch, (onChannel ch).serverKeys = ch.serverKeys
  log : ∀ w, ledger.log (onWorld w) = ledger.log w

inductive Op where
  | accept
  | request (cap : Nat) (policy clientCert : MuString) (body : Bytes)
  | close
  | traffic (t : ledger.Traffic)

namespace Op

variable {ledger}

def step (b : Build) (ch : SecureChannel) (w : W) : ledger.Op → SecureChannel × W
  | .accept => (.init, w)
  | .request cap policy clientCert body =>
    ((handleOpenSecureChannel b c policy clientCert : ChannelM W cap Unit).execute body ch w).2
  | .close => (secureChannelClose c.cryptoAdapter ch).run w
  | .traffic t => (t.onChannel ch, t.onWorld w)

def replaces : ledger.Op → Bool
  | .accept | .request .. => true
  | .close | .traffic _ => false

theorem step_balanced {op : ledger.Op} {ch : SecureChannel} (h : ledger.out w = some (ch.held + m))
    (hspared : op.replaces = true → ch.held = 0) :
    ledger.out (op.step b ch w).2 = some ((op.step b ch w).1.held + m) := by
  cases op with
  | accept =>
    rw [hspared rfl, Multiset.zero_add] at h
    exact h.trans (congrArg some (Multiset.zero_add m).symm)
  | request cap policy clientCert body =>
    rw [hspared rfl, Multiset.zero_add] at h
    have hrun := ledger.handleOpenSecureChannel_accounts (b := b) policy clientCert
      ⟨.init body, (.init : Writer cap), ch, w⟩ (hspared rfl) m h
    simp only [step, HandlerM.execute]
    split <;> rename_i hrequest <;> rw [hrequest] at hrun <;> exact hrun
  | close => exact ledger.close h
  | traffic t =>
    rw [out, step, SecureChannel.held, t.clientKeys, t.serverKeys, t.log]
    exact h

end Op

abbrev Slots (W : Type) := List SecureChannel × W

def slotStep (b : Build) (s : Slots W) (e : Nat × ledger.Op) : Slots W :=
  match s.1[e.1]? with
  | none => s
  | some ch => (s.1.set e.1 (e.2.step b ch s.2).1, (e.2.step b ch s.2).2)

def slotRun (b : Build) (ops : List (Nat × ledger.Op)) (s : Slots W) : Slots W :=
  ops.foldl (ledger.slotStep b) s

/-- The contexts that are out are those the channels hold: each was freed when it was given up, and none
was freed twice. -/
def Balanced (s : Slots W) : Prop := ledger.out s.2 = some (s.1.map SecureChannel.held).sum

/-- No operation of the run that can replace keys finds a context in the slot. -/
def Spares (b : Build) : List (Nat × ledger.Op) → Slots W → Prop
  | [], _ => True
  | e :: ops, s => (e.2.replaces = true → (s.1.getD e.1 .init).held = 0) ∧
    Spares b ops (ledger.slotStep b s e)

instance (ops : List (Nat × ledger.Op)) (s : Slots W) : Decidable (ledger.Spares b ops s) := by
  induction ops generalizing s with
  | nil => exact isTrue trivial
  | cons e ops ih =>
    have := ih (ledger.slotStep b s e)
    exact instDecidableAnd

theorem sum_held_set {chs : List SecureChannel} {i : Nat} {ch : SecureChannel}
    (found : chs[i]? = some ch) : ∃ rest, (chs.map SecureChannel.held).sum = ch.held + rest ∧
      ∀ ch', ((chs.set i ch').map SecureChannel.held).sum = ch'.held + rest := by
  induction chs generalizing i with
  | nil => cases found
  | cons first chs ih =>
    cases i with
    | zero =>
      obtain rfl := Option.some.inj found
      exact ⟨(chs.map SecureChannel.held).sum, List.sum_cons, fun _ => List.sum_cons⟩
    | succ i =>
      obtain ⟨rest, hsum, hset⟩ := ih found
      refine ⟨first.held + rest, ?_, fun ch' => ?_⟩
      · rw [List.map_cons, List.sum_cons, hsum, add_left_comm]
      · rw [List.set_cons_succ, List.map_cons, List.sum_cons, hset, add_left_comm]

theorem slotStep_balanced {s : Slots W} {e : Nat × ledger.Op} (h : ledger.Balanced s)
    (hspared : e.2.replaces = true → (s.1.getD e.1 .init).held = 0) :
    ledger.Balanced (ledger.slotStep b s e) := by
  cases hfound : s.1[e.1]? with
  | none =>
    rw [slotStep, hfound]
    exact h
  | some ch =>
    obtain ⟨rest, hsum, hset⟩ := sum_held_set hfound
    rw [Balanced, hsum] at h
    rw [slotStep, hfound, Balanced]
    dsimp only
    rw [hset]
    rw [List.getD_eq_getElem?_getD, hfound, Option.getD_some] at hspared
    exact Op.step_balanced h hspared

theorem slotRun_balanced {s : Slots W} (ops : List (Nat × ledger.Op)) (h : ledger.Balanced s)
    (hspared : ledger.Spares b ops s) : ledger.Balanced (ledger.slotRun b ops s) := by
  induction ops generalizing s with
  | nil => exact h
  | cons e ops ih => exact ih (ledger.slotStep_balanced h hspared.1) hspared.2

def started (slots : Nat) (w : W) : Slots W := (List.replicate slots .init, w)

theorem started_balanced (slots : Nat) {w : W} (h : ledger.log w = []) :
    ledger.Balanced (started slots w) := by
  have hheld : SecureChannel.held .init = 0 := rfl
  rw [Balanced, started, List.map_replicate, hheld, List.sum_replicate, nsmul_zero, out, h]
  rfl

/-- After any run in which no connection is accepted into a slot and no OpenSecureChannel request arrives
on a channel while the channel holds a cipher context, the contexts that were initialised and not freed
are those the channels hold. -/
theorem contexts_freed_once (ops : List (Nat × ledger.Op)) (slots : Nat) {w : W}
    (fresh : ledger.log w = []) (spared : ledger.Spares b ops (started slots w)) :
    ledger.Balanced (ledger.slotRun b ops (started slots w)) :=
  ledger.slotRun_balanced ops (ledger.started_balanced slots fresh) spared

section Server

variable {app : Application W A} {req : Request} {cap : Nat}

def OpChannel (b : Build) (ch ch' : SecureChannel) : Prop :=
  ∃ (op : ledger.Op) (w : W), ch' = (op.step b ch w).1

theorem opChannel_traffic (ch : SecureChannel) (w : W) {f : SecureChannel → SecureChannel}
    (hclient : ∀ ch, (f ch).clientKeys = ch.clientKeys)
    (hserver : ∀ ch, (f ch).serverKeys = ch.serverKeys) :
    ledger.OpChannel b ch (f ch) := ⟨.traffic ⟨f, id, hclient, hserver, fun _ => rfl⟩, w, rfl⟩

theorem handler_open (active : Option (Nat × Session)) (s : Scope W A) (w : W) :
    let t :=
  ((handler b c app req .openSecureChannel active : ScopeM W A cap Answer).execute req.body s w).2
    (t.1.channel, t.2) =
      Op.step b s.channel w (.request cap req.opnPolicy req.opnClientCert req.body : ledger.Op) := by
  rw [Op.step, execute_end, execute_end, handler, run_state_bind]
  dsimp only
  rw [run_bind_pure]
  rfl

theorem handler_opChannel (service : Service) (active : Option (Nat × Session)) (s : Scope W A) (w : W) :
    ledger.OpChannel b s.channel
      ((handler b c app req service active : ScopeM W A cap Answer).execute req.body s
        w).2.1.channel := by
  by_cases hopen : service = .openSecureChannel
  · subst hopen
    exact ⟨.request cap req.opnPolicy req.opnClientCert req.body, w,
      congrArg Prod.fst (ledger.handler_open active s w)⟩
  · have hstep : ScopeStep b req service ((active.map (·.2.sessionId)).getD 0) s
        ((handler b c app req service active : ScopeM W A cap Answer).execute req.body s w).2.1 :=
      (handler_effect service active).execute req.body s w
    obtain hsame | ⟨hservice, -⟩ := hstep.channel
    · rw [hsame]
      exact ledger.opChannel_traffic (f := id) _ w (fun _ => rfl) (fun _ => rfl)
    · exact absurd hservice hopen

theorem serviceDispatch_opChannel (req : Request) (s : Scope W A) (w : W) :
    ledger.OpChannel b s.channel
      (serviceDispatch b c app req s w : Dispatched W A cap).scope.channel := by
  obtain hsame | ⟨service, active, -, hscope⟩ := serviceDispatch_handled cap b c app req s w
  · rw [hsame]
    exact ledger.opChannel_traffic (f := id) s.channel w (fun _ => rfl) (fun _ => rfl)
  · rw [hscope]
    exact ledger.handler_opChannel service active s w

theorem opChannel_close {ch : SecureChannel} (opened : ch.isOpen = true) (w : W) :
    ledger.OpChannel b ch .init := by
  refine ⟨.close, w, ?_⟩
  rw [Op.step, secureChannelClose_run, if_pos opened]

variable (app cap) in
theorem serviceDispatch_open {s : Scope W A} {active : Option (Nat × Session)}
    (hgate : dispatchGate b req s = .ok (.openSecureChannel, active)) (w : W) :
    let d : Dispatched W A cap := serviceDispatch b c app req s w
    (d.scope.channel, d.world) =
      Op.step b s.channel w (.request cap req.opnPolicy req.opnClientCert req.body : ledger.Op) := by
  have hend : ((serviceDispatch b c app req s w : Dispatched W A cap).scope, _) = _ :=
    serviceDispatch_end hgate (by rintro ⟨⟩)
  exact (congrArg (fun t => (t.1.channel, t.2)) hend).trans (ledger.handler_open active s w)

theorem act_opChannel {k : Cause b W A} {s t : Ctx W A} (h : Act b c app k s t) :
    ledger.OpChannel b s.conn.channel t.conn.channel := by
  have hsame :=
    ledger.opChannel_traffic (b := b) (f := id) s.conn.channel s.world (fun _ => rfl) (fun _ => rfl)
  cases h with
  | quiet h =>
    rw [h.conn]
    exact hsame
  | accept => exact ⟨.accept, s.world, rfl⟩
  | shut opened | reset opened => exact ledger.opChannel_close opened s.world
  | buffer | close | hello => exact hsame
  | transport bytes =>
    rw [Ctx.written_conn]
    exact hsame
  | policy p =>
    exact ledger.opChannel_traffic (f := fun ch => { ch with policy := p }) _ s.world
      (fun _ => rfl) (fun _ => rfl)
  | sequence v =>
    exact ledger.opChannel_traffic (f := fun ch => { ch with sequence := v }) _ s.world
      (fun _ => rfl) (fun _ => rfl)
  | send requestId payload publish bytes =>
    rw [Ctx.written_conn]
    exact ledger.opChannel_traffic (f := fun ch =>
      { ch with outSequenceNumber := ch.outSequenceNumber + 1 }) _ s.world (fun _ => rfl) (fun _ => rfl)
  | lost =>
    exact ledger.opChannel_traffic (f := fun ch =>
      { ch with outSequenceNumber := ch.outSequenceNumber + 1 }) _ s.world (fun _ => rfl) (fun _ => rfl)
  | dispatch cap chunk typeId =>
    exact ledger.serviceDispatch_opChannel (chunk.request s.conn typeId)
      (s.dispatchScope b chunk) s.world

structure Books (b : Build) (op : ledger.Op) (s t : Ctx W A) : Prop where
  channel : t.conn.channel = (op.step b s.conn.channel s.world).1
  log : ledger.log t.world = ledger.log (op.step b s.conn.channel s.world).2

variable {ledger} in
theorem Books.balanced {op : ledger.Op} {s t : Ctx W A} (h : ledger.Books b op s t)
    (hs : ledger.out s.world = some (s.conn.channel.held + m))
    (hspared : op.replaces = true → s.conn.channel.held = 0) :
    ledger.out t.world = some (t.conn.channel.held + m) := by
  rw [out, h.log, h.channel]
  exact Op.step_balanced hs hspared

variable (hconn : ∀ h w, ledger.log ((c.platform.closeConnection h).run w).2 = ledger.log w)

include hconn in
/-- A CLO chunk closes the channel and enters what it held as freed. -/
theorem processClose_books (s : Ctx W A) : ledger.Books b .close s ((processClose c).run s).2 where
  channel := rfl
  log := hconn _ _

theorem closeChannel_books (s : Ctx W A) : ledger.Books b .close s ((closeChannel c).run s).2 where
  channel := rfl
  log := rfl

theorem dispatchInbound_books {before : SecureChannel} {chunk : Inbound} {typeId : UInt32} {s : Ctx W A}
    {active : Option (Nat × Session)}
    (hgate : dispatchGate b (chunk.request s.conn typeId) (s.dispatchScope b chunk) =
      .ok (.openSecureChannel, active)) :
    ledger.Books b (.request cap chunk.policyUri chunk.senderCert chunk.body) s
      (dispatchInbound b c app cap before chunk typeId s).2 := by
  have hopen := ledger.serviceDispatch_open app cap hgate s.world
  exact ⟨congrArg Prod.fst hopen, congrArg (fun t => ledger.log t.2) hopen⟩

end Server

abbrev Book := List (Entry Bytes)

def bookCrypto : CryptoAdapter Book :=
  { Script.plainCrypto with
    cipherCtxInit := some fun _ => ExceptT.mk fun book =>
      (.ok [UInt8.ofNat book.length], .taken [UInt8.ofNat book.length] :: book)
    cipherCtxFree := some fun ctx book => ((), .returned ctx :: book) }

def bookConfig : Config Book := Script.configOn Script.quietPlatform 6 8192 (some bookCrypto)

def bookLedger : CipherLedger bookConfig where
  cr := bookCrypto
  init := _
  free := _
  log := id
  adapter := rfl
  ctxInit := rfl
  ctxFree := rfl
  initialised _ _ _ _ h := by
    cases h
    rfl
  refused _ _ _ _ h := nomatch h
  freed _ _ := rfl
  hmac _ _ _ := rfl
  random _ _ := rfl
  time _ := rfl

def bookPolicy : bookLedger.Traffic :=
  ⟨fun ch => { ch with policy := .basic256Sha256 }, id, fun _ => rfl, fun _ => rfl, fun _ => rfl⟩

def bookRequest : bookLedger.Op :=
  .request 8192 (some (utf8 "http://opcfoundation.org/UA/SecurityPolicy#Basic256Sha256")) (some [65])
    ((Script.openRequest 2 (List.replicate 32 5)).drop 4)

def reopened : List (Nat × bookLedger.Op) :=
  [(0, .accept), (0, .traffic bookPolicy), (0, bookRequest), (0, .close), (0, .accept),
    (0, .traffic bookPolicy), (0, bookRequest)]

def renewed : List (Nat × bookLedger.Op) :=
  [(0, .accept), (0, .traffic bookPolicy), (0, bookRequest), (0, bookRequest)]

theorem contexts_freed_once_reopened :
    bookLedger.Balanced (bookLedger.slotRun Script.build reopened (started 1 [])) :=
  bookLedger.contexts_freed_once reopened 1 rfl (by decide +kernel)

/-- The contexts of the first keys are still out after the renewal, and no channel holds them. -/
theorem renewal_loses_contexts :
    ¬ bookLedger.Balanced (bookLedger.slotRun Script.build renewed (started 1 [])) := by
  intro h
  have hcards :
    (bookLedger.out (bookLedger.slotRun Script.build renewed (started 1 [])).2).map Multiset.card =
      some 4 ∧
      Multiset.card ((bookLedger.slotRun Script.build renewed (started 1 [])).1.map
        SecureChannel.held).sum = 2 := by
    decide +kernel
  rw [Balanced] at h
  rw [h, Option.map_some] at hcards
  have := hcards.1.symm.trans (congrArg some hcards.2)
  revert this
  decide

end Runs

end CipherLedger

end Ledger

end MicroOpcua
