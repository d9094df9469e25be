import MicroOpcua.Spec.Channels

namespace MicroOpcua

open Relation Lib.History Lib.Table

variable {W A : Type} {b : Build} {c : Config W} {app : Application W A} {s : Server W A}

section Ownership

def Connection.authenticated (conn : Connection) : Bool :=
  conn.clientHandle.isSome && conn.channel.isOpen && conn.channel.policy.secured

theorem Connection.authenticated_iff {conn : Connection} : conn.authenticated = true ↔
    conn.clientHandle.isSome = true ∧ conn.channel.isOpen = true ∧
      conn.channel.policy.secured = true := by
  simp only [Connection.authenticated, Bool.and_eq_true, and_assoc]

variable (b) in
/-- An OPN chunk that arrives has a certificate the server can store, which is that of every channel in
use, and it does not turn a plain channel in use into a secured one. -/
def KeepsCertificate : Event W A → Prop
  | .message id bytes before => parseMessageHeader bytes = .ok .openChannel →
    (opnCertificate bytes).size ≤ b.maxClientCertSize ∧
    (∀ conn ∈ before.conns, conn.authenticated = true →
      conn.openingCert.getD [] = (opnCertificate bytes).getD []) ∧
    ∀ conn ∈ before.conns, conn.id = id → conn.channel.isOpen = true →
      conn.channel.policy.secured = false → ∀ policy ∈ opnPolicy b bytes, policy.secured = false
  | _ => True

instance : DecidablePred (KeepsCertificate (W := W) (A := A) b)
  | .message .. => by unfold KeepsCertificate; infer_instance
  | .accepted _ | .hello .. | .dispatched .. | .turn .. | .wrote _ | .closed _ =>
    inferInstanceAs (Decidable True)

/-- CreateSession and ActivateSession on a secured channel check against the certificate of the OPN
chunk that opened the channel. -/
def ChecksOpeningCert (e : Event W A) (past : List (Event W A)) : Prop :=
  ∀ id before chunk run, e = .dispatched id before chunk (some run) →
    run.service = .createSession ∨ run.service = .activateSession → run.policy.secured = true →
    ∃ bytes snapshot earlier, past = .message id bytes snapshot :: earlier ∧
      ∃ conn ∈ snapshot.conns, conn.id = id ∧ run.clientCert = conn.openingCert.getD []

variable (b c) in
structure CertOwned (s : Server W A) : Prop where
  sound : ∀ conn ∈ s.conns, ChannelSound b c conn.channel
  cert : ∀ conn ∈ s.conns, conn.authenticated = true →
    conn.openingCert.getD [] = s.shared.channelClientCert

inductive CertStep : Cause b W A → Ctx W A → Ctx W A → Prop where
  | kept {k s t} (cert : t.shared.channelClientCert = s.shared.channelClientCert)
      (own : t.conn.authenticated = true →
        s.conn.authenticated = true ∧ t.conn.openingCert = s.conn.openingCert) : CertStep k s t
  | stored {a : Arrival W A} {s t}
      (others : ∀ conn ∈ a.conns, conn.authenticated = true →
        conn.openingCert.getD [] = t.shared.channelClientCert)
      (own : t.conn.authenticated = true → t.conn.openingCert.getD [] = t.shared.channelClientCert) :
      CertStep (.message a) s t

section

variable {k : Cause b W A} {s t : Ctx W A}
    (hcert : t.shared.channelClientCert = s.shared.channelClientCert)

include hcert

theorem CertStep.of_frame (hhandle : t.conn.clientHandle = s.conn.clientHandle)
    (hopen : t.conn.channel.isOpen = s.conn.channel.isOpen)
    (hpolicy : t.conn.channel.policy = s.conn.channel.policy)
    (hopening : t.conn.openingCert = s.conn.openingCert) : CertStep k s t := by
  refine .kept hcert (fun h => ⟨?_, hopening⟩)
  rw [Connection.authenticated, ← hhandle, ← hopen, ← hpolicy]
  exact h

theorem CertStep.of_unused (hunused : t.conn.authenticated = false) :
    CertStep k s t := .kept hcert (fun h => absurd (hunused.symm.trans h) (by decide))

end

theorem storedClientCert_eq {cert : MuString} (h : cert.size ≤ b.maxClientCertSize) :
    storedClientCert b cert = cert.getD [] := by
  unfold storedClientCert
  split
  · rfl
  · rename_i hsize
    have hzero : cert.size = 0 := by omega
    exact (List.length_eq_zero_iff.mp hzero).symm

theorem ChannelSound.secure {ch : SecureChannel} (h : ChannelSound b c ch)
    (hsecured : ch.policy.secured = true) : secureTransport b c = true := by
  by_contra hplain
  rw [(h.plain (by simpa using hplain)).1] at hsecured
  cases hsecured

section Dispatch

variable {a : Arrival W A} {chunk : Inbound} {typeId : UInt32} {run : Option HandlerRun} {s t : Ctx W A}

section

variable (h : Arrived b c a s chunk)

include h

theorem Arrived.handle : s.conn.clientHandle = a.start.conn.clientHandle :=
  (congrArg Connection.clientHandle h.conn).trans rfl

theorem Arrived.openingCert : s.conn.openingCert = a.start.conn.openingCert :=
  (congrArg Connection.openingCert h.conn).trans rfl

theorem Arrived.isOpen : s.conn.channel.isOpen = a.start.conn.channel.isOpen :=
  (congrArg SecureChannel.isOpen h.channel).trans rfl

theorem Arrived.keysValid : s.conn.channel.keysValid = a.start.conn.channel.keysValid :=
  (congrArg SecureChannel.keysValid h.channel).trans rfl

theorem Arrived.message_mem :
    .message a.start.conn.id a.bytes ⟨a.start.shared, a.conns, a.start.world⟩ ∈ s.trace := by
  rw [h.trace, a.trace]
  exact .head _

theorem Arrived.msg_isOpen (hmsg : chunk.isOpn = false)
    (hsound : ChannelSound b c s.conn.channel) (hsecured : s.conn.channel.policy.secured = true) :
    s.conn.channel.isOpen = true := by
  by_contra hclosed
  have hpolicy := h.policy
  rw [hmsg, Bool.false_and, if_neg (by decide)] at hpolicy
  have hne : a.start.conn.channel.policy ≠ .none := by
    rw [← hpolicy]
    rintro hnone
    rw [hnone] at hsecured
    cases hsecured
  obtain ⟨-, -, -, -, hkeys, -⟩ := h.unwrapped hmsg (hsound.secure hsecured) hne
  have hkeys' := (hsound.closed (by simpa using hclosed)).2
  rw [h.keysValid, hkeys] at hkeys'
  cases hkeys'

theorem Arrived.opn_authenticated (hopn : chunk.isOpn = true)
    (hkeeps :
      KeepsCertificate b (.message a.start.conn.id a.bytes ⟨a.start.shared, a.conns, a.start.world⟩))
    (hsound : ChannelSound b c s.conn.channel) (hsecured : s.conn.channel.policy.secured = true)
    (hopen : s.conn.channel.isOpen = true) : a.start.conn.authenticated = true := by
  have htype := h.type
  have hpolicy := h.policy
  rw [hopn, if_pos rfl] at htype
  rw [hopn, hsound.secure hsecured, Bool.true_and, if_pos rfl] at hpolicy
  refine Connection.authenticated_iff.mpr ⟨a.connected, h.isOpen ▸ hopen, ?_⟩
  by_contra hplain
  have hnot :=
    (hkeeps htype).2.2 a.start.conn a.mem rfl (h.isOpen ▸ hopen) (by simpa using hplain) _ hpolicy
  rw [hnot] at hsecured
  cases hsecured

theorem Arrived.dispatchCert (hopn : chunk.isOpn = true) (hsecurity : b.security = true)
    (hkeeps :
      KeepsCertificate b (.message a.start.conn.id a.bytes ⟨a.start.shared, a.conns, a.start.world⟩))
    (stored : Bytes) : dispatchCert b chunk stored = (opnCertificate a.bytes).getD [] := by
  have htype := h.type
  rw [hopn, if_pos rfl] at htype
  have hsize : chunk.senderCert.size = (opnCertificate a.bytes).size :=
    congrArg List.length (h.cert hopn)
  rw [MicroOpcua.dispatchCert, hopn, hsecurity, Bool.true_and, if_pos rfl,
    storedClientCert_eq (hsize ▸ (hkeeps htype).1), h.cert hopn]

end

theorem Dispatches.certStep (h : Dispatches b a.start.conn.channel chunk typeId run s t)
    (harrived : Arrived b c a s chunk) (hC : ∀ e ∈ s.trace, KeepsCertificate b e)
    (hsound : ChannelSound b c s.conn.channel) : CertStep (.message a : Cause b W A) s t := by
  have hkeeps := hC _ harrived.message_mem
  have hhandle : t.conn.clientHandle = s.conn.clientHandle :=
    (congrArg Connection.clientHandle h.conn).trans rfl
  have hkept (hopen : s.conn.channel.isOpen = true) : t.conn.openingCert = s.conn.openingCert := by
    rw [h.opening, hopen]
    rfl
  by_cases hstores : chunk.isOpn = true ∧ b.security = true
  · obtain ⟨hopn, hsecurity⟩ := hstores
    have hcert := h.cert.trans (harrived.dispatchCert hopn hsecurity hkeeps _)
    have htype := harrived.type
    rw [hopn, if_pos rfl] at htype
    obtain ⟨-, hothers, -⟩ := hkeeps htype
    refine .stored (fun conn hmem hauth => (hothers conn hmem hauth).trans hcert.symm) (fun hauth => ?_)
    obtain ⟨-, hopen, hsecured⟩ := Connection.authenticated_iff.mp hauth
    rw [hcert]
    by_cases hbefore : s.conn.channel.isOpen = true
    · have hauth' := harrived.opn_authenticated hopn hkeeps hsound (h.policy ▸ hsecured) hbefore
      rw [hkept hbefore, harrived.openingCert]
      exact hothers a.start.conn a.mem hauth'
    · rw [h.opening, hopen, Bool.and_true, if_pos (by simpa using hbefore)]
      exact harrived.cert hopn
  · have hcert : t.shared.channelClientCert = s.shared.channelClientCert := by
      rw [h.cert, MicroOpcua.dispatchCert, if_neg (by simpa using hstores)]
    refine .kept hcert (fun hauth => ?_)
    obtain ⟨hconnected, -, hsecured⟩ := Connection.authenticated_iff.mp hauth
    rw [h.policy] at hsecured
    have hsecurity : b.security = true := (Bool.and_eq_true _ _ ▸ hsound.secure hsecured).1
    have hopen := harrived.msg_isOpen (by simpa [hsecurity] using hstores) hsound hsecured
    exact ⟨Connection.authenticated_iff.mpr ⟨hhandle ▸ hconnected, hopen, hsecured⟩, hkept hopen⟩

end Dispatch

theorem Act.certStep {k : Cause b W A} {s t : Ctx W A} (h : Act b c app k s t)
    (hC : ∀ e ∈ s.trace, KeepsCertificate b e) (hsound : ChannelSound b c s.conn.channel) :
    CertStep k s t := by
  cases h with
  | quiet h => exact .of_frame h.cert (by rw [h.conn]) (by rw [h.conn]) (by rw [h.conn]) (by rw [h.conn])
  | close | shut | reset =>
    exact .of_unused rfl (by simp [Connection.authenticated, Ctx.closed, Ctx.setChannel,
      SecureChannel.init])
  | accept => exact .of_unused rfl (by simp [Connection.authenticated, acceptInto, SecureChannel.init])
  | transport | send =>
    refine .of_frame ?_ ?_ ?_ ?_ ?_ <;> simp only [Ctx.written_conn, Ctx.written_shared] <;> rfl
  | buffer | hello | sequence | lost => exact .of_frame rfl rfl rfl rfl rfl
  | @policy a _ p secure trace conn type named =>
    refine .kept rfl (fun hauth => ⟨?_, rfl⟩)
    obtain ⟨hconnected, hopen, hsecured⟩ := Connection.authenticated_iff.mp hauth
    refine Connection.authenticated_iff.mpr ⟨hconnected, hopen, ?_⟩
    have hkeeps := hC (.message a.start.conn.id a.bytes ⟨a.start.shared, a.conns, a.start.world⟩)
      (trace ▸ a.trace ▸ .head _)
    by_contra hplain
    have hnot :=
      (hkeeps type).2.2 a.start.conn a.mem rfl (conn ▸ hopen) (conn ▸ by simpa using hplain) p named
    exact absurd (hnot.symm.trans hsecured) (by decide)
  | dispatch cap chunk typeId arrived =>
    obtain ⟨run, hdispatches⟩ := dispatchInbound_dispatches b c app cap _ chunk typeId s
    exact hdispatches.certStep arrived hC hsound

theorem CertOwned.init (a : A) (w : W) : CertOwned b c (Server.init b a w) :=
  ⟨Server.init_conns (fun _ => channelSound_init) a w, Server.init_conns (fun _ h => nomatch h) a w⟩

theorem CertOwned.step {s t : Server W A} (hC : ∀ e ∈ t.trace, KeepsCertificate b e)
    (hstep : Step b c app s t) (h : CertOwned b c s) : CertOwned b c t := by
  refine ⟨hstep.conns (fun _ _ _ _ _ _ => Act.channelSound) h.sound, ?_⟩
  have hC' : ∀ e ∈ s.trace, KeepsCertificate b e := fun e he => hC e (hstep.trace_subset he)
  cases hstep with
  | @act u i conn k found cause hact =>
    have hmem := List.mem_of_getElem? found
    intro conn' hmem' hauth
    rcases hact.certStep hC' (h.sound conn hmem) with ⟨hcert, hown⟩ | ⟨hothers, hown⟩
    · have hcert : (s.put i u).shared.channelClientCert = s.shared.channelClientCert := hcert
      rw [hcert]
      rcases List.mem_or_eq_of_mem_set hmem' with hold | rfl
      · exact h.cert conn' hold hauth
      · obtain ⟨hauth', hopening⟩ := hown hauth
        rw [hopening]
        exact h.cert conn hmem hauth'
    · rcases mem_set_of_mem_set hmem' with rfl | hother
      · exact hown hauth
      · exact hothers conn' (cause.2 ▸ hother _) hauth
  | reset =>
    unfold resetShared
    split <;> exact h.cert
  | message | turn | background | stop => exact h.cert

/-- As long as no OPN chunk stores a certificate other than that of the channels in use, sessions are
checked against the certificate that opened their channel. -/
theorem sessions_check_opening_cert (h : Reachable b c app s)
    (hkeeps : ∀ e ∈ s.trace, KeepsCertificate b e) : Always ChecksOpeningCert s.trace := by
  refine h.always_of_invariant CertOwned.init (fun _ _ _ hC hstep => CertOwned.step hC hstep)
    (fun s e howned hC hoccurs => ?_) hkeeps
  rintro id before chunk run rfl hservice hsecured
  obtain ⟨a, i, conn, typeId, hin, rfl, rfl⟩ := hoccurs
  have hran := hin.ran run rfl
  have hmem := List.mem_of_getElem? hin.found
  have hsound := howned.sound conn hmem
  have hopen : conn.channel.isOpen = true := by
    refine hran.isOpen.resolve_left (fun hopn => ?_)
    obtain ⟨row, hrow, hrowService⟩ := hran.row
    have := (findServiceDescriptor_row hrow).2.mpr hopn
    rw [hrowService] at this
    rcases hservice with hservice | hservice <;> rw [hservice] at this <;> cases this
  rw [hran.policy] at hsecured
  refine ⟨a.bytes, _, a.past, hin.trace, a.start.conn, a.mem, hin.id.symm, ?_⟩
  rw [hran.cert]
  by_cases hopn : chunk.isOpn = true
  · have hkeeps' := hC _ (.tail _ hin.arrived.message_mem)
    have hsecurity : b.security = true := (Bool.and_eq_true _ _ ▸ hsound.secure hsecured).1
    have hauth := hin.arrived.opn_authenticated hopn hkeeps' hsound hsecured hopen
    have htype := hin.arrived.type
    rw [hopn, if_pos rfl] at htype
    rw [hin.arrived.dispatchCert hopn hsecurity hkeeps']
    exact ((hkeeps' htype).2.1 a.start.conn a.mem hauth).symm
  · have hauth : conn.authenticated = true :=
      Connection.authenticated_iff.mpr ⟨hin.arrived.handle ▸ a.connected, hopen, hsecured⟩
    rw [dispatchCert, if_neg (by simp [hopn]), ← hin.arrived.openingCert]
    exact (howned.cert conn hmem hauth).symm

open Script

def Event.clientCert? : Event W A → Option Bytes
  | .dispatched _ _ _ run => (run.filter (fun r => r.policy.secured)).map HandlerRun.clientCert
  | _ => none

def Event.conns : Event W A → List Connection
  | .message _ _ before => before.conns
  | _ => []

theorem ChecksOpeningCert.opening {e : Event W A} {past : List (Event W A)} {cert : Bytes}
    (h : ChecksOpeningCert e past) (hservice : e.service? = some .activateSession)
    (hcert : e.clientCert? = some cert) :
    ∃ e' ∈ past, ∃ conn ∈ e'.conns, some conn.id = e.conn? ∧ conn.openingCert.getD [] = cert := by
  cases e with
  | dispatched id before chunk run =>
    obtain ⟨run, rfl, hrun⟩ := Option.map_eq_some_iff.mp hservice
    obtain ⟨run', hfilter, rfl⟩ := Option.map_eq_some_iff.mp hcert
    obtain ⟨heq, hsecured⟩ := Option.filter_eq_some_iff.mp hfilter
    obtain rfl := Option.some.inj heq
    obtain ⟨bytes, snapshot, earlier, rfl, conn, hmem, hid, hopening⟩ :=
      h id before chunk run rfl (.inr hrun) hsecured
    exact ⟨_, .head _, conn, hmem, congrArg some hid, hopening.symm⟩
  | _ => cases hservice

/-- Two clients with channels of their own in mode Sign; the first one activates a session. -/
def twoSigned (first second : Bytes) : Server Script Unit :=
  play (secured 6)
    (signedChannel 10 first ++ signedChannel 20 second ++ [deliver 10 (msgSigned 2 (activateRequest 0))])

theorem sessions_check_opening_cert_one_certificate :
    (∃ e ∈ (twoSigned [65] [65]).trace, e.service? = some .activateSession ∧ e.clientCert? = some [65]) ∧
      Always ChecksOpeningCert (twoSigned [65] [65]).trace :=
  And.imp_right (sessions_check_opening_cert (play_reachable (by decide) _)) (by decide +kernel)

theorem twoSigned_replaced : ∃ e ∈ (twoSigned [65] [66]).trace, e.service? = some .activateSession ∧
    e.clientCert? = some [66] ∧ ∀ e' ∈ (twoSigned [65] [66]).trace, ∀ conn ∈ e'.conns,
      some conn.id = e.conn? → conn.openingCert.getD [] ≠ [66] := by
  decide +kernel

/-- The OPN chunk of the second client replaces the certificate the first one is checked against. -/
theorem session_checked_against_other_cert :
    Reachable build (secured 6) application (twoSigned [65] [66]) ∧
      ¬ Always ChecksOpeningCert (twoSigned [65] [66]).trace := by
  refine ⟨play_reachable (by decide) _, fun h => ?_⟩
  obtain ⟨e, he, hservice, hcert, hopening⟩ := twoSigned_replaced
  obtain ⟨past, hpast, hchecks⟩ := h.exists_past he
  obtain ⟨e', he', conn, hmem, hid, heq⟩ := hchecks.opening hservice hcert
  exact hopening e' (hpast.subset he') conn hmem hid heq

end Ownership

section FailedOpen

open Lib.StateRun

structure SecurityState where
  policy : SecurityPolicyId
  mode : MessageSecurityMode
  isOpen : Bool
  tokenId : UInt32
  revisedLifetime : UInt32
  clientKeys : SymKeys
  serverKeys : SymKeys
  keysValid : Bool
  clientCert : Bytes
deriving DecidableEq

def Ctx.security (s : Ctx W A) : SecurityState :=
  let ch := s.conn.channel
  ⟨ch.policy, ch.mode, ch.isOpen, ch.tokenId, ch.revisedLifetime, ch.clientKeys,
    ch.serverKeys, ch.keysValid, s.shared.channelClientCert⟩

variable (b c) in
def recoverOpn (message : Bytes) (s : Ctx W A) : Option (ChunkFields × SecurityPolicyId) × W :=
  match b.security, c.cryptoAdapter with
  | true, some cr => (unwrapOpn b cr message).run s.world
  | _, _ =>
    (((readPlaintextChunk true).decode message).toOption.map (fun f => (f, s.conn.channel.policy)),
      s.world)

def opnRequest (s : Ctx W A) (f : ChunkFields) : Option (UInt32 × Bytes) :=
  match f.accept true s.conn.channel, readRequestType f.payload with
  | some _, some (typeId, body) => typeId.ns0Numeric?.map (fun id => (id, body))
  | _, _ => none

variable (b c) in
/-- The request of an OPN chunk comes with the certificate that is stored and does not open the
channel. -/
def RequestLeaves (s : Ctx W A) (f : ChunkFields) (w : W) : Prop :=
  ∀ r ∈ opnRequest s f,
    (b.security = true → storedClientCert b f.senderCert = s.shared.channelClientCert) ∧
    (r.1 = openSecureChannelRequestId → opensChannel b c s.conn.channel f.policyUri r.2 w = false)

variable (b c) in
/-- An OPN chunk that is dropped before its policy is stored, or that names the policy of the channel
and whose request, if it has one, leaves the rest. -/
def LeavesChannel (s : Ctx W A) (message : Bytes) : Prop :=
  s.conn.tcp.established = true → parseMessageHeader message = .ok .openChannel →
    match recoverOpn b c message s with
    | (none, _) => True
    | (some (f, policy), w) => policy = s.conn.channel.policy ∧ RequestLeaves b c s f w

def Event.responseType? : Event W A → Option UInt32
  | .wrote ⟨_, _, _, .chunk _ _ payload _, _⟩ =>
  (readRequestType payload).bind (fun p => p.1.ns0Numeric?)
  | _ => none

def AnswersOpen (s t : Ctx W A) : Prop :=
  ∃ e ∈ t.trace.take (t.trace.length - s.trace.length),
    e.responseType? = some openSecureChannelResponseId

section Steps

variable {cap : Nat} {before : SecureChannel} {s : Ctx W A}

theorem sendBufferChunk_security (content : Content) (bytes : Bytes) (s : Ctx W A) :
    ((sendBufferChunk c content bytes).run s).2.security = s.security := by
  have hwritten : (s.written content bytes).security = s.security := by
    simp only [Ctx.security, Ctx.written_conn, Ctx.written_shared]
  rw [← hwritten]
  simp only [sendBufferChunk, run_bind, run_modify, run_get, onWorld_run, run_ite]
  split <;> rfl

theorem dispatchInbound_opens (app : Application W A) (cap : Nat) (before : SecureChannel)
    (chunk : Inbound) (s : Ctx W A) {typeId : UInt32} (htype : typeId = openSecureChannelRequestId) :
    if opensChannel b c s.conn.channel chunk.policyUri chunk.body s.world then
      Opened b.security chunk.policyUri s.conn.channel
        (dispatchInbound b c app cap before chunk typeId s).2.conn.channel
    else (dispatchInbound b c app cap before chunk typeId s).2.conn.channel = s.conn.channel :=
  serviceDispatch_open ⟨s.conn.id, typeId, chunk.body, chunk.requestId, chunk.policyUri,
    chunk.senderCert⟩ htype
      ⟨{ s.shared with channelClientCert := dispatchCert b chunk s.shared.channelClientCert },
        s.conn.channel⟩ _

theorem dispatchInbound_security {chunk : Inbound} {typeId : UInt32} (hopn : chunk.isOpn = true) :
    (dispatchInbound b c app cap before chunk typeId s).2.security = s.security ↔
      (b.security = true → storedClientCert b chunk.senderCert = s.shared.channelClientCert) ∧
      (typeId = openSecureChannelRequestId →
        opensChannel b c s.conn.channel chunk.policyUri chunk.body s.world = false) := by
  obtain ⟨run, hdispatches⟩ := dispatchInbound_dispatches b c app cap before chunk typeId s
  have hopens (htype : typeId = openSecureChannelRequestId) :=
    dispatchInbound_opens (b := b) (c := c) app cap before chunk s htype
  generalize (dispatchInbound b c app cap before chunk typeId s).2 = t at hdispatches hopens ⊢
  have hcert : t.shared.channelClientCert = s.shared.channelClientCert ↔
      (b.security = true → storedClientCert b chunk.senderCert = s.shared.channelClientCert) := by
    rw [hdispatches.cert, dispatchCert, hopn, Bool.true_and]
    cases b.security <;> simp
  rw [← hcert]
  constructor
  · intro h
    refine ⟨congrArg SecurityState.clientCert h, fun htype => ?_⟩
    by_contra hopen
    have hopened := hopens htype
    rw [if_pos (by simpa using hopen)] at hopened
    exact hopened.changed (congrArg SecurityState.isOpen h) (congrArg SecurityState.tokenId h)
  · rintro ⟨hstored, hrefused⟩
    have hchannel : t.conn.channel = s.conn.channel := by
      rcases hdispatches.channel with hsame | ⟨htype, -⟩
      · exact hsame
      · have hkept := hopens htype
        rw [hrefused htype, if_neg (by decide)] at hkept
        exact hkept
    simp only [Ctx.security, hchannel, hstored]

theorem acceptAndRespond_policy (f : ChunkFields) :
    ((acceptAndRespond b c app cap before true f).run s).2.conn.channel.policy =
      s.conn.channel.policy := by
  rcases acceptAndRespond_cases app cap before true f s with hrun | ⟨ch, haccept, hrun⟩
  · rw [hrun]
    rfl
  · obtain ⟨-, v, -, rfl⟩ := acceptInboundChunk_eq_some haccept
    rcases hrun with hrun | ⟨typeId, body, -, hrun⟩
    · rw [hrun]
      rfl
    · rw [hrun, respond_run]
      split
      · rename_i id _
        obtain ⟨run, hdispatches⟩ := dispatchInbound_dispatches b c app cap before _ id _
        exact hdispatches.policy
      · rfl

theorem acceptAndRespond_security (hcap : cap ≠ 0) (f : ChunkFields) :
    ((acceptAndRespond b c app cap before true f).run s).2.security = s.security ↔
      RequestLeaves b c s f s.world := by
  simp only [acceptAndRespond, run_bind, run_get, RequestLeaves, opnRequest]
  cases haccept : f.accept true s.conn.channel with
  | none => exact iff_of_true rfl (by rintro r ⟨⟩)
  | some ch =>
    obtain ⟨-, v, -, rfl⟩ := acceptInboundChunk_eq_some haccept
    simp only [run_bind, run_set]
    cases htype : readRequestType f.payload with
    | none => exact iff_of_true rfl (by rintro r ⟨⟩)
    | some p =>
      simp only [hcap, if_false, run_bind, respond_run, run_pure]
      cases hid : p.1.ns0Numeric? with
      | none => exact iff_of_true rfl (by rintro r ⟨⟩)
      | some id =>
        simp only [Option.map_some, Option.mem_some_iff, forall_eq']
        exact dispatchInbound_security rfl

theorem respondSecure_security (cr : CryptoAdapter W) (f : ChunkFields) :
    ((respondSecure b c app cr before true f).run s).2.security =
      ((acceptAndRespond b c app secureRespMax before true f).run s).2.security := by
  simp only [respondSecure, run_bind]
  split
  · rfl
  · simp only [run_bind, run_modify, run_get, onWorld_run]
    split
    · rw [sendBufferChunk_security]
      rfl
    · rfl

theorem handleDataChunkPlaintext_security {message : Bytes} {f : ChunkFields}
    (hread : (readPlaintextChunk true).decode message = .ok f) :
    ((handleDataChunkPlaintext b c app true message).run s).2.security =
      ((acceptAndRespond b c app (c.sendBufferSize - asymmetricNoneHeaderSize) s.conn.channel true f).run
        s).2.security := by
  simp only [handleDataChunkPlaintext, run_bind, run_get, hread, if_true]
  split
  · rfl
  · simp only [run_bind, run_modify, run_get]
    split
    · rw [sendBufferChunk_security]
      rfl
    · rfl

theorem respondSecure_leaves (cr : CryptoAdapter W) (f : ChunkFields)
    (policy : SecurityPolicyId) (w : W) : ((respondSecure b c app cr before true f).run
        (({ s with world := w } : Ctx W A).setChannel
          { s.conn.channel with policy := policy })).2.security =
      s.security ↔ policy = s.conn.channel.policy ∧ RequestLeaves b c s f w := by
  rw [respondSecure_security]
  generalize hu :
    ({ s with world := w } : Ctx W A).setChannel { s.conn.channel with policy := policy } = u
  by_cases hpolicy : policy = s.conn.channel.policy
  · have hkept : u.security = s.security ∧ (RequestLeaves b c u f u.world ↔
        RequestLeaves b c s f w) := by
      subst hu hpolicy
      exact ⟨rfl, Iff.rfl⟩
    rw [← hkept.1, acceptAndRespond_security (by decide), hkept.2]
    exact (and_iff_right hpolicy).symm
  · refine iff_of_false (fun h => hpolicy ?_) (fun h => hpolicy h.1)
    have hset : u.conn.channel.policy = policy := by
      subst hu
      rfl
    exact hset.symm.trans ((acceptAndRespond_policy f).symm.trans (congrArg SecurityState.policy h))

theorem handleDataChunk_security (hsend : asymmetricNoneHeaderSize < c.sendBufferSize)
    (message : Bytes) : ((handleDataChunk b c app true message).run s).2.security = s.security ↔
      match recoverOpn b c message s with
      | (none, _) => True
      | (some (f, policy), w) => policy = s.conn.channel.policy ∧ RequestLeaves b c s f w := by
  unfold handleDataChunk
  split
  · rename_i cr hsecurity hcr
    have hrecover : recoverOpn b c message s = (unwrapOpn b cr message).run s.world := by
      simp only [recoverOpn, hsecurity, hcr]
    rw [hrecover]
    simp only [handleDataChunkSecure, run_bind, run_get, if_true, onWorld_run]
    generalize (unwrapOpn b cr message).run s.world = p
    obtain ⟨_ | ⟨f, policy⟩, w⟩ := p
    · exact iff_of_true rfl trivial
    · exact respondSecure_leaves cr f policy w
  · rename_i hplain
    have hrecover : recoverOpn b c message s = (((readPlaintextChunk true).decode message).toOption.map
        (fun f => (f, s.conn.channel.policy)), s.world) := by
      unfold recoverOpn
      split
      · rename_i cr hsecurity hcr
        exact absurd hcr (hplain cr hsecurity)
      · rfl
    rw [hrecover]
    cases hread : (readPlaintextChunk true).decode message with
    | error e =>
      simp only [handleDataChunkPlaintext, run_bind, run_get, hread]
      exact iff_of_true rfl trivial
    | ok f =>
      rw [handleDataChunkPlaintext_security hread, acceptAndRespond_security (by omega)]
      exact (and_iff_right rfl).symm

theorem processHelloMessage_security (message : Bytes) :
    ((processHelloMessage c message).run s).2.security = s.security := by
  unfold processHelloMessage
  split
  · rw [run_bind, run_modify, sendBufferChunk_security]
    rfl
  · rfl

theorem sendTcpErrorChunk_security (code : StatusCode) :
    ((sendTcpErrorChunk c code).run s).2.security = s.security := by
  unfold sendTcpErrorChunk
  split
  · exact sendBufferChunk_security _ _ s
  · rfl

end Steps

section Decide

variable {s t : Ctx W A} {f : ChunkFields} {w : W} {message : Bytes}

instance : Decidable (RequestLeaves b c s f w) := by
  unfold RequestLeaves
  infer_instance

instance : Decidable (LeavesChannel b c s message) := by
  unfold LeavesChannel
  have : Decidable (match recoverOpn b c message s with
      | (none, _) => True
      | (some (f, policy), w) => policy = s.conn.channel.policy ∧ RequestLeaves b c s f w) := by
    split <;> infer_instance
  infer_instance

instance : Decidable (AnswersOpen s t) := by
  unfold AnswersOpen
  infer_instance

end Decide

/-- A failed OPN chunk leaves the security of its channel and the stored certificate alone exactly when
it leaves them before its checks are over. -/
theorem failed_open_keeps_channel_iff {s : Ctx W A} {message : Bytes}
    (hvalid : configValidate b c = .ok ()) (hopn : message.take 3 = utf8 "OPN") :
    let t := ((processMessage b c app message).run s).2
    ¬ AnswersOpen s t → (t.security = s.security ↔ LeavesChannel b c s message) := by
  intro t _
  have hsend : asymmetricNoneHeaderSize < c.sendBufferSize :=
    lt_of_lt_of_le (by decide) (configValidate_send hvalid)
  simp only [t, processMessage, run_bind, run_get, run_ite, LeavesChannel]
  by_cases hestablished : s.conn.tcp.established = true
  · simp only [hestablished, Bool.not_true, Bool.false_eq_true, if_false, true_imp_iff]
    cases hparse : parseMessageHeader message with
    | error e =>
      refine iff_of_true ?_ (by rintro ⟨⟩)
      rw [run_ite]
      split
      · exact sendTcpErrorChunk_security _
      · rfl
    | ok type =>
      have htype := parseMessageHeader_type hparse
      rw [hopn] at htype
      obtain rfl : type = .openChannel := Option.some.inj (htype.symm.trans (by decide))
      simp only [true_imp_iff]
      exact handleDataChunk_security hsend message
  · rw [if_pos (by simpa using hestablished), processHelloMessage_security]
    exact iff_of_true rfl (fun h => absurd h hestablished)

open Script

def signedCtx : Ctx Script Unit := signedStart.ctx (signedStart.conns.getD 0 (.empty 0))

def afterMessage (message : Bytes) : Ctx Script Unit :=
  ((processMessage build (secured 6) application message).run signedCtx).2

/-- A renewal that asks for mode None is refused. -/
theorem failed_open_keeps_channel_iff_wrong_mode :
    ¬ AnswersOpen signedCtx (afterMessage (openSealed [65] 2 (openRequest 1 []))) ∧
      (afterMessage (openSealed [65] 2 (openRequest 1 []))).security = signedCtx.security := by
  have hrun : ¬ AnswersOpen signedCtx (afterMessage (openSealed [65] 2 (openRequest 1 []))) ∧
      LeavesChannel build (secured 6) signedCtx (openSealed [65] 2 (openRequest 1 [])) := by
    decide +kernel
  have hkeeps : (afterMessage (openSealed [65] 2 (openRequest 1 []))).security = signedCtx.security ↔
      LeavesChannel build (secured 6) signedCtx (openSealed [65] 2 (openRequest 1 [])) :=
    failed_open_keeps_channel_iff (by decide) (by decide) hrun.1
  exact And.imp_right hkeeps.mpr hrun

/-- An empty OPN chunk of policy None is dropped, and the channel has no policy any more. -/
theorem empty_open_changes_policy : Reachable build (secured 6) application signedStart ∧
      ¬ AnswersOpen signedCtx (afterMessage (openNone 2 [])) ∧
      (afterMessage (openNone 2 [])).security ≠ signedCtx.security :=
  ⟨play_reachable (by decide) _, by decide +kernel⟩

end FailedOpen

end MicroOpcua
