import MicroOpcua.Core.DispatchLaws
import MicroOpcua.Core.Framing
import MicroOpcua.Core.Transition

namespace MicroOpcua

open Relation Lib.StateRun

variable {W A : Type} {b : Build} {c : Config W} {app : Application W A} {k : Cause b W A}

abbrev Acts (b : Build) (c : Config W) (app : Application W A) (k : Cause b W A) :
    Ctx W A → Ctx W A → Prop :=
  ReflTransGen (Act b c app k)

theorem Quiet.world {k : Cause b W A} (s : Ctx W A) (w : W) : Quiet k s { s with world := w } :=
  ⟨rfl, rfl, rfl, fun _ => rfl, refl s.shared.subs, rfl⟩

theorem onWorld_run {α : Type} (m : StateM W α) (s : Ctx W A) :
    (onWorld m).run s = ((m.run s.world).1, { s with world := (m.run s.world).2 }) := by rfl

section Output

theorem closeConnection_run (s : Ctx W A) : (closeConnection c).run s =
      ((), ({ s with world := ((c.platform.closeConnection s.conn.clientHandle).run s.world).2 } :
        Ctx W A).closed) :=
  rfl

theorem closeConnection_acts (s : Ctx W A) : Acts b c app k s ((closeConnection c).run s).2 := by
  rw [closeConnection_run]
  exact .tail (.single (.quiet (.world s _))) .close

theorem sendBufferChunk_acts (content : Content) (bytes : Bytes) (s : Ctx W A) :
    Acts b c app k (s.written content bytes) ((sendBufferChunk c content bytes).run s).2 := by
  simp only [sendBufferChunk, run_bind, run_modify, run_get, onWorld_run, run_ite]
  split
  · exact .trans (.single (.quiet (.world _ _))) (closeConnection_acts _)
  · exact .single (.quiet (.world _ _))

theorem sendTransport_acts {bytes : Bytes} (size : bytes.length ≤ c.sendBufferSize) (s : Ctx W A) :
    Acts b c app k s ((sendBufferChunk c .transport bytes).run s).2 :=
  .head (.transport bytes size) (sendBufferChunk_acts _ _ s)

theorem sendTcpErrorChunk_acts (code : StatusCode) (s : Ctx W A) :
    Acts b c app k s ((sendTcpErrorChunk c code).run s).2 := by
  unfold sendTcpErrorChunk
  split
  · rename_i bytes h
    exact sendTransport_acts (createErrorMessage_length h) s
  · exact .refl

end Output

section Inbound

variable {message : Bytes} {cr : CryptoAdapter W} {w w' : W}

theorem asymChunkUnwrap_header {security : Bool} {cap : Nat} {a : AsymChunk}
    (hcomplete : (u32At message 4).toNat = message.length)
    (h : (asymChunkUnwrap security cr message cap).run.run w = (.ok a, w')) :
    ∃ channelId uri cert thumb len,
      readOpnHeader.decode message = .ok (channelId, uri, cert, thumb, len) ∧
      a.policy = requestedPolicyId security uri ∧ a.senderCert = cert.getD [] ∧
      (a.policy = .none ∨ a.policy ≠ .invalid ∧ cr.Accepted a.senderCert) := by
  simp only [asymChunkUnwrap, guard_returns, bind_returns, lift_returns, hcomplete,
    List.take_length] at h
  obtain ⟨-, -, ⟨channelId, uri, cert, thumb, len⟩, u, ⟨hheader, -⟩, h⟩ := h
  refine ⟨channelId, uri, cert, thumb, len, hheader, ?_⟩
  dsimp only at h
  split at h
  · rename_i hnone
    simp only [guard_returns, pure_returns] at h
    obtain ⟨-, -, rfl, -⟩ := h
    exact ⟨rfl, rfl, .inl hnone⟩
  · rename_i hnone
    simp only [asymStrip, guard_returns, bind_returns, pure_returns] at h
    obtain ⟨hvalid, signed, v, hverify, -, -, -, rfl, -⟩ := h
    obtain ⟨⟨⟩, x, hcert, -⟩ := bind_returns.mp hverify
    exact ⟨rfl, rfl, .inr ⟨hvalid, _, _, _, hnone, hcert⟩⟩

theorem readOpnHeader_uri {channelId : UInt32} {uri cert thumb : MuString} {len : Nat}
    (h : readOpnHeader.decode message = .ok (channelId, uri, cert, thumb, len)) :
    readOpnPolicyUri message = some uri := by
  obtain ⟨r, h⟩ := ReadM.decode_eq_ok.mp h
  simp only [readOpnHeader, bind_returns] at h
  obtain ⟨⟨⟩, r₁, hskip, id, r₂, hid, uri', r₃, huri, cert', r₄, -, thumb', r₅, -, r', r₆, -, hret⟩ := h
  obtain ⟨heq, -⟩ := pure_returns.mp hret
  have hdecode :
      (do skipBytes 8; let _ ← readUInt32; readString : ReadM MuString).decode message = .ok uri' :=
    ReadM.decode_eq_ok.mpr ⟨r₃, bind_returns.mpr ⟨_, _, hskip, bind_returns.mpr ⟨_, _, hid, huri⟩⟩⟩
  simp only [Prod.mk.injEq] at heq
  rw [readOpnPolicyUri, hdecode, heq.2.1]
  rfl

variable {f : ChunkFields} {ch : SecureChannel}

theorem unwrapOpn_header {policy : SecurityPolicyId}
    (hcomplete : (u32At message 4).toNat = message.length)
    (h : ((unwrapOpn b cr message).run w).1 = some (f, policy)) :
    readOpnPolicyUri message = some f.policyUri ∧ opnPolicy b message = some policy ∧
      f.senderCert.getD [] = (opnCertificate message).getD [] ∧
      (policy = .none ∨ policy ≠ .invalid ∧ cr.Accepted (f.senderCert.getD [])) := by
  unfold unwrapOpn at h
  split at h
  · cases h
  · rename_i policyUri huri
    rw [run_bind] at h
    split at h
    · cases h
    · rename_i a hunwrap
      obtain ⟨channelId, uri, cert, thumb, len, hheader, hpolicy, hcert, haddressed⟩ :=
        asymChunkUnwrap_header hcomplete (attempt_eq_some hunwrap)
      have heq : policyUri = uri := Option.some.inj (huri.symm.trans (readOpnHeader_uri hheader))
      obtain ⟨rfl, rfl⟩ := Prod.mk.inj (Option.some.inj h)
      refine ⟨huri, ?_, ?_, haddressed⟩
      · rw [opnPolicy, huri, hpolicy, heq]
        rfl
      · simp only [opnCertificate, hheader, hcert, Option.getD_some]

theorem readPlaintextChunk_header (h : (readPlaintextChunk true).decode message = .ok f) :
    readOpnPolicyUri message = some f.policyUri ∧ f.senderCert = opnCertificate message := by
  obtain ⟨r, h⟩ := ReadM.decode_eq_ok.mp h
  simp only [readPlaintextChunk, readSecurityHeader, bind_returns, pure_returns] at h
  obtain ⟨⟨⟩, r₁, hskip, id, r₂, hid, ⟨uri, cert, token⟩, r₆, hsecurity, h⟩ := h
  obtain ⟨uri', r₃, huri, cert', r₄, hcert, thumb, r₅, hthumb, heq, -⟩ := hsecurity
  obtain ⟨number, r₇, -, request, r₈, -, r₉, r₁₀, -, rfl, -⟩ := h
  obtain ⟨rfl, rfl, -⟩ : uri' = uri ∧ cert' = cert ∧ 0 = token := by simpa using heq
  have hheader : readOpnHeader.decode message = .ok (id, uri', cert', thumb, r₅.position) :=
    ReadM.decode_eq_ok.mpr ⟨r₅, bind_returns.mpr ⟨_, _, hskip, bind_returns.mpr ⟨_, _, hid,
      bind_returns.mpr ⟨_, _, huri,
        bind_returns.mpr ⟨_, _, hcert, bind_returns.mpr ⟨_, _, hthumb, rfl⟩⟩⟩⟩⟩⟩
  exact ⟨readOpnHeader_uri hheader, by simp only [opnCertificate, hheader]⟩

theorem unwrapMsg_returns (h : ((unwrapMsg cr ch message).run w).1 = some f) :
    ch.keysValid = true ∧ ∃ m, ((symChunkUnwrap cr ch.mode ch.clientKeys message).run.run w).1 = .ok m ∧
      f = ⟨m.secureChannelId, m.tokenId, m.sequenceNumber, m.requestId, none, none, m.body⟩ := by
  unfold unwrapMsg at h
  split at h
  · cases h
  · rename_i hkeys
    rw [run_bind] at h
    split at h
    · cases h
    · rename_i m hunwrap
      refine ⟨by simpa using hkeys, m, ?_, (Option.some.inj h).symm⟩
      rw [attempt_eq_some hunwrap]

theorem acceptInboundChunk_eq_some {ch' : SecureChannel} {isOpn : Bool}
    {channelId tokenId number : UInt32}
    (h : acceptInboundChunk ch isOpn channelId tokenId number = some ch') :
    (isOpn = false → channelId = ch.channelId ∧ tokenId = ch.tokenId) ∧
      ∃ v, sequenceValidate ch.sequence number = .ok v ∧ ch' = { ch with sequence := v } := by
  unfold acceptInboundChunk at h
  split at h
  · cases h
  · rename_i hids
    split at h
    · rename_i v hv
      refine ⟨fun hopn => ?_, v, hv, (Option.some.inj h).symm⟩
      simpa [hopn] using hids
    · cases h

variable (b c) in
/-- The fields of a chunk of the message are recovered in state `s`, and its sequence number is about
to be checked. -/
structure Received (a : Arrival W A) (s : Ctx W A) (isOpn : Bool) (f : ChunkFields) : Prop where
  type : parseMessageHeader a.bytes = .ok (if isOpn then .openChannel else .message)
  trace : s.trace = a.start.trace
  shared : s.shared = a.start.shared
  conn : s.conn =
    { a.start.conn with channel := { a.start.conn.channel with policy := s.conn.channel.policy } }
  policy : if isOpn && secureTransport b c then opnPolicy b a.bytes = some s.conn.channel.policy
    else s.conn.channel.policy = a.start.conn.channel.policy
  unwrapped : isOpn = false → secureTransport b c = true → a.start.conn.channel.policy ≠ .none →
    ∃ cr w m, c.cryptoAdapter = some cr ∧ a.start.conn.channel.keysValid = true ∧
      ((symChunkUnwrap cr a.start.conn.channel.mode a.start.conn.channel.clientKeys a.bytes).run.run
        w).1 = .ok m ∧
      f = ⟨m.secureChannelId, m.tokenId, m.sequenceNumber, m.requestId, none, none, m.body⟩
  uri : isOpn = true → readOpnPolicyUri a.bytes = some f.policyUri
  cert : isOpn = true → f.senderCert.getD [] = (opnCertificate a.bytes).getD []
  addressed : isOpn = true → ∀ cr, b.security = true → c.cryptoAdapter = some cr →
    s.conn.channel.policy = .none ∨ s.conn.channel.policy ≠ .invalid ∧ cr.Accepted (f.senderCert.getD [])

theorem Received.arrived {a : Arrival W A} {s : Ctx W A} {isOpn : Bool}
    {typeId : NodeId} {body : Bytes} (h : Received b c a s isOpn f)
    (haccept : f.accept isOpn s.conn.channel = some ch)
    (htype : readRequestType f.payload = some (typeId, body)) :
    Arrived b c a (s.setChannel ch) (f.inbound isOpn typeId body) := by
  obtain ⟨hbound, v, hv, rfl⟩ := acceptInboundChunk_eq_some haccept
  have hchannel : s.conn.channel = { a.start.conn.channel with policy := s.conn.channel.policy } :=
    congrArg Connection.channel h.conn
  rw [hchannel] at hv hbound
  refine ⟨h.type, h.trace, h.shared, ?_, ?_, hv, hbound, h.policy, ?_, h.uri, h.cert⟩
  · simp only [Ctx.setChannel]
    rw [h.conn]
  · simp only [Ctx.setChannel]
    rw [hchannel]
  · intro hopn hsecure hpolicy
    obtain ⟨cr, w, m, hcr, hkeys, hm, rfl⟩ := h.unwrapped hopn hsecure hpolicy
    exact ⟨cr, w, m, hcr, hkeys, hm, rfl, rfl, rfl, rfl, htype⟩

end Inbound

section Dispatch

structure Ran (b : Build) (chunk : Inbound) (typeId : UInt32) (s : Ctx W A) (r : HandlerRun) : Prop where
  row : ∃ row, findServiceDescriptor b typeId = some row ∧ row.service = r.service
  policy : r.policy = s.conn.channel.policy
  cert : r.clientCert = dispatchCert b chunk s.shared.channelClientCert
  isOpen : typeId = openSecureChannelRequestId ∨ s.conn.channel.isOpen = true
  usable : ∀ session, r.session = some session →
    ∃ i, Usable b s.shared.sessions s.conn.channel.channelId i session

structure Dispatches (b : Build) (before : SecureChannel) (chunk : Inbound) (typeId : UInt32)
    (run : Option HandlerRun) (s t : Ctx W A) : Prop where
  trace : t.trace = .dispatched s.conn.id before chunk run :: s.trace
  cert : t.shared.channelClientCert = dispatchCert b chunk s.shared.channelClientCert
  conn : t.conn = { s.conn with channel := t.conn.channel, openingCert := t.conn.openingCert }
  opening : t.conn.openingCert =
    if !s.conn.channel.isOpen && t.conn.channel.isOpen then chunk.senderCert else s.conn.openingCert
  channel : t.conn.channel = s.conn.channel ∨
    typeId = openSecureChannelRequestId ∧ Opened b.security chunk.policyUri s.conn.channel t.conn.channel
  owners : owners t.shared.subs.subscriptions ⊆
    owners s.shared.subs.subscriptions ∪ openIds s.shared.sessions
  engine : EngineRuns b (fun _ _ => True) s.shared.subs t.shared.subs
  run : ∀ r, run = some r → Ran b chunk typeId s r

theorem dispatchInbound_dispatches (b : Build) (c : Config W) (app : Application W A) (cap : Nat)
    (before : SecureChannel) (chunk : Inbound) (typeId : UInt32) (s : Ctx W A) :
    ∃ run, Dispatches b before chunk typeId run s
      (dispatchInbound b c app cap before chunk typeId s).2 := by
  unfold dispatchInbound
  dsimp only
  generalize hd : serviceDispatch b c app _ _ s.world = d
  refine ⟨d.run, ?_⟩
  rcases serviceDispatch_cases hd with
    ⟨hnone, hscope⟩ | ⟨service, active, run, hgated, hrun, hservice, hpolicy, hcert, hstep, hsession⟩
  · rw [hnone, hscope]
    exact ⟨rfl, rfl, rfl, rfl, .inl rfl, Set.subset_union_left, refl s.shared.subs, nofun⟩
  · refine ⟨rfl, hstep.cert, rfl, rfl, ?_, ?_, hstep.subs.engine, ?_⟩
    · obtain ⟨row, hrow, rfl⟩ := hgated.row
      exact hstep.channel.imp id (fun h => ⟨(findServiceDescriptor_row hrow).2.mp h.1, h.2⟩)
    · cases active with
      | none => exact (hstep.subs.unowned (by simpa using hgated.bound)).trans Set.subset_union_left
      | some p =>
        have husable := hgated.usable p.1 p.2 rfl
        intro id hid
        rcases hstep.subs.owners hid with rfl | hid
        · exact .inr ⟨p.2, List.mem_of_getElem? husable.found, husable.isOpen, rfl⟩
        · exact .inl hid
    · rintro r hr
      obtain rfl : run = r := Option.some.inj (hrun.symm.trans hr)
      exact ⟨hservice ▸ hgated.row, hpolicy, hcert, hgated.isOpen, hsession⟩

theorem dispatchInbound_keepsKeys {cr : CryptoAdapter W} (hcr : c.cryptoAdapter = some cr)
    (app : Application W A) (cap : Nat) (before : SecureChannel) (chunk : Inbound)
    (typeId : UInt32) (s : Ctx W A) :
    KeepsKeys cr s.conn.channel (dispatchInbound b c app cap before chunk typeId s).2.conn.channel := by
  obtain ⟨run, hdispatches⟩ := dispatchInbound_dispatches b c app cap before chunk typeId s
  rcases hdispatches.channel with hsame | ⟨htype, -⟩
  · rw [hsame]
    exact refl _
  · exact serviceDispatch_keepsKeys hcr
      ⟨s.conn.id, typeId, chunk.body, chunk.requestId, chunk.policyUri, chunk.senderCert⟩ htype
      ⟨{ s.shared with channelClientCert := dispatchCert b chunk s.shared.channelClientCert },
        s.conn.channel⟩ _

theorem answerBytes_error_length {cap : Nat} (e : Fault) :
    (answerBytes (.error e : Except Fault (Encoded cap))).length ≤ 28 := by
  unfold answerBytes
  split
  · rename_i heq
    cases heq
  · rename_i e' _
    split
    · rename_i bs hencode
      rw [((writeResponsePrefix_encodes (by decide) 0 e'.code).emits).encode hencode,
        responsePrefix_length]
    · exact Nat.zero_le _

theorem opnAnswer_length (cap : Nat) (before : SecureChannel) (chunk : Inbound) (s : Ctx W A) :
    (answerBytes (dispatchInbound b c app cap before chunk openSecureChannelRequestId s).1).length ≤
      opnAnswerMax := by
  cases hresult : (dispatchInbound b c app cap before chunk openSecureChannelRequestId s).1 with
  | error e => exact (answerBytes_error_length e).trans (by decide)
  | ok bs => exact serviceDispatch_opn_length rfl hresult

end Dispatch

section Respond

variable {cap : Nat} {before : SecureChannel}

theorem respond_run (chunk : Inbound) (s : Ctx W A) :
    (respond b c app cap before chunk).run s =
      match chunk.typeId.ns0Numeric? with
      | some typeId =>
        (answerBytes (dispatchInbound b c app cap before chunk typeId s).1,
          (dispatchInbound b c app cap before chunk typeId s).2)
      | none => (answerBytes (.error .decodingError : Except Fault (Encoded cap)), s) := by
  unfold respond
  cases chunk.typeId.ns0Numeric? <;> rfl

theorem acceptAndRespond_cases (app : Application W A) (cap : Nat)
    (before : SecureChannel) (isOpn : Bool) (f : ChunkFields) (s : Ctx W A) :
    (acceptAndRespond b c app cap before isOpn f).run s = (none, ((closeConnection c).run s).2) ∨
    ∃ ch, f.accept isOpn s.conn.channel = some ch ∧
      ((acceptAndRespond b c app cap before isOpn f).run s = (none, s.setChannel ch) ∨
        ∃ typeId body, readRequestType f.payload = some (typeId, body) ∧
          let p := (respond b c app cap before (f.inbound isOpn typeId body)).run (s.setChannel ch)
          (acceptAndRespond b c app cap before isOpn f).run s =
              (if p.1 = [] then none else some p.1, p.2)) := by
  simp only [acceptAndRespond, run_bind, run_get]
  split
  · exact .inl rfl
  · rename_i ch hch
    refine .inr ⟨ch, hch, ?_⟩
    rw [run_bind, run_set]
    split
    · exact .inl rfl
    · rename_i typeId body htype
      by_cases hcap : cap = 0
      · simp only [hcap, if_true]
        exact .inl rfl
      · simp only [hcap, if_false]
        exact .inr ⟨typeId, body, htype, rfl⟩

theorem answerBytes_length {cap : Nat} (r : Except Fault (Encoded cap)) :
    (answerBytes r).length ≤ cap := by
  unfold answerBytes
  split
  · rename_i bs
    exact bs.2
  · split
    · rename_i bs _
      exact bs.2
    · exact Nat.zero_le _

theorem acceptAndRespond_acts {a : Arrival W A} {s : Ctx W A} {isOpn : Bool}
    {f : ChunkFields} (cap : Nat) (h : Received b c a s isOpn f) :
    Acts b c app (.message a) s
      ((acceptAndRespond b c app cap a.start.conn.channel isOpn f).run s).2 := by
  rcases acceptAndRespond_cases app cap a.start.conn.channel isOpn f s with hrun | ⟨ch, haccept, hrun⟩
  · rw [hrun]
    exact closeConnection_acts s
  · have hsequence : Act b c app (.message a) s (s.setChannel ch) := by
      obtain ⟨-, v, -, rfl⟩ := acceptInboundChunk_eq_some haccept
      exact .sequence v
    rcases hrun with hrun | ⟨typeId, body, htype, hrun⟩
    · rw [hrun]
      exact .single hsequence
    · rw [hrun, respond_run]
      split
      · rename_i id hid
        exact .tail (.single hsequence) (.dispatch cap _ id (h.arrived haccept htype) hid)
      · exact .single hsequence

variable (b c) in
structure Answering (a : Arrival W A) (cap : Nat) (isOpn : Bool) (f : ChunkFields) (s : Ctx W A)
    (response : Bytes) : Prop where
  length : response.length ≤ cap
  size : isOpn = true → response.length ≤ opnAnswerMax ∨ ∃ chunk run,
    s.trace = .dispatched a.start.conn.id a.start.conn.channel chunk run :: a.start.trace ∧
    chunk.isOpn = true ∧ chunk.typeId.ns0Numeric? ≠ some openSecureChannelRequestId
  addressed : isOpn = true → ∀ cr, b.security = true → c.cryptoAdapter = some cr →
    s.conn.channel.policy = .none ∨ s.conn.channel.policy ≠ .invalid ∧ cr.Accepted (f.senderCert.getD [])
  mode : isOpn = false → secureTransport b c = true → a.start.conn.channel.policy ≠ .none →
    s.conn.channel.mode = .sign ∨ s.conn.channel.mode = .signAndEncrypt

theorem symChunkUnwrap_mode {cr : CryptoAdapter W} {mode : MessageSecurityMode} {keys : SymKeys}
    {message : Bytes} {w : W} {m : SymChunk}
    (h : ((symChunkUnwrap cr mode keys message).run.run w).1 = .ok m) :
    mode = .sign ∨ mode = .signAndEncrypt := by
  have hreturns := returns_of_fst h
  simp only [symChunkUnwrap, guard_returns] at hreturns
  obtain ⟨-, -, hreturns⟩ := hreturns
  by_cases hsae : mode = .signAndEncrypt
  · exact .inr hsae
  · by_cases hsign : mode = .sign
    · exact .inl hsign
    · simp only [hsae, hsign, if_false] at hreturns
      obtain ⟨plain, u, hplain, -⟩ := bind_returns.mp hreturns
      exact (throw_returns.mp hplain).elim

section

variable {before : SecureChannel} {chunk : Inbound} {typeId : UInt32} {run : Option HandlerRun}
    {s t : Ctx W A} (h : Dispatches b before chunk typeId run s t)

include h

theorem Dispatches.policy : t.conn.channel.policy = s.conn.channel.policy := by
  rcases h.channel with hsame | ⟨-, lifetime, -, hopened⟩
  · rw [hsame]
  · rw [hopened]
    rfl

theorem Dispatches.mode (hpolicy : s.conn.channel.policy ≠ .none)
    (hmode : s.conn.channel.mode = .sign ∨ s.conn.channel.mode = .signAndEncrypt) :
    t.conn.channel.mode = .sign ∨ t.conn.channel.mode = .signAndEncrypt := by
  rcases h.channel with hsame | ⟨-, hopened⟩
  · rw [hsame]
    exact hmode
  · obtain ⟨-, -, hinvalid, -, hiff⟩ := hopened.sound
    cases hch : t.conn.channel.mode with
    | none => exact absurd (hiff.mpr hch) hpolicy
    | invalid => exact absurd hch hinvalid
    | sign => exact .inl rfl
    | signAndEncrypt => exact .inr rfl

end

section

variable {a : Arrival W A} {f : ChunkFields} {s : Ctx W A}

theorem respond_answering {isOpn : Bool} {chunk : Inbound}
    (hopn : chunk.isOpn = isOpn) (htrace : s.trace = a.start.trace) (hid : s.conn.id = a.start.conn.id)
    (haddressed : isOpn = true → ∀ cr, b.security = true → c.cryptoAdapter = some cr →
      s.conn.channel.policy = .none ∨ s.conn.channel.policy ≠ .invalid ∧
      cr.Accepted (f.senderCert.getD []))
    (hmode : isOpn = false → secureTransport b c = true → a.start.conn.channel.policy ≠ .none →
      s.conn.channel.policy ≠ .none ∧
      (s.conn.channel.mode = .sign ∨ s.conn.channel.mode = .signAndEncrypt)) :
    Answering b c a cap isOpn f ((respond b c app cap a.start.conn.channel chunk).run s).2
      ((respond b c app cap a.start.conn.channel chunk).run s).1 := by
  rw [respond_run]
  cases htype : chunk.typeId.ns0Numeric? with
  | none =>
    dsimp only
    exact ⟨answerBytes_length _, fun _ =>
      .inl ((answerBytes_error_length _).trans (by decide)), haddressed, fun hopn hsecure hpolicy =>
        (hmode hopn hsecure hpolicy).2⟩
  | some id =>
    obtain ⟨run, hdispatches⟩ := dispatchInbound_dispatches b c app cap a.start.conn.channel chunk id s
    refine ⟨answerBytes_length _, fun htrue => ?_, ?_, fun hopn hsecure hpolicy => ?_⟩
    · by_cases hid446 : id = openSecureChannelRequestId
      · subst hid446
        exact .inl (opnAnswer_length cap _ chunk s)
      · refine .inr ⟨chunk, run, ?_, hopn.trans htrue, ?_⟩
        · rw [hdispatches.trace, htrace, hid]
        · rw [htype]
          exact fun heq => hid446 (Option.some.inj heq)
    · rw [hdispatches.policy]
      exact haddressed
    · obtain ⟨hpolicy, hmode⟩ := hmode hopn hsecure hpolicy
      exact hdispatches.mode hpolicy hmode

theorem Received.mode (h : Received b c a s false f)
    (hsecure : secureTransport b c = true) (hpolicy : a.start.conn.channel.policy ≠ .none) :
    s.conn.channel.policy ≠ .none ∧
      (s.conn.channel.mode = .sign ∨ s.conn.channel.mode = .signAndEncrypt) := by
  obtain ⟨cr, w, m, -, -, hm, -⟩ := h.unwrapped rfl hsecure hpolicy
  have hsame : s.conn.channel.policy = a.start.conn.channel.policy := h.policy
  have hmode : s.conn.channel.mode = a.start.conn.channel.mode := by rw [h.conn]
  rw [hsame, hmode]
  exact ⟨hpolicy, symChunkUnwrap_mode hm⟩

theorem acceptAndRespond_answering {isOpn : Bool} {response : Bytes} (h : Received b c a s isOpn f)
    (hr : ((acceptAndRespond b c app cap a.start.conn.channel isOpn f).run s).1 = some response) :
    response ≠ [] ∧
      Answering b c a cap isOpn f ((acceptAndRespond b c app cap a.start.conn.channel isOpn f).run s).2
      response := by
  rcases acceptAndRespond_cases app cap a.start.conn.channel isOpn f s with hrun | ⟨ch, haccept, hrun⟩
  · rw [hrun] at hr
    cases hr
  · obtain ⟨-, v, -, rfl⟩ := acceptInboundChunk_eq_some haccept
    rcases hrun with hrun | ⟨typeId, body, -, hrun⟩
    · rw [hrun] at hr
      cases hr
    · rw [hrun] at hr ⊢
      dsimp only at hr ⊢
      split at hr
      · cases hr
      · rename_i hne
        obtain rfl := Option.some.inj hr
        have hid : s.conn.id = a.start.conn.id := by rw [h.conn]
        refine ⟨hne, respond_answering rfl h.trace hid h.addressed ?_⟩
        rintro rfl hsecure hpolicy
        exact h.mode hsecure hpolicy

end

end Respond

section Answer

variable {a : Arrival W A} {isOpn : Bool} {ch : SecureChannel} {cr : CryptoAdapter W}
    {requestId : UInt32}

theorem sendNumbered_acts {s : Ctx W A} {payload : Bytes} {publish : Option PublishRequest}
    {bytes : Bytes} (size : bytes.length ≤ c.sendBufferSize) (serving : k ≠ .stopping)
    (emitted : ∀ r, publish = some r → FramesMsg b c s.numbered.conn.channel requestId bytes ∧
      ∃ t, k = .turn t ∧ Emitted b t s r) (w : W) :
    Acts b c app k s
      ((sendBufferChunk c (.chunk s.numbered.conn.channel.outSequenceNumber requestId payload publish)
        bytes).run { s.numbered with world := w }).2 := by
  refine .head (.quiet (.world s w))
    (.head (.send requestId payload publish bytes size serving (fun r hr => ?_))
      (sendBufferChunk_acts _ _ _))
  obtain ⟨hframes, t, ht, he⟩ := emitted r hr
  exact ⟨hframes, t, ht, he.trace, he.parked, he.inUse, he.session, he.conn, he.channel⟩

theorem wrapSecure_length {f : ChunkFields}
    {body bytes : Bytes} {w w' : W}
    (h : (wrapSecure b c cr isOpn ch f body).run.run w = (.ok bytes, w')) :
    bytes.length ≤ c.sendBufferSize := by
  unfold wrapSecure at h
  split at h
  · exact asymChunkWrap_length h
  · exact (symChunkWrap_length (by decide) h).2

theorem respondSecure_acts {s : Ctx W A} {f : ChunkFields}
    (hcr : c.cryptoAdapter = some cr) (hsecurity : b.security = true)
    (hpolicy : isOpn = false → a.start.conn.channel.policy ≠ .none) (h : Received b c a s isOpn f) :
    Acts b c app (.message a) s ((respondSecure b c app cr a.start.conn.channel isOpn f).run s).2 := by
  have hsecure : secureTransport b c = true := by simp [secureTransport, hsecurity, hcr]
  simp only [respondSecure, run_bind]
  refine .trans (acceptAndRespond_acts secureRespMax h) ?_
  split
  · exact .refl
  · rename_i response hresponse
    have hanswer := (acceptAndRespond_answering h hresponse).2
    generalize ((acceptAndRespond b c app secureRespMax a.start.conn.channel isOpn f).run s).2 =
      t at hanswer ⊢
    simp only [run_bind, run_modify, run_get, onWorld_run]
    split
    · rename_i bytes hwrap
      refine sendNumbered_acts (wrapSecure_length (attempt_eq_some hwrap)) ?_ ?_ _
      · exact fun hk => nomatch hk
      · exact fun _ hr => nomatch hr
    · rename_i hwrap
      obtain ⟨e, he⟩ := attempt_eq_none hwrap
      refine .head (.lost ?_) (.single (.quiet (.world _ _)))
      cases isOpn with
      | true =>
        exact .asymmetric cr _ f.requestId _ response e hcr hsecurity
          (hanswer.addressed rfl cr hsecurity hcr) (hanswer.size rfl) he
      | false =>
        have hmode : t.conn.channel.mode ≠ .none := by
          rcases hanswer.mode rfl hsecure (hpolicy rfl) with hsign | hsign <;> rw [hsign] <;> exact nofun
        exact .symmetric cr _ f.requestId response e hcr hmode hsecurity hanswer.length he

theorem framePlaintext_length {body bytes : Bytes}
    (h : framePlaintext c isOpn ch requestId body = .ok bytes) : bytes.length ≤ c.sendBufferSize := by
  unfold framePlaintext at h
  split at h
  · exact finalizeAsymmetricNone_length h
  · exact finalizeSymmetric_length h

theorem framePlaintext_fits {body : Bytes}
    (h : body.length ≤ c.sendBufferSize - (if isOpn then
      asymmetricNoneHeaderSize else symmetricHeaderSize))
    (hbody : body ≠ []) : ∃ bytes, framePlaintext c isOpn ch requestId body = .ok bytes := by
  have hpos : 0 < body.length := List.length_pos_of_ne_nil hbody
  cases isOpn with
  | true =>
    simp only [if_true] at h
    exact ⟨_, by simp only [framePlaintext, finalizeAsymmetricNone, if_true]; exact if_neg (by omega)⟩
  | false =>
    simp only [Bool.false_eq_true, if_false] at h
    exact ⟨_, by simp only [framePlaintext, finalizeSymmetric, Bool.false_eq_true,
      if_false]; exact if_neg (by omega)⟩

theorem handleDataChunkPlaintext_acts
    (htype : parseMessageHeader a.bytes = .ok (if isOpn then .openChannel else .message))
    (hplain : isOpn = true → secureTransport b c = false)
    (hpolicy : isOpn = false → secureTransport b c = true → a.start.conn.channel.policy = .none) :
    Acts b c app (.message a) a.start
      ((handleDataChunkPlaintext b c app isOpn a.bytes).run a.start).2 := by
  simp only [handleDataChunkPlaintext, run_bind, run_get]
  split
  · exact .refl
  · rename_i f hread
    have hreceived : Received b c a a.start isOpn f := by
      refine ⟨htype, rfl, rfl, rfl, ?_, ?_, ?_, ?_, ?_⟩
      · split
        · rename_i hopn
          simp only [Bool.and_eq_true] at hopn
          rw [hplain hopn.1] at hopn
          cases hopn.2
        · rfl
      · exact fun hopn hsecure hne => absurd (hpolicy hopn hsecure) hne
      · rintro rfl
        exact (readPlaintextChunk_header hread).1
      · rintro rfl
        rw [(readPlaintextChunk_header hread).2]
      · intro hopn cr hsecurity hcr
        have hsecure := hplain hopn
        simp [secureTransport, hsecurity, hcr] at hsecure
    rw [run_bind]
    generalize hcap :
      c.sendBufferSize - (if isOpn then asymmetricNoneHeaderSize else symmetricHeaderSize) = cap
    refine .trans (acceptAndRespond_acts cap hreceived) ?_
    split
    · exact .refl
    · rename_i response hresponse
      obtain ⟨hne, hanswer⟩ := acceptAndRespond_answering hreceived hresponse
      generalize ((acceptAndRespond b c app cap a.start.conn.channel isOpn f).run a.start).2 =
        t at hanswer ⊢
      simp only [run_bind, run_modify, run_get]
      split
      · rename_i bytes hframe
        refine sendNumbered_acts (framePlaintext_length hframe) ?_ ?_ t.world
        · exact fun hk => nomatch hk
        · exact fun _ hr => nomatch hr
      · rename_i e hframe
        obtain ⟨bytes, hok⟩ := framePlaintext_fits (hcap ▸ hanswer.length) hne
        rw [hframe] at hok
        cases hok

theorem handleDataChunkSecure_opn_acts (hcr : c.cryptoAdapter = some cr)
    (hsecurity : b.security = true) (htype : parseMessageHeader a.bytes = .ok .openChannel) :
    Acts b c app (.message a) a.start
      ((handleDataChunkSecure b c app cr true a.bytes).run a.start).2 := by
  have hsecure : secureTransport b c = true := by simp [secureTransport, hsecurity, hcr]
  simp only [handleDataChunkSecure, run_bind, run_get, if_true, onWorld_run]
  refine .head (.quiet (.world a.start ((unwrapOpn b cr a.bytes).run a.start.world).2)) ?_
  split
  · exact .refl
  · rename_i f policy hunwrap
    obtain ⟨huri, hpolicy, hcert, haddressed⟩ := unwrapOpn_header a.complete hunwrap
    rw [run_bind, run_modify]
    refine .head (.policy policy hsecure rfl rfl htype hpolicy)
      (respondSecure_acts hcr hsecurity nofun ?_)
    refine ⟨htype, rfl, rfl, rfl, ?_, (fun h => nomatch h), fun _ => huri, fun _ =>
      hcert, fun _ cr' _ hcr' => ?_⟩
    · rw [hsecure]
      exact hpolicy
    · obtain rfl : cr = cr' := Option.some.inj (hcr.symm.trans hcr')
      exact haddressed

theorem handleDataChunkSecure_msg_acts (hcr : c.cryptoAdapter = some cr)
    (hsecurity : b.security = true) (htype : parseMessageHeader a.bytes = .ok .message) :
    Acts b c app (.message a) a.start
      ((handleDataChunkSecure b c app cr false a.bytes).run a.start).2 := by
  simp only [handleDataChunkSecure, run_bind, run_get, Bool.false_eq_true, if_false,
    run_ite, onWorld_run]
  split
  · rename_i hpolicy
    exact handleDataChunkPlaintext_acts htype (fun h => nomatch h) (fun _ _ => hpolicy)
  · rename_i hpolicy
    refine .head
      (.quiet (.world a.start ((unwrapMsg cr a.start.conn.channel a.bytes).run a.start.world).2)) ?_
    split
    · exact .refl
    · rename_i f hunwrap
      obtain ⟨hkeys, m, hm, hf⟩ := unwrapMsg_returns hunwrap
      refine respondSecure_acts hcr hsecurity (fun _ => hpolicy) ?_
      exact ⟨htype, rfl, rfl, rfl, rfl, fun _ _ _ => ⟨cr, a.start.world, m, hcr, hkeys, hm, hf⟩,
        (fun h => nomatch h), (fun h => nomatch h), (fun h => nomatch h)⟩

theorem handleDataChunk_acts (isOpn : Bool)
    (htype : parseMessageHeader a.bytes = .ok (if isOpn then .openChannel else .message)) :
    Acts b c app (.message a) a.start ((handleDataChunk b c app isOpn a.bytes).run a.start).2 := by
  unfold handleDataChunk
  split
  · rename_i cr hsecurity hcr
    cases isOpn with
    | true => exact handleDataChunkSecure_opn_acts hcr hsecurity htype
    | false => exact handleDataChunkSecure_msg_acts hcr hsecurity htype
  · rename_i hsome
    have hplain : secureTransport b c = false := by
      unfold secureTransport
      cases hsecurity : b.security with
      | false => rfl
      | true =>
        cases hcr : c.cryptoAdapter with
        | none => rfl
        | some cr => exact absurd hcr (hsome cr hsecurity)
    exact handleDataChunkPlaintext_acts htype (fun _ =>
      hplain) (fun _ hsecure => by rw [hplain] at hsecure; cases hsecure)

theorem processHello_fits {message : Bytes} {h : Hello} {tcp : TcpConnection}
    (hok : processHello c message = .ok (h, tcp)) : (ackMessage tcp).length ≤ c.sendBufferSize := by
  simp only [processHello, guard_eq_ok, bind_eq_ok] at hok
  obtain ⟨-, -, -, -, -, -, hsize, -⟩ := hok
  rw [ackMessage_length]
  omega

theorem processHelloMessage_acts (a : Arrival W A) :
    Acts b c app (.message a) a.start ((processHelloMessage c a.bytes).run a.start).2 := by
  unfold processHelloMessage
  split
  · rename_i h tcp hok
    rw [run_bind, run_modify]
    exact .head (.hello h tcp hok) (sendTransport_acts (processHello_fits hok) _)
  · exact closeConnection_acts _

theorem secureChannelClose_run (cr : Option (CryptoAdapter W)) (ch : SecureChannel) (w : W) :
    ((secureChannelClose cr ch).run w).1 = if ch.isOpen then .init else ch := by
  unfold secureChannelClose
  split
  · rfl
  · rfl

theorem processClose_acts (s : Ctx W A) : Acts b c app k s ((processClose c).run s).2 := by
  simp only [processClose, closeChannel, run_bind, run_get, onWorld_run, run_modify,
    secureChannelClose_run, closeConnection_run]
  generalize ((secureChannelClose c.cryptoAdapter s.conn.channel).run s.world).2 = w
  split
  · rename_i hopen
    exact .head (.quiet (.world s ((c.platform.closeConnection s.conn.clientHandle).run w).2))
      (.single (.shut hopen))
  · exact .head (.quiet (.world s ((c.platform.closeConnection s.conn.clientHandle).run w).2))
      (.single .close)

theorem processMessage_acts (a : Arrival W A) :
    Acts b c app (.message a) a.start ((processMessage b c app a.bytes).run a.start).2 := by
  simp only [processMessage, run_bind, run_get, run_ite]
  split
  · exact processHelloMessage_acts a
  · split
    · rw [run_ite]
      split
      · exact sendTcpErrorChunk_acts _ _
      · exact .refl
    · exact processClose_acts _
    · rename_i htype
      exact handleDataChunk_acts true htype
    · rename_i htype
      exact handleDataChunk_acts false htype
    · exact .refl

end Answer

end MicroOpcua
