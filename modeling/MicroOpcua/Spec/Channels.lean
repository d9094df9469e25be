import MicroOpcua.Core.Script

namespace MicroOpcua

open Relation Lib.History

variable {W A : Type} {b : Build} {c : Config W} {app : Application W A} {s : Server W A}

section Soundness

variable (b c) in
structure ChannelSound (ch : SecureChannel) : Prop where
  plain : secureTransport b c = false → ch.policy = .none ∧ ch.mode = .none
  closed : ch.isOpen = false → ch.mode = .none ∧ ch.keysValid = false
  mode : ch.mode ≠ .invalid

theorem channelSound_init : ChannelSound b c .init := ⟨fun _ => ⟨rfl, rfl⟩, fun _ => ⟨rfl, rfl⟩, nofun⟩

theorem Dispatches.channelSound {before : SecureChannel} {chunk : Inbound} {typeId : UInt32}
    {run : Option HandlerRun} {s t : Ctx W A} (h : Dispatches b before chunk typeId run s t)
    (hs : ChannelSound b c s.conn.channel) : ChannelSound b c t.conn.channel := by
  rcases h.channel with hsame | ⟨-, hopened⟩
  · rw [hsame]
    exact hs
  · obtain ⟨hopen, hpolicy, hmode, -, hiff⟩ := hopened.sound
    refine ⟨fun hplain => ?_, fun hclosed => ?_, hmode⟩
    · obtain ⟨hnone, -⟩ := hs.plain hplain
      exact ⟨hpolicy.trans hnone, hiff.mp hnone⟩
    · rw [hopen] at hclosed
      cases hclosed

theorem Act.channelSound {k : Cause b W A} {s t : Ctx W A} (h : Act b c app k s t)
    (hs : ChannelSound b c s.conn.channel) : ChannelSound b c t.conn.channel := by
  cases h with
  | quiet h =>
    rw [h.conn]
    exact hs
  | shut | reset | accept => exact channelSound_init
  | buffer | close | hello => exact hs
  | transport | send =>
    rw [Ctx.written_conn]
    exact ⟨hs.plain, hs.closed, hs.mode⟩
  | policy p secure =>
    refine ⟨fun hplain => ?_, hs.closed, hs.mode⟩
    rw [secure] at hplain
    cases hplain
  | sequence | lost => exact ⟨hs.plain, hs.closed, hs.mode⟩
  | dispatch cap chunk typeId =>
    obtain ⟨run, hdispatches⟩ := dispatchInbound_dispatches b c app cap _ chunk typeId s
    exact hdispatches.channelSound hs

end Soundness

section Guards

/-- An OPN chunk carries an OpenSecureChannel request, and a MSG chunk finds no channel of policy None
that has a mode. -/
def WellTyped : Event W A → Prop
  | .dispatched _ before chunk _ =>
    if chunk.isOpn then chunk.typeId.ns0Numeric? = some openSecureChannelRequestId
    else before.policy = .none → before.mode = .none
  | _ => True

instance : DecidablePred (WellTyped (W := W) (A := A))
  | .dispatched .. => by unfold WellTyped; infer_instance
  | .accepted _ | .hello .. | .message .. | .turn .. | .wrote _ | .closed _ =>
    inferInstanceAs (Decidable True)

variable (c) in
/-- A handler other than OpenSecureChannel runs for a MSG message of its connection whose channel id,
token id and sequence number were checked, and its MAC if the channel has a mode. -/
def RunsForMsg (e : Event W A) (past : List (Event W A)) : Prop :=
  ∀ id before chunk run, e = .dispatched id before chunk (some run) → run.service ≠ .openSecureChannel →
    chunk.isOpn = false ∧ ∃ bytes snapshot earlier, past = .message id bytes snapshot :: earlier ∧
      parseMessageHeader bytes = .ok .message ∧
      (∃ conn ∈ snapshot.conns, conn.id = id ∧ conn.channel = before) ∧
      chunk.channelId = before.channelId ∧ chunk.tokenId = before.tokenId ∧
      (∃ v, sequenceValidate before.sequence chunk.sequenceNumber = .ok v) ∧
      (before.mode ≠ .none → Unwrapped c before bytes chunk)

def Event.service? : Event W A → Option Service
  | .dispatched _ _ _ run => run.map HandlerRun.service
  | _ => none

def Event.isOpn : Event W A → Bool
  | .dispatched _ _ chunk _ => chunk.isOpn
  | _ => false

theorem RunsForMsg.msg {e : Event W A} {past : List (Event W A)} {service : Service}
    (h : RunsForMsg c e past) (hservice : e.service? = some service)
    (hne : service ≠ .openSecureChannel) : e.isOpn = false := by
  cases e with
  | dispatched id before chunk run =>
    obtain ⟨run, rfl, rfl⟩ := Option.map_eq_some_iff.mp hservice
    exact (h id before chunk run rfl hne).1
  | _ => cases hservice

theorem handlers_run_for_msg (h : Reachable b c app s) (htyped : ∀ e ∈ s.trace, WellTyped e) :
    Always (RunsForMsg c) s.trace := by
  refine h.always_of_invariant (I := fun s => ∀ conn ∈ s.conns, ChannelSound b c conn.channel)
    (Server.init_conns (fun _ => channelSound_init)) (fun _ _ _ _ hstep =>
      hstep.conns (fun _ _ _ _ _ _ => Act.channelSound))
    (fun s e hsound hC hoccurs => ?_) htyped
  rintro id before chunk run rfl hservice
  obtain ⟨a, i, conn, typeId, hin, rfl, rfl⟩ := hoccurs
  obtain ⟨row, hrow, hrowService⟩ := (hin.ran run rfl).row
  have htype := hC _ (.head _)
  simp only [WellTyped] at htype
  split at htype
  · rw [hin.type] at htype
    have hopen := (findServiceDescriptor_row hrow).2.mpr (Option.some.inj htype)
    exact absurd (hrowService.symm.trans hopen) hservice
  · rename_i hmsg
    have hmsg : chunk.isOpn = false := by simpa using hmsg
    have hparsed := hin.arrived.type
    rw [hmsg] at hparsed
    refine ⟨hmsg, a.bytes, _, a.past, hin.trace, hparsed, ⟨a.start.conn, a.mem, hin.id.symm, rfl⟩,
      (hin.arrived.bound hmsg).1, (hin.arrived.bound hmsg).2, ⟨_, hin.arrived.accepted⟩, fun hmode => ?_⟩
    have hconn := hsound conn (List.mem_of_getElem? hin.found)
    have hmodes : conn.channel.mode = a.start.conn.channel.mode :=
      (congrArg SecureChannel.mode hin.arrived.channel).trans rfl
    refine hin.arrived.unwrapped hmsg ?_ (fun hpolicy => hmode (htype hpolicy))
    by_contra hplain
    exact hmode (hmodes ▸ (hconn.plain (by simpa using hplain)).2)

open Script

theorem handlers_run_for_msg_create_session :
    let s := play (config 6 8192 none) (oneChannel 10 ++ [deliver 10 (msg 2 (createRequest []))])
    (∃ e ∈ s.trace, e.service? = some .createSession) ∧
        Always (RunsForMsg (config 6 8192 none)) s.trace :=
  And.imp_right (handlers_run_for_msg (play_reachable (by decide) _)) (by decide +kernel)

/-- An OPN chunk with a CreateSession request in its body creates a session. -/
theorem create_session_runs_for_opn :
    let s := play (config 6 8192 none) (oneChannel 10 ++ [deliver 10 (openNone 2 (createRequest []))])
    Reachable build (config 6 8192 none) application s ∧
        ¬ Always (RunsForMsg (config 6 8192 none)) s.trace := by
  refine ⟨play_reachable (by decide) _, fun h => ?_⟩
  have hopn :
    ∃ e ∈ (play (config 6 8192 none) (oneChannel 10 ++
      [deliver 10 (openNone 2 (createRequest []))])).trace, e.service? = some .createSession ∧
        e.isOpn = true := by decide +kernel
  obtain ⟨e, he, hservice, hisOpn⟩ := hopn
  obtain ⟨past, -, hruns⟩ := h.exists_past he
  cases hisOpn.symm.trans (hruns.msg hservice (by decide))

end Guards

section Downgrade

variable (b) in
/-- No OPN chunk of policy None arrives on a channel with a mode. -/
def KeepsPolicy : Event W A → Prop
  | .message id bytes before => ∀ conn ∈ before.conns, conn.id = id → conn.channel.mode ≠ .none →
    parseMessageHeader bytes = .ok .openChannel → opnPolicy b bytes ≠ some .none
  | _ => True

instance : DecidablePred (KeepsPolicy (W := W) (A := A) b)
  | .message .. => by unfold KeepsPolicy; infer_instance
  | .accepted _ | .hello .. | .dispatched .. | .turn .. | .wrote _ | .closed _ =>
    inferInstanceAs (Decidable True)

def Secured (ch : SecureChannel) : Prop := ch.mode ≠ .none → ch.policy ≠ .none

structure KeepsMode (u v : Connection) : Prop where
  secured : Secured u.channel → Secured v.channel
  keeps : Secured u.channel → v.id = u.id → v.clientHandle.isSome = true →
    u.clientHandle.isSome = true ∧ (u.channel.mode ≠ .none → v.channel.mode ≠ .none)

theorem KeepsMode.of_frame {u v : Connection} (hmode : v.channel.mode = u.channel.mode)
    (hpolicy : v.channel.policy = u.channel.policy) (hhandle : v.clientHandle = u.clientHandle) :
    KeepsMode u v := by
  refine ⟨fun h => ?_, fun _ _ hv => ⟨hhandle ▸ hv, fun h => hmode ▸ h⟩⟩
  rw [Secured, hmode, hpolicy]
  exact h

theorem KeepsMode.of_closed {u v : Connection} (hsecured : Secured u.channel → Secured v.channel)
    (hhandle : v.clientHandle = none) : KeepsMode u v := by
  refine ⟨hsecured, fun _ _ hv => ?_⟩
  rw [hhandle] at hv
  cases hv

theorem Dispatches.keepsMode {before : SecureChannel} {chunk : Inbound} {typeId : UInt32}
    {run : Option HandlerRun} {s t : Ctx W A} (h : Dispatches b before chunk typeId run s t) :
    KeepsMode s.conn t.conn := by
  have hhandle : t.conn.clientHandle = s.conn.clientHandle :=
    (congrArg Connection.clientHandle h.conn).trans rfl
  rcases h.channel with hsame | ⟨-, hopened⟩
  · exact .of_frame (by rw [hsame]) (by rw [hsame]) hhandle
  · obtain ⟨-, hpolicy, -, -, hiff⟩ := hopened.sound
    refine ⟨fun _ hmode => ?_, fun hs _ hv => ⟨hhandle ▸ hv, fun hmode => ?_⟩⟩
    · rw [hpolicy]
      exact fun hnone => hmode (hiff.mp hnone)
    · exact fun hnone => hs hmode (hiff.mpr hnone)

section

variable {k : Cause b W A} {s t : Ctx W A} (h : Act b c app k s t) (hC : ∀ e ∈ s.trace, KeepsPolicy b e)

include h hC

theorem Act.keepsMode : KeepsMode s.conn t.conn ∨ k = .stopping ∧ t.conn.channel = .init := by
  cases h with
  | quiet h =>
    rw [h.conn]
    exact .inl (.of_frame rfl rfl rfl)
  | close => exact .inl (.of_closed (fun h => h) rfl)
  | shut => exact .inl (.of_closed (fun _ hmode => absurd rfl hmode) rfl)
  | reset => exact .inr ⟨rfl, rfl⟩
  | accept h nowMs free =>
    refine .inl ⟨fun _ hmode => absurd rfl hmode, fun _ hid => ?_⟩
    have := congrArg ConnId.epoch hid
    simp [acceptInto] at this
  | transport | send =>
    rw [Ctx.written_conn]
    exact .inl (.of_frame rfl rfl rfl)
  | buffer | hello | sequence | lost => exact .inl (.of_frame rfl rfl rfl)
  | @policy a _ p secure trace conn type named =>
    refine .inl ⟨fun _ hmode hp => ?_, fun _ _ hv => ⟨hv, fun h => h⟩⟩
    have hmessage := hC (.message a.start.conn.id a.bytes ⟨a.start.shared, a.conns, a.start.world⟩)
      (trace ▸ a.trace ▸ .head _)
    have hp : p = .none := hp
    exact hmessage a.start.conn a.mem rfl (conn ▸ hmode) type (hp ▸ named)
  | dispatch cap chunk typeId =>
    obtain ⟨run, hdispatches⟩ := dispatchInbound_dispatches b c app cap _ chunk typeId s
    exact .inl hdispatches.keepsMode

theorem Act.secured (hs : Secured s.conn.channel) : Secured t.conn.channel := by
  rcases h.keepsMode hC with hkeeps | ⟨-, hinit⟩
  · exact hkeeps.secured hs
  · rw [hinit]
    exact fun hmode => absurd rfl hmode

end

def Protected (id : ConnId) (conn : Connection) : Prop :=
  conn.id.slot = id.slot → id.epoch ≤ conn.id.epoch ∧
    (conn.id = id → conn.clientHandle.isSome = true → conn.channel.mode ≠ .none)

theorem Act.keepsProtected {k : Cause b W A} {s t : Ctx W A} {id : ConnId} (h : Act b c app k s t)
    (hk : k ≠ .stopping) (hC : ∀ e ∈ s.trace, KeepsPolicy b e) (hsecured : Secured s.conn.channel)
    (hs : Protected id s.conn) :
    Protected id t.conn := by
  intro hslot
  obtain ⟨hsame, hepoch⟩ := h.id
  obtain ⟨hle, hmode⟩ := hs (hsame.symm.trans hslot)
  refine ⟨hle.trans hepoch, fun hid hconnected => ?_⟩
  have hids : t.conn.id = s.conn.id := by
    have hteq : t.conn.id.epoch = id.epoch := congrArg ConnId.epoch hid
    exact ConnId.ext hsame (by omega)
  rcases h.keepsMode hC with hkeeps | ⟨hstop, -⟩
  · obtain ⟨hconnected', hkept⟩ := hkeeps.keeps hsecured hids hconnected
    exact hkept (hmode (hids.symm.trans hid) hconnected')
  · exact absurd hstop hk

variable (c) in
def UnwrappedMsg (id : ConnId) (e : Event W A) (past : List (Event W A)) : Prop :=
  ∀ before chunk run, e = .dispatched id before chunk run → chunk.isOpn = false →
    ∃ bytes snapshot earlier, past = .message id bytes snapshot :: earlier ∧
      (∃ conn ∈ snapshot.conns, conn.id = id ∧ conn.channel = before) ∧ Unwrapped c before bytes chunk

variable (b c) in
structure SecuredSince (s : Server W A) (id : ConnId) (t : Server W A) : Prop where
  sound : ∀ conn ∈ t.conns, ChannelSound b c conn.channel
  secured : ∀ conn ∈ t.conns, Secured conn.channel
  kept : t.isRunning = true → ∀ conn ∈ t.conns, Protected id conn
  trace : s.trace <:+ t.trace
  events : ∀ e past, e :: past <:+ t.trace → s.trace <:+ past → UnwrappedMsg c id e past

theorem SecuredSince.occurs {s t : Server W A} {id : ConnId} {e : Event W A}
    (h : SecuredSince b c s id t) (hoccurs : Occurs b c t e) : UnwrappedMsg c id e t.trace := by
  rintro before chunk run rfl hmsg
  obtain ⟨a, i, conn, typeId, hin, rfl, rfl⟩ := hoccurs
  have hmem : conn ∈ t.conns := List.mem_of_getElem? hin.found
  have hconnected : conn.clientHandle.isSome = true := by
    have hhandle : conn.clientHandle = a.start.conn.clientHandle :=
      (congrArg Connection.clientHandle hin.arrived.conn).trans rfl
    rw [hhandle]
    exact a.connected
  have hmode : conn.channel.mode ≠ .none := (h.kept hin.cause.1 conn hmem rfl).2 rfl hconnected
  refine ⟨a.bytes, _, a.past, hin.trace, ⟨a.start.conn, a.mem, hin.id.symm, rfl⟩, ?_⟩
  refine hin.arrived.unwrapped hmsg ?_ ?_
  · by_contra hplain
    exact hmode ((h.sound conn hmem).plain (by simpa using hplain)).2
  · have hpolicy := hin.arrived.policy
    rw [hmsg, Bool.false_and, if_neg (by decide)] at hpolicy
    rw [← hpolicy]
    exact h.secured conn hmem hmode

theorem SecuredSince.step {s t u : Server W A} {id : ConnId} (hC : ∀ e ∈ u.trace, KeepsPolicy b e)
    (hstep : Step b c app t u) (h : SecuredSince b c s id t) : SecuredSince b c s id u := by
  have hC' : ∀ e ∈ t.trace, KeepsPolicy b e := fun e he => hC e (hstep.trace_subset he)
  have hkept (hrunning : u.isRunning = true) :
      ∀ conn ∈ u.conns, Secured conn.channel ∧ Protected id conn := by
    have hrunning' : t.isRunning = true := hstep.running hrunning
    refine hstep.conns (fun k i conn v _ cause hact hs => ?_)
      (fun conn hmem => ⟨h.secured conn hmem, h.kept hrunning' conn hmem⟩)
    have hk : k ≠ .stopping := by
      rintro rfl
      exact absurd (hrunning'.symm.trans cause) (by decide)
    exact ⟨hact.secured hC' hs.1, hact.keepsProtected hk hC' hs.1 hs.2⟩
  refine ⟨hstep.conns (fun _ _ _ _ _ _ => Act.channelSound) h.sound,
    hstep.conns (fun _ _ _ _ _ _ hact => hact.secured hC') h.secured,
    fun hrunning conn hmem => (hkept hrunning conn hmem).2, ?_, ?_⟩
  · rcases hstep.trace_cases with hsame | ⟨e, hcons⟩
    · rw [hsame]
      exact h.trace
    · rw [hcons]
      exact h.trace.trans (List.suffix_cons e _)
  · intro e past hsuffix hs
    rcases hstep.trace_cases with hsame | ⟨e', hcons⟩
    · exact h.events e past (hsame ▸ hsuffix) hs
    · rw [hcons] at hsuffix
      rcases List.suffix_cons_iff.mp hsuffix with heq | hold
      · obtain ⟨rfl, rfl⟩ := List.cons.inj heq
        exact h.occurs (hstep.occurs hcons)
      · exact h.events e past hold hs

/-- A channel in mode Sign or SignAndEncrypt keeps a policy and a mode as long as its connection lasts
and the server runs, and every MSG chunk dispatched on it from then on was unwrapped under its keys. -/
theorem secured_channel_stays_secured {t : Server W A} (h : Reachable b c app s) (hrun : Run b c app s t)
    (hkeeps : ∀ e ∈ t.trace, KeepsPolicy b e) {conn : Connection} (hmem : conn ∈ s.conns)
    (hmode : conn.channel.mode ≠ .none) :
    (t.isRunning = true → ∀ conn' ∈ t.conns, conn'.id = conn.id → conn'.clientHandle.isSome = true →
      conn'.channel.policy ≠ .none ∧ conn'.channel.mode ≠ .none) ∧
    ∀ e past, e :: past <:+ t.trace → s.trace <:+ past → UnwrappedMsg c conn.id e past := by
  have hsteps := hrun.steps h.valid
  have hkeeps' : ∀ e ∈ s.trace, KeepsPolicy b e := fun e he => hkeeps e (hsteps.trace_subset he)
  obtain ⟨hwf, hsound, hsecured⟩ := h.invariant
    (I := fun s => (∀ conn ∈ s.conns, ChannelSound b c conn.channel) ∧ ∀ conn ∈ s.conns,
      Secured conn.channel)
    (fun a w => ⟨Server.init_conns (fun _ => channelSound_init) a w,
      Server.init_conns (fun _ hmode => absurd rfl hmode) a w⟩)
    (fun s t _ hC hstep hs => ⟨hstep.conns (fun _ _ _ _ _ _ => Act.channelSound) hs.1,
      hstep.conns (fun _ _ _ _ _ _ hact =>
        hact.secured (fun e he => hC e (hstep.trace_subset he))) hs.2⟩) hkeeps'
  have hstart : SecuredSince b c s conn.id s := by
    refine ⟨hsound, hsecured, fun _ conn' hmem' hslot => ?_, List.suffix_rfl,
      fun e past hsuffix hs => ?_⟩
    · obtain rfl : conn' = conn := hwf.unique hmem' hmem hslot
      exact ⟨le_rfl, fun _ _ => hmode⟩
    · have := hsuffix.length_le
      have := hs.length_le
      simp only [List.length_cons] at *
      omega
  have hend :=
    (Steps.invariant (fun _ _ _ hC hstep => SecuredSince.step hC hstep) hwf hsteps hkeeps hstart).2
  refine ⟨fun hrunning conn' hmem' hid hconnected => ?_, hend.events⟩
  have hmode' := (hend.kept hrunning conn' hmem' (congrArg ConnId.slot hid)).2 hid hconnected
  exact ⟨hend.secured conn' hmem' hmode', hmode'⟩

open Script

def signedStart : Server Script Unit := play (secured 6) (signedChannel 10 [65])

def signedSession : Server Script Unit :=
  play (secured 6) (signedChannel 10 [65] ++ [deliver 10 (msgSigned 2 (activateRequest 0))])

theorem signedSession_run : (∃ conn ∈ signedStart.conns, conn.channel.mode = .sign) ∧
    ∀ e ∈ signedSession.trace, KeepsPolicy build e := by
  decide +kernel

theorem secured_channel_stays_secured_signed_session :
    ∃ conn ∈ signedStart.conns, conn.channel.mode = .sign ∧
      (signedSession.isRunning = true → ∀ conn' ∈ signedSession.conns, conn'.id = conn.id →
        conn'.clientHandle.isSome = true → conn'.channel.policy ≠ .none ∧ conn'.channel.mode ≠ .none) ∧
      ∀ e past, e :: past <:+ signedSession.trace → signedStart.trace <:+ past →
        UnwrappedMsg (secured 6) conn.id e past := by
  obtain ⟨⟨conn, hmem, hmode⟩, hkeeps⟩ := signedSession_run
  exact ⟨conn, hmem, hmode,
    secured_channel_stays_secured (play_reachable (by decide) _) (play_append _ _ _) hkeeps hmem
    (hmode ▸ by decide)⟩

/-- An OPN chunk of policy None, empty and unsigned, after which a plaintext ActivateSession is
served. -/
def downgradedSession : Server Script Unit :=
  play (secured 6)
    (signedChannel 10 [65] ++ [deliver 10 (openNone 2 []), deliver 10 (msg 3 (activateRequest 0))])

theorem signed_channel_downgraded : Reachable build (secured 6) application signedStart ∧
      Run build (secured 6) application signedStart downgradedSession ∧
      downgradedSession.isRunning = true ∧
      (∃ conn ∈ signedStart.conns, ∃ conn' ∈ downgradedSession.conns, conn.channel.isOpen = true ∧
        conn.channel.mode = .sign ∧ conn'.id = conn.id ∧ conn'.clientHandle.isSome = true ∧
        conn'.channel.policy = .none) ∧
      ∃ e ∈ downgradedSession.trace, e.service? = some .activateSession ∧ e.isOpn = false :=
  ⟨play_reachable (by decide) _, play_append _ _ _, by decide +kernel⟩

end Downgrade

end MicroOpcua
