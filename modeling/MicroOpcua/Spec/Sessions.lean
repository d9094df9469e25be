import MicroOpcua.Core.Script

namespace MicroOpcua

open Relation Lib.History

variable {W A : Type} {b : Build} {c : Config W} {app : Application W A} {s : Server W A}

section Binding

/-- When a message arrives, every open session with the channel id of its connection was created on
that connection. -/
def SessionsBound : Event W A → Prop
  | .message id _ before => ∀ conn ∈ before.conns, conn.id = id → ∀ session ∈ before.shared.sessions,
    session.open = true → session.secureChannelId = conn.channel.channelId → session.creator = some id
  | _ => True

def Event.session? : Event W A → Option Session
  | .dispatched _ _ _ run => run.bind HandlerRun.session
  | _ => none

/-- A handler that succeeds for a session runs on the connection that created it. -/
def UsesOwnSession (e : Event W A) : Prop := ∀ session ∈ e.session?, session.creator = e.conn?

instance : DecidablePred (SessionsBound (W := W) (A := A))
  | .message .. => by unfold SessionsBound; infer_instance
  | .accepted _ | .hello .. | .dispatched .. | .turn .. | .wrote _ | .closed _ =>
    inferInstanceAs (Decidable True)

instance (e : Event W A) : Decidable (UsesOwnSession e) :=
  inferInstanceAs (Decidable (∀ session ∈ e.session?, session.creator = e.conn?))

/-- Sessions stay on their connections as long as channel ids tell connections apart. -/
theorem sessions_stay_on_connection (hmultiple : b.multipleConnections = true) (h : Reachable b c app s)
    (hbound : ∀ e ∈ s.trace, SessionsBound e) : ∀ e ∈ s.trace, UsesOwnSession e := by
  refine (h.always (P := fun e _ => UsesOwnSession e) (fun s e hC hoccurs => ?_) hbound).mem
  intro session hsession
  cases e with
  | dispatched id before chunk run =>
    obtain ⟨run, rfl, hrun⟩ := Option.bind_eq_some_iff.mp hsession
    obtain ⟨a, i, conn, typeId, hin, rfl, rfl⟩ := hoccurs
    obtain ⟨j, husable⟩ := (hin.ran run rfl).usable session hrun
    have hmessage := hC (.message conn.id a.bytes ⟨a.start.shared, a.conns, a.start.world⟩)
      (.tail _ hin.message_mem)
    have hmem : session ∈ a.start.shared.sessions :=
      hin.arrived.shared ▸ List.mem_of_getElem? husable.found
    exact hmessage a.start.conn a.mem hin.id.symm session hmem husable.isOpen
      ((husable.channel hmultiple).trans hin.arrived.channelId)
  | _ => cases hsession

open Script

def twoChannels : List Script := oneChannel 10 ++ oneChannel 20

def twoClients : List Script := twoChannels ++ [deliver 10 (msg 2 (createRequest []))]

theorem sessions_stay_on_connection_own_client :
    let s := play (config 6 8192 none)
      (twoClients ++ [deliver 10 (msg 3 (activateRequest sessionToken))])
    (∃ e ∈ s.trace, e.session?.isSome) ∧ ∀ e ∈ s.trace, UsesOwnSession e :=
  And.imp_right (sessions_stay_on_connection rfl (play_reachable (by decide) _)) (by decide +kernel)

/-- Both channels have id 1, so the second client can activate and use the session of the first. -/
theorem session_activated_by_other_client :
    let s := play (config 6 8192 none)
      (twoClients ++ [deliver 20 (msg 2 (activateRequest sessionToken))])
    Reachable build (config 6 8192 none) application s ∧ ¬ ∀ e ∈ s.trace, UsesOwnSession e :=
  ⟨play_reachable (by decide) _, by decide +kernel⟩

end Binding

section Routing

/-- When a subscription has its turn, every connection with the channel id of a session is the one on
which the session's Publish requests were parked. -/
def PublishBound : Event W A → Prop
  | .turn _ before => ∀ r ∈ before.shared.subs.publishQueue, r.inUse = true →
  ∀ session ∈ before.shared.sessions,
    session.open = true → session.sessionId = r.sessionId → ∀ conn ∈ before.conns,
      conn.clientHandle.isSome = true → conn.channel.channelId = session.secureChannelId →
      r.origin = some conn.id
  | _ => True

instance : DecidablePred (PublishBound (W := W) (A := A))
  | .turn .. => by unfold PublishBound; infer_instance
  | .accepted _ | .hello .. | .message .. | .dispatched .. | .wrote _ | .closed _ =>
    inferInstanceAs (Decidable True)

variable (b c) in
/-- A publish message goes to the connection that parked its request: to its handle, with its channel
id, token and keys, under the next number of its counter. -/
def AnswersOrigin (e : Event W A) (past : List (Event W A)) : Prop :=
  ∀ w n requestId payload r, e = .wrote w → w.content = .chunk n requestId payload (some r) →
    ∃ index before earlier, past = .turn index before :: earlier ∧ ∃ conn ∈ before.conns,
      r ∈ before.shared.subs.publishQueue ∧ r.origin = some conn.id ∧ w.conn = conn.id ∧
      conn.clientHandle = some w.handle ∧ n = w.channel.outSequenceNumber ∧
      w.channel = { conn.channel with outSequenceNumber := n } ∧
        FramesMsg b c w.channel requestId w.bytes

def Event.publish? : Event W A → Option PublishRequest
  | .wrote ⟨_, _, _, .chunk _ _ _ publish, _⟩ => publish
  | _ => none

theorem AnswersOrigin.origin {e : Event W A} {past : List (Event W A)} {r : PublishRequest}
    (h : AnswersOrigin b c e past) (hr : r ∈ e.publish?) : r.origin = e.conn? := by
  unfold Event.publish? at hr
  split at hr
  · rename_i conn handle channel n requestId payload publish bytes
    obtain rfl : publish = some r := hr
    obtain ⟨-, -, -, -, conn', -, -, horigin, hconn, -⟩ := h _ n requestId payload r rfl rfl
    exact horigin.trans (congrArg some hconn).symm
  · cases hr

/-- Publish messages go back to where their requests came from, as long as channel ids tell
connections apart. -/
theorem publish_answers_origin (hmultiple : b.multipleConnections = true) (h : Reachable b c app s)
    (hbound : ∀ e ∈ s.trace, PublishBound e) : Always (AnswersOrigin b c) s.trace := by
  refine h.always (fun s e hC hoccurs => ?_) hbound
  rintro w n requestId payload r rfl hcontent
  obtain ⟨hn, hpublish⟩ := hoccurs.2 n requestId payload (some r) hcontent
  obtain ⟨t, conn, hin⟩ := hpublish r rfl
  obtain ⟨hconnected, session, hsession, hopen, hid, hmatch⟩ := t.resolved hmultiple
  have htrace : s.trace = .turn t.index ⟨t.start.shared, t.conns, t.start.world⟩ :: t.past :=
    hin.emitted.trace.trans t.trace
  have hturn := hC (.turn t.index ⟨t.start.shared, t.conns, t.start.world⟩) (.tail _ (htrace ▸ .head _))
  have horigin : r.origin = some t.start.conn.id :=
    hturn r hin.emitted.parked hin.emitted.inUse session hsession hopen
      (hid.trans hin.emitted.session.symm) t.start.conn t.mem hconnected hmatch
  have hconn : conn = { t.start.conn with channel := conn.channel } := hin.emitted.conn
  have hchannel : conn.channel =
      { t.start.conn.channel with outSequenceNumber := conn.channel.outSequenceNumber } :=
        hin.emitted.channel
  have hid : conn.id = t.start.conn.id := (congrArg Connection.id hconn).trans rfl
  have hhandle : conn.clientHandle = t.start.conn.clientHandle :=
    (congrArg Connection.clientHandle hconn).trans rfl
  refine ⟨t.index, _, t.past, htrace, t.start.conn, t.mem, hin.emitted.parked, horigin, hin.id.trans hid,
    hhandle ▸ hin.handle, hn, ?_, hin.framed⟩
  rw [hn, hin.channel, Ctx.numbered, Ctx.setChannel, Server.ctx, hchannel]

open Script

/-- A client on handle `h` opens a session and a subscription and parks a Publish request; then the
subscription's first publishing cycle ends. -/
def subscribeAndPublish (h : Handle) : List Script :=
  [deliver h (msg 2 (createRequest [])), deliver h (msg 3 (activateRequest sessionToken)),
    deliver h (msg 4 (subscribeRequest sessionToken)), deliver h (msg 5 (publishRequest sessionToken)),
    { idle with nowMs := 1000 }]

/-- The first client is connected and has no channel, the second subscribes. -/
theorem publish_answers_origin_two_clients :
    let s := play (config 6 8192 none)
      ([connect 20, deliver 20 (hello 8192)] ++ oneChannel 10 ++ subscribeAndPublish 10)
    ((s.conns.filter (·.clientHandle.isSome)).length = 2 ∧ ∃ e ∈ s.trace, e.publish?.isSome) ∧
      Always (AnswersOrigin build (config 6 8192 none)) s.trace :=
  And.imp_right (publish_answers_origin rfl (play_reachable (by decide) _)) (by decide +kernel)

theorem twoClients_misrouted :
    ∃ e ∈ (play (config 6 8192 none) (twoChannels ++ subscribeAndPublish 20)).trace,
    ∃ r ∈ e.publish?, r.origin ≠ e.conn? := by
  decide +kernel

/-- The second client's publish message is written to the first client, whose channel also has id 1. -/
theorem publish_sent_to_other_client :
    let s := play (config 6 8192 none) (twoChannels ++ subscribeAndPublish 20)
    Reachable build (config 6 8192 none) application s ∧
      ¬ Always (AnswersOrigin build (config 6 8192 none)) s.trace := by
  refine ⟨play_reachable (by decide) _, fun h => ?_⟩
  obtain ⟨e, he, r, hr, hne⟩ := twoClients_misrouted
  obtain ⟨past, -, hanswers⟩ := h.exists_past he
  exact hne (hanswers.origin hr)

end Routing

section Closing

open HandlerM Lib.StateRun

variable {cap : Nat}

variable (b c app) in
/-- A CloseSession request for `session` that asks to delete its subscriptions, in a state where it
is answered with GOOD. -/
structure ClosesSession (cap : Nat) (s : Scope W A) (req : Request) (w : W)
    (session : Session) : Prop where
  gate : ∃ i, dispatchGate b req s = .ok (.closeSession, some (i, session))
  delete : (do let _ ← requestHeaderDecode; readBoolean : ReadM Bool).decode req.body = .ok true
  good : ∃ handle bs, (serviceDispatch b c app req s w : Dispatched W A cap).result = .ok bs ∧
    bs.1 = responsePrefix closeSessionResponseId handle good

structure SessionGone (before after : Subscriptions W) (id : UInt32) : Prop where
  subscriptions : ∀ sub ∈ after.subscriptions, sub.inUse = true → sub.sessionId ≠ id
  items : ∀ item ∈ after.items.monitoredItems, item.inUse = true → ∀ sub ∈ before.subscriptions,
    sub.inUse = true → sub.sessionId = id → item.subscriptionId ≠ sub.subscriptionId
  requests : ∀ r ∈ after.publishQueue, r.inUse = true → r.sessionId ≠ id
  others : ∀ (i : Nat) sub, before.subscriptions[i]? = some sub → sub.inUse = true → sub.sessionId ≠ id →
    after.subscriptions[i]? = some sub

def OwnsNothing (subs : Subscriptions W) (id : UInt32) : Prop :=
  (∀ sub ∈ subs.subscriptions, sub.inUse = true → sub.sessionId ≠ id) ∧
    ∀ r ∈ subs.publishQueue, r.inUse = true → r.sessionId ≠ id

theorem closeSubscriptions_unowned {id : UInt32} {subs : Subscriptions W}
    (h : id ∉ owners subs.subscriptions) : closeSubscriptions b id subs = subs := by
  unfold closeSubscriptions
  apply List.foldl_fixed'
  intro i
  split
  · rename_i sub hsub
    apply if_neg
    simp only [Bool.and_eq_true, decide_eq_true_eq]
    exact fun ⟨hin, hid⟩ => h ⟨sub, List.mem_of_getElem? hsub, hin, hid⟩
  · rfl

def KeepsOwned (s t : List Session × Subscriptions W) : Prop := 0 ∉ owners s.2.subscriptions → t.2 = s.2

instance : Std.Refl (KeepsOwned (W := W)) := ⟨fun _ _ => rfl⟩

instance : IsTrans (List Session × Subscriptions W) KeepsOwned :=
  ⟨fun _ _ _ h h' hzero => by rw [h' (by rwa [h hzero]), h hzero]⟩

theorem closeSession_keepsOwned (active : Nat) (token : NodeId) (st : List Session × Subscriptions W) :
    KeepsOwned st (closeSession b active token st).2 := by
  intro hzero
  unfold closeSession
  split
  · rfl
  · split
    · rfl
    · rename_i slot hclose
      obtain ⟨-, -, rfl⟩ :
        _ ∧ _ ∧ _ = slot := by simpa only [sessionClose, guard_eq_ok, pure_eq_ok] using hclose
      dsimp only
      split
      · exact closeSubscriptions_unowned hzero
      · rfl

theorem handleCloseSession_keepsOwned (active : Nat) :
    Effect KeepsOwned
      (handleCloseSession b active : HandlerM (List Session × Subscriptions W) W cap Unit) :=
  .bind (.decode _) (fun _ =>
    .bind (.decode _) (fun _ => .bind (.update (closeSession_keepsOwned active _)) (fun _ => .encode _)))

theorem ClosesSession.subs {s : Scope W A} {req : Request} {w : W} {session : Session}
    (h : ClosesSession b c app cap s req w session) (hzero : 0 ∉ owners s.shared.subs.subscriptions) :
    (serviceDispatch b c app req s w : Dispatched W A cap).scope.shared.subs = s.shared.subs := by
  obtain ⟨i, hgate⟩ := h.gate
  have hstate : ((handler b c app req .closeSession (some (i, session)) : ScopeM W A cap Answer).execute
      req.body s w).2.1.shared.subs = s.shared.subs := by
    rw [execute_state, handler, run_state_bind, run_bind_pure]
    have hkeeps : Effect KeepsOwned (handleCloseSession b i : HandlerM _ W cap Unit) :=
      handleCloseSession_keepsOwned i
    exact hkeeps ⟨.init req.body, .init, (s.shared.sessions, s.shared.subs), w⟩ hzero
  rw [serviceDispatch_scope hgate (by decide)]
  exact hstate

/-- CloseSession deletes nothing, so nothing is left exactly of a session that had nothing. -/
theorem closed_session_gone_iff (h : Reachable b c app s) {ch : SecureChannel} {req : Request} {w : W}
    {session : Session} (hcloses : ClosesSession b c app cap ⟨s.shared, ch⟩ req w session) :
    SessionGone s.shared.subs
      (serviceDispatch b c app req ⟨s.shared, ch⟩ w : Dispatched W A cap).scope.shared.subs
      session.sessionId ↔ OwnsNothing s.shared.subs session.sessionId := by
  rw [hcloses.subs h.visited.wellFormed.owned]
  constructor
  · exact fun hgone => ⟨hgone.subscriptions, hgone.requests⟩
  · rintro ⟨hsubs, hrequests⟩
    exact ⟨hsubs, fun _ _ _ sub hmem hin hid => absurd hid (hsubs sub hmem hin), hrequests,
      fun _ _ hi _ _ => hi⟩

open Script

instance (subs : Subscriptions W) (id : UInt32) : Decidable (OwnsNothing subs id) := by
  unfold OwnsNothing
  infer_instance

def oneSession (more : List Script) : Server Script Unit :=
  play (config 6 8192 none) (oneChannel 10 ++
    [deliver 10 (msg 2 (createRequest [])), deliver 10 (msg 3 (activateRequest sessionToken))] ++ more)

def firstSession (s : Server Script Unit) : Session := s.shared.sessions.getD 0 .init

def firstScope (s : Server Script Unit) : Scope Script Unit :=
  ⟨s.shared, (s.conns.getD 0 (.empty 0)).channel⟩

def closeSessionRequest : Request :=
  ⟨⟨0, 1⟩, 473, (request 473 sessionToken ++ [1]).drop 4, 5, none, none⟩

def closeSessionResponse : Encoded 64 := ⟨responsePrefix closeSessionResponseId 1 good, by decide⟩

def dispatchClose (s : Server Script Unit) : Dispatched Script Unit 64 :=
  serviceDispatch build (config 6 8192 none) application closeSessionRequest (firstScope s) idle

theorem closesSession_of_dispatch {s : Server Script Unit}
    (h : dispatchGate build closeSessionRequest (firstScope s) =
      .ok (.closeSession, some (0, firstSession s)) ∧ (dispatchClose s).result =
        .ok closeSessionResponse) :
    ClosesSession build (config 6 8192 none) application 64 (firstScope s) closeSessionRequest idle
      (firstSession s) :=
  ⟨⟨0, h.1⟩, by decide, 1, closeSessionResponse, h.2, rfl⟩

theorem closed_session_gone_iff_without_subscription :
    SessionGone (oneSession []).shared.subs (dispatchClose (oneSession [])).scope.shared.subs
      (firstSession (oneSession [])).sessionId := by
  have hgone (s : Server Script Unit) (h : Reachable build (config 6 8192 none) application s)
      (hcloses : ClosesSession build (config 6 8192 none) application 64
        (firstScope s) closeSessionRequest idle (firstSession s) ∧
        OwnsNothing s.shared.subs (firstSession s).sessionId) :
      SessionGone s.shared.subs (dispatchClose s).scope.shared.subs (firstSession s).sessionId :=
    (closed_session_gone_iff h hcloses.1).mpr hcloses.2
  exact hgone _ (play_reachable (by decide) _)
    (And.imp_left closesSession_of_dispatch (by decide +kernel))

def subscribed : Server Script Unit := oneSession [deliver 10 (msg 4 (subscribeRequest sessionToken))]

theorem subscription_outlives_session : Reachable build (config 6 8192 none) application subscribed ∧
      ClosesSession build (config 6 8192 none) application 64 (firstScope subscribed)
      closeSessionRequest idle
        (firstSession subscribed) ∧ ∃ sub ∈ (dispatchClose subscribed).scope.shared.subs.subscriptions,
        sub.inUse = true ∧ sub.sessionId = (firstSession subscribed).sessionId :=
  ⟨play_reachable (by decide) _, And.imp_left closesSession_of_dispatch (by decide +kernel)⟩

end Closing

end MicroOpcua
