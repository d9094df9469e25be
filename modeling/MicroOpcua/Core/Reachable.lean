import MicroOpcua.Core.PublishLaws

namespace MicroOpcua

open Relation Lib.StateRun

variable {W A : Type} {b : Build} {c : Config W} {app : Application W A}

/-- When the server may act on connection `i` for a cause. While a message or a turn is served, the
other connections are as it found them. -/
def Cause.At (i : Nat) (s : Server W A) : Cause b W A → Prop
  | .message a => s.isRunning = true ∧ s.conns.set i a.start.conn = a.conns
  | .turn t => s.isRunning = true ∧ s.conns.set i t.start.conn = t.conns
  | .housekeeping => s.isRunning = true
  | .stopping => s.isRunning = false

section

variable (b : Build) (c : Config W) (app : Application W A)

inductive Step : Server W A → Server W A → Prop where
  | act {s t} (i : Nat) (conn : Connection) (k : Cause b W A) (found : s.conns[i]? = some conn)
      (cause : k.At i s) (h : Act b c app k (s.ctx conn) t) : Step s (s.put i t)
  | message {s} (conn : Connection) (bytes : Bytes) (running : s.isRunning = true) (mem : conn ∈ s.conns)
      (connected : conn.clientHandle.isSome = true) :
      Step s (s.record (.message conn.id bytes s.snapshot))
  | turn {s} (index : Nat) (running : s.isRunning = true) : Step s (s.record (.turn index s.snapshot))
  | background {s} (subs : Subscriptions W) (a : A) (w : W) (same : SameTables s.shared.subs subs) :
      Step s { s with shared := { s.shared with subs := subs, app := a }, world := w }
  | reset {s} (running : s.isRunning = true) : Step s (resetShared b s)
  | stop {s} : Step s { s with isRunning := false }

abbrev Steps : Server W A → Server W A → Prop := ReflTransGen (Step b c app)

/-- What happens to a server: its application polls it, closes it or reports an event, and between
two calls the world and the application's own data change at will. -/
inductive Operates : Server W A → Server W A → Prop where
  | poll (s) : Operates s (poll b c app s)
  | close (s) : Operates s (serverClose b c s)
  | event (s) (e : EventNotification) : Operates s (serverTriggerEvent e s)
  | environment (s) (a : A) (w : W) :
    Operates s { s with shared := { s.shared with app := a }, world := w }

abbrev Run : Server W A → Server W A → Prop := ReflTransGen (Operates b c app)

/-- A state of a server that was started with a valid configuration. -/
structure Reachable (s : Server W A) : Prop where
  valid : configValidate b c = .ok ()
  run : ∃ a w, Run b c app (Server.init b a w) s

end

section Steps

variable {s : Server W A} {i : Nat} {conn : Connection}

theorem Server.put_ctx (found : s.conns[i]? = some conn) : s.put i (s.ctx conn) = s := by
  have hset : s.conns.set i conn = s.conns := by
    obtain ⟨h, rfl⟩ := List.getElem?_eq_some_iff.mp found
    exact List.set_getElem_self h
  simp only [Server.put, Server.ctx, hset]

theorem Server.put_put (s : Server W A) (i : Nat) (t u : Ctx W A) : (s.put i t).put i u = s.put i u := by
  simp only [Server.put, List.set_set]

theorem Server.put_found (found : s.conns[i]? = some conn) (t : Ctx W A) :
    (s.put i t).conns[i]? = some t.conn := by
  obtain ⟨h, -⟩ := List.getElem?_eq_some_iff.mp found
  exact List.getElem?_set_self h

theorem Cause.At.put {k : Cause b W A} (h : k.At i s) (t : Ctx W A) : k.At i (s.put i t) := by
  cases k with
  | message a => exact ⟨h.1, (List.set_set ..).trans h.2⟩
  | turn t => exact ⟨h.1, (List.set_set ..).trans h.2⟩
  | housekeeping => exact h
  | stopping => exact h

theorem acts_steps {k : Cause b W A} {t : Ctx W A} (found : s.conns[i]? = some conn) (cause : k.At i s)
    (h : Acts b c app k (s.ctx conn) t) : Steps b c app s (s.put i t) := by
  induction h with
  | refl => rw [Server.put_ctx found]
  | @tail u v hacts hact ih =>
    rw [← Server.put_put s i u v]
    exact .tail ih (.act i u.conn k (Server.put_found found u) (cause.put u) hact)

end Steps

section Engine

variable {k : Cause b W A} {s t : Ctx W A}

theorem Act.engine (hk : k.isTurn = false) (h : Act b c app k s t) :
    EngineRuns b (fun _ _ => True) s.shared.subs t.shared.subs := by
  have hshared {u : Ctx W A} (h : u.shared = s.shared) :
      EngineRuns b (fun _ _ => True) s.shared.subs u.shared.subs := h ▸ .refl
  cases h with
  | quiet h => exact h.subs hk ▸ .refl
  | transport bytes => exact hshared (Ctx.written_shared _ _ _)
  | send requestId payload publish bytes => exact hshared (Ctx.written_shared _ _ _)
  | dispatch cap chunk typeId =>
    obtain ⟨run, hdispatch⟩ := dispatchInbound_dispatches b c app cap _ chunk typeId s
    exact hdispatch.engine
  | _ => exact hshared rfl

theorem acts_engine (hk : k.isTurn = false) (h : Acts b c app k s t) :
    EngineRuns b (fun _ _ => True) s.shared.subs t.shared.subs := by
  induction h with
  | refl => exact refl s.shared.subs
  | tail _ hact ih => exact ih.trans (hact.engine hk)

end Engine

section Housekeeping

theorem dropConnection_acts (s : Ctx W A) :
    Acts b c app .housekeeping s ((dropConnection c).run s).2 := by
  simp only [dropConnection, run_bind, run_modify]
  exact .tail (closeConnection_acts s) (.buffer [] _)

theorem checkTimeout_acts (s : Ctx W A) : Acts b c app .housekeeping s ((checkTimeout c).run s).2 := by
  simp only [checkTimeout, run_bind, run_get, onWorld_run, run_ite]
  generalize StateT.run c.platform.getTickMs s.world = p
  refine .head (.quiet (.world s p.2)) ?_
  split
  · exact dropConnection_acts _
  · exact .refl

theorem receive_acts (s : Ctx W A) : Acts b c app .housekeeping s ((receive b c).run s).2 := by
  simp only [receive, run_bind, run_get]
  split
  · exact .refl
  · rw [run_ite]
    split
    · simp only [run_bind, onWorld_run]
      generalize StateT.run (ExceptT.run (c.platform.read _ _)) s.world = p
      refine .head (.quiet (.world s p.2)) ?_
      split
      · exact dropConnection_acts _
      · rw [run_ite]
        split
        · simp only [run_bind, onWorld_run, run_modify]
          generalize StateT.run c.platform.getTickMs p.2 = q
          exact .head (.quiet (.world _ q.2)) (.single (.buffer _ q.1))
        · exact .refl
    · exact .refl

theorem acceptConnection_acts (h : Handle) {s : Ctx W A} (free : s.conn.clientHandle = none) :
    Acts b c app .housekeeping s ((acceptConnection c h).run s).2 := by
  simp only [acceptConnection, run_bind, onWorld_run, run_modify]
  exact .head (.quiet (.world s _)) (.single (.accept h _ free))

end Housekeeping

section Serving

variable {s t : Server W A} {i : Nat}

variable (b c app) in
structure Stays (running : Bool) (s t : Server W A) : Prop where
  same : t.isRunning = s.isRunning
  steps : s.isRunning = running → Steps b c app s t
  engine : EngineRuns b (fun _ _ => True) s.shared.subs t.shared.subs

instance (r : Bool) : Std.Refl (Stays b c app r) := ⟨fun _ => ⟨rfl, fun _ => .refl, .refl⟩⟩

instance (r : Bool) : IsTrans (Server W A) (Stays b c app r) :=
  ⟨fun _ _ _ h h' => ⟨h'.same.trans h.same, fun hs => (h.steps hs).trans (h'.steps (h.same.trans hs)),
    h.engine.trans h'.engine⟩⟩

theorem Stays.onConn {k : Cause b W A} {r : Bool} {m : ConnM W A Unit} (hk : s.isRunning = r → k.At i s)
    (hturn : k.isTurn = false)
    (h : ∀ conn, s.conns[i]? = some conn → Acts b c app k (s.ctx conn) (m.run (s.ctx conn)).2) :
    Stays b c app r s (s.onConn i m) := by
  unfold Server.onConn
  split
  · exact refl s
  · rename_i conn found
    exact ⟨rfl, fun hs => acts_steps found (hk hs) (h conn found), acts_engine hturn (h conn found)⟩

abbrev Serves (b : Build) (c : Config W) (app : Application W A) : Server W A → Server W A → Prop :=
  Stays b c app true

theorem Serves.onConn {m : ConnM W A Unit}
    (h : ∀ conn, s.conns[i]? = some conn →
      Acts b c app .housekeeping (s.ctx conn) (m.run (s.ctx conn)).2) :
    Serves b c app s (s.onConn i m) :=
  Stays.onConn (k := .housekeeping) id rfl h

theorem Serves.call {α : Type} (m : StateM W α) (s : Server W A) : Serves b c app s (s.call m).2 :=
  ⟨rfl, fun _ => .single (.background s.shared.subs s.shared.app _ (refl s.shared.subs)), .refl⟩

theorem nextMessage_complete {rx message rest : Bytes}
    (h : nextMessage b c rx = .complete message rest) : (u32At message 4).toNat = message.length := by
  simp only [nextMessage] at h
  split at h
  · cases h
  · split at h
    · cases h
    · rename_i hsize
      split at h
      · cases h
      · rename_i hlength
        obtain ⟨rfl, -⟩ := NextMessage.complete.inj h
        have htake :
            (List.drop 4 (List.take (u32At rx 4).toNat rx)).take 4 = (List.drop 4 rx).take 4 := by
          rw [List.drop_take, List.take_take, Nat.min_eq_left (by omega)]
        rw [u32At, htake, ← u32At, List.length_take, Nat.min_eq_left (by omega)]

variable {conn : Connection}

theorem Serves.process {message rest : Bytes} (found : s.conns[i]? = some conn)
    (connected : conn.clientHandle.isSome = true) (complete : (u32At message 4).toNat = message.length) :
    Serves b c app s
      ((s.record (.message conn.id message s.snapshot)).onConn i (processOne b c app message rest)) := by
  have hmem : conn ∈ s.conns := List.mem_of_getElem? found
  let a : Arrival W A :=
    ⟨(s.record (.message conn.id message s.snapshot)).ctx conn, message, s.conns, s.trace, rfl, hmem,
      connected, complete⟩
  have hset : s.conns.set i conn = s.conns := congrArg Server.conns (Server.put_ctx found)
  have hconn :
    (s.record (.message conn.id message s.snapshot)).onConn i (processOne b c app message rest) =
      (s.record (.message conn.id message s.snapshot)).put i
      ((processOne b c app message rest).run a.start).2 := by
    unfold Server.onConn
    have found' : (s.record (.message conn.id message s.snapshot)).conns[i]? = some conn := found
    rw [found']
  rw [hconn]
  refine ⟨rfl, fun hs => .head (.message conn message hs hmem connected) ?_,
    acts_engine (k := .message a) rfl (processMessage_acts a)⟩
  simp only [processOne, run_bind, run_modify]
  rw [← Server.put_put _ i ((processMessage b c app message).run a.start).2]
  have hsteps : Steps b c app (s.record (.message conn.id message s.snapshot)) _ :=
    acts_steps (k := .message a) found ⟨hs, hset⟩ (processMessage_acts a)
  exact .tail hsteps (.act i _ .housekeeping (Server.put_found found _) hs (.buffer _ _))

theorem processBuffer_serves (i fuel : Nat) (s : Server W A) :
    Serves b c app s (processBuffer b c app i fuel s) := by
  induction fuel generalizing s with
  | zero => exact refl s
  | succ n ih =>
    unfold processBuffer
    split
    · exact refl s
    · rename_i conn found
      split
      · exact refl s
      · rename_i connected
        split
        · exact refl s
        · exact .onConn (fun _ _ => dropConnection_acts _)
        · rename_i message rest hnext
          exact IsTrans.trans _ _ _
            (.process found (by simpa [Option.isSome_iff_ne_none] using connected)
              (nextMessage_complete hnext)) (ih _)

theorem serveConnection_serves (i : Nat) (s : Server W A) :
    Serves b c app s (serveConnection b c app i s) := by
  unfold serveConnection
  split
  · exact refl s
  · exact IsTrans.trans _ _ _ (.onConn (fun _ _ => receive_acts _)) (processBuffer_serves _ _ _)

theorem pollConnection_serves (i : Nat) (s : Server W A) :
    Serves b c app s (pollConnection b c app i s) := by
  unfold pollConnection
  split
  · exact refl s
  · exact IsTrans.trans _ _ _ (.onConn (fun _ _ => checkTimeout_acts _)) (serveConnection_serves _ _)

theorem publishConnection_eq_some {p : Snapshot W A} {sub : Subscription} {k : Nat}
    (h : publishConnection b p sub = some k) (found : p.conns[k]? = some conn) :
    b.multipleConnections = true → conn.clientHandle.isSome = true ∧
      ∃ session ∈ p.shared.sessions, session.open = true ∧ session.sessionId = sub.sessionId ∧
        conn.channel.channelId = session.secureChannelId := by
  intro hmultiple
  simp only [publishConnection, hmultiple, if_true] at h
  split at h
  · cases h
  · rename_i session hsession
    have hfound := List.find?_some hsession
    obtain ⟨hlt, hmatch, -⟩ := List.findIdx?_eq_some_iff_getElem.mp h
    obtain ⟨-, rfl⟩ := List.getElem?_eq_some_iff.mp found
    simp only [Bool.and_eq_true, decide_eq_true_eq] at hfound hmatch
    exact ⟨hmatch.1, session, List.mem_of_find?_eq_some hsession, hfound.1, hfound.2, hmatch.2⟩

theorem publishOne_serves (hsend : symmetricHeaderSize ≤ c.sendBufferSize)
    (nowMs : UInt64) (s : Server W A) (i : Nat) : Serves b c app s (publishOne b c nowMs s i) := by
  unfold publishOne
  split
  · exact refl s
  · rename_i sub hsub
    split
    · exact refl s
    · rename_i hdue
      simp only [Bool.or_eq_true, Bool.not_eq_true', decide_eq_true_eq, not_or,
        Bool.not_eq_false, gt_iff_lt, UInt64.not_lt] at hdue
      split
      · exact refl s
      · rename_i k hk
        have hrecord : Serves b c app s (s.record (.turn i s.snapshot)) :=
          ⟨rfl, fun hs => .single (.turn i hs), .refl⟩
        refine IsTrans.trans _ _ _ hrecord ?_
        unfold Server.onConn
        split
        · exact refl _
        · rename_i conn found
          have hset : s.conns.set k conn = s.conns := congrArg Server.conns (Server.put_ctx found)
          let t : Turn b W A :=
            ⟨(s.record (.turn i s.snapshot)).ctx conn, i, sub, s.conns, s.trace, rfl, hsub,
              List.mem_of_getElem? found, publishConnection_eq_some hk found⟩
          refine ⟨rfl, fun hs =>
            acts_steps (k := .turn t) found ⟨hs, hset⟩ (publishTurn_acts app nowMs hsend t), ?_⟩
          obtain ⟨x, -, -, -, hx⟩ := publishTurn_refines (s := t.start) b c nowMs hsub hdue.1 hdue.2
          exact .single ⟨.turn x, trivial, hx.symm⟩

theorem subscriptionsTick_serves (hsend : symmetricHeaderSize ≤ c.sendBufferSize) (s : Server W A) :
    Serves b c app s (subscriptionsTick b c s) := by
  have hsample (nowMs : UInt64) (s : Server W A) : Serves b c app s (sampleAll b nowMs s) :=
    ⟨rfl, fun _ => .single (.background _ s.shared.app _ (sampleItems_same _ nowMs _ s.world)),
      .op (.sample nowMs s.world) trivial⟩
  have hpublish (nowMs : UInt64) (s : Server W A) : Serves b c app s (publishDue b c nowMs s) :=
    Lib.Table.foldl_rel (publishOne_serves hsend nowMs) _ s
  exact IsTrans.trans _ _ _ (.call c.platform.getTickMs s)
    (IsTrans.trans _ _ _ (hsample _ _) (hpublish _ _))

theorem pollBackground_serves (hsend : symmetricHeaderSize ≤ c.sendBufferSize) (s : Server W A) :
    Serves b c app s (pollBackground b c app s) := by
  unfold pollBackground
  rcases hrun : app.pubsubPoll.run (s.shared.app, s.world) with ⟨r, a, w⟩
  have hpubsub : Serves b c app s { s with shared := { s.shared with app := a }, world := w } :=
    ⟨rfl, fun _ => .single (.background s.shared.subs a w (refl s.shared.subs)), .refl⟩
  cases r with
  | error e => exact hpubsub
  | ok =>
    dsimp only
    split
    · exact IsTrans.trans _ _ _ hpubsub (subscriptionsTick_serves hsend _)
    · exact hpubsub

theorem Serves.accept (h : Handle) (free : ∀ conn, s.conns[i]? = some conn → conn.clientHandle = none) :
    Serves b c app s (s.onConn i (acceptConnection c h)) :=
  .onConn (fun conn found => acceptConnection_acts h (free conn found))

theorem Server.call_conns {α : Type} {m : StateM W α} {r : α} (h : s.call m = (r, t)) :
    t.conns = s.conns := (congrArg (fun p => p.2.conns) h).symm

theorem Serves.of_call {α : Type} {m : StateM W α} {r : α} (h : s.call m = (r, t)) :
    Serves b c app s t := by
  have hcall : Serves b c app s (s.call m).2 := .call m s
  rwa [h] at hcall

theorem pollMultiple_serves (s : Server W A) : Serves b c app s (pollMultiple b c app s) := by
  simp only [pollMultiple]
  rcases hcall : s.call c.platform.accept with ⟨_ | h, t⟩
  · exact IsTrans.trans _ _ _ (.of_call hcall)
      (Lib.Table.foldl_rel (fun s i => pollConnection_serves i s) _ t)
  · refine IsTrans.trans _ _ _ (.of_call hcall) ?_
    dsimp only
    split
    · rename_i i hfree
      refine .accept h (fun conn found => ?_)
      obtain ⟨hlt, hnone, -⟩ := List.findIdx?_eq_some_iff_getElem.mp hfree
      rw [Server.call_conns hcall] at found
      obtain ⟨-, rfl⟩ := List.getElem?_eq_some_iff.mp found
      simpa using hnone
    · exact .call _ _

theorem Server.free_of_not_connected (h : s.connected i = false)
    (found : s.conns[i]? = some conn) : conn.clientHandle = none := by
  simpa [Server.connected, found] using h

theorem pollSingle_serves (s : Server W A) : Serves b c app s (pollSingle b c app s) := by
  simp only [pollSingle]
  split
  · refine IsTrans.trans _ _ _ (.onConn (i := 0) (fun _ _ => checkTimeout_acts _)) ?_
    generalize s.onConn 0 (checkTimeout c) = t
    split
    · exact refl t
    · rcases hcall : t.call c.platform.accept with ⟨_ | h, u⟩
      · exact IsTrans.trans _ _ _ (.of_call hcall) (serveConnection_serves 0 u)
      · exact IsTrans.trans _ _ _ (.of_call hcall)
          (IsTrans.trans _ _ _ (.call (refuseAfterHello c h) u) (serveConnection_serves 0 _))
  · rename_i hfree
    rcases hcall : s.call c.platform.accept with ⟨_ | h, t⟩
    · exact .of_call hcall
    · refine IsTrans.trans _ _ _ (.of_call hcall) (IsTrans.trans _ (resetShared b t) _ ?_ (.accept h ?_))
      · refine ⟨?_, fun hs => .single (.reset hs), ?_⟩
        · unfold resetShared
          split <;> rfl
        · unfold resetShared
          split
          · exact .refl
          · dsimp only
            split
            · exact .op .reset trivial
            · exact .refl
      · intro conn found
        have hconns : (resetShared b t).conns = s.conns := by
          rw [← Server.call_conns hcall]
          unfold resetShared
          split <;> rfl
        rw [hconns] at found
        exact Server.free_of_not_connected (by simpa using hfree) found

theorem poll_serves (hsend : symmetricHeaderSize ≤ c.sendBufferSize) (s : Server W A) :
    Serves b c app s (poll b c app s) := by
  unfold poll
  split
  · refine IsTrans.trans _ _ _ ?_ (pollBackground_serves hsend _)
    split
    · exact pollMultiple_serves s
    · exact pollSingle_serves s
  · exact refl s

end Serving

section Stopping

theorem closeChannel_acts (s : Ctx W A) : Acts b c app .stopping s ((closeChannel c).run s).2 := by
  simp only [closeChannel, run_bind, run_get, onWorld_run, run_modify, secureChannelClose_run]
  generalize ((secureChannelClose c.cryptoAdapter s.conn.channel).run s.world).2 = w
  split
  · rename_i hopen
    exact .head (.quiet (.world s w)) (.single (.reset hopen))
  · exact .single (.quiet (.world s w))

theorem serverClose_stays (app : Application W A) (s : Server W A) :
    Stays b c app false { s with isRunning := false } (serverClose b c s) := by
  unfold serverClose
  dsimp only
  split
  · refine Lib.Table.foldl_rel (R := Stays b c app false) (fun u i => ?_) _ _
    split
    · refine .onConn (k := .stopping) id rfl (fun conn _ => ?_)
      rw [run_bind]
      exact .trans (closeConnection_acts _) (closeChannel_acts _)
    · exact refl u
  · exact .onConn (k := .stopping) id rfl (fun _ _ => closeChannel_acts _)

end Stopping

section

variable {s t : Server W A} (hsend : symmetricHeaderSize ≤ c.sendBufferSize) (h : Operates b c app s t)

include hsend h

theorem operates_steps : Steps b c app s t := by
  cases h with
  | poll =>
    cases hrunning : s.isRunning with
    | true => exact (poll_serves hsend s).steps hrunning
    | false =>
      rw [poll, hrunning]
      exact .refl
  | close => exact .head .stop ((serverClose_stays app s).steps rfl)
  | event e => exact .single (.background _ s.shared.app s.world ⟨triggerEvent_keys _ e, rfl, rfl⟩)
  | environment a w => exact .single (.background s.shared.subs a w (refl s.shared.subs))

theorem operates_engine : EngineRuns b (fun _ _ => True) s.shared.subs t.shared.subs := by
  cases h with
  | poll => exact (poll_serves hsend s).engine
  | close => exact (serverClose_stays (c := c) app s).engine
  | event e => exact .op (.triggerEvent e) trivial
  | environment a w => exact .refl

end

section Invariants

variable {s t : Server W A}

theorem configValidate_send (h : configValidate b c = .ok ()) : minChunkSize ≤ c.sendBufferSize := by
  simp only [configValidate, guard_eq_ok] at h
  omega

theorem Run.steps (hvalid : configValidate b c = .ok ()) (h : Run b c app s t) : Steps b c app s t := by
  have hsend : symmetricHeaderSize ≤ c.sendBufferSize := .trans (by decide) (configValidate_send hvalid)
  induction h with
  | refl => exact .refl
  | tail _ hop ih => exact ih.trans (operates_steps hsend hop)

/-- The subscription engine of every reachable server is in a state that operations lead to. -/
theorem Reachable.engine {s : Server W A} (h : Reachable b c app s) :
    EngineRuns b (fun _ _ => True) (.init b) s.shared.subs := by
  obtain ⟨a, w, hrun⟩ := h.run
  have hsend : symmetricHeaderSize ≤ c.sendBufferSize := .trans (by decide) (configValidate_send h.valid)
  induction hrun with
  | refl => exact .refl
  | tail hrun hop ih => exact (ih ⟨h.valid, a, w, hrun⟩).trans (operates_engine hsend hop)

end Invariants

end MicroOpcua
