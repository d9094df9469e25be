import MicroOpcua.Core.Reachable
import MicroOpcua.Services.SessionTable

namespace MicroOpcua

open HandlerM Lib.StateRun

variable {W A : Type} {cap : Nat} {b : Build} {c : Config W} {app : Application W A} {req : Request}

def Request.view (req : Request) (s : Scope W A) : ConnView :=
  ⟨req.connection, s.channel, s.shared.channelClientCert⟩

section Handlers

def SameSessions (s t : Scope W A) : Prop := t.shared.sessions = s.shared.sessions

theorem zoom_sessions {τ α : Type} {get : Scope W A → τ} {set : τ → Scope W A → Scope W A}
    (m : HandlerM τ W cap α) (h : ∀ t s, SameSessions s (set t s)) :
    Effect SameSessions (zoom get set m) :=
  .zoom (S := fun _ _ => True) (fun _ => trivial) (fun s t _ => h t s)

theorem onSubs_sessions (m : SubscriptionM W cap Unit) :
    Effect SameSessions (onSubs m : ScopeM W A cap Unit) :=
  zoom_sessions m (fun _ _ => rfl)

theorem onItems_sessions (m : ItemM W cap Unit) :
    Effect SameSessions (onItems m : ScopeM W A cap Unit) :=
  zoom_sessions m (fun _ _ => rfl)

theorem onCall_sessions (m : CallM W A cap Unit) :
    Effect SameSessions (onCall m : ScopeM W A cap Unit) :=
  zoom_sessions m (fun _ _ => rfl)

theorem onChannel_sessions (m : ChannelM W cap Unit) :
    Effect SameSessions (onChannel m : ScopeM W A cap Unit) :=
  zoom_sessions m (fun _ _ => rfl)

theorem onApplication_sessions (service : Service) (session : Option UInt32) :
    Effect SameSessions (onApplication app service session : ScopeM W A cap Unit) := by
  intro s
  unfold onApplication
  rcases hrun :
    (app.serve service ⟨s.state.shared.sessions, s.state.shared.subs, session⟩ s.reader.buffer cap).run
    (s.state.shared.app, s.world) with ⟨_ | _, a, w⟩
  all_goals
    simp only [ExceptT.run_mk, StateT.run] at hrun ⊢
    rw [hrun]
    rfl

theorem run_bind_same {σ α β : Type} (m : HandlerM σ W cap α) {g : α → HandlerM σ W cap β}
    (hg : ∀ a, Effect Eq (g a)) (s : HandlerState σ W cap) :
    ((m >>= g).run.run s).2.state = (m.run.run s).2.state := by
  obtain ⟨e, -, hrun⟩ | ⟨a, -, hrun⟩ := run_run_bind m g s
  · rw [hrun]
  · rw [hrun]
    exact (hg a _).symm

theorem handler_sessions (service : Service) (active : Option (Nat × Session)) (s : Scope W A) (w : W) :
    SessionChange b c (req.view s) req.body service s.shared.sessions
      ((handler b c app req service active : ScopeM W A cap Answer).execute req.body s
        w).2.1.shared.sessions := by
  rw [execute_state, handler, run_state_bind]
  have hsame {m : ScopeM W A cap Unit} (hm : Effect SameSessions m) (answer : Answer) :
      SessionChange b c (req.view s) req.body service s.shared.sessions
        ((do m; return answer : ScopeM W A cap Answer).run.run ⟨.init req.body, .init, s,
          w⟩).2.state.shared.sessions := by
    have heq : SameSessions s (m.run.run ⟨.init req.body, .init, s, w⟩).2.state :=
      hm ⟨.init req.body, .init, s, w⟩
    rw [run_bind_same _ (fun _ => .pure _), heq]
    exact .same
  cases service with
  | createSession =>
    rw [run_bind_same _ (fun _ => .pure _)]
    exact handleCreateSession_change ⟨.init req.body, .init, s.shared.sessions, w⟩
  | activateSession =>
    rw [run_bind_same _ (fun r => by cases r <;> exact .pure _)]
    exact handleActivateSession_change ⟨.init req.body, .init, s.shared.sessions, w⟩ rfl
  | closeSession =>
    rw [run_bind_same _ (fun _ => .pure _)]
    exact handleCloseSession_change _ ⟨.init req.body, .init, (s.shared.sessions, s.shared.subs), w⟩
  | openSecureChannel => exact hsame (onChannel_sessions _) _
  | createSubscription | modifySubscription | setPublishingMode | deleteSubscriptions | publish
  | republish | setMonitoringMode | deleteMonitoredItems => exact hsame (onSubs_sessions _) _
  | createMonitoredItems | modifyMonitoredItems | setTriggering => exact hsame (onItems_sessions _) _
  | call => exact hsame (onCall_sessions _) _
  | closeSecureChannel => exact .same
  | _ => exact hsame (onApplication_sessions _ _) _

end Handlers

/-- What a dispatch does to the session table: nothing, or what the service of a request that passed the
gate does. -/
theorem serviceDispatch_sessions (req : Request) (s : Scope W A) (w : W) :
    (serviceDispatch b c app req s w : Dispatched W A cap).scope.shared.sessions = s.shared.sessions ∨
      ∃ service active, dispatchGate b req s = .ok (service, active) ∧
        SessionChange b c (req.view s) req.body service s.shared.sessions
          (serviceDispatch b c app req s w : Dispatched W A cap).scope.shared.sessions := by
  obtain hsame | ⟨service, active, hgate, hscope⟩ := serviceDispatch_handled cap b c app req s w
  · exact .inl (by rw [hsame])
  · refine .inr ⟨service, active, hgate, ?_⟩
    rw [hscope]
    exact handler_sessions service active s w

section Steps

def Inbound.request (chunk : Inbound) (conn : Connection) (typeId : UInt32) : Request :=
  ⟨conn.id, typeId, chunk.body, chunk.requestId, chunk.policyUri, chunk.senderCert⟩

def Ctx.dispatchScope (b : Build) (s : Ctx W A) (chunk : Inbound) : Scope W A :=
  ⟨{ s.shared with channelClientCert := dispatchCert b chunk s.shared.channelClientCert },
    s.conn.channel⟩

/-- A chunk that arrives on `conn` passes the gate, and its service changes the session table. -/
structure SessionRequest (b : Build) (c : Config W) (s : Ctx W A) (service : Service)
    (t : List Session) where
  chunk : Inbound
  typeId : UInt32
  active : Option (Nat × Session)
  type : chunk.typeId.ns0Numeric? = some typeId
  gate : dispatchGate b (chunk.request s.conn typeId) (s.dispatchScope b chunk) = .ok (service, active)
  change :
    SessionChange b c ((chunk.request s.conn typeId).view (s.dispatchScope b chunk)) chunk.body service
    s.shared.sessions t

section

variable {k : Cause b W A} {s t : Ctx W A} (h : Act b c app k s t)

include h

theorem Act.sessions_cases :
    t.shared.sessions = s.shared.sessions ∨ ∃ cap chunk typeId, chunk.typeId.ns0Numeric? = some typeId ∧
      t.shared.sessions =
        (serviceDispatch b c app (chunk.request s.conn typeId) (s.dispatchScope b chunk) s.world :
          Dispatched W A cap).scope.shared.sessions := by
  cases h with
  | quiet h => exact .inl h.sessions
  | transport | send => exact .inl (congrArg Shared.sessions (Ctx.written_shared _ _ _))
  | dispatch cap chunk typeId arrived type => exact .inr ⟨cap, chunk, typeId, type, rfl⟩
  | _ => exact .inl rfl

theorem Act.sessions :
    t.shared.sessions = s.shared.sessions ∨ ∃ service,
      Nonempty (SessionRequest b c s service t.shared.sessions) := by
  obtain hsame | ⟨cap, chunk, typeId, type, hdispatch⟩ := h.sessions_cases
  · exact .inl hsame
  · rw [hdispatch]
    obtain hsame | ⟨service, active, hgate, hchange⟩ :=
      serviceDispatch_sessions (b := b) (c := c) (chunk.request s.conn typeId)
        (s.dispatchScope b chunk) s.world
    · exact .inl hsame
    · exact .inr ⟨service, ⟨⟨chunk, typeId, active, type, hgate, hchange⟩⟩⟩

theorem Act.identifiers (hlen : s.shared.sessions.length < 2 ^ 31)
    (hs : UniqueIdentifiers s.shared.sessions) :
    t.shared.sessions.length = s.shared.sessions.length ∧ UniqueIdentifiers t.shared.sessions := by
  obtain hsame | ⟨service, ⟨r⟩⟩ := h.sessions
  · rw [hsame]
    exact ⟨rfl, hs⟩
  · exact ⟨r.change.length, r.change.unique hlen hs⟩

end

inductive SessionStep (b : Build) (c : Config W) (s : Server W A) (t : List Session) : Prop where
  | same (h : t = s.shared.sessions)
  | reset (h : t = s.shared.sessions.map (fun _ => .init))
  | request (conn : Connection) (service : Service) (mem : conn ∈ s.conns)
      (h : Nonempty (SessionRequest b c (s.ctx conn) service t))

theorem Step.sessions {s t : Server W A} (h : Step b c app s t) :
    SessionStep b c s t.shared.sessions := by
  cases h with
  | act i conn k found cause hact =>
    obtain hsame | ⟨service, hrequest⟩ := hact.sessions
    · exact .same hsame
    · exact .request conn service (List.mem_of_getElem? found) hrequest
  | reset =>
    unfold resetShared
    split
    · exact .same rfl
    · exact .reset rfl
  | message | turn | background | stop => exact .same rfl

end Steps

end MicroOpcua
