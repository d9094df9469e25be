import MicroOpcua.Core.Dispatch
import MicroOpcua.Services.SecureChannelLaws
import MicroOpcua.Services.SessionLaws

namespace MicroOpcua

open HandlerM Lib.StateRun

variable {W A : Type} {cap : Nat} {b : Build} {c : Config W} {app : Application W A} {req : Request}

def Service.sessionless : Service → Bool
  | .findServers | .getEndpoints | .openSecureChannel | .closeSecureChannel | .createSession
  | .activateSession => true
  | _ => false

theorem findServiceDescriptor_row {id : UInt32} {row : ServiceRow}
    (h : findServiceDescriptor b id = some row) : row.requiresSession = !row.service.sessionless ∧
      (row.service = .openSecureChannel ↔ id = openSecureChannelRequestId) := by
  have hrow : row ∈ supportedServices b := List.mem_of_mem_filter (List.mem_of_find?_eq_some h)
  obtain rfl : row.requestId = id := by simpa using List.find?_some h
  simp only [supportedServices, List.mem_cons, List.not_mem_nil, or_false] at hrow
  rcases hrow with rfl | rfl | rfl | rfl | rfl | rfl | rfl | rfl | rfl | rfl | rfl | rfl | rfl | rfl |
    rfl | rfl | rfl | rfl | rfl | rfl | rfl | rfl | rfl | rfl | rfl | rfl | rfl | rfl | rfl | rfl | rfl |
    rfl | rfl | rfl <;>
    exact ⟨rfl, by dsimp only; decide⟩

inductive SubsStep (b : Build) (service : Service) (sessionId : UInt32)
    (s t : Subscriptions W) : Prop where
  | same (h : t = s)
  | own (bound : service.sessionless = false) (h : SessionRuns b sessionId s t)
  | close (closes : service = .closeSession) (h : DeleteRuns b s t)

namespace SubsStep

variable {service : Service} {sessionId : UInt32} {s t : Subscriptions W}

section

variable (h : SubsStep b service sessionId s t)

include h

theorem engine : EngineRuns b (fun _ _ => True) s t := by
  cases h with
  | same h => exact h ▸ refl t
  | own _ h => exact h.mono (fun _ _ _ => trivial)
  | close _ h => exact h.mono (fun _ _ _ => trivial)

theorem sessionRuns (hclose : service ≠ .closeSession) : SessionRuns b sessionId s t := by
  cases h with
  | same h => exact h ▸ refl t
  | own _ h => exact h
  | close hclose' => exact absurd hclose' hclose

theorem owners : OwnersGrow sessionId s t := by
  cases h with
  | same h => exact h ▸ refl t
  | own _ h => exact SessionRuns.owners h
  | close _ h => exact .of_subset h.owners

theorem unowned (hfree : service.sessionless = true) :
    MicroOpcua.owners t.subscriptions ⊆ MicroOpcua.owners s.subscriptions := by
  cases h with
  | same h => exact h ▸ subset_rfl
  | own hbound => cases hbound.symm.trans hfree
  | close _ h => exact h.owners

end

end SubsStep

/-- What a handler may change of its scope, for a caller of session `sessionId`. -/
structure ScopeStep (b : Build) (req : Request) (service : Service) (sessionId : UInt32)
    (s t : Scope W A) : Prop where
  cert : t.shared.channelClientCert = s.shared.channelClientCert
  channel : t.channel = s.channel ∨
    service = .openSecureChannel ∧ Opened b.security req.opnPolicy s.channel t.channel
  subs : SubsStep b service sessionId s.shared.subs t.shared.subs

instance (service : Service) (sessionId : UInt32) :
    Std.Refl (ScopeStep (A := A) (W := W) b req service sessionId) :=
  ⟨fun _ => ⟨rfl, .inl rfl, .same rfl⟩⟩

theorem Effect.bind_pure {σ α β : Type} {R : σ → σ → Prop} {m : HandlerM σ W cap α}
    {g : α → HandlerM σ W cap β} (hm : Effect R m) (hg : ∀ a, Effect Eq (g a)) : Effect R (m >>= g) :=
  .bind_then hm hg (fun _ _ _ h heq => heq ▸ h)

section Zooms

variable {service : Service} {sessionId : UInt32} {α : Type}

theorem onSessions_effect (m : SessionM W cap α) :
    Effect (ScopeStep b req service sessionId) (onSessions m : ScopeM W A cap α) :=
  .zoom (S := fun _ _ => True) (fun _ => trivial) (fun _ _ _ => ⟨rfl, .inl rfl, .same rfl⟩)

theorem onSubs_effect {m : SubscriptionM W cap Unit} (hbound : service.sessionless = false)
    (hm : Effect (SessionRuns b sessionId) m) :
    Effect (ScopeStep b req service sessionId) (onSubs m : ScopeM W A cap Unit) :=
  .zoom hm (fun _ _ h => ⟨rfl, .inl rfl, .own hbound h⟩)

theorem onItems_effect {m : ItemM W cap Unit} {s : Scope W A} (hbound : service.sessionless = false)
    (hm : Effect (ItemRuns b sessionId s.shared.subs) m) :
    Effect (fun u t => u = s → ScopeStep b req service sessionId u t)
      (onItems m : ScopeM W A cap Unit) :=
  .zoom hm (fun _ _ h heq => ⟨rfl, .inl rfl, .own hbound (heq ▸ h)⟩)

theorem onApplication_effect (session : Option UInt32) :
    Effect (ScopeStep b req service sessionId)
      (onApplication app service session : ScopeM W A cap Unit) := by
  intro s
  have h (a : A) : ScopeStep b req service sessionId s.state (s.state.setApp a) :=
    ⟨rfl, .inl rfl, .same rfl⟩
  unfold onApplication
  rcases hrun :
    (app.serve service ⟨s.state.shared.sessions, s.state.shared.subs, session⟩ s.reader.buffer cap).run
    (s.state.shared.app, s.world) with ⟨_ | _, a, w⟩
  all_goals
    simp only [ExceptT.run_mk, StateT.run] at hrun ⊢
    rw [hrun]
    exact h a

end Zooms

theorem handler_effect (service : Service) (active : Option (Nat × Session)) :
    Effect (ScopeStep b req service ((active.map (·.2.sessionId)).getD 0))
      (handler b c app req service active : ScopeM W A cap Answer) := by
  refine .state_bind (fun s => ?_)
  have hany {m : ScopeM W A cap Answer}
      (hm : Effect (ScopeStep b req service ((active.map (·.2.sessionId)).getD 0)) m) :
      Effect (fun u t => u = s → ScopeStep b req service ((active.map (·.2.sessionId)).getD 0) u t) m :=
    fun u _ => hm u
  have hdone {m : ScopeM W A cap Unit} {answer : Answer}
      (hm : Effect (ScopeStep b req service ((active.map (·.2.sessionId)).getD 0)) m) :
      Effect (fun u t => u = s → ScopeStep b req service ((active.map (·.2.sessionId)).getD 0) u t)
        (m >>= fun _ => pure answer) := hany (.bind_pure hm (fun _ => .pure _))
  cases service with
  | openSecureChannel =>
    refine hdone (.zoom (handleOpenSecureChannel_effect _ _) (fun _ _ h => ?_))
    exact ⟨rfl, h.imp id (fun h => ⟨rfl, h⟩), .same rfl⟩
  | createSession => exact hdone (onSessions_effect _)
  | activateSession =>
    refine hany (.bind_pure (onSessions_effect _) (fun r => ?_))
    cases r <;> exact .pure _
  | closeSession =>
    exact hdone (.zoom (handleCloseSession_effect _) (fun _ _ h => ⟨rfl, .inl rfl, .close rfl h⟩))
  | createSubscription =>
    exact hdone (onSubs_effect rfl (handleCreateSubscription_effect (req.caller _) _))
  | modifySubscription =>
    exact hdone (onSubs_effect rfl (handleModifySubscription_effect (req.caller _)))
  | setPublishingMode =>
    exact hdone (onSubs_effect rfl (handleSetPublishingMode_effect (req.caller _)))
  | deleteSubscriptions =>
    exact hdone (onSubs_effect rfl (handleDeleteSubscriptions_effect (req.caller _)))
  | publish => exact hdone (onSubs_effect rfl (handlePublish_effect (req.caller _) _))
  | republish => exact hdone (onSubs_effect rfl (handleRepublish_effect (req.caller _)))
  | createMonitoredItems =>
    refine .bind_pure (onItems_effect rfl (driveItemOperations_effect _ (.adapter _) ?_)) (fun _ => .pure _)
    exact fun _ nowMs hfound => createMonitoredItem_effect _ _ nowMs hfound
  | modifyMonitoredItems =>
    refine .bind_pure (onItems_effect rfl (driveItemOperations_effect _ (.pure ()) ?_)) (fun _ => .pure _)
    exact fun _ _ hfound => modifyMonitoredItem_effect hfound
  | setMonitoringMode =>
    exact hdone (onSubs_effect rfl (handleSetMonitoringMode_effect (req.caller _)))
  | setTriggering =>
    exact .bind_pure (onItems_effect rfl (handleSetTriggering_effect (req.caller _))) (fun _ => .pure _)
  | deleteMonitoredItems =>
    exact hdone (onSubs_effect rfl (handleDeleteMonitoredItems_effect (req.caller _)))
  | call =>
    exact hdone (.zoom (handleCall_effect (req.caller _) app) (fun _ _ h => ⟨rfl, .inl rfl, .own rfl h⟩))
  | closeSecureChannel => exact hany (.pure _)
  | _ => exact hdone (onApplication_effect _)

section Gate

structure Usable (b : Build) (sessions : List Session) (channelId : UInt32) (i : Nat)
    (session : Session) : Prop where
  found : sessions[i]? = some session
  isOpen : session.open = true
  channel : b.multipleConnections = true → session.secureChannelId = channelId

theorem usable_of_validated {sessions : List Session} {channelId : UInt32} {i : Nat} {session : Session}
    (hfound : sessions[i]? = some session) (hopen : session.open = true)
    (hchannel : sessionValidateSecureChannel b session channelId = .ok ()) :
    Usable b sessions channelId i session := by
  refine ⟨hfound, hopen, fun hmultiple => ?_⟩
  unfold sessionValidateSecureChannel at hchannel
  split at hchannel
  · cases hchannel
  · rename_i hne
    exact not_not.mp (fun h => hne ⟨hmultiple, h⟩)

structure Gated (b : Build) (req : Request) (s : Scope W A) (service : Service)
    (active : Option (Nat × Session)) : Prop where
  row : ∃ row, findServiceDescriptor b req.typeId = some row ∧ row.service = service
  isOpen : req.typeId = openSecureChannelRequestId ∨ s.channel.isOpen = true
  bound : active.isSome = !service.sessionless
  usable : ∀ i session, active = some (i, session) →
    Usable b s.shared.sessions s.channel.channelId i session

theorem dispatchGate_eq_ok {s : Scope W A} {service : Service} {active : Option (Nat × Session)}
    (h : dispatchGate b req s = .ok (service, active)) : Gated b req s service active := by
  unfold dispatchGate at h
  split at h
  · rename_i row hrow
    obtain ⟨hsession, -⟩ := findServiceDescriptor_row hrow
    simp only [guard_eq_ok] at h
    obtain ⟨hopen, h⟩ := h
    have hopen : req.typeId = openSecureChannelRequestId ∨ s.channel.isOpen = true := by
      by_contra hne
      push Not at hne
      exact hopen ⟨hne.1, by simpa using hne.2⟩
    split at h
    · rename_i hbound
      simp only [guard_eq_ok] at h
      obtain ⟨-, h⟩ := h
      split at h
      · rename_i i hfind
        simp only [bind_eq_ok, guard_eq_ok, pure_eq_ok, Prod.mk.injEq] at h
        obtain ⟨⟨⟩, hchannel, -, rfl, rfl⟩ := h
        obtain ⟨session, hfound, hsopen, -⟩ := sessionFindByToken_eq_some hfind
        rw [List.getD_eq_getElem?_getD, hfound, Option.getD_some] at hchannel
        refine ⟨⟨row, hrow, rfl⟩, hopen, by rw [← hsession, hbound]; rfl, ?_⟩
        rintro j session' heq
        obtain ⟨rfl, rfl⟩ := Prod.mk.inj (Option.some.inj heq)
        rw [List.getD_eq_getElem?_getD, hfound, Option.getD_some]
        exact usable_of_validated hfound hsopen hchannel
      · cases h
    · rename_i hbound
      obtain ⟨rfl, rfl⟩ := Prod.mk.inj (pure_eq_ok.mp h)
      exact ⟨⟨row, hrow, rfl⟩, hopen, by rw [← hsession]; simpa using hbound, nofun⟩
  · cases h

end Gate

section Answer

theorem bind_response {α : Type} {m : ScopeM W A cap α} {answer : α → ScopeM W A cap Answer}
    {s t : HandlerState (Scope W A) W cap} {r : Answer}
    (hanswer : ∀ a u, (answer a).run.run u ≠ (.ok r, t)) :
    (m >>= answer).run.run s ≠ (.ok r, t) := by
  intro h
  obtain ⟨a, u, -, hu⟩ := bind_returns.mp h
  exact hanswer a u hu

theorem handler_activated {service : Service} {active : Option (Nat × Session)}
    {s t : HandlerState (Scope W A) W cap} {i : Nat}
    (h : (handler b c app req service active).run.run s = (.ok (.activated i), t)) :
    ∃ session, Usable b s.state.shared.sessions s.state.channel.channelId i session := by
  simp only [handler, bind_returns, state_returns] at h
  obtain ⟨st, u, ⟨rfl, rfl⟩, h⟩ := h
  cases service with
  | activateSession =>
    obtain ⟨r, u, hactivate, h⟩ := bind_returns.mp h
    cases r with
    | none => cases h
    | some j =>
      obtain ⟨hj, -⟩ := pure_returns.mp h
      cases hj
      obtain ⟨v, hv, -⟩ := zoom_returns.mp hactivate
      obtain ⟨session, hfound, hopen, hchannel⟩ := handleActivateSession_returns hv
      exact ⟨session, usable_of_validated hfound hopen hchannel⟩
  | closeSecureChannel => cases h
  | _ => exact absurd h (bind_response (fun _ _ hu => by cases hu))

end Answer

section

variable {s : Scope W A} {w : W} {service : Service} {active : Option (Nat × Session)}
    (hgate : dispatchGate b req s = .ok (service, active)) (hhandled : service ≠ .closeSecureChannel)

include hgate hhandled

theorem serviceDispatch_end : ((serviceDispatch b c app req s w : Dispatched W A cap).scope,
        (serviceDispatch b c app req s w : Dispatched W A cap).world) =
      ((handler b c app req service active : ScopeM W A cap Answer).execute req.body s w).2 := by
  unfold serviceDispatch
  rw [hgate]
  split
  · rename_i heq
    cases heq
  · rename_i heq
    obtain ⟨rfl, -⟩ := Prod.mk.inj (Except.ok.inj heq)
    exact absurd rfl hhandled
  · rename_i heq
    obtain ⟨rfl, rfl⟩ := Prod.mk.inj (Except.ok.inj heq)
    dsimp only
    split
    · rename_i hexec
      rw [hexec]
    · rename_i hexec
      rw [hexec]

theorem serviceDispatch_scope : (serviceDispatch b c app req s w : Dispatched W A cap).scope =
      ((handler b c app req service active : ScopeM W A cap Answer).execute req.body s w).2.1 :=
  congrArg Prod.fst (serviceDispatch_end hgate hhandled)

end

variable (cap b c app) in
theorem serviceDispatch_handled (req : Request) (s : Scope W A) (w : W) :
    (serviceDispatch b c app req s w : Dispatched W A cap).scope = s ∨
      ∃ service active, dispatchGate b req s = .ok (service, active) ∧
        (serviceDispatch b c app req s w : Dispatched W A cap).scope =
          ((handler b c app req service active : ScopeM W A cap Answer).execute req.body s w).2.1 := by
  cases hgate : dispatchGate b req s with
  | error e => exact .inl (by rw [serviceDispatch, hgate])
  | ok p =>
    obtain ⟨service, active⟩ := p
    by_cases hclose : service = .closeSecureChannel
    · subst hclose
      exact .inl (by rw [serviceDispatch, hgate])
    · exact .inr ⟨service, active, rfl, serviceDispatch_scope hgate hclose⟩

/-- What `mu_service_dispatch` does: the gate refuses, nothing runs, or a handler runs within its
scope, for a usable session if for any. -/
theorem serviceDispatch_cases {s : Scope W A} {w : W} {d : Dispatched W A cap}
    (hd : serviceDispatch b c app req s w = d) : (d.run = none ∧ d.scope = s) ∨
    ∃ service active run, Gated b req s service active ∧ d.run = some run ∧ run.service = service ∧
      run.policy = s.channel.policy ∧ run.clientCert = s.shared.channelClientCert ∧
      ScopeStep b req service ((active.map (·.2.sessionId)).getD 0) s d.scope ∧
      ∀ session, run.session = some session → ∃ i,
          Usable b s.shared.sessions s.channel.channelId i session := by
  subst hd
  unfold serviceDispatch
  split
  · exact .inl ⟨rfl, rfl⟩
  · exact .inl ⟨rfl, rfl⟩
  · rename_i service active hne hgate
    have hgated := dispatchGate_eq_ok hgate
    have heffect : Effect (ScopeStep b req service ((active.map (·.2.sessionId)).getD 0))
        (handler b c app req service active : ScopeM W A cap Answer) := handler_effect service active
    have hstep := heffect.execute req.body s w
    right
    dsimp only
    split
    · rename_i e s' w' hexec
      rw [hexec] at hstep
      exact ⟨service, active, _, hgated, rfl, rfl, rfl, rfl, hstep, nofun⟩
    · rename_i answer bs s' w' hexec
      rw [hexec] at hstep
      refine ⟨service, active, _, hgated, rfl, rfl, rfl, rfl, hstep, fun session hsession => ?_⟩
      obtain ⟨t, hrun, -, -⟩ := execute_eq_ok hexec
      cases answer with
      | activated i =>
        obtain ⟨session', husable⟩ := handler_activated hrun
        have hfound : s.shared.sessions[i]? = some session := hsession
        obtain rfl : session' = session := Option.some.inj (husable.found.symm.trans hfound)
        exact ⟨i, husable⟩
      | response | parked =>
        obtain ⟨⟨i, session'⟩, hactive, rfl⟩ := Option.map_eq_some_iff.mp hsession
        exact ⟨i, hgated.usable i session' hactive⟩

section Answers

def Service.answers : Service → Bool
  | .publish | .closeSecureChannel => false
  | _ => true

theorem handler_not_parked {service : Service} {active : Option (Nat × Session)}
    {s t : HandlerState (Scope W A) W cap} (h : service.answers = true) :
    (handler b c app req service active).run.run s ≠ (.ok .parked, t) := by
  refine bind_response (fun st u => ?_)
  cases service with
  | publish | closeSecureChannel => cases h
  | activateSession =>
    refine bind_response (fun r u hu => ?_)
    cases r <;> cases hu
  | _ => exact bind_response (fun _ _ hu => by cases hu)

end Answers

theorem findServiceDescriptor_open (b : Build) :
    findServiceDescriptor b openSecureChannelRequestId =
      some ⟨.openSecureChannel, 446, false, true⟩ := by
  unfold findServiceDescriptor supportedServices
  cases b.serviceDiscovery <;> simp [openSecureChannelRequestId]

theorem serviceDispatch_openChannel (req : Request) (htype : req.typeId = openSecureChannelRequestId)
    (s : Scope W A) (w : W) : (serviceDispatch b c app req s w : Dispatched W A cap).scope.channel =
      ((handleOpenSecureChannel b c req.opnPolicy req.opnClientCert : ChannelM W cap Unit).run.run
        ⟨.init req.body, .init, s.channel, w⟩).2.state := by
  have hgate : dispatchGate b req s = .ok (.openSecureChannel, none) := by
    simp only [dispatchGate, htype, findServiceDescriptor_open]
    rfl
  have hstate :
    ((handler b c app req .openSecureChannel none : ScopeM W A cap Answer).execute req.body s w).2.1 =
      s.setChannel
      ((handleOpenSecureChannel b c req.opnPolicy req.opnClientCert : ChannelM W cap Unit).run.run
        ⟨.init req.body, .init, s.channel, w⟩).2.state := by
    rw [execute_state, handler, run_state_bind, run_bind_pure]
    rfl
  unfold serviceDispatch
  rw [hgate]
  dsimp only
  generalize (handler b c app req .openSecureChannel none : ScopeM W A cap Answer).execute req.body s w =
    p at hstate
  obtain ⟨e | ⟨answer, bs⟩, s', w'⟩ := p
  all_goals
    obtain rfl : s' = _ := hstate
    rfl

theorem serviceDispatch_open (req : Request) (htype : req.typeId = openSecureChannelRequestId)
    (s : Scope W A) (w : W) :
    if opensChannel b c s.channel req.opnPolicy req.body w then
      Opened b.security req.opnPolicy s.channel
        (serviceDispatch b c app req s w : Dispatched W A cap).scope.channel
    else (serviceDispatch b c app req s w : Dispatched W A cap).scope.channel = s.channel := by
  rw [serviceDispatch_openChannel req htype]
  exact handleOpenSecureChannel_opens _ _ _ _ _ _

theorem serviceDispatch_keepsKeys {cr : CryptoAdapter W} (hcr : c.cryptoAdapter = some cr)
    (req : Request) (htype : req.typeId = openSecureChannelRequestId) (s : Scope W A) (w : W) :
    KeepsKeys cr s.channel (serviceDispatch b c app req s w : Dispatched W A cap).scope.channel := by
  rw [serviceDispatch_openChannel req htype]
  exact handleOpenSecureChannel_keepsKeys hcr _ _ ⟨.init req.body, .init, s.channel, w⟩

theorem serviceDispatch_opn_length {s : Scope W A} {w : W} {bs : Encoded cap}
    (htype : req.typeId = openSecureChannelRequestId)
    (h : (serviceDispatch b c app req s w).result = .ok bs) : bs.1.length ≤ opnAnswerMax := by
  unfold serviceDispatch at h
  split at h
  · cases h
  · obtain rfl := (Except.ok.inj h).symm
    exact Nat.zero_le _
  · rename_i service active hne hgate
    obtain ⟨row, hrow, rfl⟩ := (dispatchGate_eq_ok hgate).row
    have hservice := (findServiceDescriptor_row hrow).2.mpr htype
    rw [hservice] at h
    split at h
    · cases h
    · rename_i answer out s' w' hexec
      obtain ⟨t, hrun, hbytes, -⟩ := execute_eq_ok hexec
      have hwrites : WritesAtMost opnAnswerMax (handler b c app req .openSecureChannel active :
          ScopeM W A cap Answer) := by
        refine .silent_bind state_writer (fun st => .bind (k := 0) ?_ (fun _ => .silent (fun _ => rfl)))
        exact fun s => handleOpenSecureChannel_writes _ _ ⟨s.reader, s.writer, s.state.channel, s.world⟩
      have hlen := hwrites ⟨.init req.body, .init, s, w⟩
      simp only [hrun] at hlen
      obtain rfl := (Except.ok.inj h).symm
      rw [hbytes] at hlen
      cases answer with
      | parked => exact Nat.zero_le _
      | response | activated i => simpa [Writer.init, Answer.response?] using hlen

end MicroOpcua
