import MicroOpcua.Core.Script

namespace MicroOpcua

open Lib.StateRun

variable {W A : Type} {cap : Nat} {b : Build} {c : Config W} {app : Application W A}

section History

variable (b c app)

structure CreationStep (s t : Server W A) (i : Nat) (session : Session) : Prop where
  step : Step b c app s t
  request : ∃ conn ∈ s.conns, Nonempty (SessionRequest b c (s.ctx conn) .createSession t.shared.sessions)
  free : ∃ old, s.shared.sessions[i]? = some old ∧ old.state = .closed
  created : session.state = .created
  found : t.shared.sessions[i]? = some session

structure ActivationStep (s t : Server W A) (i : Nat) (session : Session) : Prop where
  step : Step b c app s t
  request : ∃ conn ∈ s.conns, ∃ (chunk : Inbound) (typeId : UInt32) (active : Option (Nat × Session))
    (req : ActivateSessionRequest) (w : W),
    dispatchGate b (chunk.request conn typeId) ((s.ctx conn).dispatchScope b chunk) =
      .ok (.activateSession, active) ∧ (readActivateSession b).decode chunk.body = .ok req ∧
        ((activateSession b c ((chunk.request conn typeId).view ((s.ctx conn).dispatchScope b chunk))
          s.shared.sessions req).run.run w).1 = .ok (i, session)
  found : t.shared.sessions[i]? = some session

inductive CreatedSince (i : Nat) (session : Session) : Server W A → Prop where
  | created {s t} (visited : Visited b c app s) (h : CreationStep b c app s t i session) :
    CreatedSince i session t
  | kept {s t} (h : CreatedSince i session s) (step : Step b c app s t)
      (found : t.shared.sessions[i]? = some session) : CreatedSince i session t

inductive ActivatedSince (i : Nat) (session : Session) : Server W A → Prop where
  | activated {s t old} (h : CreatedSince b c app i old s)
    (same : session = { old with state := .activated })
      (activation : ActivationStep b c app s t i session) : ActivatedSince i session t
  | kept {s t} (h : ActivatedSince i session s) (step : Step b c app s t)
      (found : t.shared.sessions[i]? = some session) : ActivatedSince i session t

structure Recorded (s : Server W A) : Prop where
  created : ∀ i session, s.shared.sessions[i]? = some session → session.state = .created →
    CreatedSince b c app i session s
  activated : ∀ i session, s.shared.sessions[i]? = some session → session.state = .activated →
    ActivatedSince b c app i session s

variable {b c app} {s t : Server W A}

theorem Recorded.kept (h : Recorded b c app s) (step : Step b c app s t) {i : Nat} {session : Session}
    (before : s.shared.sessions[i]? = some session) (found : t.shared.sessions[i]? = some session) :
    (session.state = .created → CreatedSince b c app i session t) ∧
      (session.state = .activated → ActivatedSince b c app i session t) :=
  ⟨fun hstate => .kept (h.created i session before hstate) step found,
    fun hstate => .kept (h.activated i session before hstate) step found⟩

theorem Recorded.set (h : Recorded b c app s) (step : Step b c app s t) {j : Nat} {new : Session}
    (heq : t.shared.sessions = s.shared.sessions.set j new)
    (hnew : t.shared.sessions[j]? = some new → (new.state = .created → CreatedSince b c app j new t) ∧
      (new.state = .activated → ActivatedSince b c app j new t)) : Recorded b c app t := by
  have hentry (i : Nat) (session : Session) (found : t.shared.sessions[i]? = some session) :
      (session.state = .created → CreatedSince b c app i session t) ∧
        (session.state = .activated → ActivatedSince b c app i session t) := by
    by_cases hij : j = i
    · subst hij
      have hsession : session = new := by
        rw [heq] at found
        obtain ⟨-, rfl⟩ : _ ∧ new = session := by simpa [List.getElem?_set] using found
        rfl
      subst hsession
      exact hnew found
    · refine h.kept step ?_ found
      rwa [heq, List.getElem?_set_ne hij] at found
  exact ⟨fun i session found => (hentry i session found).1, fun i session found =>
    (hentry i session found).2⟩

theorem Recorded.of_closed (h : ∀ session ∈ t.shared.sessions, session.state = .closed) :
    Recorded b c app t := by
  refine ⟨fun i session found hstate => ?_, fun i session found hstate => ?_⟩
  · cases hstate.symm.trans (h session (List.mem_of_getElem? found))
  · cases hstate.symm.trans (h session (List.mem_of_getElem? found))

theorem Recorded.activate (h : Recorded b c app s) {i : Nat} {session : Session}
    (hstep : ActivationStep b c app s t i session) : ActivatedSince b c app i session t := by
  obtain ⟨conn, -, chunk, typeId, active, req, w, -, -, hpassed⟩ := hstep.request
  obtain ⟨old, found, hopen, -, rfl⟩ := activateSession_returns (returns_of_fst hpassed)
  cases hstate : old.state with
  | closed => simp [Session.open, hstate] at hopen
  | created => exact .activated (h.created i old found hstate) rfl hstep
  | activated =>
    have hsame : old = { old with state := .activated } := by rw [← hstate]
    rw [← hsame]
    refine .kept (h.activated i old found hstate) hstep.step ?_
    rw [hsame]
    exact hstep.found

theorem Recorded.step (h : Recorded b c app s) (visited : Visited b c app s) (step : Step b c app s t) :
    Recorded b c app t := by
  cases step.sessions with
  | same hsame =>
    have hentry (i : Nat) (session : Session) (found : t.shared.sessions[i]? = some session) :=
      h.kept step (hsame ▸ found) found
    exact ⟨fun i session found => (hentry i session found).1, fun i session found =>
      (hentry i session found).2⟩
  | reset hreset =>
    apply Recorded.of_closed
    intro session hmem
    rw [hreset] at hmem
    obtain ⟨-, -, rfl⟩ := List.mem_map.mp hmem
    rfl
  | request conn service mem hrequest =>
    obtain ⟨r⟩ := hrequest
    obtain ⟨chunk, typeId, active, type, gate, change⟩ := r
    generalize hnew : t.shared.sessions = new at change
    cases change with
    | same =>
      have hentry (i : Nat) (session : Session) (found : t.shared.sessions[i]? = some session) :=
        h.kept step (hnew ▸ found) found
      exact ⟨fun i session found => (hentry i session found).1, fun i session found =>
        (hentry i session found).2⟩
    | created i old session found free state fresh =>
      refine h.set step hnew (fun hfound =>
        ⟨fun _ => ?_, fun hstate => by cases state.symm.trans hstate⟩)
      have hclosed : old.state = .closed := by simpa [Session.open] using free
      have hrequest : SessionRequest b c (s.ctx conn) .createSession t.shared.sessions :=
        ⟨chunk, typeId, active, type, gate, hnew ▸ .created i old session found free state fresh⟩
      exact .created visited ⟨step, ⟨conn, mem, ⟨hrequest⟩⟩, ⟨old, found, hclosed⟩, state, hfound⟩
    | activated i session req w decoded passed =>
      obtain ⟨old, -, -, -, rfl⟩ := activateSession_returns (returns_of_fst passed)
      refine h.set step hnew (fun hfound => ⟨by rintro ⟨⟩, fun _ => ?_⟩)
      exact h.activate ⟨step, ⟨conn, mem, chunk, typeId, active, req, w, gate, decoded, passed⟩, hfound⟩
    | closed i old found used => exact h.set step hnew (fun _ => ⟨by rintro ⟨⟩, by rintro ⟨⟩⟩)

/-- Every session that is open in a run was created in it, and activated after that if it is
activated. -/
theorem Visited.recorded (h : Visited b c app s) : Recorded b c app s := by
  obtain ⟨a, w, hsteps⟩ := h.steps
  induction hsteps with
  | refl => exact .of_closed (fun session hmem => by rw [List.eq_of_mem_replicate hmem]; rfl)
  | tail hsteps hlast ih =>
    have hvisited : Visited b c app _ := ⟨h.valid, a, w, hsteps⟩
    exact (ih hvisited).step hvisited hlast

end History

section Gate

variable {req : Request} {s : Scope W A}

theorem dispatchGate_session {row : ServiceRow} {service : Service} {active : Option (Nat × Session)}
    (hrow : findServiceDescriptor b req.typeId = some row) (hbound : row.requiresSession = true)
    (h : dispatchGate b req s = .ok (service, active)) :
    s.channel.isOpen = true ∧ service = row.service ∧ readAuthTokenFromRequest req.body ≠ 0 ∧
      ∃ i session, active = some (i, session) ∧ s.shared.sessions[i]? = some session ∧
        session.state = .activated ∧ session.authToken = readAuthTokenFromRequest req.body := by
  have hgated := dispatchGate_eq_ok h
  obtain ⟨hsession, hopn⟩ := findServiceDescriptor_row hrow
  have hopen : s.channel.isOpen = true := by
    refine hgated.isOpen.resolve_left (fun htype => ?_)
    rw [hopn.mpr htype] at hsession
    cases hsession.symm.trans hbound
  simp only [dispatchGate, hrow, hbound, if_true, guard_eq_ok] at h
  obtain ⟨-, hzero, h⟩ := h
  split at h
  · rename_i i hfind
    simp only [bind_eq_ok, guard_eq_ok, pure_eq_ok, Prod.mk.injEq] at h
    obtain ⟨⟨⟩, -, hactivated, rfl, rfl⟩ := h
    obtain ⟨session, hfound, -, htoken⟩ := sessionFindByToken_eq_some hfind
    rw [List.getD_eq_getElem?_getD, hfound, Option.getD_some] at hactivated
    refine ⟨hopen, rfl, hzero, i, session, ?_, hfound, not_not.mp hactivated, htoken⟩
    rw [List.getD_eq_getElem?_getD, hfound, Option.getD_some]
  · cases h

end Gate

section Header

variable {body : Bytes}

theorem requestHeaderDecode_token {header : RequestHeader}
    (h : requestHeaderDecode.decode body = .ok header) :
    readNodeId.decode body = .ok header.authenticationToken := by
  obtain ⟨r, hrun⟩ := ReadM.decode_eq_ok.mp h
  simp only [requestHeaderDecode, bind_returns, pure_returns] at hrun
  obtain ⟨token, u, htoken, timestamp, _, -, handle, _, -, diagnostics, _, -, entry, _, -, hint, _,
      -, _, _, -, rfl, -⟩ :=
    hrun
  exact ReadM.decode_eq_ok.mpr ⟨u, htoken⟩

theorem NodeId.ns0Numeric?_eq_some {id : NodeId} {n : UInt32} (h : id.ns0Numeric? = some n) :
    id = .ns0 n := by
  unfold NodeId.ns0Numeric? at h
  split at h
  · rw [Option.some.inj h]
    rfl
  · cases h

theorem readAuthTokenFromRequest_ne_zero (h : readAuthTokenFromRequest body ≠ 0) :
    readNodeId.decode body = .ok (.ns0 (readAuthTokenFromRequest body)) := by
  unfold readAuthTokenFromRequest at h ⊢
  split at h
  · rename_i token hdecode
    cases htoken : token.ns0Numeric? with
    | none => simp [htoken] at h
    | some n => rw [hdecode, Option.getD_some, NodeId.ns0Numeric?_eq_some htoken]
  · exact absurd rfl h

end Header

/-- The session `session` of slot `i` is the one a request on `conn` with this body authenticates for. -/
structure Authenticated (b : Build) (c : Config W) (app : Application W A) (s : Server W A)
    (conn : Connection) (body : Bytes) (i : Nat) (session : Session) : Prop where
  found : s.shared.sessions[i]? = some session
  activated : session.state = .activated
  since : ActivatedSince b c app i session s
  channel : conn.channel.isOpen = true
  nonzero : session.authToken ≠ 0
  token : readNodeId.decode body = .ok (.ns0 session.authToken)
  header : ∀ header, requestHeaderDecode.decode body = .ok header →
    header.authenticationToken = .ns0 session.authToken

/-- In every run a handler of a session-bound service runs only for an activated session that the request
authenticates for; and the two decoders of the authentication token agree. -/
theorem session_handlers_authenticated (b : Build) (c : Config W) (app : Application W A) :
    (∀ (s : Server W A), Visited b c app s →
      ∀ conn ∈ s.conns, ∀ (chunk : Inbound) (typeId : UInt32) (row : ServiceRow),
      findServiceDescriptor b typeId = some row → row.requiresSession = true →
      ∀ (cap : Nat) (run : HandlerRun),
        (serviceDispatch b c app (chunk.request conn typeId)
          ((s.ctx conn).dispatchScope b chunk) s.world : Dispatched W A cap).run = some run →
            ∃ i session,
          dispatchGate b (chunk.request conn typeId) ((s.ctx conn).dispatchScope b chunk) =
            .ok (row.service, some (i, session)) ∧ Authenticated b c app s conn chunk.body i session) ∧
    ∀ (body : Bytes) (header : RequestHeader), requestHeaderDecode.decode body = .ok header →
      readAuthTokenFromRequest body = header.authenticationToken.ns0Numeric?.getD 0 := by
  refine ⟨?_, ?_⟩
  · intro s hvisited conn hconn chunk typeId row hrow hbound cap run hrun
    cases hgate : dispatchGate b (chunk.request conn typeId) ((s.ctx conn).dispatchScope b chunk) with
    | error e =>
      simp only [serviceDispatch, hgate] at hrun
      cases hrun
    | ok p =>
      obtain ⟨service, active⟩ := p
      obtain ⟨hopen, rfl, hzero, i, session, rfl, hfound, hactivated, htoken⟩ :=
        dispatchGate_session hrow hbound hgate
      have hpeek := readAuthTokenFromRequest_ne_zero hzero
      rw [← htoken] at hpeek
      refine ⟨i, session, rfl, hfound, hactivated,
        hvisited.recorded.activated i session hfound hactivated, hopen, ?_, hpeek,
        fun header hheader => ?_⟩
      · rw [htoken]
        exact hzero
      · exact Except.ok.inj ((requestHeaderDecode_token hheader).symm.trans hpeek)
  · intro body header hheader
    rw [readAuthTokenFromRequest, requestHeaderDecode_token hheader]

section Active

open Script

def activeSession : Server Script Unit :=
  play (config 6 8192 none)
    (oneChannel 10 ++
      [deliver 10 (msg 2 (createRequest [])), deliver 10 (msg 3 (activateRequest sessionToken))])

def subscribeChunk : Inbound :=
  ⟨false, 1, 1, 4, 4, none, none, .ns0 787, (subscribeRequest sessionToken).drop 4⟩

def subscribeRuns (conn : Connection) : Bool :=
  (serviceDispatch build (config 6 8192 none) application (subscribeChunk.request conn 787)
    ((activeSession.ctx conn).dispatchScope build subscribeChunk) activeSession.world :
    Dispatched Script Unit 8192).run.isSome

theorem activeSession_runs : activeSession.conns.any subscribeRuns = true := by
  decide +kernel

theorem session_handlers_authenticated_subscribe : ∃ conn ∈ activeSession.conns, ∃ i session,
      Authenticated build (config 6 8192 none) application activeSession conn
      subscribeChunk.body i session := by
  obtain ⟨conn, hmem, hrun⟩ := List.any_eq_true.mp activeSession_runs
  obtain ⟨run, hrun⟩ := Option.isSome_iff_exists.mp hrun
  have hvisited : Visited build (config 6 8192 none) application activeSession :=
    (play_reachable (by decide) _).visited
  obtain ⟨i, session, -, h⟩ :=
    (session_handlers_authenticated build (config 6 8192 none) application).1 activeSession hvisited conn
      hmem subscribeChunk 787 ⟨.createSubscription, 787, true, true⟩ rfl rfl 8192 run hrun
  exact ⟨conn, hmem, i, session, h⟩

end Active

section Identifiers

variable {s t : Server W A}

/-- In every run the open sessions have different ids and different tokens, none of them 0; and in a
table with a closed session both generators succeed whenever the entropy adapter does. -/
theorem session_identifiers_unique (b : Build) (c : Config W) (app : Application W A) :
    (∀ s : Server W A, Visited b c app s → UniqueIdentifiers s.shared.sessions) ∧
      ∀ (p : Platform W) (sessions : List Session), sessions.length < 2 ^ 32 →
        (∃ session ∈ sessions, session.state = .closed) → ∀ (w w' : W) (random : Block 4),
          (p.generateRandom 4).run.run w = (.ok random, w') →
            (∃ id, (generateSessionId p sessions).run.run w = (.ok id, w')) ∧
              ∃ token, (generateAuthenticationToken p sessions).run.run w = (.ok token, w') := by
  refine ⟨fun s hs => hs.wellFormed.identifiers, fun p sessions hlen hfree w w' random hrandom => ?_⟩
  have hfree : ∃ session ∈ sessions, session.open = false := by
    obtain ⟨session, hmem, hclosed⟩ := hfree
    exact ⟨session, hmem, by simp [Session.open, hclosed]⟩
  refine ⟨?_, ?_⟩
  · exact generateIdentifier_succeeds (fun base => sessionIdCandidate_isSome base hlen hfree) hrandom
  · exact generateIdentifier_succeeds (fun base => authTokenCandidate_isSome base hlen hfree) hrandom

end Identifiers

end MicroOpcua
