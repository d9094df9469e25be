import MicroOpcua.Core.Script

namespace MicroOpcua

open HandlerM Lib.StateRun

variable {W : Type} {cap : Nat} {b : Build} {c : Config W} {conn : ConnView}

section Failure

/-- What a CreateSession request has got before its slot is taken: the decoded request, nonce, slot and
identifiers, and the world after that. -/
def createSessionAdmission (b : Build) (c : Config W) (conn : ConnView) (sessions : List Session)
    (request : Bytes) (w : W) :
    Option ((RequestHeader × CreateSessionRequest) ×
      (Block serverNonceLength × Nat × UInt32 × UInt32) × W) :=
  match readCreateSession.decode request with
  | .error _ => none
  | .ok req =>
    match createSessionCertCheck b conn req.2.clientCert with
    | .error _ => none
    | .ok () =>
      match (allocateSession c.platform sessions).run.run w with
      | (.ok a, w') => some (req, a, w')
      | (.error _, _) => none

def FailsCleanly (b : Build) (c : Config W) (conn : ConnView) (cap : Nat) (sessions : List Session)
    (request : Bytes) (w : W) : Prop :=
  ∀ e, ((handleCreateSession b c conn : SessionM W cap Unit).execute request sessions w).1 = .error e →
    ((handleCreateSession b c conn : SessionM W cap Unit).execute request sessions w).2.1 = sessions

theorem execute_error {σ α : Type} {m : HandlerM σ W cap α} {request : Bytes} {st : σ}
    {w : W} {e : Fault} : (m.execute request st w).1 = .error e ↔
      (m.run.run ⟨.init request, .init, st, w⟩).1 = .error e := by
  unfold HandlerM.execute
  split <;> rename_i hrun <;> simp [hrun]

theorem CreatedAt.ne {slot : Nat} {s t : List Session} {old : Session} (found : s[slot]? = some old)
    (free : old.open = false) (h : CreatedAt slot s t) : t ≠ s := by
  obtain ⟨session, hstate, -, rfl⟩ := h
  intro hsame
  obtain ⟨hlt, -⟩ := List.getElem?_eq_some_iff.mp found
  have hsession : (s.set slot session)[slot]? = some session := List.getElem?_set_self hlt
  rw [hsame, found] at hsession
  obtain rfl := Option.some.inj hsession
  simp [Session.open, hstate] at free

theorem failsCleanly_admitted {sessions : List Session} {request : Bytes} {w w' : W}
    {req : RequestHeader × CreateSessionRequest} {a : Block serverNonceLength × Nat × UInt32 × UInt32}
    (h : createSessionAdmission b c conn sessions request w = some (req, a, w')) :
    FailsCleanly b c conn cap sessions request w ↔
      CreateResponseFits b c conn req.2 a.2.2.1 a.2.2.2 cap w' := by
  obtain ⟨nonce, slot, id, token⟩ := a
  unfold createSessionAdmission at h
  split at h
  · cases h
  rename_i req' hdecode
  split at h
  · cases h
  rename_i hcert
  split at h
  swap
  · cases h
  rename_i a' w'' hallocate
  obtain ⟨rfl, rfl, rfl⟩ : req' = req ∧ a' = (nonce, slot, id, token) ∧ w'' = w' := by simpa using h
  obtain ⟨r, hdecode⟩ := ReadM.decode_eq_ok.mp hdecode
  obtain ⟨⟨old, found, free⟩, hfresh⟩ := allocateSession_returns hallocate
  obtain ⟨session, hcreate, hstate, hid, htoken⟩ :
      ∃ session, createInSlot b slot req'.2.timeoutBits id token conn sessions =
        (.ok (), sessions.set slot session) ∧ session.state = .created ∧ session.sessionId = id ∧
        session.authToken = token :=
    createInSlot_free found free req'.2.timeoutBits id token
  unfold FailsCleanly
  simp only [execute_error, execute_state,
    handleCreateSession_run (s := ⟨.init request, .init, sessions, w⟩) hdecode hcert hallocate hcreate]
  generalize hu : (⟨r, .init, sessions.set slot session, w''⟩ : HandlerState (List Session) W cap) = u
  have hanswers : (∃ t, (respondCreated b c conn req' nonce slot id token).run.run u = (.ok (), t)) ↔
      CreateResponseFits b c conn req'.2 id token cap w'' := by
    rw [(respondCreated_answers req' nonce slot id token u (by rw [← hu])).1, ← hu]
  have hchanged : ((respondCreated b c conn req' nonce slot id token).run.run u).2.state ≠ sessions := by
    have hnonced :
        Nonced slot u.state ((respondCreated b c conn req' nonce slot id token).run.run u).2.state :=
      respondCreated_nonced req' nonce slot id token u
    have hcreated : CreatedAt slot sessions u.state :=
      ⟨session, hstate, hfresh session hid htoken, by rw [← hu]⟩
    exact (hcreated.nonced found hnonced).ne found free
  rw [← hanswers]
  generalize (respondCreated b c conn req' nonce slot id token).run.run u = q at hchanged
  obtain ⟨e | ⟨⟩, t⟩ := q
  · refine ⟨fun h => absurd (h e rfl) hchanged, ?_⟩
    rintro ⟨t', ht'⟩
    cases ht'
  · simp

/-- A CreateSession that fails leaves the session table alone exactly if it did not get as far as a slot,
or its response fits. -/
theorem create_session_failure_iff (b : Build) (c : Config W) (conn : ConnView) (cap : Nat)
    (sessions : List Session) (request : Bytes) (w : W) : FailsCleanly b c conn cap sessions request w ↔
      ∀ req a w', createSessionAdmission b c conn sessions request w = some (req, a, w') →
        CreateResponseFits b c conn req.2 a.2.2.1 a.2.2.2 cap w' := by
  cases hadmission : createSessionAdmission b c conn sessions request w with
  | some p =>
    obtain ⟨req, a, w'⟩ := p
    rw [failsCleanly_admitted hadmission]
    constructor
    · rintro hfits _ _ _ heq
      obtain ⟨rfl, rfl, rfl⟩ : req = _ ∧ a = _ ∧ w' = _ := by simpa using heq
      exact hfits
    · exact fun h => h req a w' rfl
  | none =>
    refine ⟨fun _ => nofun, fun _ => ?_⟩
    unfold createSessionAdmission at hadmission
    unfold FailsCleanly
    simp only [execute_error, execute_state, handleCreateSession_eq, run_decode_bind]
    have hdecode : (readCreateSession.run.run (.init request)).1 = readCreateSession.decode request :=
      rfl
    rw [← hdecode] at hadmission
    rcases hread : readCreateSession.run.run (.init request) with ⟨e | req, r⟩
    · simp
    simp only [hread] at hadmission
    simp only [run_checked_bind]
    rcases hcert : createSessionCertCheck b conn req.2.clientCert with e | ⟨⟩
    · simp
    simp only [hcert] at hadmission
    simp only [run_state_bind, run_adapterChecked_bind]
    rcases hallocate : (allocateSession c.platform sessions).run.run w with ⟨e | a, w'⟩
    · simp
    · rw [hallocate] at hadmission
      cases hadmission

section Certificate

open Script

def certifiedConfig : Config Script :=
  config 6 8192 (some { crypto with getOwnCertificate := pure (List.replicate 1400 83) })

def plainView : ConnView :=
  ⟨⟨0, 1⟩, { SecureChannel.init with channelId := 1, tokenId := 1, isOpen := true }, []⟩

/-- The response, with the certificate in it and in each of its five endpoints, does not fit a chunk of
8192 bytes, and a slot is lost. -/
theorem create_session_loses_slot :
    ¬ FailsCleanly build certifiedConfig plainView 8168 (List.replicate 2 .init)
      ((createRequest []).drop 4) idle := by
  have hadmitted : (createSessionAdmission build certifiedConfig plainView (List.replicate 2 .init)
      ((createRequest []).drop 4) idle).isSome = true := by decide +kernel
  obtain ⟨⟨req, a, w⟩, hadmitted⟩ := Option.isSome_iff_exists.mp hadmitted
  rw [failsCleanly_admitted hadmitted]
  intro hfits
  have hsize : 8168 < ((discoveryGetEndpoints build (some (List.replicate 1400 83))).map
      (endpointSize build certifiedConfig)).sum := by decide +kernel
  have hroom := hfits.room
  have hcertificate (w : Script) :
    ((ownCertificate certifiedConfig).run w).1 = some (List.replicate 1400 83) := rfl
  simp only [createResponseSize, hcertificate] at hroom
  omega

end Certificate

end Failure

end MicroOpcua
