import MicroOpcua.Services.SessionLaws

namespace MicroOpcua

open HandlerM Lib.StateRun Lib.Table

variable {W : Type} {cap : Nat} {b : Build} {c : Config W} {conn : ConnView} {body : Bytes}

structure FreshIn (sessions : List Session) (session : Session) : Prop where
  id : sessionIdActive sessions session.sessionId = false
  token : authenticationTokenActive sessions session.authToken = false
  nonzero : sessions.length < 2 ^ 31 → session.sessionId ≠ 0 ∧ session.authToken ≠ 0

inductive SessionChange (b : Build) (c : Config W) (conn : ConnView) (body : Bytes) :
    Service → List Session → List Session → Prop where
  | same {service s} : SessionChange b c conn body service s s
  | created {s} (i : Nat) (old session : Session) (found : s[i]? = some old) (free : old.open = false)
      (state : session.state = .created) (fresh : FreshIn s session) :
      SessionChange b c conn body .createSession s (s.set i session)
  | activated {s} (i : Nat) (session : Session) (req : ActivateSessionRequest) (w : W)
      (decoded : (readActivateSession b).decode body = .ok req)
      (passed : ((activateSession b c conn s req).run.run w).1 = .ok (i, session)) :
      SessionChange b c conn body .activateSession s (s.set i session)
  | closed {s} (i : Nat) (old : Session) (found : s[i]? = some old) (used : old.open = true) :
      SessionChange b c conn body .closeSession s (s.set i .init)

instance (service : Service) : Std.Refl (SessionChange b c conn body service) := ⟨fun _ => .same⟩

theorem SessionChange.length {service : Service} {s t : List Session}
    (h : SessionChange b c conn body service s t) : t.length = s.length := by
  cases h with
  | same => rfl
  | created | activated | closed => exact List.length_set

section Create

theorem authTokenCandidate_ne_zero (base : UInt32) {salt : Nat} (h : salt < 2 ^ 31) :
    authTokenCandidate base (UInt32.ofNat salt) ≠ 0 := by
  simp only [authTokenCandidate]
  split
  · exact xor_salt_ne_zero (by decide) h
  · assumption

theorem generateIdentifier_returns {p : Platform W} {candidate : UInt32 → UInt32 → UInt32}
    {active : UInt32 → Bool} {count : Nat} {w w' : W} {id : UInt32}
    (h : (generateIdentifier p candidate active count).run.run w = (.ok id, w')) :
    active id = false ∧ ∃ base, ∃ salt ≤ count, id = candidate base (UInt32.ofNat salt) := by
  simp only [generateIdentifier, bind_returns] at h
  obtain ⟨random, u, -, h⟩ := h
  split at h
  · rename_i found hfirst
    obtain ⟨rfl, -⟩ := pure_returns.mp h
    obtain ⟨salt, hsalt, heq⟩ := List.mem_map.mp (List.mem_of_find?_eq_some hfirst)
    rw [List.mem_range] at hsalt
    exact ⟨by simpa using List.find?_some hfirst, _, salt, by omega, heq.symm⟩
  · exact (throw_returns.mp h).elim

variable {sessions : List Session}

theorem sessionFindFree_eq_some {i : Nat} (h : sessionFindFree sessions = some i) :
    ∃ old, sessions[i]? = some old ∧ old.open = false := by
  obtain ⟨hlt, hfree, -⟩ := List.findIdx?_eq_some_iff_getElem.mp h
  exact ⟨sessions[i], List.getElem?_eq_getElem hlt, by simpa using hfree⟩

theorem allocateSession_returns {p : Platform W} {w w' : W}
    {nonce : Block serverNonceLength} {slot : Nat} {id token : UInt32}
    (h : (allocateSession p sessions).run.run w = (.ok (nonce, slot, id, token), w')) :
    (∃ old, sessions[slot]? = some old ∧ old.open = false) ∧
      ∀ session : Session, session.sessionId = id → session.authToken = token →
      FreshIn sessions session := by
  simp only [allocateSession, bind_returns] at h
  obtain ⟨nonce', u, -, h⟩ := h
  split at h
  · exact (throw_returns.mp h).elim
  · rename_i slot' hfree
    simp only [bind_returns, pure_returns, Prod.mk.injEq] at h
    obtain ⟨id', v, hid, token', x, htoken, ⟨-, rfl, rfl, rfl⟩, -⟩ := h
    refine ⟨sessionFindFree_eq_some hfree, ?_⟩
    rintro session rfl rfl
    obtain ⟨hinactive, base, salt, hsalt, heq⟩ := generateIdentifier_returns hid
    obtain ⟨hinactive', base', salt', hsalt', heq'⟩ := generateIdentifier_returns htoken
    refine ⟨hinactive, hinactive', fun hlen => ⟨?_, ?_⟩⟩
    · rw [heq]
      exact sessionIdCandidate_ne_zero base (by omega)
    · rw [heq']
      exact authTokenCandidate_ne_zero base' (by omega)

theorem createInSlot_free {i : Nat} {old : Session} (found : sessions[i]? = some old)
    (free : old.open = false) (bits : UInt64) (id token : UInt32) :
    ∃ session, createInSlot b i bits id token conn sessions = (.ok (), sessions.set i session) ∧
      session.state = .created ∧ session.sessionId = id ∧ session.authToken = token := by
  have hclosed : old.state = .closed := by simpa [Session.open] using free
  simp only [createInSlot, List.getD_eq_getElem?_getD, found, Option.getD_some,
    sessionCreateWithIdentifiers, hclosed]
  exact ⟨_, rfl, rfl, rfl, rfl⟩

def Nonced (slot : Nat) (s t : List Session) : Prop :=
  t = s ∨ ∃ nonce, t = s.modify slot (fun session => { session with serverNonce := nonce })

instance (slot : Nat) : Std.Refl (Nonced slot) := ⟨fun _ => .inl rfl⟩

instance (slot : Nat) : IsTrans (List Session) (Nonced slot) := by
  refine ⟨?_⟩
  rintro s t u (rfl | ⟨nonce, rfl⟩) (rfl | ⟨nonce', rfl⟩)
  · exact .inl rfl
  · exact .inr ⟨nonce', rfl⟩
  · exact .inr ⟨nonce, rfl⟩
  · exact .inr ⟨nonce', by rw [List.modify_modify_eq]; rfl⟩

def CreatedAt (slot : Nat) (s t : List Session) : Prop :=
  ∃ session, session.state = .created ∧ FreshIn s session ∧ t = s.set slot session

theorem CreatedAt.nonced {slot : Nat} {s t u : List Session} {old : Session}
    (found : s[slot]? = some old) (h : CreatedAt slot s t) (hu : Nonced slot t u) :
    CreatedAt slot s u := by
  obtain rfl | ⟨nonce, rfl⟩ := hu
  · exact h
  · obtain ⟨session, hstate, hfresh, rfl⟩ := h
    obtain ⟨hlt, -⟩ := List.getElem?_eq_some_iff.mp found
    refine ⟨{ session with serverNonce := nonce }, hstate, ⟨hfresh.id, hfresh.token, hfresh.nonzero⟩, ?_⟩
    rw [modify_eq_set (List.getElem?_set_self hlt), List.set_set]

theorem respondCreated_nonced (req : RequestHeader × CreateSessionRequest)
    (nonce : Block serverNonceLength) (slot : Nat) (sessionId token : UInt32) :
    Effect (Nonced slot)
      (respondCreated b c conn req nonce slot sessionId token : SessionM W cap Unit) := by
  refine .bind (.encode _) (fun _ => .bind (.update (fun s => .inr ⟨nonce.1, rfl⟩)) (fun _ => ?_))
  refine .bind (.encode _) (fun _ => .bind (.adapter _) (fun _ => .bind (.encode _) (fun _ => ?_)))
  refine .bind (.adapter _) (fun _ =>
    .bind (.encode _) (fun _ => .bind (.adapter _) (fun _ => .encode _)))

theorem handleCreateSession_change :
    Effect (SessionChange b c conn body .createSession)
      (handleCreateSession b c conn : SessionM W cap Unit) := by
  rw [handleCreateSession_eq]
  refine .bind_same (.decode _) (fun req =>
    .bind_same (.checked _) (fun _ => .state_bind (fun sessions => ?_)))
  have : Std.Refl (fun s t => s = sessions → SessionChange b c conn body .createSession s t) :=
    ⟨fun _ _ => .same⟩
  refine .adapterChecked_bind (fun a w w' hallocate => ?_)
  obtain ⟨nonce, slot, id, token⟩ := a
  obtain ⟨⟨old, found, free⟩, hfresh⟩ := allocateSession_returns hallocate
  have hcreated : Effect (fun s t => s = sessions → CreatedAt slot s t) (do
      updateChecked (createInSlot b slot req.2.timeoutBits id token conn)
      respondCreated b c conn req nonce slot id token : SessionM W cap Unit) := by
    refine .bind_then (R := Nonced slot) (.updateChecked ?_) (fun _ => ?_) ?_
    · rintro s rfl
      obtain ⟨session, hcreate, hstate, hid, htoken⟩ :=
        createInSlot_free found free req.2.timeoutBits id token
      rw [hcreate]
      exact ⟨session, hstate, hfresh session hid htoken, rfl⟩
    · exact respondCreated_nonced req nonce slot id token
    · rintro s t u hst htu rfl
      exact (hst rfl).nonced found htu
  intro s hs
  obtain ⟨session, hstate, hsfresh, heq⟩ := hcreated s hs
  rw [← hs] at found
  rw [heq]
  exact .created slot old session found free hstate hsfresh

end Create

section Activate

theorem activateDecoded_change {req : ActivateSessionRequest}
    (hdecode : (readActivateSession b).decode body = .ok req) :
    Effect (SessionChange b c conn body .activateSession)
      (activateDecoded b c conn req : SessionM W cap (Option Nat)) := by
  refine .state_bind (fun sessions => .adapter_bind (fun result w w' hresult => ?_))
  have hrest (status : StatusCode) (r : Option Nat) : Effect Eq (do
      writeActivateResponse c req.header.requestHandle status
      return r : SessionM W cap (Option Nat)) :=
    .bind (.bind (.encode _) (fun _ => .bind (.adapter _) (fun _ => .encode _))) (fun _ => .pure _)
  split
  · rename_i i session
    refine .bind_then (R := Eq) (.update ?_) (fun _ => hrest _ _) ?_
    · rintro s rfl
      exact .activated i session req w hdecode (congrArg Prod.fst hresult)
    · rintro s t u hst rfl
      exact hst
  · refine Moves.mono (hrest _ _) ?_
    intro s t hsame _
    rw [← hsame]
    exact .same

theorem handleActivateSession_change (s : HandlerState (List Session) W cap)
    (hreader : s.reader = .init body) :
    SessionChange b c conn body .activateSession s.state
      ((handleActivateSession b c conn).run.run s).2.state := by
  rw [handleActivateSession, run_decode_bind, hreader]
  rcases hrun : (readActivateSession b).run.run (.init body) with ⟨e | req, r⟩
  · exact .same
  · exact activateDecoded_change (ReadM.decode_eq_ok.mpr ⟨r, hrun⟩) { s with reader := r }

end Activate

section Close

theorem closeSession_change (active : Nat) (token : NodeId) (st : List Session × Subscriptions W) :
    SessionChange b c conn body .closeSession st.1 (closeSession b active token st).2.1 := by
  unfold closeSession
  split
  · exact .same
  · split
    · exact .same
    · rename_i slot hclose
      obtain ⟨hopen, -, rfl⟩ :
        _ ∧ _ ∧ _ = slot := by simpa only [sessionClose, guard_eq_ok, pure_eq_ok] using hclose
      rw [List.getD_eq_getElem?_getD] at hopen
      cases hfound : st.1[active]? with
      | none =>
        rw [hfound] at hopen
        exact absurd rfl hopen
      | some old =>
        rw [hfound, Option.getD_some] at hopen
        exact .closed active old hfound (by simpa [Session.open] using hopen)

theorem handleCloseSession_change (active : Nat) :
    Effect (fun s t => SessionChange b c conn body .closeSession s.1 t.1)
      (handleCloseSession b active : HandlerM (List Session × Subscriptions W) W cap Unit) := by
  have : Std.Refl (fun (s t : List Session × Subscriptions W) =>
      SessionChange b c conn body .closeSession s.1 t.1) := ⟨fun _ => .same⟩
  refine .bind_same (.decode _) (fun _ => .bind_same (.decode _) (fun _ => ?_))
  refine .bind_then (R := Eq) (.update (closeSession_change active _)) (fun _ => .encode _) ?_
  rintro s t u hst rfl
  exact hst

end Close

section Unique

structure UniqueKey (key : Session → UInt32) (sessions : List Session) : Prop where
  distinct : ∀ (i j : Nat) (session session' : Session), sessions[i]? = some session →
    sessions[j]? = some session' → session.open = true → session'.open = true →
    key session = key session' → i = j
  nonzero : ∀ session ∈ sessions, session.open = true → key session ≠ 0

variable {key : Session → UInt32} {sessions : List Session} {i : Nat} {session : Session}

theorem UniqueKey.of_closed (h : ∀ session ∈ sessions, session.open = false) :
    UniqueKey key sessions := by
  refine ⟨fun i j session session' found _ hopen => ?_, fun session hmem hopen => ?_⟩
  · cases hopen.symm.trans (h session (List.mem_of_getElem? found))
  · cases hopen.symm.trans (h session hmem)

theorem UniqueKey.set (h : UniqueKey key sessions)
    (hnew : session.open = true → key session ≠ 0 ∧ ∀ (j : Nat) (other : Session), j ≠ i →
      sessions[j]? = some other → other.open = true → key other ≠ key session) :
        UniqueKey key (sessions.set i session) := by
  have hcases {j : Nat} {other : Session} (hj : (sessions.set i session)[j]? = some other) :
      j = i ∧ other = session ∨ j ≠ i ∧ sessions[j]? = some other := by
    by_cases hij : i = j
    · subst hij
      obtain ⟨-, rfl⟩ : _ ∧ session = other := by simpa [List.getElem?_set] using hj
      exact .inl ⟨rfl, rfl⟩
    · rw [List.getElem?_set_ne hij] at hj
      exact .inr ⟨Ne.symm hij, hj⟩
  refine ⟨fun j k x y hj hk hx hy heq => ?_, fun x hmem hx => ?_⟩
  · obtain ⟨hji, hxs⟩ | ⟨hji, hj'⟩ := hcases hj
    · obtain ⟨hki, -⟩ | ⟨hki, hk'⟩ := hcases hk
      · exact hji.trans hki.symm
      · subst hxs
        exact absurd heq.symm ((hnew hx).2 k y hki hk' hy)
    · obtain ⟨-, hys⟩ | ⟨-, hk'⟩ := hcases hk
      · subst hys
        exact absurd heq ((hnew hy).2 j x hji hj' hx)
      · exact h.distinct j k x y hj' hk' hx hy heq
  · obtain ⟨j, hj⟩ := List.mem_iff_getElem?.mp hmem
    obtain ⟨-, rfl⟩ | ⟨-, hj⟩ := hcases hj
    · exact (hnew hx).1
    · exact h.nonzero x (List.mem_of_getElem? hj) hx

theorem UniqueKey.replace {old : Session} (h : UniqueKey key sessions) (found : sessions[i]? = some old)
    (used : old.open = true) (hkey : key session = key old) :
    UniqueKey key (sessions.set i session) := by
  refine h.set (fun _ => ?_)
  rw [hkey]
  refine ⟨h.nonzero old (List.mem_of_getElem? found) used, fun j other hne hj hopen heq => ?_⟩
  exact hne (h.distinct j i other old hj found hopen used heq)

theorem UniqueKey.set_fresh (h : UniqueKey key sessions) (hne : key session ≠ 0)
    (hfresh : sessions.any (fun s => s.open && key s = key session) = false) :
    UniqueKey key (sessions.set i session) := by
  simp only [List.any_eq_false, Bool.and_eq_true, decide_eq_true_eq, not_and] at hfresh
  exact h.set (fun _ => ⟨hne, fun j other _ hj hopen => hfresh other (List.mem_of_getElem? hj) hopen⟩)

structure UniqueIdentifiers (sessions : List Session) : Prop where
  id : UniqueKey Session.sessionId sessions
  token : UniqueKey Session.authToken sessions

theorem UniqueIdentifiers.of_closed (h : ∀ session ∈ sessions, session.open = false) :
    UniqueIdentifiers sessions :=
  ⟨.of_closed h, .of_closed h⟩

theorem UniqueIdentifiers.zero_notMem (h : UniqueIdentifiers sessions) : 0 ∉ openIds sessions := by
  rintro ⟨session, hmem, hopen, hzero⟩
  exact h.id.nonzero session hmem hopen hzero

theorem SessionChange.unique {service : Service} {s t : List Session}
    (h : SessionChange b c conn body service s t) (hlen : s.length < 2 ^ 31) (hs : UniqueIdentifiers s) :
    UniqueIdentifiers t := by
  cases h with
  | same => exact hs
  | created i old session found free state fresh =>
    obtain ⟨hid, htoken⟩ := fresh.nonzero hlen
    exact ⟨hs.id.set_fresh hid fresh.id, hs.token.set_fresh htoken fresh.token⟩
  | activated i session req w decoded passed =>
    obtain ⟨old, found, used, -, rfl⟩ := activateSession_returns (returns_of_fst passed)
    exact ⟨hs.id.replace found used rfl, hs.token.replace found used rfl⟩
  | closed i old found used =>
    exact ⟨hs.id.set (fun h => by cases h), hs.token.set (fun h => by cases h)⟩

end Unique

section Generate

theorem mul_salt_inj {i j : Nat} (hi : i < 2 ^ 32) (hj : j < 2 ^ 32)
    (h : 0x9E3779B9 * UInt32.ofNat i = 0x9E3779B9 * UInt32.ofNat j) : i = j := by
  have hinverse : (0x144CBC89 : UInt32) * 0x9E3779B9 = 1 := by decide
  have hsalt : UInt32.ofNat i = UInt32.ofNat j := by
    have := congrArg (0x144CBC89 * ·) h
    simpa only [← UInt32.mul_assoc, hinverse, UInt32.one_mul] using this
  have := congrArg UInt32.toNat hsalt
  rwa [UInt32.toNat_ofNat_of_lt' hi, UInt32.toNat_ofNat_of_lt' hj] at this

variable {candidate : UInt32 → UInt32} {key : Session → UInt32} {sessions : List Session}

theorem firstCandidate_isSome (raw : UInt32 → UInt32)
    (hcandidate : ∀ salt, raw salt ≠ 0 → candidate salt = raw salt)
    (hraw : ∀ x y, raw x = raw y → 0x9E3779B9 * x = 0x9E3779B9 * y) (hlen : sessions.length < 2 ^ 32)
    (hfree : ∃ session ∈ sessions, session.open = false) :
    (firstCandidate candidate (fun x =>
      sessions.any (fun s => s.open && key s = x)) sessions.length).isSome = true := by
  have htaken : ((sessions.filter Session.open).map key).length < sessions.length := by
    rw [List.length_map]
    obtain ⟨session, hmem, hclosed⟩ := hfree
    exact List.length_filter_lt_length_iff_exists.mpr ⟨session, hmem, by simp [hclosed]⟩
  obtain ⟨salt, hsalt, hnew⟩ :=
    Lib.Slots.exists_candidate_notMem (f := fun n => candidate (UInt32.ofNat n)) (g := fun n =>
      raw (UInt32.ofNat n)) (z := 0)
    (fun i hi j hj h => mul_salt_inj (by omega) (by omega) (hraw _ _ h)) (fun i => hcandidate _) htaken
  rw [firstCandidate, List.find?_isSome]
  refine ⟨candidate (UInt32.ofNat salt), List.mem_map.mpr ⟨salt, List.mem_range.mpr (by omega), rfl⟩, ?_⟩
  simp only [Bool.not_eq_true', List.any_eq_false, Bool.and_eq_true, decide_eq_true_eq, not_and]
  intro session hmem hopen heq
  exact hnew (List.mem_map.mpr ⟨session, List.mem_filter.mpr ⟨hmem, hopen⟩, heq⟩)

theorem sessionIdCandidate_isSome (base : UInt32) (hlen : sessions.length < 2 ^ 32)
    (hfree : ∃ session ∈ sessions, session.open = false) :
    (firstCandidate (sessionIdCandidate base) (sessionIdActive sessions) sessions.length).isSome =
      true := by
  refine firstCandidate_isSome (fun salt => base ^^^ (0x9E3779B9 * salt)) ?_ ?_ hlen hfree
  · intro salt hne
    exact if_neg hne
  · intro x y h
    exact (UInt32.xor_right_inj base).mp h

theorem authTokenCandidate_isSome (base : UInt32) (hlen : sessions.length < 2 ^ 32)
    (hfree : ∃ session ∈ sessions, session.open = false) :
    (firstCandidate (authTokenCandidate base) (authenticationTokenActive sessions)
      sessions.length).isSome = true := by
  refine firstCandidate_isSome (fun salt => (base ^^^ 0xA5A5A5A5) + 0x9E3779B9 * salt) ?_ ?_ hlen hfree
  · intro salt hne
    exact if_neg hne
  · intro x y h
    exact UInt32.add_right_inj _ |>.mp h

/-- A generator whose search finds a candidate for every draw succeeds with the entropy adapter. -/
theorem generateIdentifier_succeeds {p : Platform W} {candidates : UInt32 → UInt32 → UInt32}
    {active : UInt32 → Bool} {count : Nat}
    (h : ∀ base, (firstCandidate (candidates base) active count).isSome = true) {w w' : W}
    {random : Block 4} (hrandom : (p.generateRandom 4).run.run w = (.ok random, w')) :
    ∃ id, (generateIdentifier p candidates active count).run.run w = (.ok id, w') := by
  obtain ⟨id, hid⟩ := Option.isSome_iff_exists.mp (h (UInt32.ofNat (Lib.LittleEndian.get random.1)))
  refine ⟨id, bind_returns.mpr ⟨random, w', ?_, ?_⟩⟩
  · rw [orElseFail_run, hrandom]
  · rw [hid]
    rfl

end Generate

end MicroOpcua
