import MicroOpcua.Encoding.RoundTrip
import MicroOpcua.Encoding.VariantLaws
import MicroOpcua.Spec.CreateSession
import MicroOpcua.Spec.Activation

namespace MicroOpcua

open HandlerM Lib.StateRun

variable {W A : Type} {cap : Nat} {b : Build} {c : Config W} {conn : ConnView}

section Response

def createResponseNonce (response : Bytes) : MuString :=
  let m : ReadM MuString := do
    skipBytes 28
    let _ ← readNodeId
    let _ ← readNodeId
    let _ ← readUInt64
    readBytestring
  match m.decode response with
  | .ok nonce => nonce
  | .error _ => none

def activateResponseNonce (response : Bytes) : MuString :=
  let m : ReadM MuString := do
    skipBytes 28
    readBytestring
  match m.decode response with
  | .ok nonce => nonce
  | .error _ => none

variable {σ α β : Type}

def Continues (m : HandlerM σ W cap α) : Prop :=
  ∀ s a t, s.writer.status = none → m.run.run s = (.ok a, t) →
    t.writer.status = none ∧ s.writer.bytes <+: t.writer.bytes

namespace Continues

theorem bind {m : HandlerM σ W cap α} {f : α → HandlerM σ W cap β} (hm : Continues m)
    (hf : ∀ a, Continues (f a)) : Continues (m >>= f) := by
  intro s x t hs hrun
  obtain ⟨a, u, hfirst, hrest⟩ := bind_returns.mp hrun
  obtain ⟨hu, hprefix⟩ := hm s a u hs hfirst
  obtain ⟨ht, hprefix'⟩ := hf a u x t hu hrest
  exact ⟨ht, hprefix.trans hprefix'⟩

theorem encode {m : WriteM cap α} (hm : Appends m) :
    Continues (HandlerM.encode m : HandlerM σ W cap α) := by
  intro s a t hs hrun
  have hrun' : (HandlerM.encode m : HandlerM σ W cap α).run.run s =
      ((m.run.run s.writer).1, { s with writer := (m.run.run s.writer).2 }) := rfl
  rw [hrun'] at hrun
  obtain ⟨hfst, rfl⟩ := Prod.mk.inj hrun
  obtain ⟨bs, h, hwriter⟩ := hm s.writer a _ hs (returns_of_fst hfst)
  rw [hwriter]
  exact ⟨hs, List.prefix_append _ _⟩

theorem adapter (m : StateM W α) : Continues (HandlerM.adapter m : HandlerM σ W cap α) := by
  intro s a t hs hrun
  obtain ⟨-, rfl⟩ := adapter_returns.mp hrun
  exact ⟨hs, List.prefix_rfl⟩

end Continues

theorem writeString_appends (s : MuString) : Appends (writeString s : WriteM cap Unit) :=
  (writeString_emits s).appends

theorem writeBytes_appends (bs : Bytes) : Appends (writeBytes bs : WriteM cap Unit) :=
  (writeBytes_emits bs).appends

theorem applicationDescriptionEncode_appends :
    Appends (applicationDescriptionEncode c : WriteM cap Unit) := by
  have hrest : Appends (do
      writeUInt32 0
      writeString none
      writeString none
      writeInt32 1
      writeString (some c.endpointUrl) : WriteM cap Unit) :=
    .bind (writeBytes_appends _) (fun _ =>
      .bind (writeString_appends _) (fun _ =>
        .bind (writeString_appends _) (fun _ =>
          .bind (writeBytes_appends _) (fun _ => writeString_appends _))))
  unfold applicationDescriptionEncode
  refine .bind (writeString_appends _) (fun _ => .bind (writeString_appends _) (fun _ => ?_))
  cases c.applicationName with
  | none => exact .bind (writeBytes_appends _) (fun _ => hrest)
  | some name =>
    exact .bind (writeBytes_appends _) (fun _ => .bind (writeString_appends _) (fun _ => hrest))

theorem endpointDescriptionEncode_appends (d : EndpointDescription) :
    Appends (endpointDescriptionEncode b c d : WriteM cap Unit) := by
  have htoken (t : Bytes × UInt32) : Appends (writeUserTokenPolicy t : WriteM cap Unit) :=
    .bind (writeString_appends _) (fun _ =>
      .bind (writeBytes_appends _) (fun _ =>
        .bind (writeString_appends _) (fun _ =>
          .bind (writeString_appends _) (fun _ => writeString_appends _))))
  refine .bind (writeString_appends _) (fun _ =>
    .bind applicationDescriptionEncode_appends (fun _ => ?_))
  refine .bind (writeString_appends _) (fun _ => .bind (writeBytes_appends _) (fun _ => ?_))
  refine .bind (writeString_appends _) (fun _ => .bind (writeBytes_appends _) (fun _ => ?_))
  exact .bind (.writeEach _ htoken) (fun _ =>
    .bind (writeString_appends _) (fun _ => writeBytes_appends _))

theorem respondCertificates_effect (req : CreateSessionRequest) :
    Effect Eq (respondCertificates b c conn req : SessionM W cap Unit) := by
  refine .bind (.adapter _) (fun _ => .bind (.encode _) (fun _ => .bind (.adapter _) (fun _ => ?_)))
  exact .bind (.encode _) (fun _ => .bind (.adapter _) (fun _ => .encode _))

theorem respondCertificates_continues (req : CreateSessionRequest) :
    Continues (respondCertificates b c conn req : SessionM W cap Unit) := by
  refine .bind (.adapter _) (fun _ =>
    .bind (.encode (writeString_appends _)) (fun _ => .bind (.adapter _) (fun _ => ?_)))
  refine .bind (.encode ?_) (fun _ => .bind (.adapter _) (fun _ => .encode ?_))
  · exact .bind (writeBytes_appends _) (fun _ => .bind (.writeEach _ endpointDescriptionEncode_appends)
      (fun _ => writeBytes_appends _))
  · exact .bind (writeString_appends _) (fun _ =>
      .bind (writeString_appends _) (fun _ => writeBytes_appends _))

theorem respondCertificates_returns {req : CreateSessionRequest}
    {s t : HandlerState (List Session) W cap} (hs : s.writer.status = none)
    (h : (respondCertificates b c conn req).run.run s = (.ok (), t)) :
    s.state = t.state ∧ s.writer.bytes <+: t.writer.bytes := by
  have heffect : Effect Eq (respondCertificates b c conn req : SessionM W cap Unit) :=
    respondCertificates_effect req
  have hstate := heffect s
  rw [h] at hstate
  exact ⟨hstate, (respondCertificates_continues req s () t hs h).2⟩

theorem respondCreated_returns {req : RequestHeader × CreateSessionRequest}
    {nonce : Block serverNonceLength} {slot : Nat} {sessionId token : UInt32}
    {s t : HandlerState (List Session) W cap} (hs : s.writer = .init)
    (h : (respondCreated b c conn req nonce slot sessionId token).run.run s = (.ok (), t)) :
    t.state = s.state.modify slot (fun session => { session with serverNonce := nonce.1 }) ∧
      createResponseNonce t.writer.bytes = some nonce.1 := by
  have hstatus : s.writer.status = none := by rw [hs]; rfl
  have hempty : s.writer.bytes = [] := by rw [hs]; rfl
  have hids :
    RoundTrip (NodeId.encodedSize (.ns0 sessionId) +
      (NodeId.encodedSize (.ns0 token) + (8 + (4 + nonce.1.length)))) (fun cap => (do
        writeNodeId (.ns0 sessionId)
        writeNodeId (.ns0 token)
        writeUInt64 (clampTimeoutBits req.2.timeoutBits)
        writeBytestring (some nonce.1) : WriteM cap Unit)) (do
        let _ ← readNodeId
        let _ ← readNodeId
        let _ ← readUInt64
        readBytestring) (some nonce.1) :=
    (nodeId_roundTrip (n := .ns0 sessionId) trivial).bind
      ((nodeId_roundTrip (n := .ns0 token) trivial).bind
        ((uint64_roundTrip _).bind
          (string_roundTrip (s := some nonce.1)
            (by simp only [MuString.Encodable, MuString.size, Option.getD_some, nonce.2]; decide))))
  obtain ⟨bs, -, hencodes, hdecodes⟩ := hids
  have hprefix :
      Emits (writeResponsePrefix createSessionResponseId req.1.requestHandle good : WriteM cap Unit) _ :=
    (writeResponsePrefix_encodes (by decide) _ _).emits
  unfold respondCreated at h
  obtain ⟨⟨⟩, u₁, hfirst, hafter⟩ := bind_returns.mp h
  obtain ⟨w₁, hw₁, rfl⟩ := encode_returns.mp hfirst
  obtain ⟨hfits, rfl⟩ := hprefix _ _ hstatus hw₁
  rw [run_update_bind] at hafter
  obtain ⟨⟨⟩, u₂, hsecond, hlast⟩ := bind_returns.mp hafter
  obtain ⟨w₂, hw₂, rfl⟩ := encode_returns.mp hsecond
  obtain ⟨hfits', rfl⟩ := (hencodes cap).emits (s.writer.append _ hfits) w₂ hstatus hw₂
  obtain ⟨hstate, rest, hrest⟩ := respondCertificates_returns (by exact hstatus) hlast
  refine ⟨hstate.symm, ?_⟩
  have hbytes :
      t.writer.bytes = responsePrefix createSessionResponseId req.1.requestHandle good ++
      bs ++ rest := by
    rw [← hrest]
    simp only [Writer.append, hempty, List.nil_append]
  have hread :=
    (skipBytes_decodes (responsePrefix createSessionResponseId req.1.requestHandle good)).bind
      (f := fun _ => _) hdecodes
  rw [responsePrefix_length] at hread
  rw [createResponseNonce, hbytes, hread.decode]

end Response

section Nonces

structure SentNonce where
  slot : Nat
  activation : Bool
  nonce : Bytes
deriving DecidableEq

inductive SessionOp (W : Type) where
  | create (conn : ConnView) (body : Bytes) (cap : Nat) (w : W)
  | activate (conn : ConnView) (body : Bytes) (cap : Nat) (w : W)
  | close (i : Nat)
  | reset

def openedSlot (s t : List Session) : Option Nat := (s.zip t).findIdx? (fun p => !p.1.open && p.2.open)

/-- The nonce of a new session: that of the response, or that of the slot if there was no room for a
response. -/
def createdNonce {cap : Nat} (session : Session) : Except Fault (Unit × Encoded cap) → Bytes
  | .ok ((), response) => (createResponseNonce response.1).getD []
  | .error _ => session.serverNonce

/-- The table after an operation, and the nonces that went out, newest first: those in the responses of
CreateSession and of an ActivateSession that succeeded. -/
def SessionOp.step (b : Build) (c : Config W) (st : List Session × List SentNonce) :
    SessionOp W → List Session × List SentNonce
  | .create conn body cap w =>
    let (r, t, _) := (handleCreateSession b c conn : SessionM W cap Unit).execute body st.1 w
    match openedSlot st.1 t with
    | some i => (t, ⟨i, false, createdNonce (t.getD i .init) r⟩ :: st.2)
    | none => (t, st.2)
  | .activate conn body cap w =>
    match (handleActivateSession b c conn : SessionM W cap (Option Nat)).execute body st.1 w with
    | (.ok (some i, response), t, _) =>
      match activateResponseNonce response.1 with
      | some nonce => (t, ⟨i, true, nonce⟩ :: st.2)
      | none => (t, st.2)
    | (_, t, _) => (t, st.2)
  | .close i => (st.1.set i .init, st.2)
  | .reset => (st.1.map (fun _ => .init), st.2)

def sessionRun (b : Build) (c : Config W) (ops : List (SessionOp W)) : List Session × List SentNonce :=
  ops.foldl (fun st op => op.step b c st) (List.replicate b.maxSessions .init, [])

section Table

variable {s t : List Session} {sent : List SentNonce} {i : Nat} {old session : Session}

theorem openedSlot_self (s : List Session) : openedSlot s s = none := by
  rw [openedSlot, List.findIdx?_eq_none_iff]
  rintro ⟨x, y⟩ hp
  obtain ⟨j, hj⟩ := List.mem_iff_getElem?.mp hp
  obtain ⟨hx, hy⟩ := List.getElem?_zip_eq_some.mp hj
  have hxy : x = y := Option.some.inj (hx.symm.trans hy)
  simp [hxy]

theorem openedSlot_set (found : s[i]? = some old) (free : old.open = false)
    (used : session.open = true) : openedSlot s (s.set i session) = some i := by
  obtain ⟨hlt, rfl⟩ := List.getElem?_eq_some_iff.mp found
  refine List.findIdx?_eq_some_iff_getElem.mpr ⟨by simpa using hlt, ?_, ?_⟩
  · simp [free, used]
  · intro j hj
    have hne : i ≠ j := by omega
    simp [hne]

def NonceStored (st : List Session × List SentNonce) : Prop :=
  ∀ i session, st.1[i]? = some session → session.open = true → ∃ newer older,
    st.2 = newer ++ ⟨i, false, session.serverNonce⟩ :: older ∧ ∀ e ∈ newer, e.slot = i →
    e.activation = true

theorem NonceStored.kept (h : NonceStored (s, sent)) (new : List SentNonce)
    (hnew : ∀ e ∈ new, e.activation = true)
    (hkept : ∀ (i : Nat) (session : Session), t[i]? = some session → session.open = true →
      ∃ old : Session, s[i]? = some old ∧ old.open = true ∧ old.serverNonce = session.serverNonce) :
        NonceStored (t, new ++ sent) := by
  intro i session found hopen
  obtain ⟨old, hold, holdOpen, hnonce⟩ := hkept i session found hopen
  obtain ⟨newer, older, hsent, hnewer⟩ := h i old hold holdOpen
  have hsent : sent = newer ++ ⟨i, false, old.serverNonce⟩ :: older := hsent
  refine ⟨new ++ newer, older, ?_, ?_⟩
  · rw [hsent, hnonce, List.append_assoc]
  · intro e he hslot
    obtain he | he := List.mem_append.mp he
    · exact hnew e he
    · exact hnewer e he hslot

theorem NonceStored.create (h : NonceStored (s, sent)) (found : s[i]? = some old) :
    NonceStored (s.set i session, ⟨i, false, session.serverNonce⟩ :: sent) := by
  obtain ⟨hlt, -⟩ := List.getElem?_eq_some_iff.mp found
  intro j session' found' hopen
  by_cases hij : i = j
  · subst hij
    obtain rfl : session = session' := Option.some.inj ((List.getElem?_set_self hlt).symm.trans found')
    exact ⟨[], sent, rfl, nofun⟩
  · rw [List.getElem?_set_ne hij] at found'
    obtain ⟨newer, older, hsent, hnewer⟩ := h j session' found' hopen
    have hsent : sent = newer ++ ⟨j, false, session'.serverNonce⟩ :: older := hsent
    refine ⟨⟨i, false, session.serverNonce⟩ :: newer, older, by rw [hsent]; rfl, ?_⟩
    intro e he hslot
    obtain rfl | he := List.mem_cons.mp he
    · exact absurd hslot hij
    · exact hnewer e he hslot

theorem SessionChange.activate_nonces {conn : ConnView} {body : Bytes}
    (h : SessionChange b c conn body .activateSession s t) (found : t[i]? = some session)
    (hopen : session.open = true) :
    ∃ old, s[i]? = some old ∧ old.open = true ∧ old.serverNonce = session.serverNonce := by
  cases h with
  | same => exact ⟨session, found, hopen, rfl⟩
  | activated j session' req w decoded passed =>
    obtain ⟨old, hold, hused, -, rfl⟩ := activateSession_returns (returns_of_fst passed)
    by_cases hij : j = i
    · subst hij
      obtain ⟨hlt, -⟩ := List.getElem?_eq_some_iff.mp hold
      obtain rfl : _ = session := Option.some.inj ((List.getElem?_set_self hlt).symm.trans found)
      exact ⟨old, hold, hused, rfl⟩
    · rw [List.getElem?_set_ne hij] at found
      exact ⟨session, found, hopen, rfl⟩

theorem create_response_nonce {body : Bytes} {w w' : W} {response : Encoded cap}
    (h : (handleCreateSession b c conn : SessionM W cap Unit).execute body s w =
      (.ok ((), response), t, w')) : ∃ i session, openedSlot s t = some i ∧ t[i]? = some session ∧
      createResponseNonce response.1 = some session.serverNonce := by
  obtain ⟨u, hrun, hbytes, rfl⟩ := execute_eq_ok h
  rw [handleCreateSession_eq, run_decode_bind] at hrun
  rcases hdecode : readCreateSession.run.run (.init body) with ⟨e | req, r⟩
  · simp only [hdecode] at hrun
    cases hrun
  simp only [hdecode, run_checked_bind] at hrun
  cases hcert : createSessionCertCheck b conn req.2.clientCert with
  | error e =>
    simp only [hcert] at hrun
    cases hrun
  | ok =>
    simp only [hcert, run_state_bind, run_adapterChecked_bind] at hrun
    rcases hallocate : (allocateSession c.platform s).run.run w with ⟨e | ⟨nonce, slot, id, token⟩, v⟩
    · simp only [hallocate] at hrun
      cases hrun
    obtain ⟨⟨old, found, free⟩, -⟩ := allocateSession_returns hallocate
    obtain ⟨session, hcreate, hstate, -, -⟩ :
        ∃ session, createInSlot b slot req.2.timeoutBits id token conn s = (.ok (), s.set slot session) ∧
          session.state = .created ∧ session.sessionId = id ∧ session.authToken = token :=
      createInSlot_free found free req.2.timeoutBits id token
    simp only [hallocate, run_updateChecked_bind, hcreate] at hrun
    obtain ⟨hstored, hnonce⟩ := respondCreated_returns rfl hrun
    obtain ⟨hlt, -⟩ := List.getElem?_eq_some_iff.mp found
    have hset : u.state = s.set slot { session with serverNonce := nonce.1 } := by
      rw [hstored]
      exact (Lib.Table.modify_eq_set (List.getElem?_set_self hlt)).trans (List.set_set ..)
    refine ⟨slot, { session with serverNonce := nonce.1 }, ?_, ?_, ?_⟩
    · rw [hset]
      exact openedSlot_set found free (by simp [Session.open, hstate])
    · rw [hset, List.getElem?_set_self hlt]
    · rw [← hbytes]
      exact hnonce

theorem createdNonce_eq {body : Bytes} {w w' : W} {r : Except Fault (Unit × Encoded cap)}
    (h : (handleCreateSession b c conn : SessionM W cap Unit).execute body s w = (r, t, w'))
    (hopened : openedSlot s t = some i) :
    createdNonce (t.getD i .init) r = (t.getD i .init).serverNonce := by
  cases r with
  | error e => rfl
  | ok p =>
    obtain ⟨⟨⟩, response⟩ := p
    obtain ⟨j, session, hopened', found, hnonce⟩ := create_response_nonce h
    obtain rfl := Option.some.inj (hopened.symm.trans hopened')
    rw [createdNonce, hnonce, List.getD_eq_getElem?_getD, found]
    rfl

theorem SessionOp.step_stored (op : SessionOp W) (h : NonceStored (s, sent)) :
    NonceStored (op.step b c (s, sent)) := by
  cases op with
  | create conn body cap w =>
    have hchange : SessionChange b c conn body .createSession s
        ((handleCreateSession b c conn : SessionM W cap Unit).execute body s w).2.1 :=
      handleCreateSession_change.execute body s w
    simp only [SessionOp.step]
    rcases hrun : (handleCreateSession b c conn : SessionM W cap Unit).execute body s w with ⟨r, t, w'⟩
    rw [hrun] at hchange
    have hnonce := fun i => createdNonce_eq (i := i) hrun
    dsimp only at hchange ⊢
    cases hchange with
    | same =>
      rw [openedSlot_self]
      exact h
    | created i old session found free state fresh =>
      have hused : session.open = true := by simp [Session.open, state]
      have hopened := openedSlot_set found free hused
      obtain ⟨hlt, -⟩ := List.getElem?_eq_some_iff.mp found
      rw [hopened]
      dsimp only
      rw [hnonce i hopened, List.getD_eq_getElem?_getD, List.getElem?_set_self hlt, Option.getD_some]
      exact h.create found
  | activate conn body cap w =>
    have hchange : SessionChange b c conn body .activateSession s
        ((handleActivateSession b c conn : SessionM W cap (Option Nat)).execute body s w).2.1 := by
      rw [execute_state]
      exact handleActivateSession_change ⟨.init body, .init, s, w⟩ rfl
    have hkept (new : List SentNonce) (hnew : ∀ e ∈ new, e.activation = true) := h.kept new hnew
      (fun i session found hopen => hchange.activate_nonces found hopen)
    simp only [SessionOp.step]
    rcases hrun : (handleActivateSession b c conn : SessionM W cap (Option Nat)).execute body s w with
      ⟨e | ⟨_ | i, response⟩, t, w'⟩
    · rw [hrun] at hkept
      exact hkept [] (by rintro _ ⟨⟩)
    · rw [hrun] at hkept
      exact hkept [] (by rintro _ ⟨⟩)
    · rw [hrun] at hkept
      dsimp only
      split
      · rename_i nonce hnonce
        exact hkept [⟨i, true, nonce⟩] (fun e he => by rw [List.mem_singleton.mp he])
      · exact hkept [] (by rintro _ ⟨⟩)
  | close j =>
    refine h.kept [] (by rintro _ ⟨⟩) (fun i session found hopen => ?_)
    by_cases hij : j = i
    · subst hij
      obtain ⟨-, rfl⟩ : _ ∧ Session.init = session := by simpa [List.getElem?_set] using found
      cases hopen
    · rw [List.getElem?_set_ne hij] at found
      exact ⟨session, found, hopen, rfl⟩
  | reset =>
    refine h.kept [] (by rintro _ ⟨⟩) (fun i session found hopen => ?_)
    rw [List.getElem?_map] at found
    obtain ⟨-, -, rfl⟩ := Option.map_eq_some_iff.mp found
    cases hopen

theorem sessionRun_stored (b : Build) (c : Config W) (ops : List (SessionOp W)) :
    NonceStored (sessionRun b c ops) := by
  induction ops using List.reverseRecOn with
  | nil =>
    intro i session found hopen
    have hmem := List.mem_of_getElem? found
    rw [List.eq_of_mem_replicate hmem] at hopen
    cases hopen
  | append_singleton ops op ih =>
    rw [sessionRun, List.foldl_concat]
    exact SessionOp.step_stored op ih

def lastSent (sent : List SentNonce) (i : Nat) : Option SentNonce := sent.find? (fun e => e.slot = i)

theorem NonceStored.last_iff {st : List Session × List SentNonce} {e : SentNonce} (h : NonceStored st)
    (found : st.1[i]? = some session) (hopen : session.open = true) (last : lastSent st.2 i = some e)
    (distinct : (st.2.map SentNonce.nonce).Nodup) : session.serverNonce = e.nonce ↔
      e.activation = false := by
  obtain ⟨newer, older, hsent, hnewer⟩ := h i session found hopen
  rw [hsent, lastSent, List.find?_append] at last
  rw [hsent, List.map_append, List.map_cons] at distinct
  cases hfind : newer.find? (fun e => e.slot = i) with
  | none =>
    rw [hfind, Option.none_or, List.find?_cons_of_pos (by simp)] at last
    obtain rfl := Option.some.inj last
    exact iff_of_true rfl rfl
  | some e' =>
    rw [hfind, Option.some_or] at last
    obtain rfl := Option.some.inj last
    have hmem := List.mem_of_find?_eq_some hfind
    have hslot : e'.slot = i := by simpa using List.find?_some hfind
    refine iff_of_false (fun hsame => ?_) (fun hfalse => ?_)
    · have hdisjoint := List.disjoint_of_nodup_append distinct (List.mem_map_of_mem hmem)
      exact hdisjoint (hsame ▸ List.mem_cons_self ..)
    · cases hfalse.symm.trans (hnewer e' hmem hslot)

end Table

section Server

variable {app : Application W A} {req : Request}

theorem SessionOp.step_fst (op : SessionOp W) (st : List Session × List SentNonce) :
    (op.step b c st).1 = (op.step b c (st.1, [])).1 := by
  cases op with
  | create conn body cap w =>
    simp only [SessionOp.step]
    split <;> rfl
  | activate conn body cap w =>
    simp only [SessionOp.step]
    split
    · split <;> rfl
    · rfl
  | close i => rfl
  | reset => rfl

def SessionOps (b : Build) (c : Config W) (s t : List Session) : Prop :=
  t = s ∨ ∃ op : SessionOp W, t = (op.step b c (s, [])).1

theorem handler_sessionOps (service : Service) (active : Option (Nat × Session))
    (s : Scope W A) (w : W) : SessionOps b c s.shared.sessions
      ((handler b c app req service active : ScopeM W A cap Answer).execute req.body s
        w).2.1.shared.sessions := by
  by_cases hcreate : service = .createSession
  · subst hcreate
    refine .inr ⟨.create (req.view s) req.body cap w, ?_⟩
    have hop : (SessionOp.step b c (s.shared.sessions, []) (.create (req.view s) req.body cap w)).1 =
        ((handleCreateSession b c (req.view s) : SessionM W cap Unit).execute req.body
          s.shared.sessions w).2.1 := by
      simp only [SessionOp.step]
      split <;> rfl
    rw [hop, execute_state, execute_state, handler, run_state_bind]
    dsimp only
    rw [run_bind_same _ (fun _ => .pure _)]
    rfl
  · by_cases hactivate : service = .activateSession
    · subst hactivate
      refine .inr ⟨.activate (req.view s) req.body cap w, ?_⟩
      have hop : (SessionOp.step b c (s.shared.sessions, []) (.activate (req.view s) req.body cap w)).1 =
          ((handleActivateSession b c (req.view s) : SessionM W cap (Option Nat)).execute req.body
            s.shared.sessions w).2.1 := by
        simp only [SessionOp.step]
        split
        · rename_i hrun
          split <;> rw [hrun]
        · rename_i hrun
          rw [hrun]
      rw [hop, execute_state, execute_state, handler, run_state_bind]
      dsimp only
      rw [run_bind_same _ (fun r => by cases r <;> exact .pure _)]
      rfl
    · have hchange : SessionChange b c (req.view s) req.body service s.shared.sessions
          ((handler b c app req service active : ScopeM W A cap Answer).execute req.body s
            w).2.1.shared.sessions :=
        handler_sessions service active s w
      generalize ((handler b c app req service active : ScopeM W A cap Answer).execute req.body s
        w).2.1.shared.sessions = t
        at hchange
      cases hchange with
      | same => exact .inl rfl
      | created => exact absurd rfl hcreate
      | activated => exact absurd rfl hactivate
      | closed i old found used => exact .inr ⟨.close i, rfl⟩

theorem Act.sessionOps {k : Cause b W A} {s t : Ctx W A} (h : Act b c app k s t) :
    SessionOps b c s.shared.sessions t.shared.sessions := by
  obtain hsame | ⟨cap, chunk, typeId, -, hdispatch⟩ := h.sessions_cases
  · exact .inl hsame
  · rw [hdispatch]
    obtain hsame | ⟨service, active, -, hscope⟩ := serviceDispatch_handled cap b c app
      (chunk.request s.conn typeId) (s.dispatchScope b chunk) s.world
    · exact .inl (by rw [hsame]; rfl)
    · rw [hscope]
      exact handler_sessionOps service active (s.dispatchScope b chunk) s.world

theorem Step.sessionOps {s t : Server W A} (h : Step b c app s t) :
    SessionOps b c s.shared.sessions t.shared.sessions := by
  cases h with
  | act i conn k found cause hact => exact hact.sessionOps
  | reset =>
    unfold resetShared
    split
    · exact .inl rfl
    · exact .inr ⟨.reset, rfl⟩
  | message | turn | background | stop => exact .inl rfl

theorem Visited.sessionRun {s : Server W A} (h : Visited b c app s) :
    ∃ ops : List (SessionOp W), (sessionRun b c ops).1 = s.shared.sessions := by
  obtain ⟨a, w, hsteps⟩ := h.steps
  induction hsteps with
  | refl => exact ⟨[], rfl⟩
  | tail hsteps hlast ih =>
    obtain ⟨ops, hops⟩ := ih ⟨h.valid, a, w, hsteps⟩
    obtain hsame | ⟨op, hop⟩ := hlast.sessionOps
    · exact ⟨ops, hops.trans hsame.symm⟩
    · refine ⟨ops ++ [op], ?_⟩
      rw [MicroOpcua.sessionRun, List.foldl_concat, SessionOp.step_fst, hop, ← hops]
      rfl

end Server

/-- No signature is good for two different data. -/
def Binds (cr : CryptoAdapter W) : Prop :=
  ∀ security policy certificate data data' signature v v' x x',
    (asymSignatureVerify security cr policy certificate data signature).run.run v = (.ok (), x) →
    (asymSignatureVerify security cr policy certificate data' signature).run.run v' = (.ok (), x') →
      data = data'

theorem verifyActivateClientSignature_returns {slot : Session}
    {algorithm signature : MuString} {w w' : W} (hsecured : conn.channel.policy.secured = true)
    (h : (verifyActivateClientSignature b c conn slot algorithm signature).run.run w = (.ok (), w')) :
    ∃ cr own v, c.cryptoAdapter = some cr ∧ cr.getOwnCertificate.run.run w = (.ok own, v) ∧
      (asymSignatureVerify b.security cr conn.channel.policy conn.clientCert (own ++ slot.serverNonce)
        (signature.getD [])).run.run v = (.ok (), w') := by
  simp only [verifyActivateClientSignature, if_pos hsecured] at h
  split at h
  · exact (throw_returns.mp h).elim
  · rename_i cr hadapter
    simp only [guard_returns, bind_returns, orElseFail_returns] at h
    obtain ⟨-, -, -, own, v, hown, -, hverify⟩ := h
    exact ⟨cr, own, v, hadapter, hown, hverify⟩

/-- After any operations on the session table, a client signature that ActivateSession accepts is one
over the nonce that was sent to the session last, exactly if that nonce came with the CreateSession
response: the nonce of an ActivateSession response is never stored. -/
theorem activation_nonce_iff (ops : List (SessionOp W)) {i : Nat} {session : Session} {e : SentNonce}
    (found : (sessionRun b c ops).1[i]? = some session) (hopen : session.open = true)
    (last : lastSent (sessionRun b c ops).2 i = some e)
    (distinct : ((sessionRun b c ops).2.map SentNonce.nonce).Nodup)
    (binding : ∀ cr, c.cryptoAdapter = some cr → Binds cr) (secured : conn.channel.policy.secured = true)
    {algorithm signature : MuString} {w w' : W}
    (accepted : (verifyActivateClientSignature b c conn session algorithm signature).run.run w =
      (.ok (), w')) :
    (∃ x, (verifyActivateClientSignature b c conn { session with serverNonce := e.nonce } algorithm
      signature).run.run w = (.ok (), x)) ↔ e.activation = false := by
  rw [← (sessionRun_stored b c ops).last_iff found hopen last distinct]
  constructor
  · rintro ⟨x, hlast⟩
    obtain ⟨cr, own, v, hadapter, hown, hverify⟩ :=
      verifyActivateClientSignature_returns secured accepted
    obtain ⟨cr', own', v', hadapter', hown', hverify'⟩ :=
      verifyActivateClientSignature_returns secured hlast
    obtain rfl := Option.some.inj (hadapter.symm.trans hadapter')
    cases hown.symm.trans hown'
    exact List.append_cancel_left (binding cr hadapter _ _ _ _ _ _ _ _ _ _ hverify hverify')
  · rintro hsame
    rw [← hsame]
    exact ⟨w', accepted⟩

section Replay

open Script Lib.LittleEndian

def openedData : Bytes :=
  (openSealed [65] 1 (openRequest 2 (List.replicate 32 5))).take
    ((openSealed [65] 1 (openRequest 2 (List.replicate 32 5))).length - keySize)

/-- A signature is the signed data itself; only the one that opens the channel is of the size of a
key. -/
def Signs (data signature : Bytes) : Prop :=
  signature = data ∧ signature ≠ List.replicate keySize 0 ∨ signature = List.replicate keySize 0 ∧
    data = openedData

instance (data signature : Bytes) : Decidable (Signs data signature) := by
  unfold Signs
  infer_instance

/-- The certificate of the server is not at hand at time 1, which keeps the CreateSession response
short. -/
def bindingCrypto : CryptoAdapter Script :=
  { crypto with
    getOwnCertificate := fun w => (if w.nowMs = 1 then .error .internalError else .ok [83], w)
    rsaSha256Verify :=
      fun _ data signature => if Signs data signature then pure () else throw .securityChecksFailed
    rsaPssSha256Verify :=
      fun _ data signature => if Signs data signature then pure () else throw .securityChecksFailed }

theorem bindingCrypto_binds : Binds bindingCrypto := by
  have hsigns (security : Bool) (policy : SecurityPolicyId) (certificate data signature : Bytes)
    (v x : Script)
      (h : (asymSignatureVerify security bindingCrypto policy certificate data signature).run.run v =
        (.ok (), x)) :
      Signs data signature := by
    have hverify : asymSignatureVerify security bindingCrypto policy certificate data signature =
        if Signs data signature then pure () else throw .securityChecksFailed := by
      unfold asymSignatureVerify
      split <;> rfl
    rw [hverify] at h
    by_contra hnot
    rw [if_neg hnot] at h
    exact throw_returns.mp h
  intro security policy certificate data data' signature v v' x x' h h'
  obtain ⟨hdata, hne⟩ | ⟨hzero, hdata⟩ := hsigns _ _ _ _ _ _ _ h
  · obtain ⟨hdata', -⟩ | ⟨hzero, -⟩ := hsigns _ _ _ _ _ _ _ h'
    · exact hdata.symm.trans hdata'
    · exact absurd hzero hne
  · obtain ⟨-, hne⟩ | ⟨-, hdata'⟩ := hsigns _ _ _ _ _ _ _ h'
    · exact absurd hzero hne
    · exact hdata.trans hdata'.symm

def bindingConfig : Config Script := config 6 8192 (some bindingCrypto)

def signedActivation : Bytes :=
  request 467 sessionToken ++ string (utf8 "http://www.w3.org/2001/04/xmldsig-more#rsa-sha256") ++
    string (83 :: List.replicate 32 7) ++ u32 0 ++ u32 0 ++ [1, 0] ++ put 2 321 ++ [0]

/-- A client creates a session on a signed channel and activates it, where the random bytes make another
nonce; then the same request comes again, with the same signature. -/
def replayedScripts : List Script :=
  signedChannel 10 [65] ++ [{ deliver 10 (msgSigned 2 (createRequest [65])) with nowMs := 1 },
    { deliver 10 (msgSigned 3 signedActivation) with random := [9] },
    { deliver 10 (msgSigned 4 signedActivation) with random := [8] }]

def Event.activates : Event Script Unit → Bool
  | .dispatched _ _ _ (some run) => run.service == .activateSession && run.session.isSome
  | _ => false

def activatedOps : List (SessionOp Script) :=
  [.create (createdView .basic256Sha256) ((createRequest [65]).drop 4) secureRespMax
    { idle with nowMs := 1 },
    .activate (createdView .basic256Sha256) (signedActivation.drop 4) secureRespMax
    { idle with random := [9] }]

def activatedSession : Session := (sessionRun build bindingConfig activatedOps).1.getD 0 .init

def verifySigned (session : Session) : AdapterM Script Unit :=
  verifyActivateClientSignature build bindingConfig (createdView .basic256Sha256) session
    (some (utf8 "http://www.w3.org/2001/04/xmldsig-more#rsa-sha256")) (some (83 :: List.replicate 32 7))

/-- The first activation of a session is over the nonce the client got last. -/
theorem activation_nonce_iff_first :
    let run := sessionRun build bindingConfig (activatedOps.take 1)
    lastSent run.2 0 = some ⟨0, false, List.replicate 32 7⟩ ∧
      ∃ x, (verifySigned { run.1.getD 0 .init with serverNonce := List.replicate 32 7 }).run.run idle =
        (.ok (), x) := by
  intro run
  have hrun : run.1[0]? = some (run.1.getD 0 .init) ∧ (run.1.getD 0 .init).open = true ∧
      lastSent run.2 0 = some ⟨0, false, List.replicate 32 7⟩ ∧ (run.2.map SentNonce.nonce).Nodup ∧
      ((verifySigned (run.1.getD 0 .init)).run.run idle).1 = .ok () := by decide +kernel
  obtain ⟨found, hopen, last, distinct, accepted⟩ := hrun
  have binding : ∀ cr, bindingConfig.cryptoAdapter = some cr → Binds cr := by
    rintro cr hcr
    obtain rfl := Option.some.inj hcr
    exact bindingCrypto_binds
  refine ⟨last, (activation_nonce_iff (activatedOps.take 1) found hopen last distinct binding ?_
    (returns_of_fst accepted)).mpr rfl⟩
  decide

theorem replayed_activations :
    ((play bindingConfig replayedScripts).trace.filter Event.activates).length = 2 := by
  decide +kernel

/-- The second activation succeeds, with a signature that is not one over the nonce the client got
last. -/
theorem replayed_signature_accepted :
    Reachable build bindingConfig application (play bindingConfig replayedScripts) ∧
      ((play bindingConfig replayedScripts).trace.filter Event.activates).length = 2 ∧
      Binds bindingCrypto ∧
      ((sessionRun build bindingConfig activatedOps).2.map SentNonce.nonce).Nodup ∧
      lastSent (sessionRun build bindingConfig activatedOps).2 0 =
        some ⟨0, true, 9 :: List.replicate 31 7⟩ ∧
      ((verifySigned activatedSession).run.run idle).1 = .ok () ∧
      ((verifySigned { activatedSession with serverNonce := 9 :: List.replicate 31 7 }).run.run idle).1 =
        .error .securityChecksFailed := by
  have hvalid : configValidate build bindingConfig = .ok () := by decide
  have hrun : ((sessionRun build bindingConfig activatedOps).2.map SentNonce.nonce).Nodup ∧
      lastSent (sessionRun build bindingConfig activatedOps).2 0 =
        some ⟨0, true, 9 :: List.replicate 31 7⟩ ∧
      ((verifySigned activatedSession).run.run idle).1 = .ok () ∧
      ((verifySigned { activatedSession with serverNonce := 9 :: List.replicate 31 7 }).run.run idle).1 =
        .error .securityChecksFailed := by decide +kernel
  exact ⟨play_reachable hvalid _, replayed_activations, bindingCrypto_binds, hrun⟩

end Replay

end Nonces

end MicroOpcua
