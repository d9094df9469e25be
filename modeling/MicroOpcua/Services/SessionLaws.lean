import MicroOpcua.Encoding.Sizes
import MicroOpcua.Services.SessionService
import MicroOpcua.Services.SubscriptionLaws

namespace MicroOpcua

open HandlerM Lib.StateRun Lib.Table

variable {W : Type} {cap : Nat} {b : Build} {c : Config W} {conn : ConnView}

def openIds (sessions : List Session) : Set UInt32 :=
  { id | ∃ session ∈ sessions, session.open = true ∧ session.sessionId = id }

theorem xor_salt_ne_zero {x : UInt32} {salt : Nat} (hx : 2 ^ 31 ≤ x.toNat) (h : salt < 2 ^ 31) :
    x ^^^ UInt32.ofNat salt ≠ 0 := by
  rw [Ne, UInt32.xor_eq_zero_iff]
  rintro rfl
  rw [UInt32.toNat_ofNat_of_lt' (h.trans (by decide))] at hx
  omega

theorem sessionIdCandidate_ne_zero (base : UInt32) {salt : Nat} (h : salt < 2 ^ 31) :
    sessionIdCandidate base (UInt32.ofNat salt) ≠ 0 := by
  simp only [sessionIdCandidate]
  split
  · exact xor_salt_ne_zero (by decide) h
  · assumption

section Activate

theorem sessionFindByToken_eq_some {sessions : List Session} {token : UInt32} {i : Nat}
    (h : sessionFindByToken sessions token = some i) :
    ∃ session, sessions[i]? = some session ∧ session.open = true ∧ session.authToken = token := by
  obtain ⟨hlt, hfound, -⟩ := List.findIdx?_eq_some_iff_getElem.mp h
  simp only [Bool.and_eq_true, decide_eq_true_eq] at hfound
  exact ⟨sessions[i], List.getElem?_eq_getElem hlt, hfound⟩

theorem activateCheck_returns {session session' : Session} {token : UInt32}
    {req : ActivateSessionRequest} {w w' : W}
    (h : (activateCheck b c conn session token req).run.run w = (.ok session', w')) :
    sessionValidateSecureChannel b session conn.channel.channelId = .ok () ∧
      session' = { session with state := .activated } := by
  simp only [activateCheck, bind_returns, mk_pure_returns] at h
  obtain ⟨⟨⟩, u, ⟨hchannel, rfl⟩, h⟩ := h
  refine ⟨hchannel, ?_⟩
  split at h
  · exact (throw_returns.mp h).elim
  · obtain ⟨u, h⟩ := when_returns h
    obtain ⟨⟨⟩, v, -, h⟩ := bind_returns.mp h
    have hactivate := (mk_pure_returns.mp h).1
    simp only [sessionActivate, guard_eq_ok, pure_eq_ok] at hactivate
    exact hactivate.2.2.2.symm

theorem activateSession_returns {sessions : List Session} {req : ActivateSessionRequest}
    {w w' : W} {i : Nat} {session' : Session}
    (h : (activateSession b c conn sessions req).run.run w = (.ok (i, session'), w')) :
    ∃ session, sessions[i]? = some session ∧ session.open = true ∧
      sessionValidateSecureChannel b session conn.channel.channelId = .ok () ∧
      session' = { session with state := .activated } := by
  unfold activateSession at h
  split at h
  · exact (throw_returns.mp h).elim
  · split at h
    · exact (throw_returns.mp h).elim
    · rename_i token _ j hfind
      simp only [bind_returns, pure_returns, Prod.mk.injEq] at h
      obtain ⟨session'', u, hcheck, ⟨rfl, rfl⟩, -⟩ := h
      obtain ⟨session, hsession, hopen, -⟩ := sessionFindByToken_eq_some hfind
      rw [List.getD_eq_getElem?_getD, hsession] at hcheck
      exact ⟨session, hsession, hopen, activateCheck_returns hcheck⟩

theorem handleActivateSession_returns {s t : HandlerState (List Session) W cap} {i : Nat}
    (h : (handleActivateSession b c conn).run.run s = (.ok (some i), t)) :
    ∃ session, s.state[i]? = some session ∧ session.open = true ∧
      sessionValidateSecureChannel b session conn.channel.channelId = .ok () := by
  simp only [handleActivateSession, activateDecoded, bind_returns, decode_returns, state_returns,
    adapter_returns] at h
  obtain ⟨req, s₁, ⟨r, -, rfl⟩, sessions, s₂, ⟨rfl, rfl⟩, result, s₃, ⟨hresult, rfl⟩, h⟩ := h
  have hfst : result.toOption.map Prod.fst = some i := by
    split at h <;> simp only [bind_returns, pure_returns] at h
    · obtain ⟨⟨⟩, u, -, ⟨⟩, v, -, heq, -⟩ := h
      exact heq
    · obtain ⟨⟨⟩, v, -, heq, -⟩ := h
      exact heq
  obtain ⟨⟨j, session'⟩, hsome, rfl⟩ := Option.map_eq_some_iff.mp hfst
  cases result with
  | error e => cases hsome
  | ok p =>
    obtain ⟨session, hsession, hopen, hchannel, -⟩ :=
      activateSession_returns
        (returns_of_fst (hresult.symm.trans (congrArg Except.ok (Option.some.inj hsome))))
    exact ⟨session, hsession, hopen, hchannel⟩

end Activate

section Close

theorem closeSubscriptions_runs (sessionId : UInt32) (s : Subscriptions W) :
    DeleteRuns b s (closeSubscriptions b sessionId s) := by
  refine foldl_rel (R := DeleteRuns b) (fun t i => ?_) _ s
  split
  · split
    · exact .op (.deleteSubscription _ _) ⟨_, _, rfl⟩
    · exact refl t
  · exact refl t

def CloseStep (b : Build) (s t : List Session × Subscriptions W) : Prop := DeleteRuns b s.2 t.2

instance : Std.Refl (CloseStep (W := W) b) := ⟨fun s => refl s.2⟩

instance : IsTrans (List Session × Subscriptions W) (CloseStep b) :=
  ⟨fun _ _ _ h h' => Relation.ReflTransGen.trans h h'⟩

theorem closeSession_step (active : Nat) (token : NodeId) (st : List Session × Subscriptions W) :
    CloseStep b st (closeSession b active token st).2 := by
  unfold closeSession
  split
  · exact refl st
  · split
    · exact refl st
    · dsimp only
      split
      · exact closeSubscriptions_runs _ _
      · exact refl st.2

theorem handleCloseSession_effect (active : Nat) :
    Effect (CloseStep b)
      (handleCloseSession b active : HandlerM (List Session × Subscriptions W) W cap Unit) :=
  .bind (.decode _) (fun _ => .bind (.decode _) (fun _ => .bind (.update (closeSession_step active _))
    (fun _ => .encode _)))

end Close

section Size

structure Config.Encodable (c : Config W) : Prop where
  url : c.endpointUrl.length ≤ maxEncodedStringLength
  uri : c.applicationUri.size ≤ maxEncodedStringLength
  product : c.productUri.size ≤ maxEncodedStringLength
  name : c.applicationName.size ≤ maxEncodedStringLength

def Config.descriptionSize (c : Config W) : Nat :=
  (4 + c.applicationUri.size) + ((4 + c.productUri.size) +
    ((match c.applicationName with
      | none => 1
      | some name => 1 + (4 + name.length)) + (4 + (4 + (4 + (4 + (4 + c.endpointUrl.length)))))))

theorem writeUserTokenPolicy_sized {t : Bytes × UInt32} (h : t.1.length ≤ maxEncodedStringLength) :
    Sized ((4 + t.1.length) + (4 + (4 + (4 + 4)))) (writeUserTokenPolicy t : WriteM cap Unit) := by
  have hnull : Sized 4 (writeString none : WriteM cap Unit) := writeString_sized (Nat.zero_le _)
  exact .bind (writeString_sized (s := some t.1) h)
    (.bind (writeUInt32_sized _) (.bind hnull (.bind hnull hnull)))

def userTokenPolicySize (t : Bytes × UInt32) : Nat := (4 + t.1.length) + (4 + (4 + (4 + 4)))

def endpointSize (b : Build) (c : Config W) (d : EndpointDescription) : Nat :=
  (4 + c.endpointUrl.length) + (c.descriptionSize + ((4 + d.certificate.size) + (4 +
    ((4 + MuString.size (d.policy.uri b.security)) +
      (4 + (((userTokenPolicies b d.policy).map userTokenPolicySize).sum +
        ((4 + transportProfileUri.length) + 1)))))))

theorem policyUri_size (security : Bool) (policy : SecurityPolicyId) :
    MuString.size (policy.uri security) ≤ 64 := by
  cases security <;> cases policy <;> decide

theorem discoveryGetEndpoints_certificate {certificate : MuString} {d : EndpointDescription}
    (h : d ∈ discoveryGetEndpoints b certificate) : d.certificate = certificate := by
  simp only [discoveryGetEndpoints, List.mem_cons] at h
  rcases h with rfl | h
  · rfl
  · split at h
    · simp only [List.mem_cons, List.not_mem_nil, or_false] at h
      rcases h with rfl | rfl | rfl | rfl <;> rfl
    · cases h

theorem applicationDescriptionEncode_costs :
    Costs c.Encodable c.descriptionSize (applicationDescriptionEncode c : WriteM cap Unit) := by
  have hnull : Costs True 4 (writeString none : WriteM cap Unit) :=
    .of_sized (writeString_sized (Nat.zero_le _))
  have hurl : Costs (c.endpointUrl.length ≤ maxEncodedStringLength) (4 + c.endpointUrl.length)
      (writeString (some c.endpointUrl) : WriteM cap Unit) := writeString_costs (some c.endpointUrl)
  have hrest :
      Costs (c.endpointUrl.length ≤ maxEncodedStringLength)
      (4 + (4 + (4 + (4 + (4 + c.endpointUrl.length))))) (do
      writeUInt32 0
      writeString none
      writeString none
      writeInt32 1
      writeString (some c.endpointUrl) : WriteM cap Unit) :=
    Costs.congr (.bind (.of_sized (writeUInt32_sized 0)) (.bind hnull (.bind hnull
      (.bind (.of_sized (writeUInt32_sized _)) hurl)))) (by simp) rfl
  have hiff : c.Encodable ↔ c.applicationUri.size ≤ maxEncodedStringLength ∧
    c.productUri.size ≤ maxEncodedStringLength ∧
      c.applicationName.size ≤ maxEncodedStringLength ∧ c.endpointUrl.length ≤ maxEncodedStringLength :=
    ⟨fun h => ⟨h.uri, h.product, h.name, h.url⟩, fun ⟨huri, hproduct, hname, hurl⟩ =>
      ⟨hurl, huri, hproduct, hname⟩⟩
  rw [hiff]
  simp only [applicationDescriptionEncode, Config.descriptionSize]
  refine .bind (writeString_costs _) (.bind (writeString_costs _) ?_)
  cases c.applicationName with
  | none =>
    exact ((Costs.of_sized (writeBytes_sized [0])).bind hrest).congr (by simp [MuString.size]) rfl
  | some name =>
    rw [Nat.add_assoc]
    exact Costs.congr
      (.bind (.of_sized (writeBytes_sized [2])) (.bind (writeString_costs (some name)) hrest))
      (by simp) rfl

theorem userTokenPolicies_costs (policy : SecurityPolicyId) :
    Costs True ((userTokenPolicies b policy).map userTokenPolicySize).sum
      (writeEach writeUserTokenPolicy (userTokenPolicies b policy) : WriteM cap Unit) := by
  refine .of_sized (writeEach_sized (fun t ht => writeUserTokenPolicy_sized ?_))
  simp only [userTokenPolicies, List.mem_cons] at ht
  obtain rfl | ht := ht
  · decide
  · split at ht
    · obtain rfl := List.mem_singleton.mp ht
      decide
    · cases ht

theorem endpointDescriptionEncode_costs (d : EndpointDescription) :
    Costs (c.Encodable ∧ d.certificate.size ≤ maxEncodedStringLength) (endpointSize b c d)
      (endpointDescriptionEncode b c d : WriteM cap Unit) := by
  have huri :
      Costs True (4 + MuString.size (d.policy.uri b.security))
      (writeString (d.policy.uri b.security) : WriteM cap Unit) :=
    .of_sized (writeString_sized ((policyUri_size _ _).trans (by decide)))
  have hprofile :
      Costs True (4 + transportProfileUri.length)
      (writeString (some transportProfileUri) : WriteM cap Unit) :=
    .of_sized (writeString_sized (s := some transportProfileUri) (by decide))
  have hurl : Costs (c.endpointUrl.length ≤ maxEncodedStringLength) (4 + c.endpointUrl.length)
      (writeString (some c.endpointUrl) : WriteM cap Unit) := writeString_costs (some c.endpointUrl)
  refine Costs.congr
    (.bind hurl
      (.bind applicationDescriptionEncode_costs
        (.bind (writeString_costs d.certificate)
          (.bind (.of_sized (writeUInt32_sized _))
            (.bind huri
              (.bind (.of_sized (writeUInt32_sized _))
                (.bind (userTokenPolicies_costs _)
                  (.bind hprofile (.of_sized (writeBytes_sized [d.level])))))))))) ?_ rfl
  constructor
  · rintro ⟨-, hc, hcert, -⟩
    exact ⟨hc, hcert⟩
  · rintro ⟨hc, hcert⟩
    exact ⟨hc.url, hc, hcert, trivial, trivial, trivial, trivial, trivial, trivial⟩

section Answers

variable {σ : Type} {p : Prop} {ok : W → Prop} {n : Nat} {size : W → Nat}

/-- On a writer that has not failed the handler returns exactly if, in the world it finds, `ok` holds and
there is room for the answer, which it has then written. -/
structure AnswersIf (ok : W → Prop) (size : W → Nat) (m : HandlerM σ W cap Unit) : Prop where
  returns : ∀ s, s.writer.status = none → ok s.world → s.writer.bytes.length + size s.world ≤ cap →
    ∃ t, m.run.run s = (.ok (), t)
  needs : ∀ s t, s.writer.status = none → m.run.run s = (.ok (), t) →
    ok s.world ∧ t.writer.bytes.length = s.writer.bytes.length + size s.world

theorem AnswersIf.encode_bind {m : WriteM cap Unit} {f : Unit → HandlerM σ W cap Unit} (hm : Costs p n m)
    (hf : AnswersIf ok size (f ())) :
    AnswersIf (fun w => p ∧ ok w) (fun w => n + size w) (encode m >>= f) := by
  refine ⟨fun s hs hok hroom => ?_, fun s t hs hrun => ?_⟩
  · obtain ⟨w, hrun, hw, hlen⟩ := hm.returns s.writer hs hok.1 (by omega)
    obtain ⟨t, ht⟩ := hf.returns { s with writer := w } hw hok.2 (by dsimp only at hroom ⊢; omega)
    exact ⟨t, bind_returns.mpr ⟨(), _, encode_returns.mpr ⟨w, hrun, rfl⟩, ht⟩⟩
  · obtain ⟨⟨⟩, u, hfirst, hrest⟩ := bind_returns.mp hrun
    obtain ⟨w, hw, rfl⟩ := encode_returns.mp hfirst
    obtain ⟨hp, hstatus, hlen⟩ := hm.wrote hs hw
    obtain ⟨hok, hlength⟩ := hf.needs _ t hstatus hrest
    exact ⟨⟨hp, hok⟩, by dsimp only at hlength ⊢; omega⟩

theorem AnswersIf.encode {m : WriteM cap Unit} (hm : Costs p n m) :
    AnswersIf (fun _ => p) (fun _ => n) (encode m : HandlerM σ W cap Unit) := by
  refine ⟨fun s hs hp hroom => ?_, fun s t hs hrun => ?_⟩
  · obtain ⟨w, hrun, -⟩ := hm.returns s.writer hs hp hroom
    exact ⟨_, encode_returns.mpr ⟨w, hrun, rfl⟩⟩
  · obtain ⟨w, hw, rfl⟩ := encode_returns.mp hrun
    obtain ⟨hp, -, hlen⟩ := hm.wrote hs hw
    exact ⟨hp, hlen⟩

theorem AnswersIf.adapter_bind {α : Type} {a : StateM W α} {f : α → HandlerM σ W cap Unit}
    {ok : α → W → Prop} {size : α → W → Nat} (hf : ∀ x, AnswersIf (ok x) (size x) (f x)) :
    AnswersIf (fun w => ok (a.run w).1 (a.run w).2) (fun w => size (a.run w).1 (a.run w).2)
      (adapter a >>= f) :=
  ⟨fun s hs => (hf _).returns { s with world := (a.run s.world).2 } hs,
    fun s t hs => (hf _).needs { s with world := (a.run s.world).2 } t hs⟩

theorem AnswersIf.update_bind {α : Type} {g : σ → α × σ} {f : α → HandlerM σ W cap Unit}
    (hf : ∀ x, AnswersIf ok size (f x)) : AnswersIf ok size (update g >>= f) :=
  ⟨fun s hs => (hf _).returns { s with state := (g s.state).2 } hs,
    fun s t hs => (hf _).needs { s with state := (g s.state).2 } t hs⟩

end Answers

def createResponseSize (b : Build) (c : Config W) (sessionId token : UInt32)
    (certificate endpointCertificate algorithm signature : MuString) : Nat :=
  28 + ((nodeIdSize sessionId + (nodeIdSize token + (8 + (4 + serverNonceLength)))) +
    ((4 + certificate.size) +
      ((4 + (((discoveryGetEndpoints b endpointCertificate).map (endpointSize b c)).sum + 4)) +
        ((4 + algorithm.size) + ((4 + signature.size) + 4)))))

structure CreateResponseFits (b : Build) (c : Config W) (conn : ConnView) (req : CreateSessionRequest)
    (sessionId token : UInt32) (cap : Nat) (w : W) : Prop where
  config : c.Encodable
  certificate : ((ownCertificate c).run w).1.size ≤ maxEncodedStringLength
  endpoints : ((ownCertificate c).run ((ownCertificate c).run w).2).1.size ≤ maxEncodedStringLength
  signature :
    let s :=
      ((serverSignature b c conn.channel req).run
        ((ownCertificate c).run ((ownCertificate c).run w).2).2).1
    s.1.size ≤ maxEncodedStringLength ∧ s.2.size ≤ maxEncodedStringLength
  room :
    let s :=
      ((serverSignature b c conn.channel req).run
        ((ownCertificate c).run ((ownCertificate c).run w).2).2).1
    createResponseSize b c sessionId token ((ownCertificate c).run w).1
      ((ownCertificate c).run ((ownCertificate c).run w).2).1 s.1 s.2 ≤ cap

def createdSize (b : Build) (c : Config W) (conn : ConnView) (req : CreateSessionRequest)
    (sessionId token : UInt32) (w : W) : Nat :=
  let s :=
    ((serverSignature b c conn.channel req).run
      ((ownCertificate c).run ((ownCertificate c).run w).2).2).1
  createResponseSize b c sessionId token ((ownCertificate c).run w).1
    ((ownCertificate c).run ((ownCertificate c).run w).2).1 s.1 s.2

theorem handleCreateSession_eq :
    (handleCreateSession b c conn : SessionM W cap Unit) =
      decode readCreateSession >>= fun req =>
      checked (createSessionCertCheck b conn req.2.clientCert) >>= fun _ =>
        state >>= fun sessions => adapterChecked (allocateSession c.platform sessions) >>= fun a =>
          updateChecked (createInSlot b a.2.1 req.2.timeoutBits a.2.2.1 a.2.2.2 conn) >>= fun _ =>
            respondCreated b c conn req a.1 a.2.1 a.2.2.1 a.2.2.2 := rfl

theorem discoveryGetEndpoints_costs (certificate : MuString) :
    Costs (c.Encodable ∧ certificate.size ≤ maxEncodedStringLength)
      (4 + (((discoveryGetEndpoints b certificate).map (endpointSize b c)).sum + 4)) (do
        writeInt32 (discoveryGetEndpoints b certificate).length
        writeEach (endpointDescriptionEncode b c) (discoveryGetEndpoints b certificate)
        writeInt32 0 : WriteM cap Unit) := by
  refine Costs.congr (.bind (.of_sized (writeUInt32_sized _)) (.bind
    (.writeEach (fun d => endpointDescriptionEncode_costs d) _) (.of_sized (writeUInt32_sized _)))) ?_
      rfl
  constructor
  · rintro ⟨-, hall, -⟩
    exact hall _ (List.mem_cons_self ..)
  · rintro ⟨hc, hcert⟩
    refine ⟨trivial, fun d hd => ⟨hc, ?_⟩, trivial⟩
    rwa [discoveryGetEndpoints_certificate hd]

theorem respondCreated_answers (req : RequestHeader × CreateSessionRequest)
    (nonce : Block serverNonceLength) (slot : Nat) (sessionId token : UInt32)
    (s : HandlerState (List Session) W cap) (hs : s.writer = .init) :
    ((∃ t, (respondCreated b c conn req nonce slot sessionId token).run.run s = (.ok (), t)) ↔
      CreateResponseFits b c conn req.2 sessionId token cap s.world) ∧
    ∀ t, (respondCreated b c conn req nonce slot sessionId token).run.run s = (.ok (), t) →
      t.writer.bytes.length = createdSize b c conn req.2 sessionId token s.world := by
  have hnonce : Sized (4 + serverNonceLength) (writeBytestring (some nonce.1) : WriteM cap Unit) := by
    have hsized : Sized (4 + nonce.1.length) (writeString (some nonce.1) : WriteM cap Unit) :=
      writeString_sized (s := some nonce.1)
        (by simp only [MuString.size, Option.getD_some, nonce.2]; decide)
    rwa [nonce.2] at hsized
  have hids : Sized (nodeIdSize sessionId + (nodeIdSize token + (8 + (4 + serverNonceLength)))) (do
      writeNodeId (.ns0 sessionId)
      writeNodeId (.ns0 token)
      writeUInt64 (clampTimeoutBits req.2.timeoutBits)
      writeBytestring (some nonce.1) : WriteM cap Unit) :=
    .bind (writeNodeId_sized _)
      (.bind (writeNodeId_sized _) (.bind ⟨_, writeBytes_encodes _, by simp⟩ hnonce))
  have hlast (sig : MuString × MuString) :
      AnswersIf (fun _ => sig.1.size ≤ maxEncodedStringLength ∧ sig.2.size ≤ maxEncodedStringLength)
        (fun _ => (4 + sig.1.size) + ((4 + sig.2.size) + 4)) (do
          encode do
            writeString sig.1
            writeBytestring sig.2
            writeUInt32 0 : SessionM W cap Unit) :=
    .encode (Costs.congr (.bind (writeString_costs sig.1) (.bind (writeString_costs sig.2)
      (.of_sized (writeUInt32_sized 0)))) (by simp) rfl)
  have hprefix :
      Costs True 28
      (writeResponsePrefix createSessionResponseId req.1.requestHandle good : WriteM cap Unit) :=
    .of_sized (responsePrefix_sized (by decide) _ _)
  have hanswers :
      AnswersIf _ _ (respondCreated b c conn req nonce slot sessionId token : SessionM W cap Unit) :=
    .encode_bind hprefix (.update_bind fun _ =>
        .encode_bind (.of_sized hids) (.adapter_bind fun certificate =>
      .encode_bind (writeString_costs certificate) (.adapter_bind fun certificate' =>
        .encode_bind (discoveryGetEndpoints_costs certificate') (.adapter_bind hlast))))
  have hstatus : s.writer.status = none := by rw [hs]; rfl
  have hlength (t : HandlerState (List Session) W cap)
      (ht : (respondCreated b c conn req nonce slot sessionId token).run.run s = (.ok (), t)) :
      t.writer.bytes.length = createdSize b c conn req.2 sessionId token s.world := by
    have hlen := (hanswers.needs s t hstatus ht).2
    rw [hs] at hlen
    simpa [Writer.init, createdSize, createResponseSize] using hlen
  refine ⟨⟨?_, ?_⟩, hlength⟩
  · rintro ⟨t, ht⟩
    obtain ⟨-, -, hcert, ⟨hc, hcert'⟩, hsig⟩ := (hanswers.needs s t hstatus ht).1
    exact ⟨hc, hcert, hcert', hsig, (hlength t ht).symm.trans_le t.writer.fits⟩
  · rintro ⟨hc, hcert, hcert', hsig, hroom⟩
    refine hanswers.returns s hstatus ⟨trivial, trivial, hcert, ⟨hc, hcert'⟩, hsig⟩ ?_
    rw [hs]
    simpa [Writer.init, createResponseSize] using hroom

/-- A CreateSession that gets a slot for its session answers as `respondCreated` does. -/
theorem handleCreateSession_run {req : RequestHeader × CreateSessionRequest}
    {nonce : Block serverNonceLength} {slot : Nat} {sessionId token : UInt32} {r : Reader} {w : W}
    {sessions : List Session} {s : HandlerState (List Session) W cap}
    (hdecode : readCreateSession.run.run s.reader = (.ok req, r))
    (hcheck : createSessionCertCheck b conn req.2.clientCert = .ok ())
    (hallocate : (allocateSession c.platform s.state).run.run s.world =
      (.ok (nonce, slot, sessionId, token), w))
    (hcreate : createInSlot b slot req.2.timeoutBits sessionId token conn s.state = (.ok (), sessions)) :
    (handleCreateSession b c conn).run.run s =
      (respondCreated b c conn req nonce slot sessionId token).run.run ⟨r, s.writer, sessions, w⟩ := by
  simp only [handleCreateSession_eq, run_decode_bind, hdecode, run_checked_bind, hcheck, run_state_bind,
    run_adapterChecked_bind, hallocate, run_updateChecked_bind, hcreate]

end Size

end MicroOpcua
