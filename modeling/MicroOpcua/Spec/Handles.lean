import MicroOpcua.Core.HandleLaws
import MicroOpcua.Core.Script
import MicroOpcua.Services.ReportLaws

namespace MicroOpcua

open Lib.LittleEndian Lib.StateRun HandlerM

variable {W A : Type} {b : Build} {c : Config W} {cap : Nat}

section Answers

theorem handler_publish_parks {app : Application W A} {req : Request} {active : Option (Nat × Session)}
    {s t : HandlerState (Scope W A) W cap} {answer : Answer}
    (h : (handler b c app req .publish active).run.run s = (.ok answer, t)) : answer = .parked := by
  obtain ⟨st, u, -, h⟩ := bind_returns.mp h
  obtain ⟨-, v, -, h⟩ := bind_returns.mp h
  exact (pure_returns.mp h).1.symm

theorem serviceDispatch_echoes (app : Application W A) (bodies : Service → ServiceBody W A)
    {req : Request} {s : Scope W A} {w : W} {bs : Encoded cap}
    (h : (serviceDispatch b c (app.framed bodies) req s w).result = .ok bs)
    (hne : bs.1 ≠ []) :
    ∃ header, requestHeaderDecode.decode req.body = .ok header ∧ Names header.requestHandle bs.1 := by
  unfold serviceDispatch at h
  split at h
  · cases h
  · obtain rfl := Except.ok.inj h
    exact absurd rfl hne
  · rename_i service active hclose hgate
    split at h
    · cases h
    · rename_i answer out s' w' hexec
      obtain ⟨t, hrun, hbytes, -⟩ := execute_eq_ok hexec
      obtain rfl := Except.ok.inj h
      by_cases hanswers : service.answers = true
      · have hfull : (answer.response? out).1 = out.1 := by
          cases answer with
          | parked => exact absurd rfl hne
          | response | activated i => rfl
        rw [hfull, ← hbytes]
        exact handler_echoes app bodies req hanswers active _ _ _ req.body rfl rfl hrun
      · have hservice : service = .publish := by
          cases service with
          | publish => rfl
          | closeSecureChannel => exact absurd rfl hclose
          | _ => exact absurd rfl hanswers
        subst hservice
        rw [handler_publish_parks hrun] at hne
        exact absurd rfl hne

variable {r : PublishRequest}

theorem publishRequestEnqueue_mem {queue queue' : List PublishRequest}
    (h : publishRequestEnqueue queue r = .ok queue') : r ∈ queue' := by
  unfold publishRequestEnqueue at h
  split at h
  · rename_i i hi
    obtain rfl := Except.ok.inj h
    have hlt : i < queue.length := (List.findIdx?_eq_some_iff_findIdx_eq.mp hi).1
    exact List.mem_set hlt r
  · cases h

theorem parkPublish_mem {s s' : Subscriptions W} (h : parkPublish r s = (.ok (), s')) :
    r ∈ s'.publishQueue := by
  unfold parkPublish at h
  split at h
  · rename_i queue hqueue
    obtain ⟨-, rfl⟩ := Prod.mk.inj h
    exact publishRequestEnqueue_mem hqueue
  · cases h

theorem handlePublish_parks {p : Platform W} {caller : Caller} {request : Bytes}
    {s s' : Subscriptions W} {w w' : W} {bs : Encoded cap}
    (h : (handlePublish b p caller).execute request s w = (.ok ((), bs), s', w')) :
    ∃ header, requestHeaderDecode.decode request = .ok header ∧
      ∃ r ∈ s'.publishQueue, r.requestHandle = header.requestHandle ∧
      r.requestId = caller.requestId := by
  obtain ⟨t, hrun, -, rfl⟩ := execute_eq_ok h
  obtain ⟨header, u, hheader, hrun⟩ := bind_returns.mp hrun
  obtain ⟨r, hread, rfl⟩ := decode_returns.mp hheader
  obtain ⟨count, u, -, hrun⟩ := bind_returns.mp hrun
  obtain ⟨acks, u, -, hrun⟩ := bind_returns.mp (guard_returns.mp hrun).2
  obtain ⟨now, u, -, hrun⟩ := bind_returns.mp hrun
  have hpark : parkPublish ⟨true, caller.sessionId, header.requestHandle, caller.requestId, now, acks,
      some caller.connection⟩ u.state = (.ok (), t.state) :=
    updateChecked_returns hrun
  exact ⟨header, ReadM.decode_eq_ok.mpr ⟨r, hread⟩, _, parkPublish_mem hpark, rfl, rfl⟩

theorem buildPublish_names {items : ItemList W} {sub : Subscription}
    {includeData : Bool} {n : Nat} {publishTime : UInt64} {body message : Bytes}
    (h : buildPublish b items sub r includeData n publishTime = .ok (body, message)) :
    Names r.requestHandle body := by
  simp only [buildPublish] at h
  split at h
  · rename_i start stop w hrun
    obtain ⟨data, -, hbytes, -⟩ := buildPublishResponse_returns hrun
    obtain ⟨rfl, -⟩ := Prod.mk.inj (Except.ok.inj h)
    rw [hbytes]
    exact ⟨publishResponseId, good, List.prefix_append ..⟩
  · cases h

end Answers

section Client

def readResponseHandle : ReadM UInt32 := do
  let _ ← readNodeId
  let _ ← readUInt64
  readUInt32

def responseHandle (response : Bytes) : Option UInt32 := (readResponseHandle.decode response).toOption

theorem readFourByteNodeId_decodes (ns : UInt8) (id : UInt16) :
    Decodes readNodeId ([1] ++ ([ns] ++ put 2 id.toNat)) ⟨ns.toUInt16, .numeric id.toUInt32⟩ :=
  .bind (readByte_decodes 1) (.bind (readByte_decodes ns) ((readUInt16_decodes id).map _))

theorem Names.responseHandle {handle : UInt32} {response : Bytes} (h : Names handle response) :
    responseHandle response = some handle := by
  obtain ⟨id, status, rest, rfl⟩ := h
  have hread : Decodes readResponseHandle
      (([1] ++ ([0] ++ put 2 id.toUInt16.toNat)) ++ (put 8 0 ++ put 4 handle.toNat)) handle :=
    .bind (readFourByteNodeId_decodes 0 _) (.bind (readUInt64_decodes 0) (readUInt32_decodes handle))
  obtain ⟨tail, htail⟩ : ∃ tail, responsePrefix id handle status ++ rest =
      (([1] ++ ([0] ++ put 2 id.toUInt16.toNat)) ++ (put 8 0 ++ put 4 handle.toNat)) ++ tail := by
    refine ⟨put 4 status.toNat ++ ([0] ++ (put 4 (UInt32.ofInt (-1)).toNat ++ (([0] ++ [0]) ++ [0]))) ++
      rest, ?_⟩
    simp only [responsePrefix, List.append_assoc]
  rw [htail, MicroOpcua.responseHandle, hread.decode]
  rfl

theorem answerBytes_error_handle (hcap : 28 ≤ cap) (e : Fault) :
    responseHandle (answerBytes (.error e : Except Fault (Encoded cap))) = some 0 := by
  have hnames : Names 0 (answerBytes (.error e : Except Fault (Encoded cap))) := by
    simp only [answerBytes, writeServiceFault_encode hcap]
    exact ⟨serviceFaultId, e.code, List.prefix_refl _⟩
  exact hnames.responseHandle

def headerBytes (handle : UInt32) : Bytes :=
  ([0] ++ [0]) ++
    (put 8 0 ++
      (put 4 handle.toNat ++ (put 4 0 ++ (stringBytes none ++ (put 4 0 ++ ([0] ++ ([0] ++ [0])))))))

theorem skipExtensionObject_decodes : Decodes skipExtensionObject (([0] ++ [0]) ++ [0]) () := by
  have hnull : Decodes readNodeId ([0] ++ [0]) ⟨0, .numeric 0⟩ :=
    .bind (readByte_decodes 0) ((readByte_decodes 0).map _)
  have hheader : Decodes readExtensionObjectHeader (([0] ++ [0]) ++ ([0] ++ [])) (⟨0, .numeric 0⟩, 0) :=
    .bind hnull (.bind (readByte_decodes 0) (.pure _))
  have hrest : Decodes (do
      let r ← get
      if r.position > r.length ∨ 0 > r.length - r.position then readerFail .decodingError
      skipBytes 0 : ReadM Unit) [] () := by
    intro r suffix hs hpos h
    have hfits : ¬ (r.position > r.length ∨ 0 > r.length - r.position) := by omega
    change (if r.position > r.length ∨ 0 > r.length - r.position then
      _ else _ : ReadM Unit).run.run r = _
    rw [if_neg hfits]
    rfl
  have hskip := hheader.bind (f := fun x => do
    let r ← get
    if r.position > r.length ∨ x.2 > r.length - r.position then readerFail .decodingError
    skipBytes x.2) hrest
  rwa [List.append_nil] at hskip

theorem headerBytes_decode (handle : UInt32) :
    ∃ header, requestHeaderDecode.decode (headerBytes handle) = .ok header ∧
      header.requestHandle = handle := by
  have hnull : Decodes readNodeId ([0] ++ [0]) ⟨0, .numeric 0⟩ :=
    .bind (readByte_decodes 0) ((readByte_decodes 0).map _)
  have hread :
      Decodes requestHeaderDecode (headerBytes handle) ⟨⟨0, .numeric 0⟩, 0, handle, 0, none, 0⟩ :=
    hnull.bind
      ((readUInt64_decodes 0).bind
        ((readUInt32_decodes handle).bind
          ((readUInt32_decodes 0).bind
            ((readString_decodes (s := none) (by decide)).bind
              ((readUInt32_decodes 0).bind (skipExtensionObject_decodes.map _))))))
  have hdecode : requestHeaderDecode.decode (headerBytes handle ++ []) = .ok _ := hread.decode
  rw [List.append_nil] at hdecode
  exact ⟨_, hdecode, rfl⟩

def unsupportedChunk (handle : UInt32) : Inbound :=
  ⟨false, 0, 0, 0, 0, none, none, .ns0 0, headerBytes handle⟩

theorem findServiceDescriptor_zero (b : Build) : findServiceDescriptor b 0 = none := by
  have hrows : (supportedServices b).all (fun row => row.requestId ≠ 0) = true := rfl
  refine List.find?_eq_none.mpr (fun row hrow => ?_)
  simpa using List.all_eq_true.mp hrows row (List.mem_of_mem_filter hrow)

/-- A response carries the handle of its request, whatever it is, also the late response to a parked
Publish request; a ServiceFault carries 0. So the answers to all requests with one handle carry it
exactly when it is 0. -/
theorem request_handle_answered_iff (app : Application W A) (bodies : Service → ServiceBody W A)
    (hcap : 28 ≤ cap) (before : SecureChannel) (s : Ctx W A) (handle : UInt32) :
    (∀ chunk header typeId response, requestHeaderDecode.decode chunk.body = .ok header →
      chunk.typeId.ns0Numeric? = some typeId →
      (dispatchInbound b c (app.framed bodies) cap before chunk typeId s).1 = .ok response →
        response.1 ≠ [] →
      responseHandle response.1 = some header.requestHandle) ∧
    (∀ caller request subs subs' w w' out,
      (handlePublish b c.platform caller : SubscriptionM W cap Unit).execute
        request subs w = (.ok out, subs', w') →
      ∃ header, requestHeaderDecode.decode request = .ok header ∧
        ∃ r ∈ subs'.publishQueue, r.requestHandle = header.requestHandle ∧
        r.requestId = caller.requestId) ∧
    (∀ (items : ItemList W) sub r includeData n publishTime body message,
      buildPublish b items sub r includeData n publishTime = .ok (body, message) →
      responseHandle body = some r.requestHandle) ∧
    ((∀ chunk header, requestHeaderDecode.decode chunk.body = .ok header →
      header.requestHandle = handle → ((respond b c (app.framed bodies) cap before chunk).run s).1 ≠ [] →
      responseHandle ((respond b c (app.framed bodies) cap before chunk).run s).1 = some handle) ↔
          handle = 0) := by
  have hgood (chunk : Inbound) (header : RequestHeader) (typeId : UInt32) (response : Encoded cap)
      (hheader : requestHeaderDecode.decode chunk.body = .ok header)
      (hresult : (dispatchInbound b c (app.framed bodies) cap before chunk typeId s).1 = .ok response)
      (hne : response.1 ≠ []) : responseHandle response.1 = some header.requestHandle := by
    obtain ⟨header', hheader', hnames⟩ := serviceDispatch_echoes app bodies hresult hne
    obtain rfl := Except.ok.inj (hheader.symm.trans hheader')
    exact hnames.responseHandle
  refine ⟨fun chunk header typeId response hheader _ => hgood chunk header typeId response hheader,
    fun _ _ _ _ _ _ _ => handlePublish_parks, fun _ _ _ _ _ _ _ _ hbuilt =>
    (buildPublish_names hbuilt).responseHandle,
    fun h => ?_, ?_⟩
  · obtain ⟨header, hdecode, hhandle⟩ := headerBytes_decode handle
    have hgate (st : Scope W A) : dispatchGate b ⟨s.conn.id, 0, headerBytes handle, 0, none, none⟩ st =
        .error .serviceUnsupported := by
      simp only [dispatchGate, findServiceDescriptor_zero]
      rfl
    have hrespond : ((respond b c (app.framed bodies) cap before (unsupportedChunk handle)).run s).1 =
        answerBytes (.error .serviceUnsupported : Except Fault (Encoded cap)) := by
      have hdispatch :
        (dispatchInbound b c (app.framed bodies) cap before (unsupportedChunk handle) 0 s).1 =
          .error .serviceUnsupported := by
        simp only [dispatchInbound, unsupportedChunk, serviceDispatch, hgate]
      rw [respond_run]
      exact congrArg answerBytes hdispatch
    have hanswer := h (unsupportedChunk handle) header hdecode hhandle
    rw [hrespond, answerBytes_error_handle hcap] at hanswer
    refine (Option.some.inj (hanswer fun hnil => ?_)).symm
    have hfault := answerBytes_error_handle hcap .serviceUnsupported
    rw [hnil] at hfault
    exact absurd hfault (by decide)
  · rintro rfl chunk header hheader hhandle hne
    rw [respond_run] at hne ⊢
    cases htype : chunk.typeId.ns0Numeric? with
    | none => exact answerBytes_error_handle hcap _
    | some typeId =>
      rw [htype] at hne
      dsimp only at hne ⊢
      cases hresult : (dispatchInbound b c (app.framed bodies) cap before chunk typeId s).1 with
      | error e => exact answerBytes_error_handle hcap e
      | ok response =>
        rw [hresult] at hne
        exact hhandle ▸ hgood chunk header typeId response hheader hresult hne

namespace Script

def framedApplication : Application Script Unit :=
  application.framed (fun _ _ _ _ _ s => (.error .serviceUnsupported, s))

def unknownSession : Server Script Unit :=
  playWith framedApplication (config 6 8192 none) (oneChannel 10 ++
    [deliver 10 (msg 2 (subscribeRequest 5))])

theorem request_handle_answered_iff_zero :
    28 ≤ 8168 ∧ ∀ conn ∈ unknownSession.conns, ∀ chunk header,
      requestHeaderDecode.decode chunk.body = .ok header → header.requestHandle = 0 →
      let response := ((respond build (config 6 8192 none) framedApplication 8168 conn.channel chunk).run
        (unknownSession.ctx conn)).1
      response ≠ [] → responseHandle response = some 0 :=
  ⟨by decide, fun conn _ =>
    (request_handle_answered_iff (b := build) (c := config 6 8192 none) application _
      (by decide) conn.channel (unknownSession.ctx conn) 0).2.2.2.mpr rfl⟩

end Script

def Event.requestHandle? : Event W A → Option UInt32
  | .dispatched _ _ chunk _ => (requestHeaderDecode.decode chunk.body).toOption.map (·.requestHandle)
  | _ => none

def Event.responseHandle? : Event W A → Option UInt32
  | .wrote ⟨_, _, _, .chunk _ _ payload _, _⟩ => responseHandle payload
  | _ => none

open Script in
/-- The request with handle 1 is answered with a ServiceFault for handle 0. -/
theorem fault_loses_request_handle :
    Reachable build (config 6 8192 none) framedApplication unknownSession ∧
      unknownSession.trace.head?.bind Event.responseHandle? = some 0 ∧
      unknownSession.trace.tail.head?.bind Event.requestHandle? = some 1 :=
  ⟨playWith_reachable (by decide) _, by decide +kernel⟩

end Client

end MicroOpcua
