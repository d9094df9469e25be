import MicroOpcua.Core.Simulation
import MicroOpcua.Encoding.RoundTrip
import MicroOpcua.Encoding.WriterSteps

namespace MicroOpcua

open Lib.LittleEndian Lib.StateRun HandlerM

variable {σ τ W A α β : Type} {cap : Nat}

section Frame

def Service.responseTypeId : Service → UInt32
  | .findServers => 425
  | .getEndpoints => 431
  | .openSecureChannel => 449
  | .closeSecureChannel => 455
  | .createSession => 464
  | .activateSession => 470
  | .closeSession => 476
  | .read => 634
  | .registerNodes => 563
  | .unregisterNodes => 569
  | .translateBrowsePaths => 557
  | .browse => 530
  | .browseNext => 536
  | .queryFirst => 618
  | .queryNext => 624
  | .write => 676
  | .historyRead => 667
  | .historyUpdate => 703
  | .call => 715
  | .addNodes => 491
  | .addReferences => 497
  | .deleteNodes => 503
  | .deleteReferences => 509
  | .createMonitoredItems => 754
  | .modifyMonitoredItems => 766
  | .setMonitoringMode => 770
  | .setTriggering => 776
  | .deleteMonitoredItems => 784
  | .createSubscription => 790
  | .modifySubscription => 796
  | .setPublishingMode => 802
  | .deleteSubscriptions => 850
  | .publish => 829
  | .republish => 835

abbrev ServiceBody (W A : Type) :=
  ServerView W → RequestHeader → Bytes → (room : Nat) →
    StateM (A × W) (Except Fault (StatusCode × Encoded room))

/-- The frame of the handlers on the address space: each decodes the RequestHeader first, and each
response begins with `write_response_prefix` for the handle of that header. -/
def frameService (responseTypeId : UInt32) (body : ServiceBody W A) (view : ServerView W)
    (request : Bytes) (cap : Nat) : StateM (A × W) (Except Fault (Response cap)) :=
  match requestHeaderDecode.decode request with
  | .error e => return .error e
  | .ok header => do
    match ← body view header request (cap - 28) with
    | .error e => return .error e
    | .ok (status, rest) =>
      if h : 28 ≤ cap then
        return .ok ⟨responsePrefix responseTypeId header.requestHandle status ++ rest.1,
          List.ne_nil_of_length_pos (by simp), by simpa using Nat.add_le_of_le_sub' h rest.2⟩
      else return .error .encodingError

def Application.framed (app : Application W A) (bodies : Service → ServiceBody W A) : Application W A :=
  { app with serve := fun service => frameService service.responseTypeId (bodies service) }

end Frame

section Names

def Names (handle : UInt32) (response : Bytes) : Prop :=
  ∃ id status, responsePrefix id handle status <+: response

theorem frameService_names {responseTypeId : UInt32} {body : ServiceBody W A} {view : ServerView W}
    {request : Bytes} {r : Response cap} {s t : A × W}
    (h : (frameService responseTypeId body view request cap).run s = (.ok r, t)) :
    ∃ header, requestHeaderDecode.decode request = .ok header ∧ Names header.requestHandle r.1 := by
  unfold frameService at h
  cases hheader : requestHeaderDecode.decode request with
  | error e =>
    rw [hheader] at h
    cases h
  | ok header =>
    rw [hheader] at h
    refine ⟨header, rfl, ?_⟩
    rw [run_bind] at h
    cases hbody : ((body view header request (cap - 28)).run s).1 with
    | error e =>
      rw [hbody] at h
      cases h
    | ok out =>
      rw [hbody] at h
      dsimp only at h
      split at h
      · obtain rfl := Except.ok.inj (congrArg Prod.fst h)
        exact ⟨responseTypeId, out.1, List.prefix_append ..⟩
      · cases h

def ResponseGrows (s t : HandlerState σ W cap) : Prop := s.writer.bytes <+: t.writer.bytes

instance : Std.Refl (ResponseGrows : HandlerState σ W cap → HandlerState σ W cap → Prop) :=
  ⟨fun s => List.prefix_refl s.writer.bytes⟩

instance : IsTrans (HandlerState σ W cap) ResponseGrows := ⟨fun _ _ _ h h' => List.IsPrefix.trans h h'⟩

def BytesGrow (w w' : Writer cap) : Prop := w.bytes <+: w'.bytes

theorem writeRaw_bytesGrow (e : Fault) (bs : Bytes) :
    Moves BytesGrow (writeRaw e bs : WriteM cap Unit) := by
  intro w
  change w.bytes <+: ((dite _ _ _ : WriteM cap Unit).run.run w).2.bytes
  split
  · exact List.prefix_append ..
  · exact List.prefix_refl _

theorem writeBytes_bytesGrow (bs : Bytes) : Moves BytesGrow (writeBytes bs : WriteM cap Unit) := by
  intro w
  cases hs : w.status with
  | some e =>
    rw [writeBytes_run_of_failed hs]
    exact List.prefix_refl _
  | none =>
    by_cases h : w.bytes.length + bs.length ≤ cap
    · rw [writeBytes_run_of_fits hs h]
      exact List.prefix_append ..
    · rw [writeBytes_run_of_not_fits hs h]
      exact List.prefix_refl _

instance : Std.Refl (BytesGrow : Writer cap → Writer cap → Prop) := ⟨fun w => List.prefix_refl w.bytes⟩

instance : IsTrans (Writer cap) BytesGrow := ⟨fun _ _ _ h h' => List.IsPrefix.trans h h'⟩

instance : WriterStep (BytesGrow : Writer cap → Writer cap → Prop) where
  bytes := writeBytes_bytesGrow
  string s := by
    cases s with
    | none => exact writeBytes_bytesGrow _
    | some bs =>
      simp only [writeString]
      split
      · exact .bind (.throw _) (fun _ =>
          .bind (writeBytes_bytesGrow _) (fun _ => writeRaw_bytesGrow _ bs))
      · exact .bind (writeBytes_bytesGrow _) (fun _ => writeRaw_bytesGrow _ bs)

theorem Silent.grows {m : HandlerM σ W cap α} (hm : Silent m) : Moves ResponseGrows m :=
  fun s => by
    have hsame : (m.run.run s).2.writer = s.writer := hm s
    rw [ResponseGrows, hsame]

theorem encode_grows {m : WriteM cap α} (hm : Moves BytesGrow m) :
    Moves ResponseGrows (encode m : HandlerM σ W cap α) := fun s => hm s.writer

theorem repeatM_grows {m : HandlerM σ W cap Unit} (hm : Moves ResponseGrows m) (n : Nat) :
    Moves ResponseGrows (repeatM m n) := by
  induction n with
  | zero => exact .pure ()
  | succ n ih => exact .bind hm (fun _ => ih)

def Announces (handle : UInt32) (m : HandlerM σ W cap α) : Prop :=
  ∀ s a t, s.writer = .init → m.run.run s = (.ok a, t) → Names handle t.writer.bytes

namespace Announces

variable {handle : UInt32} {m : HandlerM σ W cap α} {f : α → HandlerM σ W cap β}

theorem silent_bind (hm : Silent m) (hf : ∀ a, Announces handle (f a)) : Announces handle (m >>= f) := by
  intro s b t hs h
  obtain ⟨a, u, hfirst, hrest⟩ := bind_returns.mp h
  have hsame := hm s
  rw [hfirst] at hsame
  exact hf a u b t (hsame.trans hs) hrest

theorem then_grows (hm : Announces handle m) (hf : ∀ a, Moves ResponseGrows (f a)) :
    Announces handle (m >>= f) := by
  intro s b t hs h
  obtain ⟨a, u, hfirst, hrest⟩ := bind_returns.mp h
  obtain ⟨id, status, hnames⟩ := hm s a u hs hfirst
  have hgrow := hf a u
  rw [hrest] at hgrow
  exact ⟨id, status, hnames.trans hgrow⟩

theorem throw (e : Fault) : Announces handle (MonadExcept.throw e : HandlerM σ W cap α) :=
  fun _ _ _ _ h => (throw_returns.mp h).elim

theorem guard {p : Prop} [Decidable p] {e : Fault} {f : PUnit → HandlerM σ W cap β}
    (hf : Announces handle (f ())) : Announces handle (if p then MonadExcept.throw e >>= f else f ()) :=
  fun s b t hs h => hf s b t hs (guard_returns.mp h).2

theorem encode_then {id : UInt32} (hid : 255 < id ∧ id ≤ 65535) {status : StatusCode}
    {f : Unit → WriteM cap α} (hf : Moves BytesGrow (f ())) :
    Announces handle
      (HandlerM.encode (writeResponsePrefix id handle status >>= f) : HandlerM σ W cap α) := by
  intro s a t hs h
  have hrun :
    (HandlerM.encode (writeResponsePrefix id handle status >>= f) : HandlerM σ W cap α).run.run s =
      (((writeResponsePrefix id handle status >>= f).run.run s.writer).1,
        { s with writer := ((writeResponsePrefix id handle status >>= f).run.run s.writer).2 }) := rfl
  rw [hrun, hs] at h
  obtain ⟨hfst, rfl⟩ := Prod.mk.inj h
  obtain ⟨u, w, hprefix, hrest⟩ := bind_returns.mp (returns_of_fst hfst)
  have hgrow := hf w
  rw [hrest] at hgrow
  obtain ⟨hfits, rfl⟩ := (writeResponsePrefix_encodes hid handle status).emits _ w rfl hprefix
  exact ⟨id, status, hgrow⟩

theorem encode {id : UInt32} (hid : 255 < id ∧ id ≤ 65535) {status : StatusCode} :
    Announces handle
      (HandlerM.encode (writeResponsePrefix id handle status) : HandlerM σ W cap Unit) := by
  have hthen :
    Announces handle (HandlerM.encode (writeResponsePrefix id handle status >>= fun _ => pure ()) :
      HandlerM σ W cap Unit) := encode_then hid (.pure ())
  rwa [show (writeResponsePrefix id handle status >>= fun _ => pure () : WriteM cap Unit) =
    writeResponsePrefix id handle status from bind_pure _] at hthen

end Announces

/-- If the handler returns a response to a request, the RequestHeader decoded and the response names its
handle. -/
def Echoes (m : HandlerM σ W cap α) : Prop :=
  ∀ s a t request, s.reader = .init request → s.writer = .init → m.run.run s = (.ok a, t) →
    ∃ header, requestHeaderDecode.decode request = .ok header ∧ Names header.requestHandle t.writer.bytes

namespace Echoes

variable {m : HandlerM σ W cap α} {f : α → HandlerM σ W cap β}

theorem decode {read : ReadM α} (handle : α → UInt32) (hread : ∀ r r' a, read.run.run r = (.ok a, r') →
      ∃ header r'', requestHeaderDecode.run.run r = (.ok header, r'') ∧ header.requestHandle = handle a)
    (hf : ∀ a, Announces (handle a) (f a)) : Echoes (HandlerM.decode read >>= f) := by
  intro s b t request hr hw h
  obtain ⟨a, u, hfirst, hrest⟩ := bind_returns.mp h
  obtain ⟨r', hread', rfl⟩ := decode_returns.mp hfirst
  obtain ⟨header, r'', hheader, hhandle⟩ := hread _ _ _ hread'
  rw [hr] at hheader
  refine ⟨header, ReadM.decode_eq_ok.mpr ⟨r'', hheader⟩, ?_⟩
  rw [hhandle]
  exact hf a { s with reader := r' } b t hw hrest

theorem header {f : RequestHeader → HandlerM σ W cap β}
    (hf : ∀ req, Announces req.requestHandle (f req)) :
    Echoes (HandlerM.decode requestHeaderDecode >>= f) :=
  decode (·.requestHandle) (fun _ r' a h => ⟨a, r', h, rfl⟩) hf

theorem zoom {m : HandlerM τ W cap α} {get : σ → τ} {set : τ → σ → σ} (hm : Echoes m) :
    Echoes (HandlerM.zoom get set m) := by
  intro s a t request hr hw h
  obtain ⟨u, hu, rfl⟩ := zoom_returns.mp h
  exact hm _ a u request hr hw hu

end Echoes

def Meets (Q : Bytes → Bytes → Prop) (m : HandlerM σ W cap α) : Prop :=
  ∀ s a t request, s.reader = .init request → s.writer = .init → m.run.run s = (.ok a, t) →
    Q request t.writer.bytes

variable {Q : Bytes → Bytes → Prop}

theorem Echoes.meets {m : HandlerM σ W cap α} (hm : Echoes m)
    (hQ : ∀ request response header, requestHeaderDecode.decode request = .ok header →
      Names header.requestHandle response → Q request response) : Meets Q m := by
  intro s a t request hr hw h
  obtain ⟨header, hheader, hnames⟩ := hm s a t request hr hw h
  exact hQ request _ header hheader hnames

theorem Meets.silent {m : HandlerM σ W cap α} {f : α → HandlerM σ W cap β} (hm : Meets Q m)
    (hf : ∀ a, Silent (f a)) : Meets Q (m >>= f) := by
  intro s b t request hr hw h
  obtain ⟨a, u, hfirst, hrest⟩ := bind_returns.mp h
  have hsame := hf a u
  rw [hrest] at hsame
  rw [hsame]
  exact hm s a u request hr hw hfirst

theorem Meets.state_bind {f : σ → HandlerM σ W cap β} (hf : ∀ st, Meets Q (f st)) :
    Meets Q (HandlerM.state >>= f) := by
  intro s b t request hr hw h
  obtain ⟨st, u, hfirst, hrest⟩ := bind_returns.mp h
  obtain ⟨-, rfl⟩ := state_returns.mp hfirst
  exact hf st _ b t request hr hw hrest

theorem Names.ne_nil {handle : UInt32} {response : Bytes} (h : Names handle response) :
    response ≠ [] := by
  obtain ⟨id, status, hprefix⟩ := h
  rintro rfl
  exact absurd (congrArg List.length (List.prefix_nil.mp hprefix)) (by simp)

end Names

section Handlers

variable {b : Build} {c : Config W}

def Ensures (P : α → Prop) (m : ReadM α) : Prop := ∀ r a r', m.run.run r = (.ok a, r') → P a

theorem Ensures.bind {P : β → Prop} {m : ReadM α} {f : α → ReadM β} (hf : ∀ a, Ensures P (f a)) :
    Ensures P (m >>= f) := by
  intro r b r' h
  obtain ⟨a, u, -, hrest⟩ := bind_returns.mp h
  exact hf a u b r' hrest

theorem Ensures.pure {P : α → Prop} {a : α} (ha : P a) : Ensures P (Pure.pure a) := by
  intro r a' r' h
  obtain ⟨rfl, -⟩ := pure_returns.mp h
  exact ha

theorem Ensures.guard {P : α → Prop} {p : Prop} [Decidable p] {e : Fault} {f : PUnit → ReadM α}
    (hf : Ensures P (f ())) : Ensures P (if p then throw e >>= f else f ()) :=
  fun r a r' h => hf r a r' (guard_returns.mp h).2

theorem header_first {g : RequestHeader → ReadM α} {handle : α → UInt32}
    (hg : ∀ header, Ensures (fun a => header.requestHandle = handle a) (g header))
    (r r' : Reader) (a : α)
    (h : (requestHeaderDecode >>= g).run.run r = (.ok a, r')) :
    ∃ header r'', requestHeaderDecode.run.run r = (.ok header, r'') ∧
      header.requestHandle = handle a := by
  obtain ⟨header, u, hheader, hrest⟩ := bind_returns.mp h
  exact ⟨header, u, hheader, hg header u a r' hrest⟩

theorem handleOpenSecureChannel_echoes (policy clientCert : MuString) :
    Echoes (handleOpenSecureChannel b c policy clientCert : ChannelM W cap Unit) := by
  have htoken (ch : SecureChannel) (now : UInt64) (nonce : Bytes) :
      Moves BytesGrow (writeSecurityToken ch now nonce : WriteM cap Unit) :=
    .bind (uncheckedWrite_moves (WriterStep.bytes _)) fun _ =>
        .bind (uncheckedWrite_moves (WriterStep.bytes _)) fun _ =>
      .bind (uncheckedWrite_moves (WriterStep.bytes _)) fun _ =>
        .bind (uncheckedWrite_moves (WriterStep.bytes _)) fun _ =>
            .bind (uncheckedWrite_moves (WriterStep.bytes _)) fun _ => .bind checkWriter_moves fun _ =>
          WriterStep.string _
  refine .decode (·.requestHandle) (header_first fun _ => .bind fun _ => .bind fun _ =>
      .bind fun _ => .bind fun _ =>
    .bind fun _ => .bind fun _ => .bind fun _ => .pure rfl) (fun req => ?_)
  refine .silent_bind (adapterChecked_writer · _) (fun nonce => ?_)
  refine .silent_bind state_writer (fun ch => .silent_bind (checked_writer · _) (fun ch' => ?_))
  refine .silent_bind (update_writer · _) (fun _ => .silent_bind (checked_writer · _) (fun _ => ?_))
  refine .then_grows (.encode (by decide)) (fun _ => ?_)
  refine .bind (Silent.grows (adapter_writer · _)) (fun now =>
    .bind (encode_grows (htoken _ _ _)) (fun _ => ?_))
  refine .bind (Silent.grows (update_writer · _)) (fun _ => ?_)
  split
  · exact (deriveChannelKeys_silent _ _ _).grows
  · exact .pure ()

open WriterStep

theorem applicationDescriptionEncode_grows :
    Moves BytesGrow (applicationDescriptionEncode c : WriteM cap Unit) := by
  have htail : Moves BytesGrow (do
      writeUInt32 0
      writeString none
      writeString none
      writeInt32 1
      writeString (some c.endpointUrl) : WriteM cap Unit) :=
    .bind (bytes _) fun _ => .bind (string _) fun _ => .bind (string _) fun _ =>
      .bind (bytes _) fun _ => string _
  refine .bind (string _) (fun _ => .bind (string _) (fun _ => ?_))
  dsimp only
  split
  · exact .bind (bytes _) (fun _ => htail)
  · exact .bind (bytes _) (fun _ => .bind (string _) (fun _ => htail))

theorem endpointDescriptionEncode_grows (d : EndpointDescription) :
    Moves BytesGrow (endpointDescriptionEncode b c d : WriteM cap Unit) := by
  have htoken (t : Bytes × UInt32) : Moves BytesGrow (writeUserTokenPolicy t : WriteM cap Unit) :=
    .bind (string _) fun _ => .bind (bytes _) fun _ => .bind (string _) fun _ =>
      .bind (string _) fun _ => string _
  refine .bind (string _) (fun _ => .bind applicationDescriptionEncode_grows (fun _ => ?_))
  refine .bind (string _) (fun _ =>
    .bind (bytes _) (fun _ => .bind (string _) (fun _ => .bind (bytes _) (fun _ => ?_))))
  exact .bind (writeEach_moves htoken _) (fun _ => .bind (string _) (fun _ => bytes _))

theorem handleCreateSession_echoes (conn : ConnView) :
    Echoes (handleCreateSession b c conn : SessionM W cap Unit) := by
  refine .decode (·.1.requestHandle) (header_first fun _ => .bind fun _ => .bind fun _ =>
    .guard (.pure rfl)) (fun req => .silent_bind (checked_writer · _) (fun _ => ?_))
  refine .silent_bind state_writer (fun sessions =>
    .silent_bind (adapterChecked_writer · _) (fun slot => ?_))
  refine .silent_bind (fun _ => rfl) (fun _ => .then_grows (.encode (by decide)) (fun _ => ?_))
  refine .bind (Silent.grows (update_writer · _)) (fun _ => .bind (encode_grows ?_) (fun _ => ?_))
  · exact .bind (writeNodeId_moves _) fun _ => .bind (writeNodeId_moves _) fun _ =>
      .bind (bytes _) fun _ => string _
  refine .bind (Silent.grows (adapter_writer · _)) (fun _ =>
    .bind (encode_grows (string _)) (fun _ => ?_))
  refine .bind (Silent.grows (adapter_writer · _)) (fun _ => .bind (encode_grows ?_) (fun _ => ?_))
  · exact .bind (bytes _) fun _ => .bind (writeEach_moves endpointDescriptionEncode_grows _) fun _ =>
      bytes _
  refine .bind (Silent.grows (adapter_writer · _)) (fun signature => encode_grows ?_)
  exact .bind (string _) fun _ => .bind (string _) fun _ => bytes _

theorem handleActivateSession_echoes (conn : ConnView) :
    Echoes (handleActivateSession b c conn : SessionM W cap (Option Nat)) := by
  have hread (header : RequestHeader) (algorithm signature : MuString) (tokenType : NodeId)
    (token : IdentityToken) :
      Ensures (fun req : ActivateSessionRequest => header.requestHandle = req.header.requestHandle) (do
        let r ← get
        let userTokenSignature ←
          if r.position < r.length then do
            let _ ← readString
            readBytestring
          else pure none
        return ⟨header, algorithm, signature, tokenType, token, userTokenSignature⟩) := by
    refine .bind fun r => ?_
    dsimp only
    split
    · exact .bind fun _ => .bind fun _ => .pure rfl
    · exact .bind fun _ => .pure rfl
  have hwrite (handle : UInt32) (status : StatusCode) :
      Announces handle (writeActivateResponse c handle status : SessionM W cap Unit) := by
    refine .then_grows (.encode (by decide)) (fun _ =>
      .bind (Silent.grows (adapter_writer · _)) (fun _ => ?_))
    exact encode_grows (.bind (string _) fun _ => .bind (uncheckedWrite_moves (bytes _)) fun _ =>
      .bind (uncheckedWrite_moves (bytes _)) fun _ => checkWriter_moves)
  refine .decode (·.header.requestHandle) (header_first fun _ => .bind fun _ =>
      .bind fun _ => .bind fun _ =>
    .bind fun _ => .bind fun _ => .bind fun _ => .bind fun _ => .bind fun _ =>
        .bind fun _ => .bind fun _ =>
      hread _ _ _ _ _) (fun req => .silent_bind state_writer (fun sessions => ?_))
  refine .silent_bind (adapter_writer · _) (fun result => ?_)
  split
  · exact .silent_bind (update_writer · _) (fun _ => .then_grows (hwrite _ _) (fun _ => .pure _))
  · exact .then_grows (hwrite _ _) (fun _ => .pure _)

theorem handleCloseSession_echoes (active : Nat) :
    Echoes (handleCloseSession b active : HandlerM (List Session × Subscriptions W) W cap Unit) :=
  .header fun _ => .silent_bind (decode_writer · _) fun _ => .silent_bind (update_writer · _) fun _ =>
    .encode (by decide)

theorem writeRevisedParameters_grows (sub : Subscription) :
    Moves BytesGrow (writeRevisedParameters sub : WriteM cap Unit) :=
  .bind (uncheckedWrite_moves (bytes _)) fun _ => .bind (uncheckedWrite_moves (bytes _)) fun _ =>
    .bind (uncheckedWrite_moves (bytes _)) fun _ => checkWriter_moves

theorem handleCreateSubscription_echoes (p : Platform W) (caller : Caller) :
    Echoes (handleCreateSubscription b p caller : SubscriptionM W cap Unit) := by
  refine .header fun req => .silent_bind (decode_writer · _) fun params =>
    .silent_bind (adapter_writer · _) fun now => ?_
  refine .silent_bind (fun _ => rfl) fun sub => .encode_then (by decide) ?_
  exact .bind (uncheckedWrite_moves (bytes _)) fun _ => writeRevisedParameters_grows sub

theorem handleModifySubscription_echoes (caller : Caller) :
    Echoes (handleModifySubscription b caller : SubscriptionM W cap Unit) := by
  refine .header fun req => .silent_bind (decode_writer · _) fun id =>
    .silent_bind (decode_writer · _) fun params => ?_
  exact .silent_bind (fun _ => rfl) fun _ => .encode_then (by decide) (writeRevisedParameters_grows _)

theorem driveSubscriptionIdStatusArray_announces {responseTypeId : UInt32}
    (hid : 255 < responseTypeId ∧ responseTypeId ≤ 65535) (requestHandle sessionId : UInt32)
    (subId : Option UInt32) (result : UInt32 → Subscriptions W → Except Fault Unit × Subscriptions W) :
    Announces requestHandle
      (driveSubscriptionIdStatusArray responseTypeId requestHandle sessionId subId result :
        SubscriptionM W cap Unit) := by
  refine .silent_bind (decode_writer · _) fun count => ?_
  unfold driveIds
  refine .guard (.silent_bind state_writer fun subs => .guard (.guard ?_))
  refine .then_grows (.encode_then hid (bytes _)) fun _ => .bind (repeatM_grows ?_ _) fun _ =>
    encode_grows (bytes _)
  exact .bind (Silent.grows (decode_writer · _)) fun id =>
      .bind (Silent.grows (update_writer · _)) fun r =>
    encode_grows (bytes _)

theorem handleRepublish_echoes (caller : Caller) :
    Echoes (handleRepublish caller : SubscriptionM W cap Unit) := by
  refine .header fun req => .silent_bind (decode_writer · _) fun ids =>
    .silent_bind state_writer fun subs => ?_
  split
  · exact .throw _
  · exact .encode_then (by decide) (writeRaw_bytesGrow _ _)

theorem driveItemOperations_echoes {responseTypeId : UInt32}
    (hid : 255 < responseTypeId ∧ responseTypeId ≤ 65535) (subs : List Subscription) (sessionId : UInt32)
    {setup : ItemM W cap α} (hsetup : Silent setup)
    {operation : UInt32 → α → ItemM W cap Unit}
    (hoperation : ∀ id a, Moves ResponseGrows (operation id a)) :
    Echoes (driveItemOperations subs sessionId responseTypeId setup operation) := by
  refine .header fun req => .silent_bind (decode_writer · _) fun count =>
    .silent_bind (checked_writer · _) fun _ => ?_
  refine .then_grows (.encode_then hid (bytes _)) fun _ => .bind hsetup.grows fun a => ?_
  exact .bind (repeatM_grows (hoperation _ a) _) fun _ => encode_grows (bytes _)

theorem createMonitoredItem_grows (p : Platform W) (resolve : NodeId → Option (Node W)) (subId : UInt32)
    (nowMs : UInt64) :
    Moves ResponseGrows (createMonitoredItem b p resolve subId nowMs : ItemM W cap Unit) := by
  have hresult (result : StatusCode) (itemId samplingMs queueSize : UInt32) :
      Moves ResponseGrows (encode (writeMonitoredItemCreateResult result itemId samplingMs queueSize) :
        ItemM W cap Unit) :=
    encode_grows (.bind (uncheckedWrite_moves (bytes _)) fun _ =>
        .bind (uncheckedWrite_moves (bytes _)) fun _ =>
      .bind (uncheckedWrite_moves (bytes _)) fun _ => .bind (uncheckedWrite_moves (bytes _)) fun _ =>
        .bind checkWriter_moves fun _ => writeExtensionObjectHeader_moves _ _)
  refine .bind (Silent.grows (adapter_writer · _)) fun _ =>
    .bind (Silent.grows (adapter_writer · _)) fun _ => ?_
  refine .bind (Silent.grows (decode_writer · _)) fun body => ?_
  unfold createDecoded
  split
  · exact hresult _ _ _ _
  refine .bind (Silent.grows (update_writer · _)) fun slot => ?_
  split
  · exact hresult _ _ _ _
  refine .bind (Silent.grows state_writer) fun _ => .bind (Silent.grows (adapter_writer · _)) fun _ => ?_
  exact .bind (Silent.grows (update_writer · _)) fun _ => hresult _ _ _ _

theorem modifyMonitoredItem_grows (subId : UInt32) :
    Moves ResponseGrows (modifyMonitoredItem b subId : ItemM W cap Unit) := by
  refine .bind (Silent.grows (decode_writer · _)) fun body =>
    .bind (Silent.grows (update_writer · _)) fun result => ?_
  exact encode_grows (.bind (uncheckedWrite_moves (bytes _)) fun _ =>
      .bind (uncheckedWrite_moves (bytes _)) fun _ =>
    .bind (uncheckedWrite_moves (bytes _)) fun _ => .bind checkWriter_moves fun _ =>
      writeExtensionObjectHeader_moves _ _)

theorem handleSetTriggering_echoes (subs : List Subscription) (caller : Caller) :
    Echoes (handleSetTriggering b subs caller : ItemM W cap Unit) := by
  have hresults (results : List StatusCode) :
      Moves BytesGrow (writeLinkResults results : WriteM cap Unit) :=
    .bind (bytes _) fun _ => .bind (writeEach_moves (fun _ => bytes _) _) fun _ => bytes _
  refine .header fun req => .silent_bind (decode_writer · _) fun ids =>
    .silent_bind (decode_writer · _) fun add => ?_
  refine .silent_bind (decode_writer · _) fun remove =>
    .guard (.guard (.guard (.silent_bind state_writer fun t => ?_)))
  refine .silent_bind (update_writer · _) fun _ => .encode_then (by decide) ?_
  exact .bind (hresults _) fun _ => hresults _

theorem callMethod_silent (app : Application W A) (caller : Caller) (objectId methodId : NodeId)
    (args : List Scalar) :
    Silent (callMethod b app caller objectId methodId args : CallM W A cap MethodResult) := by
  unfold callMethod
  split
  · split
    · split
      · exact fun _ => rfl
      · exact (update_writer · _)
    · exact fun _ => rfl
  · exact fun _ => rfl

theorem handleCall_echoes (app : Application W A) (caller : Caller) :
    Echoes (handleCall b app caller : CallM W A cap Unit) := by
  have hresult (r : MethodResult) : Moves BytesGrow (writeCallMethodResult r : WriteM cap Unit) :=
    .bind (bytes _) fun _ => .bind (bytes _) fun _ =>
        .bind (writeEach_moves (fun _ => bytes _) _) fun _ =>
      .bind (bytes _) fun _ => .bind (bytes _) fun _ => writeEach_moves writeVariant_moves _
  refine .header fun req => .silent_bind (decode_writer · _) fun count => .guard (.guard (.guard ?_))
  refine .then_grows (.encode_then (by decide) (bytes _)) fun _ => .bind (repeatM_grows ?_ _) fun _ =>
    encode_grows (bytes _)
  refine .bind (Silent.grows (decode_writer · _)) fun objectId =>
    .bind (Silent.grows (decode_writer · _)) fun methodId => ?_
  refine .bind (Silent.grows (decode_writer · _)) fun args => ?_
  exact .bind (callMethod_silent app caller objectId methodId args).grows fun r =>
    encode_grows (hresult r)

variable {app : Application W A} {service : Service}

theorem onApplication_returns {session : Option UInt32} {s t : HandlerState (Scope W A) W cap} {u : Unit}
    (h : (onApplication app service session : ScopeM W A cap Unit).run.run s = (.ok u, t)) :
    ∃ r x, (app.serve service ⟨s.state.shared.sessions, s.state.shared.subs,
      session⟩ s.reader.buffer cap).run (s.state.shared.app, s.world) = (.ok r, x) ∧
        t.writer.bytes = r.1 := by
  simp only [onApplication, ExceptT.run, ExceptT.mk, StateT.run] at h
  split at h
  · cases h
  · rename_i r _ _ hserve
    obtain ⟨-, rfl⟩ := Prod.mk.inj h
    exact ⟨r, _, hserve, rfl⟩

theorem onApplication_echoes (app : Application W A) (bodies : Service → ServiceBody W A)
    (service : Service) (session : Option UInt32) :
    Echoes (onApplication (app.framed bodies) service session : ScopeM W A cap Unit) := by
  intro s a t request hr hw h
  obtain ⟨r, x, hserve, hbytes⟩ := onApplication_returns h
  have hbuffer : s.reader.buffer = request := by rw [hr]; rfl
  rw [hbytes, ← hbuffer]
  exact frameService_names hserve

theorem handler_meets (req : Request) (h : service.answers = true) (active : Option (Nat × Session))
    (hQ : ∀ request response header, requestHeaderDecode.decode request = .ok header →
      Names header.requestHandle response → Q request response)
    (happ : ∀ service session, Meets Q (onApplication app service session : ScopeM W A cap Unit)) :
    Meets Q (handler b c app req service active : ScopeM W A cap Answer) := by
  have hpure {α : Type} {m : ScopeM W A cap α} (hm : Echoes m) (answer : α → Answer) :
      Meets Q (do return answer (← m)) := .silent (hm.meets hQ) (fun _ _ => rfl)
  refine .state_bind fun s => ?_
  cases service with
  | publish | closeSecureChannel => cases h
  | openSecureChannel => exact hpure (.zoom (handleOpenSecureChannel_echoes _ _)) _
  | createSession => exact hpure (.zoom (handleCreateSession_echoes _)) _
  | activateSession =>
    refine .silent (Echoes.meets (.zoom (handleActivateSession_echoes _)) hQ) (fun r => ?_)
    cases r <;> exact fun _ => rfl
  | closeSession => exact hpure (.zoom (handleCloseSession_echoes _)) _
  | createSubscription => exact hpure (.zoom (handleCreateSubscription_echoes _ _)) _
  | modifySubscription => exact hpure (.zoom (handleModifySubscription_echoes _)) _
  | setPublishingMode =>
    exact hpure (.zoom (.header fun _ => .silent_bind (decode_writer · _) fun _ =>
      driveSubscriptionIdStatusArray_announces (by decide) _ _ _ _)) _
  | deleteSubscriptions =>
    exact hpure (.zoom (.header fun _ => driveSubscriptionIdStatusArray_announces (by decide) _ _ _ _)) _
  | republish => exact hpure (.zoom (handleRepublish_echoes _)) _
  | createMonitoredItems =>
    exact hpure (.zoom (driveItemOperations_echoes (by decide) _ _ (adapter_writer · _)
      (fun id now => createMonitoredItem_grows _ _ id now))) _
  | modifyMonitoredItems =>
    exact hpure (.zoom (driveItemOperations_echoes (by decide) _ _ (fun _ => rfl)
      (fun id _ => modifyMonitoredItem_grows id))) _
  | setMonitoringMode =>
    exact hpure (.zoom (.header fun _ => .silent_bind (decode_writer · _) fun _ =>
      .silent_bind (decode_writer · _) fun _ =>
        driveSubscriptionIdStatusArray_announces (by decide) _ _ _ _)) _
  | deleteMonitoredItems =>
    exact hpure (.zoom (.header fun _ => .silent_bind (decode_writer · _) fun _ =>
      driveSubscriptionIdStatusArray_announces (by decide) _ _ _ _)) _
  | setTriggering => exact hpure (.zoom (handleSetTriggering_echoes _ _)) _
  | call => exact hpure (.zoom (handleCall_echoes _ _)) _
  | _ => exact .silent (happ _ _) (fun _ _ => rfl)

/-- Every service but Publish and CloseSecureChannel answers with the handle of the request. -/
theorem handler_echoes (app : Application W A) (bodies : Service → ServiceBody W A) (req : Request)
    (h : service.answers = true) (active : Option (Nat × Session)) :
    Echoes (handler b c (app.framed bodies) req service active : ScopeM W A cap Answer) :=
  handler_meets (Q := fun request response => ∃ header, requestHeaderDecode.decode request = .ok header ∧
    Names header.requestHandle response) req h active (fun _ _ header hheader hnames =>
    ⟨header, hheader, hnames⟩)
    (fun _ _ => onApplication_echoes app bodies _ _)

theorem handler_responds (req : Request) (h : service.answers = true) (active : Option (Nat × Session)) :
    Meets (fun _ response => response ≠ [])
      (handler b c app req service active : ScopeM W A cap Answer) := by
  refine handler_meets req h active (fun _ _ _ _ hnames => hnames.ne_nil) ?_
  intro service session s a t request _ _ hrun
  obtain ⟨r, x, -, hbytes⟩ := onApplication_returns hrun
  rw [hbytes]
  exact r.2.1

theorem serviceDispatch_responds {req : Request} {s : Scope W A} {w : W} {bs : Encoded cap}
    {row : ServiceRow} (hrow : findServiceDescriptor b req.typeId = some row)
    (hanswers : row.service.answers = true)
    (h : (serviceDispatch b c app req s w).result = .ok bs) : bs.1 ≠ [] := by
  unfold serviceDispatch at h
  split at h
  · cases h
  · rename_i active hgate
    obtain ⟨row', hrow', hclose⟩ := (dispatchGate_eq_ok hgate).row
    obtain rfl := Option.some.inj (hrow.symm.trans hrow')
    rw [hclose] at hanswers
    cases hanswers
  · rename_i service active hne hgate
    obtain ⟨row', hrow', rfl⟩ := (dispatchGate_eq_ok hgate).row
    obtain rfl := Option.some.inj (hrow.symm.trans hrow')
    split at h
    · cases h
    · rename_i answer out s' w' hexec
      obtain ⟨t, hrun, hbytes, -⟩ := execute_eq_ok hexec
      have hfull := handler_responds req hanswers active _ _ _ _ rfl rfl hrun
      rw [hbytes] at hfull
      obtain rfl := (Except.ok.inj h).symm
      cases answer with
      | parked => exact absurd hrun (handler_not_parked hanswers)
      | response | activated i => exact hfull

end Handlers

end MicroOpcua
