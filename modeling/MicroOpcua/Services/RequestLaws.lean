import MicroOpcua.Lib.Steps
import MicroOpcua.Services.SubscriptionLaws

namespace MicroOpcua

open HandlerM Lib.LittleEndian Lib.StateRun Lib.Steps

variable {W σ α β π : Type} {cap size : Nat} {b : Build}

section Loop

/-- The elements of an array that a handler gets to: it stops at one that does not decode, and after one
whose result of `size` bytes finds no room in the response. -/
def reached (m : ReadM α) (size : Nat) : Nat → Reader → Nat → List α
  | 0, _, _ => []
  | n + 1, r, room =>
    match m.run.run r with
    | (.error _, _) => []
    | (.ok a, r) => if room < size then [a] else a :: reached m size n r (room - size)

def ResultWritten (size : Nat) (writer : Writer cap) (result : Except Fault Unit)
    (writer' : Writer cap) : Prop :=
  (writer.bytes.length + size ≤ cap ∧ result = .ok () ∧ writer'.status = none ∧
      writer'.bytes.length = writer.bytes.length + size) ∨
    cap < writer.bytes.length + size ∧ ∃ e, result = .error e

/-- A turn of the loop decodes an element with `m`, moves the state along `T` and writes `size` bytes. -/
structure HandlesElement (m : ReadM α) (size : Nat) (T : α → σ → σ → Prop)
    (step : HandlerM σ W cap Unit) : Prop where
  stops : ∀ s e r, m.run.run s.reader = (.error e, r) → ∃ e' t,
    step.run.run s = (.error e', t) ∧ t.state = s.state
  acts : ∀ s a r, m.run.run s.reader = (.ok a, r) → s.writer.status = none →
    ∃ result t, step.run.run s = (result, t) ∧ T a s.state t.state ∧ t.reader = r ∧
      ResultWritten size s.writer result t.writer

theorem encode_writes {m : WriteM cap Unit} (hm : Sized size m) {s : HandlerState σ W cap}
    (hs : s.writer.status = none) :
    ∃ result writer,
      (encode m : HandlerM σ W cap Unit).run.run s = (result, { s with writer := writer }) ∧
      ResultWritten size s.writer result writer := by
  obtain ⟨bs, hbs, rfl⟩ := hm
  have hrun : (encode m : HandlerM σ W cap Unit).run.run s =
      ((m.run.run s.writer).1, { s with writer := (m.run.run s.writer).2 }) := rfl
  refine ⟨_, _, hrun, ?_⟩
  by_cases hfits : s.writer.bytes.length + bs.length ≤ cap
  · rw [hbs.fits s.writer hs hfits]
    exact .inl ⟨hfits, rfl, hs, List.length_append⟩
  · obtain ⟨e, w, hfails⟩ := hbs.fails s.writer hs (Nat.lt_of_not_le hfits)
    rw [hfails]
    exact .inr ⟨Nat.lt_of_not_le hfits, e, rfl⟩

theorem HandlesElement.of_update {m : ReadM α} {operation : α → σ → β × σ} {write : β → WriteM cap Unit}
    (hwrite : ∀ r, Sized size (write r)) :
    HandlesElement m size (fun a s t => t = (operation a s).2)
      (do let a ← decode m; let r ← update (operation a); encode (write r) : HandlerM σ W cap Unit) := by
  constructor
  · intro s e r hread
    rw [run_decode_bind, hread]
    exact ⟨e, _, rfl, rfl⟩
  · intro s a r hread hs
    rw [run_decode_bind, hread]
    dsimp only
    rw [run_update_bind]
    obtain ⟨result, writer, hrun, hwritten⟩ :=
      encode_writes (hwrite _) (s := ⟨r, s.writer, (operation a s.state).2, s.world⟩) hs
    exact ⟨result, _, hrun, rfl, rfl, hwritten⟩

theorem repeatM_acts {m : ReadM α} {T : α → σ → σ → Prop} {step : HandlerM σ W cap Unit}
    (h : HandlesElement m size T step) (n : Nat) {s : HandlerState σ W cap}
    (hs : s.writer.status = none) :
    InTurn T (reached m size n s.reader (cap - s.writer.bytes.length)) s.state
      ((repeatM step n).run.run s).2.state := by
  induction n generalizing s with
  | zero => rfl
  | succ n ih =>
    have hbind : (repeatM step (n + 1)).run.run s = (step >>= fun _ => repeatM step n).run.run s := rfl
    rw [hbind, ExceptT.run_bind, run_bind, reached]
    rcases hread : m.run.run s.reader with ⟨e | a, r⟩
    · obtain ⟨e', t, hrun, ht⟩ := h.stops s e r hread
      rw [hrun]
      exact ht
    · have hroom := s.writer.fits
      obtain ⟨result, t, hrun, hT, hreader, ⟨hfits, rfl, hstatus, hlen⟩ | ⟨hfull, e, rfl⟩⟩ :=
        h.acts s a r hread hs
      · have hmore : ¬ cap - s.writer.bytes.length < size := by omega
        have hrest := ih hstatus
        rw [hreader, hlen, ← Nat.sub_sub] at hrest
        dsimp only
        rw [hrun, if_neg hmore]
        exact ⟨t.state, hT, hrest⟩
      · have hlast : cap - s.writer.bytes.length < size := by omega
        dsimp only
        rw [hrun, if_pos hlast]
        exact ⟨t.state, hT, rfl⟩

end Loop

section Arrays

def acceptsArray (subs : List Subscription) (sessionId : UInt32) (subscriptionId : Option UInt32)
    (count : Int) : Bool :=
  0 < count && count ≤ maxSubscriptionOperations &&
    subscriptionId.all (fun id => (subscriptionFind subs sessionId id).isSome)

/-- What a request says in front of its array and the elements the handler gets to, if it gets to the
array. The response has 32 bytes in front of the results. -/
def arrayElements (preamble : ReadM (UInt32 × π × Int)) (target : π → Option UInt32) (element : ReadM α)
    (size cap : Nat) (subs : List Subscription) (sessionId : UInt32) (body : Bytes) :
    Option (π × List α) :=
  match preamble.run.run (.init body) with
  | (.error _, _) => none
  | (.ok (_, p, count), r) =>
    if acceptsArray subs sessionId (target p) count && 32 ≤ cap then
      some (p, reached element size count.toNat r (cap - 32))
    else none

def ArrayActs (T : π → α → σ → σ → Prop) (elements : Option (π × List α)) (s t : σ) : Prop :=
  (elements = none ∧ t = s) ∨ ∃ p as, elements = some (p, as) ∧ InTurn (T p) as s t

theorem decode_pure (a : α) : (decode (pure a) : HandlerM σ W cap α) = pure a := rfl

theorem decode_bind (m : ReadM α) (f : α → ReadM β) :
    (decode (m >>= f) : HandlerM σ W cap β) = decode m >>= fun a => decode (f a) := by
  apply ExceptT.ext
  funext s
  have hleft : (decode (m >>= f) : HandlerM σ W cap β).run s =
      (((m >>= f).run.run s.reader).1, { s with reader := ((m >>= f).run.run s.reader).2 }) := rfl
  have hright := run_decode_bind (W := W) s m (fun a => (decode (f a) : HandlerM σ W cap β))
  rw [hleft]
  refine Eq.trans ?_ hright.symm
  rw [ExceptT.run_bind, run_bind]
  obtain ⟨e | a, r⟩ := m.run.run s.reader <;> rfl

theorem array_acts {preamble : ReadM (UInt32 × π × Int)} {target : π → Option UInt32} {element : ReadM α}
    {T : π → α → σ → σ → Prop} {rest : UInt32 × π × Int → HandlerM σ W cap Unit}
    {subs : List Subscription}
    {sessionId : UInt32} (body : Bytes) (s : σ) (w : W)
    (hrefused : ∀ x r, acceptsArray subs sessionId (target x.2.1) x.2.2 = false →
      ((rest x).run.run ⟨r, .init, s, w⟩).2.state = s)
    (haccepted : ∀ x r, acceptsArray subs sessionId (target x.2.1) x.2.2 = true →
      InTurn (T x.2.1) (if 32 ≤ cap then reached element size x.2.2.toNat r (cap - 32) else []) s
        ((rest x).run.run ⟨r, .init, s, w⟩).2.state) :
    ArrayActs T (arrayElements preamble target element size cap subs sessionId body) s
      ((decode preamble >>= rest).run.run ⟨.init body, .init, s, w⟩).2.state := by
  rw [run_decode_bind, arrayElements]
  dsimp only
  obtain ⟨e | x, r⟩ := preamble.run.run (.init body)
  · exact .inl ⟨rfl, rfl⟩
  · dsimp only
    cases haccepts : acceptsArray subs sessionId (target x.2.1) x.2.2 with
    | false => exact .inl ⟨rfl, hrefused x r haccepts⟩
    | true =>
      have hacts := haccepted x r haccepts
      by_cases hroom : 32 ≤ cap
      · rw [if_pos hroom] at hacts
        rw [if_pos (by simpa using hroom)]
        exact .inr ⟨_, _, rfl, hacts⟩
      · rw [if_neg hroom] at hacts
        rw [if_neg (by simpa using hroom)]
        exact .inl ⟨rfl, hacts⟩

theorem results_act {element : ReadM α} {T : α → σ → σ → Prop} {step : HandlerM σ W cap Unit}
    (hstep : HandlesElement element size T step) (n : Nat) (write : WriteM cap Unit)
    {s : HandlerState σ W cap}
    (hs : s.writer.status = none) (hlen : s.writer.bytes.length = 32) :
    InTurn T (reached element size n s.reader (cap - 32)) s.state
      ((repeatM step n >>= fun _ => encode write).run.run s).2.state := by
  have hacts := repeatM_acts hstep n hs
  rw [hlen] at hacts
  obtain ⟨e, -, hrun⟩ | ⟨x, -, hrun⟩ :=
    run_run_bind (repeatM step n) (fun _ => (encode write : HandlerM σ W cap Unit)) s
  · rw [hrun]
    exact hacts
  · rw [hrun]
    exact hacts

theorem header_acts {responseTypeId : UInt32} (hid : 255 < responseTypeId ∧ responseTypeId ≤ 65535)
    (handle : UInt32) (count : Int) {T : α → σ → σ → Prop} {as : List α} {rest : HandlerM σ W cap Unit}
    {s : HandlerState σ W cap}
    (hs : s.writer = .init)
    (hrest : ∀ writer : Writer cap, writer.status = none → writer.bytes.length = 32 →
      InTurn T as s.state (rest.run.run { s with writer := writer }).2.state) :
    InTurn T (if 32 ≤ cap then as else []) s.state
      ((do
        encode (do
          writeResponsePrefix responseTypeId handle good
          writeInt32 count)
        rest : HandlerM σ W cap Unit).run.run s).2.state := by
  have hheader : Sized 32 (do
      writeResponsePrefix responseTypeId handle good
      writeInt32 count : WriteM cap Unit) :=
        Sized.bind (k := 4) (responsePrefix_sized hid handle good) (writeUInt32_sized _)
  obtain ⟨result, writer, hrun, hwritten⟩ := encode_writes hheader (s := s) (hs ▸ rfl)
  rw [hs] at hwritten
  rw [ExceptT.run_bind, run_bind, hrun]
  obtain ⟨hfits, rfl, hstatus, hlen⟩ | ⟨hfull, e, rfl⟩ := hwritten
  · rw [if_pos (by simpa [Writer.init] using hfits)]
    exact hrest writer hstatus (by simpa [Writer.init] using hlen)
  · rw [if_neg (by simpa [Writer.init] using hfull)]
    rfl

end Arrays

section Ids

def idPreamble (parameters : ReadM π) : ReadM (UInt32 × π × Int) := do
  let req ← requestHeaderDecode
  let p ← parameters
  let count ← readInt32
  return (req.requestHandle, p, count)

variable {responseTypeId requestHandle sessionId : UInt32}

section

variable {subId : Option UInt32} {count : Int} {s : HandlerState (Subscriptions W) W cap}

theorem driveIds_refuses (itemResult : UInt32 → Subscriptions W → Except Fault Unit × Subscriptions W)
    (h : acceptsArray s.state.subscriptions sessionId subId count = false) :
    ((driveIds responseTypeId requestHandle sessionId subId itemResult count).run.run s).2.state =
      s.state := by
  unfold driveIds
  by_cases hmany : count > maxSubscriptionOperations
  · rw [if_pos hmany]
    rfl
  rw [if_neg hmany, run_state_bind]
  by_cases hmissing :
    subId.any (fun id => (subscriptionFind s.state.subscriptions sessionId id).isNone) = true
  · rw [if_pos hmissing]
    rfl
  rw [if_neg hmissing]
  by_cases hnone : count ≤ 0
  · rw [if_pos hnone]
    rfl
  exfalso
  cases subId with
  | none => simp_all [acceptsArray]
  | some id => simp_all [acceptsArray]

theorem driveIds_acts
    (hid : 255 < responseTypeId ∧ responseTypeId ≤ 65535)
    (itemResult : UInt32 → Subscriptions W → Except Fault Unit × Subscriptions W) (hs : s.writer = .init)
    (h : acceptsArray s.state.subscriptions sessionId subId count = true) :
    InTurn (fun id s t => t = (itemResult id s).2)
      (if 32 ≤ cap then reached readUInt32 4 count.toNat s.reader (cap - 32) else []) s.state
      ((driveIds responseTypeId requestHandle sessionId subId itemResult count).run.run s).2.state := by
  simp only [acceptsArray, Bool.and_eq_true, decide_eq_true_eq] at h
  have hmany : ¬ count > maxSubscriptionOperations := by omega
  have hnone : ¬ count ≤ 0 := by omega
  have hmissing :
      ¬ subId.any (fun id => (subscriptionFind s.state.subscriptions sessionId id).isNone) = true := by
    cases subId with
    | none => simp
    | some id => simpa [Option.isSome_iff_ne_none] using h.2
  unfold driveIds
  rw [if_neg hmany, run_state_bind, if_neg hmissing, if_neg hnone]
  apply header_acts hid _ _ hs
  intro writer hstatus hlen
  exact results_act (.of_update (fun r => writeUInt32_sized _)) _ _
    (s := { s with writer := writer }) hstatus hlen

end

theorem idArray_acts (parameters : ReadM π) (target : π → Option UInt32)
    (itemResult : π → UInt32 → Subscriptions W → Except Fault Unit × Subscriptions W)
    (hid : 255 < responseTypeId ∧ responseTypeId ≤ 65535) (body : Bytes) (s : Subscriptions W) (w : W) :
    ArrayActs (fun p id s t => t = (itemResult p id s).2)
      (arrayElements (idPreamble parameters) target readUInt32 4 cap s.subscriptions sessionId body) s
      ((do
        let req ← decode requestHeaderDecode
        let p ← decode parameters
        driveSubscriptionIdStatusArray responseTypeId req.requestHandle sessionId (target p)
          (itemResult p) : SubscriptionM W cap Unit).run.run ⟨.init body, .init, s, w⟩).2.state := by
  have hsame : (do
        let req ← decode requestHeaderDecode
        let p ← decode parameters
        driveSubscriptionIdStatusArray responseTypeId req.requestHandle sessionId
          (target p) (itemResult p) : SubscriptionM W cap Unit) =
            decode (idPreamble parameters) >>= fun x =>
            driveIds responseTypeId x.1 sessionId (target x.2.1) (itemResult x.2.1) x.2.2 := by
    simp only [idPreamble, decode_bind, decode_pure, bind_assoc, pure_bind]
    rfl
  rw [hsame]
  apply array_acts
  · intro x r hrefused
    exact driveIds_refuses _ hrefused
  · intro x r haccepted
    exact driveIds_acts (s := ⟨r, .init, s, w⟩) hid _ rfl haccepted

variable (caller : Caller) (body : Bytes) (s : Subscriptions W)

theorem handleSetPublishingMode_acts (w : W) :
    ArrayActs (fun enabled id s t => t = (setPublishingModeResult caller.sessionId enabled id s).2)
      (arrayElements (idPreamble (unchecked false readBoolean)) (fun _ =>
        none) readUInt32 4 cap s.subscriptions caller.sessionId body) s
      ((handleSetPublishingMode caller : SubscriptionM W cap Unit).run.run ⟨.init body,
          .init, s, w⟩).2.state :=
  idArray_acts _ _ _ (by decide) body s w

theorem handleDeleteSubscriptions_acts (w : W) :
    ArrayActs (fun _ id s t => t = (subscriptionDelete b s caller.sessionId id).2)
      (arrayElements (idPreamble (pure ())) (fun _ =>
        none) readUInt32 4 cap s.subscriptions caller.sessionId body) s
      ((handleDeleteSubscriptions b caller : SubscriptionM W cap Unit).run.run ⟨.init body,
          .init, s, w⟩).2.state :=
  idArray_acts _ _ (fun _ id s => subscriptionDelete b s caller.sessionId id) (by decide) body s w

def readMonitoringMode : ReadM (UInt32 × UInt32) := do
  let subscriptionId ← unchecked 0 readUInt32
  let mode ← unchecked 0 readUInt32
  return (subscriptionId, mode)

theorem handleSetMonitoringMode_acts (w : W) :
    ArrayActs (fun p id s t => t = (setMonitoringModeResult p.2 p.1 id s).2)
      (arrayElements (idPreamble readMonitoringMode) (fun p => some p.1) readUInt32 4 cap s.subscriptions
        caller.sessionId body) s
      ((handleSetMonitoringMode caller : SubscriptionM W cap Unit).run.run ⟨.init body, .init,
          s, w⟩).2.state := by
  have hsame : (handleSetMonitoringMode caller : SubscriptionM W cap Unit) = (do
      let req ← decode requestHeaderDecode
      let p ← decode readMonitoringMode
      driveSubscriptionIdStatusArray setMonitoringModeResponseId req.requestHandle
        caller.sessionId (some p.1) (setMonitoringModeResult p.2 p.1)) := by
    simp only [readMonitoringMode, decode_bind, decode_pure, bind_assoc, pure_bind]
    rfl
  rw [hsame]
  exact idArray_acts readMonitoringMode (fun p => some p.1) (fun p => setMonitoringModeResult p.2 p.1)
    (by decide) body s w

theorem handleDeleteMonitoredItems_acts (w : W) :
    ArrayActs (fun subId id s t => t = (deleteMonitoredItemResult b subId id s).2)
      (arrayElements (idPreamble (unchecked 0 readUInt32)) some readUInt32 4 cap s.subscriptions
        caller.sessionId body) s
      ((handleDeleteMonitoredItems b caller : SubscriptionM W cap Unit).run.run ⟨.init body,
          .init, s, w⟩).2.state :=
  idArray_acts _ _ (deleteMonitoredItemResult b) (by decide) body s w

end Ids

section Items

def itemsPreamble : ReadM (UInt32 × UInt32 × Int) := do
  let req ← requestHeaderDecode
  let (subscriptionId, count) ← readItemsPreamble
  return (req.requestHandle, subscriptionId, count)

theorem checkItemsPreamble_iff {subs : List Subscription} {sessionId subId : UInt32} {count : Int} :
    checkItemsPreamble subs sessionId subId count = .ok () ↔
      acceptsArray subs sessionId (some subId) count = true := by
  have hlast : (if count ≤ 0 then throw .nothingToDo else pure () : Except Fault Unit) = .ok () ↔
      ¬ count ≤ 0 := by
    split
    · rename_i hnone
      exact ⟨nofun, fun h => absurd hnone h⟩
    · rename_i hsome
      exact ⟨fun _ => hsome, fun _ => rfl⟩
  simp only [checkItemsPreamble, guard_eq_ok, hlast, acceptsArray, Bool.and_eq_true,
    decide_eq_true_eq, Option.all_some, Option.isNone_iff_eq_none, Option.isSome_iff_ne_none]
  constructor
  · rintro ⟨hmany, hfound, hsome⟩
    exact ⟨⟨by omega, by omega⟩, hfound⟩
  · rintro ⟨⟨hsome, hmany⟩, hfound⟩
    exact ⟨by omega, hfound, by omega⟩

theorem driveItemOperations_acts {responseTypeId sessionId : UInt32}
    (hid : 255 < responseTypeId ∧ responseTypeId ≤ 65535) {setup : ItemM W cap β}
    (hsetup : ∀ s, ∃ x w, setup.run.run s = (.ok x, { s with world := w })) {element : ReadM α}
    {T : UInt32 → α → ItemTable W → ItemTable W → Prop} {operation : UInt32 → β → ItemM W cap Unit}
    (hoperation : ∀ subId x, HandlesElement element size (T subId) (operation subId x))
    (subs : List Subscription) (body : Bytes) (t : ItemTable W) (w : W) :
    ArrayActs T (arrayElements itemsPreamble some element size cap subs sessionId body) t
      ((driveItemOperations subs sessionId responseTypeId setup operation).run.run ⟨.init body, .init,
        t, w⟩).2.state := by
  have hsame :
      driveItemOperations subs sessionId responseTypeId setup operation =
        decode itemsPreamble >>= fun x => (do
      checked (checkItemsPreamble subs sessionId x.2.1 x.2.2)
      encode do
        writeResponsePrefix responseTypeId x.1 good
        writeInt32 x.2.2
      let a ← setup
      repeatM (operation x.2.1 a) x.2.2.toNat
      encode (writeInt32 0)) := by
    simp only [itemsPreamble, decode_bind, decode_pure, bind_assoc, pure_bind]
    rfl
  rw [hsame]
  apply array_acts
  · intro x r hrefused
    rw [run_checked_bind]
    cases hcheck : checkItemsPreamble subs sessionId x.2.1 x.2.2 with
    | error e => rfl
    | ok u =>
      rw [checkItemsPreamble_iff.mp hcheck] at hrefused
      cases hrefused
  · intro x r haccepted
    rw [checkItemsPreamble_iff.mpr haccepted, run_checked_bind]
    apply header_acts (s := ⟨r, .init, t, w⟩) hid _ _ rfl
    intro writer hstatus hlen
    obtain ⟨a, w', ha⟩ := hsetup ⟨r, writer, t, w⟩
    rw [ExceptT.run_bind, run_bind, ha]
    exact results_act (hoperation x.2.1 a) _ _ (s := ⟨r, writer, t, w'⟩) hstatus hlen

theorem writeNullExtensionObject_sized : Sized 3 (writeNullExtensionObject : WriteM cap Unit) :=
  Sized.bind (k := 1) (writeNodeId_sized 0) (writeBytes_sized [0])

theorem writeMonitoredItemModifyResult_sized (result : Except Fault UInt32) :
    Sized 19 (writeMonitoredItemModifyResult result : WriteM cap Unit) := by
  have hsized : Sized _ (writeMonitoredItemModifyResult result : WriteM cap Unit) :=
    (Notices.unchecked (put 4 _) (.unchecked (put 8 _) (.unchecked (put 4 _)
      (.check writeNullExtensionObject_sized)))).sized
  simpa using hsized

theorem writeMonitoredItemCreateResult_sized (result : StatusCode)
    (itemId samplingMs queueSize : UInt32) :
    Sized 23 (writeMonitoredItemCreateResult result itemId samplingMs queueSize : WriteM cap Unit) := by
  have hsized :
      Sized _ (writeMonitoredItemCreateResult result itemId samplingMs queueSize : WriteM cap Unit) :=
    (Notices.unchecked (put 4 _) (.unchecked (put 4 _) (.unchecked (put 8 _) (.unchecked (put 4 _)
      (.check writeNullExtensionObject_sized))))).sized
  simpa using hsized

theorem handleModifyMonitoredItems_acts (caller : Caller) (subs : List Subscription) (body : Bytes)
    (t : ItemTable W) (w : W) : ArrayActs (fun subId body t u => u = (modifyItem b subId body t).2)
      (arrayElements itemsPreamble some (readModifyBody b) 19 cap subs caller.sessionId body) t
      ((handleModifyMonitoredItems b subs caller : ItemM W cap Unit).run.run ⟨.init body, .init,
          t, w⟩).2.state := by
  apply driveItemOperations_acts (by decide)
  · exact fun s => ⟨(), s.world, rfl⟩
  · intro subId _
    exact .of_update writeMonitoredItemModifyResult_sized

/-- What the record of a create request is compared by: its select clauses may be uninitialised
memory. -/
def MonitoredItemCreateBody.withoutClauses (body : MonitoredItemCreateBody) : MonitoredItemCreateBody :=
  { body with selectClauses := noClauses }

variable (clauses : SelectClauses) (p : Platform W) (resolve : NodeId → Option (Node W))
    (subId : UInt32) (nowMs : UInt64)

theorem readStandardFilter_clauses (clauses' : SelectClauses) (type : NodeId) (length : Nat) :
    Prod.fst <$> readStandardFilter b clauses type length =
      Prod.fst <$> readStandardFilter b clauses' type length := by
  simp only [readStandardFilter, map_bind]
  congr 1
  funext _
  split
  · simp only [map_bind, map_pure]
  · split
    · simp only [map_bind, map_pure]
    · split
      · rfl
      · split
        · simp only [map_pure]
        · simp only [map_bind, map_pure]

theorem readBasicFilter_clauses (clauses' : SelectClauses) (type : NodeId) (length : Nat) :
    Prod.fst <$> readBasicFilter b clauses type length =
      Prod.fst <$> readBasicFilter b clauses' type length := by
  simp only [readBasicFilter]
  split
  · rfl
  · simp only [map_bind, map_pure]

theorem bind_fst {γ : Type} {m m' : ReadM (α × β)} (h : Prod.fst <$> m = Prod.fst <$> m')
    {f : α × β → ReadM γ} (hf : ∀ a x y, f (a, x) = f (a, y)) : m >>= f = m' >>= f := by
  apply ExceptT.ext
  funext r
  have hrun := congrArg (fun m => m.run.run r) h
  simp only [run_map] at hrun
  change (m >>= f).run.run r = (m' >>= f).run.run r
  rw [ExceptT.run_bind, run_bind, ExceptT.run_bind, run_bind]
  generalize m.run.run r = p at hrun ⊢
  generalize m'.run.run r = p' at hrun ⊢
  obtain ⟨e | ⟨a, x⟩, r⟩ := p <;> obtain ⟨e' | ⟨a', x'⟩, r'⟩ := p' <;> cases hrun
  · rfl
  · exact congrArg (fun m => m.run.run r) (hf a x x')

theorem readMonitoredItemCreateBody_clauses :
    MonitoredItemCreateBody.withoutClauses <$> readMonitoredItemCreateBody b clauses =
      MonitoredItemCreateBody.withoutClauses <$> readMonitoredItemCreateBody b noClauses := by
  simp only [readMonitoredItemCreateBody, map_bind]
  iterate 10 refine bind_congr fun _ => ?_
  split
  · simp only [map_bind, map_pure, MonitoredItemCreateBody.withoutClauses]
    exact bind_fst (readStandardFilter_clauses _ _ _ _) (fun _ _ _ => rfl)
  · simp only [map_bind, map_pure, MonitoredItemCreateBody.withoutClauses]
    exact bind_fst (readBasicFilter_clauses _ _ _ _) (fun _ _ _ => rfl)

/-- What one element of CreateMonitoredItems does, whatever the clock, the world and the uninitialised
memory are. -/
def CreatesItem (b : Build) (resolve : NodeId → Option (Node W)) (subscriptionId : UInt32)
    (body : MonitoredItemCreateBody) (t u : ItemTable W) : Prop :=
  match createItemCheck b body (resolve body.nodeId) with
  | .error _ => u = t
  | .ok node => ∃ clauses nowMs w,
    u = createItem b subscriptionId { body with selectClauses := clauses } node nowMs w t

theorem readMonitoredItemCreateBody_run (r : Reader) :
    (∃ e r', (readMonitoredItemCreateBody b noClauses).run.run r = (.error e, r') ∧
      (readMonitoredItemCreateBody b clauses).run.run r = (.error e, r')) ∨
    ∃ body clauses' r', (readMonitoredItemCreateBody b noClauses).run.run r = (.ok body, r') ∧
      (readMonitoredItemCreateBody b clauses).run.run r =
        (.ok { body with selectClauses := clauses' }, r') := by
  have hrun := congrArg (fun m => m.run.run r) (readMonitoredItemCreateBody_clauses (b := b) clauses)
  simp only [run_map] at hrun
  generalize (readMonitoredItemCreateBody b clauses).run.run r = p at hrun ⊢
  generalize (readMonitoredItemCreateBody b noClauses).run.run r = q at hrun ⊢
  obtain ⟨hresult, hreader⟩ := Prod.mk.inj hrun
  obtain ⟨e | body, r₁⟩ := p <;> obtain ⟨e' | body', r₂⟩ := q
  · cases hresult
    cases hreader
    exact .inl ⟨e, r₁, rfl, rfl⟩
  · cases hresult
  · cases hresult
  · have hsame : body = { body' with selectClauses := body.selectClauses } := by
      have hbody : body.withoutClauses = body'.withoutClauses := Except.ok.inj hresult
      obtain ⟨_, _, _, _, _, _, clauses, _, _⟩ := body
      exact congrArg (fun body : MonitoredItemCreateBody => { body with selectClauses := clauses }) hbody
    cases hreader
    exact .inr ⟨body', body.selectClauses, r₁, rfl, by rw [← hsame]⟩

theorem createMonitoredItem_draws (s : HandlerState (ItemTable W) W cap) : ∃ clauses w,
      (createMonitoredItem b p resolve subId nowMs : ItemM W cap Unit).run.run s =
        (decode (readMonitoredItemCreateBody b clauses) >>= createDecoded b resolve subId nowMs).run.run
          { s with world := w } := by
  let clauses := (p.uninitialised 8).run s.world
  let count := (p.uninitialised 1).run clauses.2
  exact ⟨⟨clauses.1, count.1.1.headD 0⟩, count.2, rfl⟩

theorem createDecoded_acts
    (body : MonitoredItemCreateBody) {s : HandlerState (ItemTable W) W cap}
    (hs : s.writer.status = none) :
    ∃ result t, (createDecoded b resolve subId nowMs body).run.run s = (result, t) ∧
      (match createItemCheck b body (resolve body.nodeId) with
        | .error _ => t.state = s.state
        | .ok node => t.state = createItem b subId body node nowMs s.world s.state) ∧
      t.reader = s.reader ∧ ResultWritten 23 s.writer result t.writer := by
  unfold createDecoded
  cases createItemCheck b body (resolve body.nodeId) with
  | error e =>
    obtain ⟨result, writer, hrun, hwritten⟩ :=
      encode_writes (writeMonitoredItemCreateResult_sized e.code 0 0 0) hs
    exact ⟨result, _, hrun, rfl, rfl, hwritten⟩
  | ok node =>
    dsimp only
    rw [run_update_bind]
    unfold createItem
    generalize monitoredItemAlloc b s.state subId = r
    obtain ⟨e | ⟨slot, id⟩, t⟩ := r
    · obtain ⟨result, writer, hrun, hwritten⟩ :=
        encode_writes (writeMonitoredItemCreateResult_sized e.code 0 0 0) (s := { s with state := t }) hs
      exact ⟨result, _, hrun, rfl, rfl, hwritten⟩
    · let item :=
        (initialSample body node (fillItem b body node nowMs (t.monitoredItems.getD slot (.zero b)))).run
          s.world
      obtain ⟨result, writer, hrun, hwritten⟩ :=
        encode_writes (writeMonitoredItemCreateResult_sized good id item.1.samplingIntervalMs 1)
          (s := ⟨s.reader, s.writer, { t with monitoredItems := t.monitoredItems.set slot item.1 },
            item.2⟩) hs
      exact ⟨result, _, hrun, rfl, rfl, hwritten⟩

theorem createMonitoredItem_handles :
    HandlesElement (readMonitoredItemCreateBody b noClauses) 23 (CreatesItem b resolve subId)
      (createMonitoredItem b p resolve subId nowMs : ItemM W cap Unit) := by
  constructor
  · intro s e r hread
    obtain ⟨clauses, w, hrun⟩ := createMonitoredItem_draws (b := b) p resolve subId nowMs s
    obtain ⟨e', r', hread', hfails⟩ | ⟨body, clauses', r', hread', -⟩ :=
      readMonitoredItemCreateBody_run (b := b) clauses s.reader
    · rw [hrun, run_decode_bind, hfails]
      exact ⟨e', _, rfl, rfl⟩
    · rw [hread] at hread'
      cases hread'
  · intro s body r hread hs
    obtain ⟨clauses, w, hrun⟩ := createMonitoredItem_draws (b := b) p resolve subId nowMs s
    obtain ⟨e', r', hread', -⟩ | ⟨body', clauses', r', hread', hreturns⟩ :=
      readMonitoredItemCreateBody_run (b := b) clauses s.reader
    · rw [hread] at hread'
      cases hread'
    · rw [hread] at hread'
      obtain ⟨hbody, rfl⟩ := Prod.mk.inj hread'
      obtain rfl := Except.ok.inj hbody
      obtain ⟨result, t, hacts, heffect, hreader, hwritten⟩ :=
        createDecoded_acts (b := b) resolve subId nowMs { body with selectClauses := clauses' }
          (s := ⟨r, s.writer, s.state, w⟩) hs
      rw [hrun, run_decode_bind, hreturns]
      refine ⟨result, t, hacts, ?_, hreader, hwritten⟩
      have hcheck : createItemCheck b { body with selectClauses := clauses' } (resolve body.nodeId) =
          createItemCheck b body (resolve body.nodeId) := rfl
      dsimp only at heffect
      rw [hcheck] at heffect
      unfold CreatesItem
      revert heffect
      cases createItemCheck b body (resolve body.nodeId) with
      | error e => exact id
      | ok node => exact fun heffect => ⟨clauses', nowMs, w, heffect⟩

theorem handleCreateMonitoredItems_acts (caller : Caller)
    (subs : List Subscription) (body : Bytes) (t : ItemTable W) (w : W) :
    ArrayActs (CreatesItem b resolve)
      (arrayElements itemsPreamble some (readMonitoredItemCreateBody b noClauses) 23 cap subs
        caller.sessionId body) t
      ((handleCreateMonitoredItems b p resolve subs caller : ItemM W cap Unit).run.run ⟨.init body,
          .init, t, w⟩).2.state := by
  apply driveItemOperations_acts (by decide)
  · exact fun s => ⟨_, _, rfl⟩
  · exact fun subId nowMs => createMonitoredItem_handles p resolve subId nowMs

end Items

end MicroOpcua
