import MicroOpcua.Core.PublishLaws
import MicroOpcua.Services.ReportLaws

namespace MicroOpcua

open Lib.LittleEndian Lib.StateRun Lib.Table

variable {W A : Type} {b : Build} {cap : Nat}

section Items

variable {item : MonitoredItem W} {resend : Bool}

structure MonitoredItem.Encodable (resend : Bool) (item : MonitoredItem W) : Prop where
  queue : ∀ r ∈ item.queue, MicroOpcua.Encodable r.value.strings
  lastValue : MicroOpcua.Encodable item.lastValue.strings
  reads : resend = true → ∀ w, MicroOpcua.Encodable (item.readValue.run w).1.2.strings

theorem null_encodable : Encodable Variant.null.strings := nofun

theorem recordReported_encodable (h : item.Encodable resend) (d : DoubleOps) (cur : Variant) :
    (item.recordReported d cur).Encodable resend := by
  unfold MonitoredItem.recordReported
  split
  · exact ⟨h.queue, h.lastValue, h.reads⟩
  · exact ⟨h.queue, h.lastValue, h.reads⟩

theorem markOverflow_encodable (h : item.Encodable resend) (index : UInt8) :
    (item.markOverflow index).Encodable resend := by
  refine ⟨fun r hr => ?_, h.lastValue, h.reads⟩
  obtain ⟨r', hr', rfl | rfl⟩ := exists_mem_of_mem_modify hr
  · exact h.queue r hr'
  · exact h.queue r' hr'

theorem enqueueReport_encodable (h : item.Encodable resend) {cur : Variant}
    (hcur : Encodable cur.strings) (status : StatusCode) :
    (item.enqueueReport b cur status).Encodable resend := by
  have hset {i : Nat} : ∀ r ∈ item.queue.set i ⟨cur, status⟩, Encodable r.value.strings := by
    intro r hr
    obtain hr | rfl := List.mem_or_eq_of_mem_set hr
    · exact h.queue r hr
    · exact hcur
  have hrecorded {item' : MonitoredItem W} (h' : item'.Encodable resend) :
      { item'.recordReported b.double cur with
        pending := (item'.recordReported b.double cur).queueCount > 0 :
            MonitoredItem W }.Encodable resend :=
    have hrecord := recordReported_encodable h' b.double cur
    ⟨hrecord.queue, hrecord.lastValue, hrecord.reads⟩
  simp only [MonitoredItem.enqueueReport]
  apply hrecorded
  split
  · exact ⟨hset, h.lastValue, h.reads⟩
  · split
    · apply markOverflow_encodable
      exact ⟨hset, h.lastValue, h.reads⟩
    · apply markOverflow_encodable
      exact ⟨hset, h.lastValue, h.reads⟩

theorem preparePendingQueue_encodable (h : item.Encodable resend) :
    (item.preparePendingQueue b).Encodable resend := by
  unfold MonitoredItem.preparePendingQueue
  split
  · exact enqueueReport_encodable h h.lastValue _
  · split
    · exact recordReported_encodable h _ _
    · exact h

theorem resend_encodable (h : item.Encodable true) (w : W) :
    ((item.resend b).run w).1.Encodable true := by
  have hread := h.reads rfl w
  simp only [MonitoredItem.resend, run_bind]
  generalize item.readValue.run w = q at hread
  obtain ⟨⟨status, cur⟩, w'⟩ := q
  simp only [run_ite, run_pure]
  split
  · refine enqueueReport_encodable ?_ hread _
    exact ⟨h.queue, hread, h.reads⟩
  · split
    · refine enqueueReport_encodable ?_ h.lastValue _
      exact ⟨h.queue, h.lastValue, h.reads⟩
    · refine enqueueReport_encodable ?_ null_encodable _
      exact ⟨h.queue, null_encodable, h.reads⟩

variable {sub : Subscription} {items : ItemList W}

def Subscription.Encodable (sub : Subscription) (resend : Bool) (items : ItemList W) : Prop :=
  ∀ item ∈ items, item.inSubscription sub = true → item.Encodable resend

theorem prepareReportableQueues_encodable (h : sub.Encodable resend items) :
    sub.Encodable resend (prepareReportableQueues b items sub) := by
  intro item hitem hin
  obtain ⟨old, hold, rfl⟩ := List.mem_map.mp hitem
  split at hin
  · rename_i hselected
    rw [if_pos hselected]
    exact preparePendingQueue_encodable (h old hold (Bool.and_eq_true_iff.mp hselected).1)
  · rename_i hskipped
    rw [if_neg hskipped]
    exact h old hold hin

theorem enqueueResendData_encodable (h : sub.Encodable true items) (w : W) :
    sub.Encodable true ((enqueueResendData b sub items).run w).1 := by
  induction items generalizing w with
  | nil => exact h
  | cons old items ih =>
    have hrest : sub.Encodable true items := fun item hitem => h item (.tail _ hitem)
    intro item hitem hin
    simp only [enqueueResendData] at hitem
    split at hitem
    · rename_i hselected
      obtain rfl | hitem := List.mem_cons.mp hitem
      · exact resend_encodable (h old (.head _) (Bool.and_eq_true_iff.mp hselected).1) w
      · exact ih hrest _ item hitem hin
    · obtain rfl | hitem := List.mem_cons.mp hitem
      · exact h _ (.head _) hin
      · exact ih hrest _ item hitem hin

theorem prepareReport_encodable (h : sub.Encodable sub.resendDataPending items) (w : W) :
    ∀ item ∈ ((prepareReport b sub items).run w).1.1, item.inSubscription sub = true →
      item.Encodable sub.resendDataPending := by
  simp only [prepareReport]
  split
  · exact h
  · by_cases hstd : b.subscriptionsStandard = true
    · simp only [if_pos hstd]
      have hprepared := prepareReportableQueues_encodable (b := b) h
      by_cases hresend : sub.resendDataPending = true
      · rw [if_pos (by simp [hstd, hresend])]
        rw [hresend] at hprepared ⊢
        exact enqueueResendData_encodable hprepared w
      · rw [if_neg (by simp [hresend])]
        exact hprepared
    · simp only [if_neg hstd]
      rw [if_neg (by simp [hstd])]
      exact h

end Items

section Build

def Oversize (e : Fault) : Prop := publishResponseOversizeStatus e = true

theorem encodingError_oversize : Oversize .encodingError := rfl

theorem write_fails (bs : Bytes) : FailsWith Oversize (writeBytes bs : WriteM cap Unit) :=
  writeBytes_fails encodingError_oversize bs

theorem backpatchInt32_fails (position : Nat) (value : Int) :
    FailsWith Oversize (backpatchInt32 position value : WriteM cap Unit) := fun _ hw => ⟨hw, nofun⟩

theorem writeExtensionObjectHeader_fails (id : UInt32) (length : Nat) :
    FailsWith Oversize (writeExtensionObjectHeader (.ns0 id) length : WriteM cap Unit) := by
  refine .bind (writeNodeId_fails encodingError_oversize nofun) (fun _ =>
    .ite (fun _ => write_fails _) (fun _ => ?_))
  exact .bind (write_fails _) (fun _ => write_fails _)

theorem writeResponsePrefix_fails (id handle : UInt32) (status : StatusCode) :
    FailsWith Oversize (writeResponsePrefix id handle status : WriteM cap Unit) := by
  refine .bind (writeNodeId_fails encodingError_oversize nofun) (fun _ => ?_)
  refine .bind (write_fails _) (fun _ =>
    .bind (write_fails _) (fun _ => .bind (write_fails _) (fun _ => ?_)))
  exact .bind (write_fails _) (fun _ =>
    .bind (write_fails _) (fun _ => writeExtensionObjectHeader_fails 0 0))

theorem writeNotification_fails {r : Report} (h : Encodable r.value.strings) (handle : UInt32) :
    FailsWith Oversize (writeNotification handle r : WriteM cap Unit) :=
  .bind (write_fails _) (fun _ => writeDataValue_fails encodingError_oversize h _)

theorem writeQueueEntries_fails {item : MonitoredItem W} {resend : Bool} (h : item.Encodable resend)
    (size : UInt32) (queued : Nat) (index : UInt8) (remaining : Nat) :
    FailsWith Oversize (writeQueueEntries item size queued index remaining : WriteM cap Nat) := by
  have hentry (i : Nat) : Encodable (item.queue.getD i ⟨.null, good⟩).value.strings := by
    rw [List.getD_eq_getElem?_getD]
    cases hi : item.queue[i]? with
    | none => exact null_encodable
    | some r => exact h.queue r (List.mem_of_getElem? hi)
  induction queued generalizing index remaining with
  | zero => exact .pure _
  | succ n ih =>
    simp only [writeQueueEntries]
    exact .ite (fun _ => .pure _) (fun _ =>
      .bind (writeNotification_fails (hentry _) _) (fun _ => ih _ _))

theorem writeItemQueues_fails {selected : MonitoredItem W → Bool} {resend : Bool} {items : ItemList W}
    (h : ∀ item ∈ items, selected item = true → item.Encodable resend) (remaining : Nat) :
    FailsWith Oversize (writeItemQueues b selected items remaining : WriteM cap Nat) := by
  induction items generalizing remaining with
  | nil => exact .pure _
  | cons item items ih =>
    have hrest := ih (fun item hitem => h item (.tail _ hitem))
    refine .ite (fun hselected => .bind ?_ (fun _ => hrest _)) (fun _ => hrest _)
    exact writeQueueEntries_fails (h item (.head _) hselected) _ _ _ _

variable {items : ItemList W} {sub : Subscription} {resend : Bool}

theorem inSubscription_of_reportable {item : MonitoredItem W} (h : item.reportable b sub = true) :
    item.inSubscription sub = true := by
  simp only [MonitoredItem.reportable, Bool.and_eq_true] at h
  exact h.1.1

theorem inSubscription_of_trigger {item : MonitoredItem W}
    (h : item.reportsByTrigger b items sub = true) : item.inSubscription sub = true := by
  simp only [MonitoredItem.reportsByTrigger, Bool.and_eq_true] at h
  exact h.1.1.1

theorem writeNotifications_fails (h : sub.Encodable resend items) (n : Nat) :
    FailsWith Oversize (writeNotifications b items sub n : WriteM cap Unit) := by
  refine .ite (fun _ => .bind ?_ (fun remaining => .bind ?_ (fun _ => .pure _))) (fun _ =>
    writeEach_fails ?_)
  · exact writeItemQueues_fails (fun item hitem hselected =>
      h item hitem (inSubscription_of_reportable hselected)) _
  · exact writeItemQueues_fails (fun item hitem hselected =>
      h item hitem (inSubscription_of_trigger hselected)) _
  · intro item hitem
    obtain ⟨hmem, hselected⟩ := List.mem_filter.mp hitem
    exact writeNotification_fails (h item hmem (inSubscription_of_reportable hselected)).lastValue _

theorem writeDataChangeNotification_fails (h : sub.Encodable resend items) (n : Nat) :
    FailsWith Oversize (writeDataChangeNotification b items sub n : WriteM cap Unit) := by
  refine .bind (writeNodeId_fails encodingError_oversize nofun) (fun _ =>
    .bind (write_fails _) (fun _ => ?_))
  refine .get_bind (fun _ =>
    .bind (write_fails _) (fun _ => .get_bind (fun _ => .bind (write_fails _) (fun _ => ?_))))
  refine .bind (writeNotifications_fails h n) (fun _ =>
    .bind (write_fails _) (fun _ => .get_bind (fun w => ?_)))
  refine .ite (fun _ => .bind (.throw rfl) (fun _ => backpatchInt32_fails _ _)) (fun _ =>
    backpatchInt32_fails _ _)

def EventNotification.Encodable (e : EventNotification) : Prop :=
  MicroOpcua.Encodable (e.eventType.strings ++ [e.eventId, e.message])

theorem eventField_encodable {e : EventNotification} (h : e.Encodable) (fieldType : UInt8) :
    Encodable (eventField e fieldType).strings := by
  have hid : e.eventId.size ≤ maxEncodedStringLength := h _ (List.mem_append_right _ (.head _))
  have hmessage : e.message.size ≤ maxEncodedStringLength :=
    h _ (List.mem_append_right _ (.tail _ (.head _)))
  unfold eventField
  split
  · exact fun s hs => List.mem_singleton.mp hs ▸ hid
  · split
    · exact fun s hs => h s (List.mem_append_left _ hs)
    · split
      · exact nofun
      · split
        · intro s hs
          obtain rfl | hs := List.mem_cons.mp hs
          · exact Nat.zero_le _
          · exact List.mem_singleton.mp hs ▸ hmessage
        · split
          · exact nofun
          · exact nofun

theorem writeEventFieldList_fails (item : MonitoredItem W) {e : EventNotification} (h : e.Encodable) :
    FailsWith Oversize (writeEventFieldList item e : WriteM cap Unit) := by
  refine .bind (write_fails _) (fun _ =>
    .bind (write_fails _) (fun _ => writeEach_fails (fun j _ => ?_)))
  exact writeVariant_fails encodingError_oversize (eventField_encodable h _)

theorem writeEventNotificationList_fails (h : ∀ e ∈ sub.eventQueue.events, e.Encodable) :
    FailsWith Oversize (writeEventNotificationList items sub : WriteM cap Unit) := by
  simp only [writeEventNotificationList]
  refine .ite (fun _ => writeExtensionObjectHeader_fails _ _) (fun _ => ?_)
  split
  · rename_i e he
    refine .throw ?_
    simp only [WriteM.encode] at he
    split at he
    · cases he
    · rename_i e' w hrun
      obtain rfl := Except.error.inj he
      refine (Fails.bind (write_fails _) (fun _ =>
        writeEach_fails (fun item _ => writeEach_fails (fun e he => ?_))) Writer.init (by rintro _ ⟨⟩)).2
          e' (congrArg Prod.fst hrun)
      exact writeEventFieldList_fails item (h e he)
  · have hmemory : Oversize .outOfMemory := rfl
    exact .bind (writeExtensionObjectHeader_fails _ _) (fun _ => writeRaw_fails hmemory _)

variable (b items sub) in
structure ReportEncodable (includeData : Bool) : Prop where
  items : includeData = true → ∃ resend, sub.Encodable resend items
  events : includeData = true → ∀ e ∈ sub.eventQueue.events, e.Encodable

section

variable {includeData : Bool} (h : ReportEncodable items sub includeData)

include h

theorem writeNotificationData_fails (n : Nat) :
    FailsWith Oversize (writeNotificationData b items sub includeData n : WriteM cap Unit) := by
  have hevents : FailsWith Oversize (if includeData && (b.events && sub.eventQueue.count > 0) then
      writeEventNotificationList items sub else pure () : WriteM cap Unit) := by
    refine .ite (fun hwith => ?_) (fun _ => .pure _)
    exact writeEventNotificationList_fails (h.events (Bool.and_eq_true_iff.mp hwith).1)
  refine .ite (fun hdata => .bind ?_ (fun _ => hevents)) (fun _ => hevents)
  obtain ⟨resend, hitems⟩ := h.items (Bool.and_eq_true_iff.mp hdata).1
  exact writeDataChangeNotification_fails hitems n

theorem buildPublishResponse_fails
    (r : PublishRequest) (number : UInt32) (n : Nat) (publishTime : UInt64) :
    FailsWith Oversize (buildPublishResponse b items sub r number includeData n publishTime :
      WriteM cap (Nat × Nat)) := by
  unfold buildPublishResponse
  rw [writeNotificationMessage_eq]
  refine .bind (.bind (writeResponsePrefix_fails _ _ _) (fun _ => ?_)) (fun _ => ?_)
  · refine .bind (write_fails _) (fun _ =>
      .bind (write_fails _) (fun _ => .bind (write_fails _) (fun _ => ?_)))
    refine .get_bind (fun _ => .bind (write_fails _) (fun _ => .bind (write_fails _) (fun _ => ?_)))
    refine .bind (write_fails _) (fun _ => .bind (writeNotificationData_fails h n) (fun _ => ?_))
    exact .get_bind (fun _ => .pure _)
  · refine .bind (write_fails _) (fun _ =>
      .bind (writeEach_fails (fun _ _ => write_fails _)) (fun _ => ?_))
    exact .bind (write_fails _) (fun _ => .pure _)

theorem buildPublish_oversize {r : PublishRequest}
    {n : Nat} {publishTime : UInt64} {e : Fault}
    (herror : buildPublish b items sub r includeData n publishTime = .error e) :
    Oversize e := by
  simp only [buildPublish] at herror
  split at herror
  · cases herror
  · rename_i e' w hrun
    obtain rfl := Except.error.inj herror
    exact (buildPublishResponse_fails h r _ n publishTime Writer.init (by rintro _ ⟨⟩)).2 e'
      (congrArg Prod.fst hrun)

end

end Build

section Emission

variable {c : Config W} {s : Ctx W A}

structure Connection.CanSend (b : Build) (c : Config W) (conn : Connection) : Prop where
  connected : conn.clientHandle.isSome = true
  secured : (b.security && conn.channel.mode ≠ .none) = true →
    ∃ cr, c.cryptoAdapter = some cr ∧ cr.ProtectsMsg ∧ conn.channel.keysValid = true ∧
      conn.channel.serverKeys.Ready cr ∧
      (conn.channel.mode = .sign ∨ conn.channel.mode = .signAndEncrypt)

def Config.Writable (c : Config W) : Prop :=
  ∀ h bytes w, ((c.platform.write (some h) bytes).run w).1 = (good, bytes.length)

theorem sendBufferChunk_writes (hwritable : c.Writable) {h : Handle}
    (hconn : s.conn.clientHandle = some h) (content : Content) (bytes : Bytes) :
    ((sendBufferChunk c content bytes).run s).2.trace =
      .wrote ⟨s.conn.id, h, s.conn.channel, content, bytes⟩ :: s.trace := by
  have hwritten :
      s.written content bytes = s.record (.wrote ⟨s.conn.id, h, s.conn.channel, content, bytes⟩) := by
    simp only [Ctx.written, hconn]
  simp only [sendBufferChunk, run_bind, run_modify, run_get, onWorld_run, run_ite, hwritten]
  have hstatus := hwritable h bytes s.world
  have hhandle :
    (s.record (.wrote ⟨s.conn.id, h, s.conn.channel, content, bytes⟩)).conn.clientHandle = some h :=
      hconn
  rw [hhandle]
  have hworld : (s.record (.wrote ⟨s.conn.id, h, s.conn.channel, content, bytes⟩)).world = s.world := rfl
  rw [hworld, hstatus, if_neg (by simp)]
  rfl

def PublishRequest.Answer (r : PublishRequest) (body : Bytes) : Prop :=
  (∃ rest, body = responsePrefix publishResponseId r.requestHandle good ++ rest) ∨
    body = responsePrefix serviceFaultId r.requestHandle Fault.responseTooLarge.code

/-- One buffer was written since `s`, and it holds an answer to `r` under its request id. -/
def AnsweredOnce (r : PublishRequest) (s t : Ctx W A) : Prop :=
  ∃ h channel number body bytes, r.Answer body ∧
    t.trace = .wrote ⟨s.conn.id, h, channel, .chunk number r.requestId body (some r), bytes⟩ :: s.trace

section

variable (hsend : minChunkSize ≤ c.sendBufferSize) (hwritable : c.Writable) (hconn : s.conn.CanSend b c)

include hsend hwritable hconn

theorem emitMessage_answers {r : PublishRequest} {body : Bytes} (hsize : body.length ≤ publishBodyBytes)
    (hbody : r.Answer body) :
    ((emitMessage b c r body).run s).1 = .ok () ∧
      AnsweredOnce r s ((emitMessage b c r body).run s).2 := by
  obtain ⟨h, hhandle⟩ := Option.isSome_iff_exists.mp hconn.connected
  have hsent (number : UInt32) (bytes : Bytes) (w : W) :
      AnsweredOnce r s ((sendBufferChunk c (.chunk number r.requestId body (some r)) bytes).run
        { s.numbered with world := w }).2 := by
    have hhandle' : ({ s.numbered with world := w } : Ctx W A).conn.clientHandle = some h := hhandle
    have hwrites :=
      sendBufferChunk_writes hwritable hhandle' (.chunk number r.requestId body (some r)) bytes
    exact ⟨h, s.numbered.conn.channel, number, body, bytes, hbody, hwrites⟩
  simp only [emitMessage, run_bind, run_get, run_ite]
  split
  · rename_i hsecured
    obtain ⟨cr, hcr, hprotects, hkeys, hready, hmode⟩ := hconn.secured hsecured
    have hroom : symChunkTotal .signAndEncrypt publishBodyBytes ≤ minChunkSize := by decide
    have htotal : symChunkTotal s.numbered.conn.channel.mode body.length ≤ c.sendBufferSize :=
      (symChunkTotal_le hsize).trans (hroom.trans hsend)
    have hmode' :
      s.numbered.conn.channel.mode = .sign ∨ s.numbered.conn.channel.mode = .signAndEncrypt := hmode
    have hready' : s.numbered.conn.channel.serverKeys.Ready cr := hready
    obtain ⟨bytes, hbytes, -⟩ := symChunkWrap_yields hprotects hmode' htotal hready' (utf8 "MSG")
      s.numbered.conn.channel.channelId s.numbered.conn.channel.tokenId
      s.numbered.conn.channel.outSequenceNumber r.requestId s.numbered.world
    rw [hcr, hkeys]
    simp only [run_bind, run_modify, run_get, onWorld_run, hbytes]
    exact ⟨rfl, hsent _ bytes _⟩
  · have hroom : symmetricHeaderSize + publishBodyBytes ≤ minChunkSize := by decide
    have hfits : symmetricHeaderSize + body.length ≤ c.sendBufferSize :=
      (Nat.add_le_add_left hsize _).trans (hroom.trans hsend)
    rw [if_neg (by omega), run_modify]
    simp only [finalizeSymmetric, if_neg (Nat.not_lt.mpr hfits), run_bind]
    exact ⟨rfl, hsent _ _ s.world⟩

theorem emitOrFault_answers {r : PublishRequest} {built : Except Fault Bytes}
    (hok : ∀ body, built = .ok body → body.length ≤ publishBodyBytes ∧ r.Answer body)
    (herror : ∀ e, built = .error e → Oversize e) :
    AnsweredOnce r s ((emitOrFault b c r built).run s).2 := by
  cases built with
  | error e =>
    have hoversize : publishResponseOversizeStatus e = true := herror e rfl
    have hfault : (emitFault b c r e).run s = ((), ((emitMessage b c r
        (responsePrefix serviceFaultId r.requestHandle Fault.responseTooLarge.code)).run s).2) := by
      unfold emitFault
      rw [if_pos hoversize, writeServiceFault_encode (by decide)]
      rfl
    simp only [emitOrFault, run_bind, hfault]
    exact (emitMessage_answers hsend hwritable hconn (by simp [publishBodyBytes]) (.inr rfl)).2
  | ok body =>
    obtain ⟨hsize, hbody⟩ := hok body rfl
    obtain ⟨hsent, hanswered⟩ := emitMessage_answers hsend hwritable hconn hsize hbody
    simp only [emitOrFault, run_bind, hsent]
    exact hanswered

theorem Ctx.answer_answers {sub : Subscription} {includeData : Bool}
    (hreport : ReportEncodable s.shared.subs.items.monitoredItems sub includeData) (r : PublishRequest)
    (queue : List PublishRequest) (n : Nat) :
    AnsweredOnce r s (s.answer b c sub r queue includeData n).2 := by
  have hbuilt : ∀ body, (s.response b c sub r includeData n).map Prod.fst = .ok body →
      body.length ≤ publishBodyBytes ∧ r.Answer body := by
    intro body hbody
    refine ⟨buildPublish_length hbody, ?_⟩
    cases hresponse : s.response b c sub r includeData n with
    | error e =>
      rw [hresponse] at hbody
      cases hbody
    | ok p =>
      rw [hresponse] at hbody
      obtain rfl := Except.ok.inj hbody
      obtain ⟨data, -, -, hlayout⟩ := buildPublish_layout hresponse
      exact .inl ⟨_, hlayout⟩
  have hfailed : ∀ e, (s.response b c sub r includeData n).map Prod.fst = .error e → Oversize e := by
    intro e he
    cases hresponse : s.response b c sub r includeData n with
    | error e' =>
      rw [hresponse] at he
      obtain rfl := Except.error.inj he
      exact buildPublish_oversize hreport hresponse
    | ok p =>
      rw [hresponse] at he
      cases he
  rw [Ctx.answer]
  generalize (s.response b c sub r includeData n).map Prod.fst = built at hbuilt hfailed
  have hanswering : (s.answering queue (c.platform.getTime.run s.world).2).conn.CanSend b c := hconn
  exact emitOrFault_answers hsend hwritable hanswering hbuilt hfailed

end

end Emission

end MicroOpcua
