import MicroOpcua.Services.ReportLaws

namespace MicroOpcua

open Lib.LittleEndian Lib.StateRun Lib.Table

variable {W : Type} {b : Build}

section Wire

def Publication.field (p : Publication) (offset size : Nat) : Nat :=
  get ((p.response.drop offset).take size)

def Publication.subscriptionId (p : Publication) : Nat := p.field 28 4

def Publication.moreNotifications (p : Publication) : Bool := p.field 36 1 ≠ 0

def Publication.sequenceNumber (p : Publication) : Nat := p.field 37 4

def Publication.notifications (p : Publication) : Nat := p.field 49 4

structure Publication.Of (sub : Subscription) (more : Bool) (count : Nat) (p : Publication) : Prop where
  subscriptionId : p.subscriptionId = sub.subscriptionId.toNat
  moreNotifications : p.moreNotifications = more
  sequenceNumber : p.sequenceNumber = sub.currentSequenceNumber.toNat
  notifications : p.notifications = count
  message : ∃ rest, p.response.drop 37 = p.message ++ rest

theorem take_put {n v : Nat} (rest : Bytes) : (put n v ++ rest).take n = put n v := by
  rw [List.take_left' (put_length n v)]

theorem get_put_of_lt {n v : Nat} (h : v < 256 ^ n) : get (put n v) = v := by
  rw [get_put, Nat.mod_eq_of_lt h]

theorem Publication.of_layout {sub : Subscription} {r : PublishRequest} {more : Bool}
    {publishTime : UInt64} {count : Nat} {data rest message response : Bytes} (hcount : count < 256 ^ 4)
    (hmessage : message = notificationMessage sub.currentSequenceNumber publishTime count data)
    (hresponse : response = publishResponse r.requestHandle sub.subscriptionId more message rest) :
    Publication.Of sub more count ⟨response, message⟩ := by
  have htail : response.drop 37 = message ++ rest := by rw [hresponse, drop_publishResponse]
  have hhead :
    (responsePrefix publishResponseId r.requestHandle good ++ (put 4 sub.subscriptionId.toNat ++
      put 4 0)).length = 36 := by simp
  have hmore : response.drop 36 = [if more then 1 else 0] ++ (message ++ rest) := by
    have hdrop : List.drop 36 (_ ++ ([if more then 1 else 0] ++ (message ++ rest))) = _ :=
      List.drop_left' hhead
    rw [hresponse]
    simpa only [publishResponse, List.append_assoc] using hdrop
  have hnumber :
    (put 4 sub.currentSequenceNumber.toNat ++ put 8 publishTime.toNat).length = 12 := by simp
  have hcounted : response.drop 49 = put 4 count ++ (data ++ rest) := by
    have hdrop : List.drop 12 (_ ++ (put 4 count ++ (data ++ rest))) = _ := List.drop_left' hnumber
    rw [show 49 = 37 + 12 from rfl, ← List.drop_drop, htail, hmessage]
    simpa only [notificationMessage, List.append_assoc] using hdrop
  refine ⟨?_, ?_, ?_, ?_, rest, htail⟩
  · rw [Publication.subscriptionId, Publication.field, hresponse, publishResponse,
      List.drop_left' (responsePrefix_length ..), take_put, get_put_of_lt sub.subscriptionId.toNat_lt]
  · rw [Publication.moreNotifications, Publication.field, hmore]
    cases more <;> rfl
  · rw [Publication.sequenceNumber, Publication.field, htail, hmessage, notificationMessage,
      List.append_assoc, take_put, get_put_of_lt sub.currentSequenceNumber.toNat_lt]
  · rw [Publication.notifications, Publication.field, hcounted, take_put, get_put_of_lt hcount]

theorem notificationCount_le (b : Build) (sub : Subscription) (includeData : Bool) (n : Nat) :
    notificationCount b sub includeData n ≤ 2 := by
  unfold notificationCount
  split
  · split <;> split <;> decide
  · decide

theorem buildPublish_of {items : ItemList W} {sub : Subscription} {r : PublishRequest}
    {includeData : Bool} {n : Nat} {publishTime : UInt64} {p : Publication}
    (h : buildPublish b items sub r includeData n publishTime = .ok (p.response, p.message)) :
    p.Of sub (b.subscriptionsStandard && includeData && sub.moreNotifications)
      (notificationCount b sub includeData n) := by
  obtain ⟨data, -, hmessage, hresponse⟩ := buildPublish_layout h
  exact Publication.of_layout (Nat.lt_of_le_of_lt (notificationCount_le ..) (by decide))
    hmessage hresponse

end Wire

section Turn

variable {x : TurnInput W} {s : Subscriptions W}

def Subscription.turned (sub : Subscription) (more resend : Bool) (keepAlive number : UInt32)
    (next : UInt64) : Subscription :=
  { sub with
    moreNotifications := more, resendDataPending := resend, keepAliveCounter :=
      keepAlive, sequenceNumber := number,
    nextPublishMs := next }

variable (b x s) in
/-- What a turn can do: nothing, or something with the items `items`, the count `n` and the subscription
`prepared` it finds when it has prepared its report. -/
inductive TurnStep : Option Publication × Subscriptions W → Prop where
  | idle : TurnStep (none, s)
  | quiet (sub prepared : Subscription) (items : ItemList W) (n : Nat) (queue : List PublishRequest)
      (keepAlive number : UInt32) (next : UInt64)
      (found : s.subscriptions[x.index]? = some sub) (inUse : sub.inUse = true)
      (prepare : ((prepareReport b sub s.items.monitoredItems).run x.world).1 = (items, n, prepared))
      (numbered : number = sub.sequenceNumber ∨ number = sub.currentSequenceNumber) :
      TurnStep (none, { setSubscription x.index
        (sub.turned prepared.moreNotifications prepared.resendDataPending keepAlive number next)
        (setItemList items s) with publishQueue := queue })
  | keepAlive (sub prepared : Subscription) (items : ItemList W) (n : Nat) (r : PublishRequest)
      (queue : List PublishRequest) (p : Publication) (next : UInt64) (counter : UInt32)
      (found : s.subscriptions[x.index]? = some sub) (inUse : sub.inUse = true)
      (prepare : ((prepareReport b sub s.items.monitoredItems).run x.world).1 = (items, n, prepared))
      (nothing : prepared.hasData b n = false)
      (dequeued : publishRequestDequeue s.publishQueue sub.sessionId = some (r, queue))
      (built : buildPublish b items { prepared with keepAliveCounter := counter }.numbered r
        false 0 x.publishTime = .ok (p.response, p.message)) :
      TurnStep (some p, { setSubscription x.index
        (sub.turned prepared.moreNotifications prepared.resendDataPending 0
          sub.currentSequenceNumber next)
        (setItemList items s) with publishQueue := queue })
  | data (sub prepared : Subscription) (items : ItemList W) (n : Nat) (r : PublishRequest)
      (queue : List PublishRequest) (p : Publication) (next : UInt64)
      (found : s.subscriptions[x.index]? = some sub) (inUse : sub.inUse = true)
      (prepare : ((prepareReport b sub s.items.monitoredItems).run x.world).1 = (items, n, prepared))
      (something : prepared.hasData b n = true)
      (dequeued : publishRequestDequeue s.publishQueue sub.sessionId = some (r, queue))
      (built : buildPublish b items prepared.numbered r true n x.publishTime =
        .ok (p.response, p.message)) :
      TurnStep (some p,
        { setSubscription x.index { prepared.numbered.reported b p.message with nextPublishMs := next }
          (setItemList (clearReportedItems b items prepared n) s) with publishQueue := queue })

theorem turn_step (b : Build) (x : TurnInput W) (s : Subscriptions W) : TurnStep b x s (turn b x s) := by
  obtain hidle | ⟨sub, hfound, hin, -, hturn⟩ := turn_cases b x s
  · rw [hidle]
    exact .idle
  rw [hturn]
  obtain ⟨more, resend, hsub⟩ := prepareReport_sub (b := b) sub s.items.monitoredItems x.world
  cases hprepare : ((prepareReport b sub s.items.monitoredItems).run x.world).1 with
  | mk items p =>
    obtain ⟨n, prepared⟩ := p
    rw [hprepare] at hsub
    rw [turnOf_eq hprepare, turnBranch]
    have hsub : prepared = { sub with moreNotifications := more, resendDataPending := resend } := hsub
    have howner : prepared.sessionId = sub.sessionId := by rw [hsub]
    have hnumbers {number : UInt32} (h : number = prepared.sequenceNumber ∨
      number = prepared.currentSequenceNumber) :
        number = sub.sequenceNumber ∨ number = sub.currentSequenceNumber := by
      rw [hsub] at h
      exact h
    by_cases hdata : prepared.hasData b n = true
    · rw [if_pos hdata, turnData]
      obtain ⟨number, queue, hnumber, heq⟩ | ⟨r, queue, p, hr, hbuilt, heq⟩ :=
        turnAnswer_cases b x prepared (setItemList items s) true n (sentData b n)
      · obtain ⟨next, hnext⟩ := advancePublishTimer_eq { prepared with sequenceNumber := number } x.nowMs
        rw [heq, hnext]
        have hstep :=
          TurnStep.quiet sub prepared items n queue prepared.keepAliveCounter number next hfound hin
            hprepare (hnumbers hnumber)
        obtain rfl := hsub
        exact hstep
      · obtain ⟨next, hnext⟩ := advancePublishTimer_eq (prepared.numbered.reported b p.message) x.nowMs
        rw [heq, sentData, hnext]
        exact .data sub prepared items n r queue p next hfound hin hprepare hdata (howner ▸ hr) hbuilt
    · rw [if_neg hdata]
      by_cases hwaits : prepared.counted.keepAliveCounter < prepared.maxKeepAliveCount
      · obtain ⟨next, hnext⟩ := advancePublishTimer_eq prepared.counted x.nowMs
        rw [turnKeepAlive_waits hwaits, hnext]
        have hstep :=
          TurnStep.quiet sub prepared items n s.publishQueue prepared.counted.keepAliveCounter _
            next hfound hin hprepare (hnumbers (.inl rfl))
        obtain rfl := hsub
        exact hstep
      rw [turnKeepAlive_due hwaits]
      obtain ⟨number, queue, hnumber, heq⟩ | ⟨r, queue, p, hr, hbuilt, heq⟩ :=
        turnAnswer_cases b x prepared.counted (setItemList items s) false 0 sentKeepAlive
      · obtain ⟨next, hnext⟩ :=
          advancePublishTimer_eq { prepared.counted with sequenceNumber := number } x.nowMs
        rw [heq, hnext]
        have hstep :=
          TurnStep.quiet sub prepared items n queue prepared.counted.keepAliveCounter number next hfound
            hin hprepare (hnumbers hnumber)
        obtain rfl := hsub
        exact hstep
      · obtain ⟨next, hnext⟩ :=
          advancePublishTimer_eq { prepared.counted.numbered with keepAliveCounter := 0 } x.nowMs
        rw [heq, sentKeepAlive, hnext]
        have hstep :=
          TurnStep.keepAlive sub prepared items n r queue p next prepared.counted.keepAliveCounter hfound
            hin hprepare (by simpa using hdata) (howner ▸ hr) hbuilt
        obtain rfl := hsub
        exact hstep

theorem turn_message {p : Publication} (h : (turn b x s).1 = some p) :
    ∃ tail, p.response.drop 37 = p.message ++ tail := by
  have hstep := turn_step b x s
  generalize turn b x s = q at h hstep
  cases hstep with
  | idle => cases h
  | quiet => cases h
  | keepAlive _ _ _ _ _ _ _ _ _ _ _ _ _ _ built =>
    obtain rfl := Option.some.inj h
    exact (buildPublish_of built).message
  | data _ _ _ _ _ _ _ _ _ _ _ _ _ built =>
    obtain rfl := Option.some.inj h
    exact (buildPublish_of built).message

end Turn

end MicroOpcua
