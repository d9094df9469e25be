import MicroOpcua.Services.TurnLaws

namespace MicroOpcua

open Lib.Table

variable {W : Type} {b : Build}

/-- What a client of a subscription learns of an operation: a creation, a message that was emitted, or an
acknowledgement that was accepted. -/
inductive EngineEvent where
  | created (subscriptionId : UInt32)
  | published (p : Publication)
  | acknowledged (subscriptionId sequenceNumber : UInt32)
deriving DecidableEq

def EngineOp.event (b : Build) : EngineOp W → Subscriptions W → Option EngineEvent
  | .createSubscription sessionId p enabled nowMs, s =>
    (MicroOpcua.createSubscription sessionId p enabled nowMs s).1.toOption.map
      (.created ·.subscriptionId)
  | .acknowledge sessionId subscriptionId sequenceNumber, s =>
    (MicroOpcua.acknowledge sessionId subscriptionId sequenceNumber s).1.toOption.map
      (fun _ => .acknowledged subscriptionId sequenceNumber)
  | .turn x, s => (MicroOpcua.turn b x s).1.map .published
  | _, _ => none

def eventLog (b : Build) : List (EngineOp W) → Subscriptions W → List EngineEvent
  | [], _ => []
  | op :: ops, s => (op.event b s).toList ++ eventLog b ops (op.apply b s)

section Stream

def Publication.dataOf (id : UInt32) (p : Publication) : Bool :=
  p.subscriptionId = id.toNat && p.notifications ≠ 0

structure MessageStream where
  messages : List Publication
  retained : Option Publication

def MessageStream.empty : MessageStream := ⟨[], none⟩

def MessageStream.step (b : Build) (id : UInt32) (st : MessageStream) : EngineEvent → MessageStream
  | .created id' => if id' = id then .empty else st
  | .published p =>
    if p.dataOf id then ⟨st.messages ++ [p], if p.message.length > b.retransmitBytes then
      none else some p⟩ else st
  | .acknowledged id' sequenceNumber =>
    if id' = id ∧ st.retained.any (fun p => p.sequenceNumber = sequenceNumber.toNat) then
      { st with retained := none }
    else st

def messageStream (b : Build) (id : UInt32) (events : List EngineEvent) : MessageStream :=
  events.foldl (MessageStream.step b id) .empty

/-- The number of the message after `k` data messages: 1, 2, 3, and so on, without 0. -/
def messageNumber (k : Nat) : Nat := k % (2 ^ 32 - 1) + 1

theorem messageNumber_succ_ne (k : Nat) : messageNumber (k + 1) ≠ messageNumber k := by
  unfold messageNumber
  omega

theorem messageStream_concat (id : UInt32) (events : List EngineEvent) (e : EngineEvent) :
    messageStream b id (events ++ [e]) = (messageStream b id events).step b id e := by
  rw [messageStream, List.foldl_append]
  rfl

def EngineEvent.Settles (id : UInt32) (n : Nat) : EngineEvent → Prop
  | .created id' => id' = id
  | .published p => p.dataOf id = true
  | .acknowledged id' sequenceNumber => id' = id ∧ sequenceNumber.toNat = n

variable {id : UInt32} {p : Publication}

theorem MessageStream.step_quiet {st : MessageStream} {e : EngineEvent} (h : st.retained = some p)
    (hquiet : ¬ e.Settles id p.sequenceNumber) : st.step b id e = st := by
  cases e with
  | created id' => exact if_neg hquiet
  | published q => exact if_neg hquiet
  | acknowledged id' number =>
    refine if_neg (fun hnamed => hquiet ⟨hnamed.1, ?_⟩)
    have hnumber := hnamed.2
    rw [h, Option.any_some, decide_eq_true_eq] at hnumber
    exact hnumber.symm

theorem messageStream_quiet {sent rest : List EngineEvent} (hdata : p.dataOf id = true)
    (hshort : p.message.length ≤ b.retransmitBytes)
    (hquiet : ∀ e ∈ rest, ¬ e.Settles id p.sequenceNumber) :
    messageStream b id (sent ++ .published p :: rest) =
      ⟨(messageStream b id sent).messages ++ [p], some p⟩ := by
  induction rest using List.reverseRecOn with
  | nil =>
    rw [messageStream_concat, MessageStream.step, if_pos hdata, if_neg (Nat.not_lt.mpr hshort)]
  | append_singleton rest e ih =>
    have hrest := ih (fun e he => hquiet e (List.mem_append_left _ he))
    rw [← List.cons_append, ← List.append_assoc, messageStream_concat, hrest]
    exact MessageStream.step_quiet rfl (hquiet e (List.mem_append_right _ (.head _)))

theorem exists_published_of_retained {events : List EngineEvent}
    (h : (messageStream b id events).retained = some p) :
    ∃ sent rest, events = sent ++ .published p :: rest ∧ p.dataOf id = true ∧
      p.message.length ≤ b.retransmitBytes ∧ ∀ e ∈ rest, ¬ e.Settles id p.sequenceNumber := by
  induction events using List.reverseRecOn with
  | nil => cases h
  | append_singleton events e ih =>
    rw [messageStream_concat] at h
    have hkept (hstep : (messageStream b id events).step b id e = messageStream b id events)
        (hquiet : (messageStream b id events).retained = some p → ¬ e.Settles id p.sequenceNumber) :
        ∃ sent rest, events ++ [e] = sent ++ .published p :: rest ∧ p.dataOf id = true ∧
          p.message.length ≤ b.retransmitBytes ∧ ∀ e ∈ rest, ¬ e.Settles id p.sequenceNumber := by
      rw [hstep] at h
      obtain ⟨sent, rest, rfl, hdata, hshort, hrest⟩ := ih h
      refine ⟨sent, rest ++ [e], by simp, hdata, hshort, fun e' he' => ?_⟩
      obtain he' | he' := List.mem_append.mp he'
      · exact hrest e' he'
      · exact List.mem_singleton.mp he' ▸ hquiet h
    cases e with
    | created id' =>
      by_cases hid : id' = id
      · rw [MessageStream.step, if_pos hid] at h
        cases h
      · exact hkept (if_neg hid) (fun _ => hid)
    | published q =>
      by_cases hdata : q.dataOf id = true
      · rw [MessageStream.step, if_pos hdata] at h
        by_cases hlong : q.message.length > b.retransmitBytes
        · rw [if_pos hlong] at h
          cases h
        · rw [if_neg hlong] at h
          obtain rfl := Option.some.inj h
          exact ⟨events, [], rfl, hdata, Nat.not_lt.mp hlong, nofun⟩
      · exact hkept (if_neg hdata) (fun _ => hdata)
    | acknowledged id' number =>
      by_cases hnamed : id' = id ∧
          (messageStream b id events).retained.any (fun p => p.sequenceNumber = number.toNat) = true
      · rw [MessageStream.step, if_pos hnamed] at h
        cases h
      · refine hkept (if_neg hnamed) (fun hretained hsettles => hnamed ⟨hsettles.1, ?_⟩)
        rw [hretained, Option.any_some, decide_eq_true_eq]
        exact hsettles.2.symm

end Stream

section Log

variable {s : Subscriptions W}

theorem runOps_concat (ops : List (EngineOp W)) (op : EngineOp W) (s : Subscriptions W) :
    runOps b (ops ++ [op]) s = op.apply b (runOps b ops s) := by
  rw [runOps, List.foldl_append]
  rfl

theorem eventLog_concat (ops : List (EngineOp W)) (op : EngineOp W) (s : Subscriptions W) :
    eventLog b (ops ++ [op]) s = eventLog b ops s ++ (op.event b (runOps b ops s)).toList := by
  induction ops generalizing s with
  | nil => simp only [List.nil_append, eventLog, List.append_nil, runOps, List.foldl_nil]
  | cons first ops ih =>
    rw [List.cons_append, eventLog, eventLog, ih, List.append_assoc]
    rfl

/-- A message in the log was emitted by a turn, in the state after the operations before. -/
theorem exists_turn_of_published {ops : List (EngineOp W)} {sent rest : List EngineEvent}
    {p : Publication} (h : eventLog b ops s = sent ++ .published p :: rest) :
    ∃ before x, sent = eventLog b before s ∧ (turn b x (runOps b before s)).1 = some p := by
  induction ops generalizing s sent with
  | nil => cases List.append_eq_nil_iff.mp h.symm |>.2
  | cons op ops ih =>
    have hlater {sent' : List EngineEvent} (hsent : sent = (op.event b s).toList ++ sent')
        (h : eventLog b ops (op.apply b s) = sent' ++ .published p :: rest) :
        ∃ before x, sent = eventLog b before s ∧ (turn b x (runOps b before s)).1 = some p := by
      obtain ⟨before, x, rfl, hx⟩ := ih h
      exact ⟨op :: before, x, hsent, hx⟩
    rw [eventLog] at h
    cases hevent : op.event b s with
    | none =>
      rw [hevent] at h hlater
      exact hlater rfl h
    | some e =>
      rw [hevent] at h hlater
      cases sent with
      | nil =>
        obtain ⟨rfl, -⟩ := List.cons.inj h
        cases op with
        | turn x =>
          obtain ⟨q, hq, heq⟩ := Option.map_eq_some_iff.mp hevent
          cases heq
          exact ⟨[], x, rfl, hq⟩
        | createSubscription =>
          obtain ⟨_, -, heq⟩ := Option.map_eq_some_iff.mp hevent
          cases heq
        | acknowledge =>
          obtain ⟨_, -, heq⟩ := Option.map_eq_some_iff.mp hevent
          cases heq
        | _ => cases hevent
      | cons e' sent =>
        obtain ⟨rfl, htail⟩ := List.cons.inj h
        exact hlater rfl htail

end Log

section Follows

variable {s t : Subscriptions W} {events : List EngineEvent} {sub sub' : Subscription}

structure Subscription.Follows (sub : Subscription) (st : MessageStream) : Prop where
  number : sub.currentSequenceNumber.toNat = messageNumber st.messages.length
  retained :
    (if sub.retransmit.valid then
      some (sub.retransmit.sequenceNumber.toNat, sub.retransmit.message) else none) =
        st.retained.map (fun p => (p.sequenceNumber, p.message))

def Subscriptions.Follows (b : Build) (events : List EngineEvent) (s : Subscriptions W) : Prop :=
  ∀ sub ∈ s.subscriptions, sub.inUse = true → sub.Follows (messageStream b sub.subscriptionId events)

structure SubscriptionLedger where
  inUse : Bool
  subscriptionId : UInt32
  number : UInt32
  retransmit : Retransmit

def Subscription.ledger (sub : Subscription) : SubscriptionLedger :=
  ⟨sub.inUse, sub.subscriptionId, sub.currentSequenceNumber, sub.retransmit⟩

theorem Subscription.Follows.congr {st : MessageStream} (h : sub.Follows st)
    (hledger : sub'.ledger = sub.ledger) : sub'.Follows st := by
  have hnumber : sub'.currentSequenceNumber = sub.currentSequenceNumber :=
    congrArg SubscriptionLedger.number hledger
  have hretransmit : sub'.retransmit = sub.retransmit := congrArg SubscriptionLedger.retransmit hledger
  exact ⟨hnumber ▸ h.number, hretransmit ▸ h.retained⟩

theorem Subscriptions.Follows.congr {events' : List EngineEvent} (h : s.Follows b events)
    (hsame : t.subscriptions.map Subscription.ledger = s.subscriptions.map Subscription.ledger)
    (hevents : ∀ id, messageStream b id events' = messageStream b id events) : t.Follows b events' := by
  intro sub' hmem' hin'
  obtain ⟨sub, hmem, hledger⟩ := List.mem_map.mp (hsame ▸ List.mem_map_of_mem hmem')
  have hin : sub.inUse = sub'.inUse := congrArg SubscriptionLedger.inUse hledger
  have hid : sub.subscriptionId = sub'.subscriptionId :=
    congrArg SubscriptionLedger.subscriptionId hledger
  rw [hevents, ← hid]
  exact (h sub hmem (hin.trans hin')).congr hledger.symm

theorem Subscriptions.Follows.set {i : Nat} {e : EngineEvent} (h : s.Follows b events)
    (htable : t.subscriptions = s.subscriptions.set i sub')
    (hother : ∀ sub ∈ s.subscriptions.set i .zero, sub.inUse = true →
      sub.subscriptionId ≠ sub'.subscriptionId)
    (hevent : ∀ id st, id ≠ sub'.subscriptionId → MessageStream.step b id st e = st)
    (hsub' : sub'.Follows ((messageStream b sub'.subscriptionId events).step b sub'.subscriptionId e)) :
    t.Follows b (events ++ [e]) := by
  intro sub hmem hin
  rw [messageStream_concat]
  rw [htable] at hmem
  obtain rfl | hkept := mem_set_of_mem_set hmem
  · exact hsub'
  · rw [hevent _ _ (hother sub (hkept _) hin)]
    obtain hmem | rfl := List.mem_or_eq_of_mem_set (hkept .zero)
    · exact h sub hmem hin
    · cases hin

theorem Subscriptions.Consistent.other_ids {i : Nat} (h : s.Consistent b)
    (hi : s.subscriptions[i]? = some sub) (hin : sub.inUse = true) :
    ∀ other ∈ s.subscriptions.set i .zero, other.inUse = true →
      other.subscriptionId ≠ sub.subscriptionId := by
  intro other hmem hused heq
  have hnodup := (usedSubscriptions_free hi hin).nodup_iff.mp h.ids
  exact (List.nodup_cons.mp hnodup).1 (mem_usedSubscriptions.mpr ⟨other, hmem, hused, heq⟩)

theorem currentSequenceNumber_ne_zero (sub : Subscription) : sub.currentSequenceNumber ≠ 0 := by
  unfold Subscription.currentSequenceNumber
  split
  · decide
  · assumption

theorem currentSequenceNumber_of_ne_zero {n : UInt32} (h : n ≠ 0) :
    { sub with sequenceNumber := n }.currentSequenceNumber = n := if_neg h

theorem numbered_currentSequenceNumber (sub : Subscription) :
    sub.numbered.currentSequenceNumber = sub.currentSequenceNumber :=
  if_neg (currentSequenceNumber_ne_zero sub)

theorem advanceSequenceNumber_number (sub : Subscription) {k : Nat}
    (h : sub.sequenceNumber.toNat = messageNumber k) :
    sub.advanceSequenceNumber.currentSequenceNumber.toNat = messageNumber (k + 1) := by
  have hlt := sub.sequenceNumber.toNat_lt
  have hzero : sub.sequenceNumber + 1 = 0 ↔ sub.sequenceNumber.toNat = 2 ^ 32 - 1 := by
    rw [← UInt32.toNat_inj, UInt32.toNat_add]
    simp only [UInt32.reduceToNat]
    omega
  unfold messageNumber at h ⊢
  unfold Subscription.advanceSequenceNumber
  by_cases hwrap : sub.sequenceNumber + 1 = 0
  · rw [if_pos hwrap, currentSequenceNumber_of_ne_zero (by decide)]
    have hmax := hzero.mp hwrap
    simp only [UInt32.reduceToNat]
    omega
  · rw [if_neg hwrap, currentSequenceNumber_of_ne_zero hwrap, UInt32.toNat_add]
    have hmax := mt hzero.mpr hwrap
    simp only [UInt32.reduceToNat]
    omega

theorem reported_retransmit (sub : Subscription) (message : Bytes) :
    (sub.reported b message).retransmit =
      if message.length > b.retransmitBytes then ⟨false, sub.retransmit.sequenceNumber, []⟩
      else ⟨true, sub.sequenceNumber, message⟩ := by
  simp only [Subscription.reported, Subscription.storeRetransmit, Subscription.advanceSequenceNumber]
  split
  · split <;> rfl
  · split <;> rfl

theorem reported_number (sub : Subscription) (message : Bytes) {k : Nat}
    (h : sub.sequenceNumber.toNat = messageNumber k) :
    (sub.reported b message).currentSequenceNumber.toNat = messageNumber (k + 1) := by
  apply advanceSequenceNumber_number
  simp only [Subscription.storeRetransmit]
  split
  · split <;> exact h
  · split <;> exact h

variable {p : Publication}

theorem MessageStream.step_keepAlive (h : p.notifications = 0) (id : UInt32) (st : MessageStream) :
    st.step b id (.published p) = st := if_neg (by simp [Publication.dataOf, h])

theorem MessageStream.step_data {id : UInt32} (h : p.dataOf id = true) (st : MessageStream) :
    st.step b id (.published p) =
      ⟨st.messages ++ [p], if p.message.length > b.retransmitBytes then none else some p⟩ := if_pos h

theorem dataOf_other {id id' : UInt32} (h : p.subscriptionId = id'.toNat) (hne : id ≠ id') :
    p.dataOf id = false := by
  rw [Publication.dataOf, h, Bool.and_eq_false_iff, decide_eq_false_iff_not]
  exact .inl (fun heq => hne (UInt32.toNat_inj.mp heq).symm)

theorem notificationCount_ne_zero {prepared : Subscription} {n : Nat} (h : prepared.hasData b n = true) :
    notificationCount b prepared true n ≠ 0 := by
  simp only [Subscription.hasData, Bool.and_eq_true, Bool.or_eq_true, decide_eq_true_eq] at h
  obtain ⟨-, hn | ⟨hevents, hcount⟩⟩ := h
  · simp [notificationCount, hn]
  · simp [notificationCount, hevents, hcount]

theorem Subscription.Follows.reported {st : MessageStream} (h : sub.Follows st)
    (hnumber : p.sequenceNumber = sub.currentSequenceNumber.toNat)
    (hnumbered : sub'.sequenceNumber = sub.currentSequenceNumber)
    (hdata : p.dataOf sub.subscriptionId = true) (next : UInt64) :
    { sub'.reported b p.message with nextPublishMs := next }.Follows
      (st.step b sub.subscriptionId (.published p)) := by
  have hcurrent :
    sub'.sequenceNumber.toNat = messageNumber st.messages.length := by rw [hnumbered, h.number]
  rw [MessageStream.step_data hdata]
  refine ⟨?_, ?_⟩
  · rw [List.length_append, List.length_singleton]
    exact reported_number sub' p.message hcurrent
  · change (if (sub'.reported b p.message).retransmit.valid then _ else none) = _
    rw [reported_retransmit]
    by_cases hlong : p.message.length > b.retransmitBytes
    · simp only [if_pos hlong]
      rfl
    · simp only [if_neg hlong, if_true, Option.map_some, hnumber, hnumbered]

theorem turned_ledger {more resend : Bool} {keepAlive number : UInt32} {next : UInt64}
    (hnumber : number = sub.sequenceNumber ∨ number = sub.currentSequenceNumber) :
    (sub.turned more resend keepAlive number next).ledger = sub.ledger := by
  obtain rfl | rfl := hnumber
  · rfl
  · have hcurrent :
      (sub.turned more resend keepAlive sub.currentSequenceNumber next).currentSequenceNumber =
        sub.currentSequenceNumber := if_neg (currentSequenceNumber_ne_zero sub)
    rw [Subscription.ledger, hcurrent]
    rfl

theorem turn_follows (x : TurnInput W) (hs : s.Consistent b) (h : s.Follows b events) :
    (turn b x s).2.Follows b (events ++ ((turn b x s).1.map EngineEvent.published).toList) ∧
      ∀ p, (turn b x s).1 = some p → ∀ id : UInt32, p.subscriptionId = id.toNat →
        p.sequenceNumber = messageNumber (messageStream b id events).messages.length := by
  have hstep := turn_step b x s
  generalize turn b x s = q at hstep
  have hone {sub : Subscription} {p : Publication} (hi : s.subscriptions[x.index]? = some sub)
      (hin : sub.inUse = true) (hid : p.subscriptionId = sub.subscriptionId.toNat)
      (hnumber : p.sequenceNumber = sub.currentSequenceNumber.toNat) :
      ∀ p', some p = some p' → ∀ id : UInt32, p'.subscriptionId = id.toNat →
        p'.sequenceNumber = messageNumber (messageStream b id events).messages.length := by
    rintro p' hp id hid'
    obtain rfl := Option.some.inj hp
    obtain rfl : sub.subscriptionId = id := UInt32.toNat_inj.mp (hid.symm.trans hid')
    rw [hnumber]
    exact (h sub (List.mem_of_getElem? hi) hin).number
  cases hstep with
  | idle =>
    rw [Option.map_none, Option.toList_none, List.append_nil]
    exact ⟨h, nofun⟩
  | quiet sub prepared items n queue keepAlive number next found inUse prepare numbered =>
    rw [Option.map_none, Option.toList_none, List.append_nil]
    exact ⟨h.congr (map_set_eq found (turned_ledger numbered)) (fun _ => rfl), nofun⟩
  | keepAlive sub prepared items n r queue p next counter found inUse prepare nothing dequeued built =>
    have hof := buildPublish_of built
    obtain ⟨more, resend, hprepared⟩ := prepareReport_sub (b := b) sub s.items.monitoredItems x.world
    rw [prepare] at hprepared
    obtain rfl : prepared = _ := hprepared
    refine ⟨h.congr (map_set_eq found (turned_ledger (.inr rfl))) (fun id => ?_), ?_⟩
    · exact (messageStream_concat id events _).trans (MessageStream.step_keepAlive hof.notifications _ _)
    · exact hone found inUse hof.subscriptionId
        (hof.sequenceNumber.trans (congrArg UInt32.toNat (numbered_currentSequenceNumber _)))
  | data sub prepared items n r queue p next found inUse prepare something dequeued built =>
    have hof := buildPublish_of built
    have hcount : notificationCount b prepared.numbered true n ≠ 0 := notificationCount_ne_zero something
    obtain ⟨more, resend, hprepared⟩ := prepareReport_sub (b := b) sub s.items.monitoredItems x.world
    rw [prepare] at hprepared
    obtain hprepared : prepared = _ := hprepared
    have hid : p.subscriptionId = sub.subscriptionId.toNat := by
      rw [hof.subscriptionId, hprepared]
      rfl
    have hnumber : p.sequenceNumber = sub.currentSequenceNumber.toNat := by
      rw [hof.sequenceNumber, numbered_currentSequenceNumber, hprepared]
      rfl
    have hdata : p.dataOf sub.subscriptionId = true := by
      rw [Publication.dataOf, hid, hof.notifications]
      simp [hcount]
    have hkey : (prepared.numbered.reported b p.message).subscriptionId = sub.subscriptionId := by
      have hreported :=
        congrArg SubscriptionKey.subscriptionId (reported_key (b := b) prepared.numbered p.message)
      rw [hprepared] at hreported ⊢
      exact hreported
    refine ⟨h.set rfl ?_ ?_ ?_, hone found inUse hid hnumber⟩
    · intro other hmem hused
      exact hkey ▸ hs.other_ids found inUse other hmem hused
    · intro id st hne
      exact if_neg (by simp [dataOf_other hid (hkey ▸ hne)])
    · have hnumbered : prepared.numbered.sequenceNumber = sub.currentSequenceNumber := by
        rw [hprepared]
        rfl
      have hfollows :=
        (h sub (List.mem_of_getElem? found) inUse).reported (b := b) hnumber hnumbered hdata next
      change Subscription.Follows _
        ((messageStream b (prepared.numbered.reported b p.message).subscriptionId events).step b
          (prepared.numbered.reported b p.message).subscriptionId _)
      rw [hkey]
      exact hfollows

theorem createSubscription_follows (sessionId : UInt32) (params : SubscriptionParameters)
    (enabled : Bool) (nowMs : UInt64) (hs : s.Consistent b) (h : s.Follows b events) :
    (createSubscription sessionId params enabled nowMs s).2.Follows b (events ++
      ((createSubscription sessionId params enabled nowMs s).1.toOption.map
        (fun sub => EngineEvent.created sub.subscriptionId)).toList) := by
  unfold createSubscription
  obtain ⟨⟨e, hcreate⟩, -⟩ | ⟨i, next, old, sub, hi, hfree, hkey, hnumber, hretransmit,
      -, hfresh, hcreate⟩ :=
    subscriptionCreate_cases sessionId hs params enabled nowMs
  · rw [hcreate]
    dsimp only [Except.toOption, Option.map_none, Option.toList_none]
    rw [List.append_nil]
    exact h
  · rw [hcreate]
    refine h.set rfl ?_ ?_ ?_
    · intro other hmem hused heq
      obtain hmem | rfl := List.mem_or_eq_of_mem_set hmem
      · exact hfresh (mem_usedSubscriptions.mpr ⟨other, hmem, hused, heq⟩)
      · cases hused
    · intro id st hne
      exact if_neg (Ne.symm hne)
    · rw [MessageStream.step, if_pos rfl]
      refine ⟨?_, ?_⟩
      · rw [Subscription.currentSequenceNumber, hnumber]
        rfl
      · rw [hretransmit]
        rfl

theorem subscriptionAcknowledge_cases (subs : List Subscription) (sessionId subId number : UInt32) :
    (∃ e, subscriptionAcknowledge subs sessionId subId number = (.error e, subs)) ∨
      ∃ i sub, subs[i]? = some sub ∧ sub.Named sessionId subId ∧ sub.retransmit.valid = true ∧
        sub.retransmit.sequenceNumber = number ∧ subscriptionAcknowledge subs sessionId subId number =
          (.ok (),
            subs.set i
            { sub with retransmit := { sub.retransmit with valid := false, message := [] } }) := by
  unfold subscriptionAcknowledge
  cases hfind : subscriptionFind subs sessionId subId with
  | none => exact .inl ⟨_, rfl⟩
  | some i =>
    obtain ⟨sub, hi, hsub⟩ := subscriptionFind_eq_some hfind
    dsimp only
    rw [hi, Option.any_some]
    by_cases hretained : (sub.retransmit.valid && sub.retransmit.sequenceNumber = number) = true
    · rw [if_pos hretained]
      rw [Bool.and_eq_true, decide_eq_true_eq] at hretained
      exact .inr ⟨i, sub, hi, hsub, hretained.1, hretained.2, by rw [modify_eq_set hi]⟩
    · rw [if_neg hretained]
      exact .inl ⟨_, rfl⟩

theorem acknowledge_follows (sessionId subId number : UInt32) (hs : s.Consistent b)
    (h : s.Follows b events) : (acknowledge sessionId subId number s).2.Follows b (events ++
      ((acknowledge sessionId subId number s).1.toOption.map
        (fun _ => EngineEvent.acknowledged subId number)).toList) := by
  unfold acknowledge
  obtain ⟨e, hack⟩ | ⟨i, sub, hi, ⟨hin, -, rfl⟩, hvalid, rfl, hack⟩ :=
    subscriptionAcknowledge_cases s.subscriptions sessionId subId number
  · rw [hack]
    dsimp only [Except.toOption, Option.map_none, Option.toList_none]
    rw [List.append_nil]
    exact h
  · rw [hack]
    have hfollows := h sub (List.mem_of_getElem? hi) hin
    have hretained := hfollows.retained
    rw [if_pos hvalid] at hretained
    obtain ⟨p, hp, heq⟩ := Option.map_eq_some_iff.mp hretained.symm
    obtain ⟨hnumber, -⟩ := Prod.mk.inj heq
    refine h.set rfl (fun other => hs.other_ids hi hin other) ?_ ?_
    · intro id st hne
      exact if_neg (fun hnamed => hne hnamed.1.symm)
    · rw [MessageStream.step, if_pos ⟨rfl, by rw [hp]; exact decide_eq_true hnumber⟩]
      exact ⟨hfollows.number, rfl⟩

theorem EngineOp.apply_follows (op : EngineOp W) (hs : s.Consistent b) (h : s.Follows b events) :
    (op.apply b s).Follows b (events ++ (op.event b s).toList) := by
  have hsilent {t : Subscriptions W}
      (hsame : t.subscriptions.map Subscription.ledger = s.subscriptions.map Subscription.ledger) :
      t.Follows b (events ++ (none : Option EngineEvent).toList) := by
    rw [Option.toList_none, List.append_nil]
    exact h.congr hsame (fun _ => rfl)
  have hupdate {f : Subscription → Subscription} (hf : ∀ sub, (f sub).ledger = sub.ledger)
    (sessionId id : UInt32) :
      (subscriptionUpdate s.subscriptions sessionId id f).2.map Subscription.ledger =
        s.subscriptions.map Subscription.ledger := by
    apply (subscriptionUpdate_edits s.subscriptions sessionId id f).map_eq
    rintro sub - rfl
    exact hf sub
  cases op with
  | createSubscription sessionId p enabled nowMs =>
    exact createSubscription_follows sessionId p enabled nowMs hs h
  | acknowledge sessionId subId number => exact acknowledge_follows _ _ _ hs h
  | turn x => exact (turn_follows x hs h).1
  | modifySubscription sessionId subId p =>
    apply hsilent
    apply hupdate
    intro _
    rfl
  | setPublishingMode sessionId enabled subId =>
    apply hsilent
    apply hupdate
    intro _
    rfl
  | requestResendData sessionId subId =>
    apply hsilent
    apply hupdate
    intro _
    rfl
  | deleteSubscription sessionId subId =>
    simp only [EngineOp.apply, EngineOp.event, Option.toList_none, List.append_nil]
    unfold subscriptionDelete
    split
    · exact h
    · intro sub hmem hin
      obtain hmem | rfl := List.mem_or_eq_of_mem_set hmem
      · exact h sub hmem hin
      · cases hin
  | createItem subId body node nowMs w =>
    simp only [EngineOp.apply]
    split
    · exact hsilent rfl
    · exact hsilent rfl
  | modifyItem subId body => exact hsilent rfl
  | setMonitoringMode mode subId itemId =>
    obtain ⟨items, hitems, -⟩ := setMonitoringModeResult_edits mode subId itemId s
    simp only [EngineOp.apply, hitems]
    exact hsilent rfl
  | deleteItem subId itemId => exact hsilent rfl
  | addTriggerLink subId triggeringId linkedId => exact hsilent rfl
  | removeTriggerLink subId triggeringId linkedId => exact hsilent rfl
  | park request =>
    obtain ⟨queue, hqueue, -⟩ := parkPublish_edits request s
    simp only [EngineOp.apply, hqueue]
    exact hsilent rfl
  | sample nowMs w => exact hsilent rfl
  | triggerEvent e =>
    apply hsilent
    simp only [EngineOp.apply, MicroOpcua.triggerEvent, List.map_map]
    refine List.map_congr_left (fun sub _ => ?_)
    simp only [Function.comp]
    split <;> rfl
  | reset =>
    simp only [EngineOp.apply, EngineOp.event, Option.toList_none, List.append_nil]
    intro sub hmem hin
    obtain rfl := List.eq_of_mem_replicate hmem
    cases hin

theorem runOps_follows (ops : List (EngineOp W)) :
    (runOps b ops (.init b)).Follows b (eventLog b ops (.init b)) := by
  induction ops using List.reverseRecOn with
  | nil =>
    intro sub hmem hin
    obtain rfl := List.eq_of_mem_replicate hmem
    cases hin
  | append_singleton ops op ih =>
    rw [runOps_concat, eventLog_concat]
    exact op.apply_follows (runOps_consistent ops init_consistent) ih

end Follows

end MicroOpcua
