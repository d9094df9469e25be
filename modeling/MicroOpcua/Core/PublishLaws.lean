import MicroOpcua.Core.Simulation

namespace MicroOpcua

open Relation Lib.StateRun

variable {W A : Type} {b : Build} {c : Config W} {app : Application W A}

section Dequeue

variable {sessionId : UInt32}

theorem oldestRequest_mem {rs : List PublishRequest} {i : Nat} {best : Option (Nat × PublishRequest)}
    {p : Nat × PublishRequest} (h : oldestRequest sessionId rs i best = some p) :
    best = some p ∨ p.2 ∈ rs ∧ p.2.inUse = true ∧ p.2.sessionId = sessionId := by
  induction rs generalizing i best with
  | nil => exact .inl h
  | cons r rs ih =>
    unfold oldestRequest at h
    split at h
    · rename_i hr
      simp only [Bool.and_eq_true, decide_eq_true_eq] at hr
      rcases ih h with hbest | ⟨hmem, hin⟩
      · obtain rfl := Option.some.inj hbest
        exact .inr ⟨.head _, hr.1⟩
      · exact .inr ⟨.tail _ hmem, hin⟩
    · rcases ih h with hbest | ⟨hmem, hin⟩
      · exact .inl hbest
      · exact .inr ⟨.tail _ hmem, hin⟩

theorem publishRequestDequeue_eq_some {queue queue' : List PublishRequest} {r : PublishRequest}
    (h : publishRequestDequeue queue sessionId = some (r, queue')) :
    r ∈ queue ∧ r.inUse = true ∧ r.sessionId = sessionId := by
  obtain ⟨p, hp, heq⟩ := Option.map_eq_some_iff.mp h
  obtain ⟨rfl, -⟩ := Prod.mk.inj heq
  rcases oldestRequest_mem hp with hnone | hmem
  · cases hnone
  · exact hmem

end Dequeue

section Emit

variable (app) {t : Turn b W A} {s : Ctx W A} {r : PublishRequest} {body : Bytes}

@[simp] theorem Ctx.written_shared (s : Ctx W A) (content : Content) (bytes : Bytes) :
    (s.written content bytes).shared = s.shared := by
  unfold Ctx.written
  split <;> rfl

theorem sendBufferChunk_shared (content : Content) (bytes : Bytes) (s : Ctx W A) :
    ((sendBufferChunk c content bytes).run s).2.shared = s.shared := by
  simp only [sendBufferChunk, run_bind, run_modify, run_get, onWorld_run, run_ite]
  split
  · exact s.written_shared content bytes
  · exact s.written_shared content bytes

theorem emitMessage_shared (r : PublishRequest) (body : Bytes) (s : Ctx W A) :
    ((emitMessage b c r body).run s).2.shared = s.shared := by
  simp only [emitMessage, run_bind, run_get, run_ite]
  split
  · split
    · simp only [run_bind, run_modify, run_get, onWorld_run]
      split
      · rfl
      · rw [run_bind]
        exact sendBufferChunk_shared _ _ _
    · rfl
  · split
    · rfl
    · rw [run_modify]
      split
      · rfl
      · rw [run_bind]
        exact sendBufferChunk_shared _ _ _

theorem emitFault_shared (r : PublishRequest) (e : Fault) (s : Ctx W A) :
    ((emitFault b c r e).run s).2.shared = s.shared := by
  unfold emitFault
  split
  · split
    · exact emitMessage_shared _ _ _
    · rfl
  · rfl

theorem emitOrFault_shared (r : PublishRequest) (built : Except Fault Bytes) (s : Ctx W A) :
    ((emitOrFault b c r built).run s).2.shared = s.shared := by
  cases built with
  | error e => exact emitFault_shared r e s
  | ok body =>
    simp only [emitOrFault, run_bind]
    split
    · exact emitMessage_shared r body s
    · exact (emitFault_shared _ _ _).trans (emitMessage_shared r body s)

theorem Emitted.numbered (h : Emitted b t s r) (w : W) :
    Emitted b t { s.numbered with world := w } r := by
  refine ⟨h.trace, h.parked, h.inUse, h.session, ?_, ?_⟩
  · rw [Ctx.numbered, Ctx.setChannel, h.conn]
  · rw [Ctx.numbered, Ctx.setChannel, h.channel]

theorem emitMessage_acts (hsend : symmetricHeaderSize ≤ c.sendBufferSize)
    (hsize : body.length ≤ secureRespMax) (h : Emitted b t s r) :
    Acts b c app (.turn t) s ((emitMessage b c r body).run s).2 ∧
      (∀ e, ((emitMessage b c r body).run s).1 = .error e →
        Emitted b t ((emitMessage b c r body).run s).2 r) := by
  simp only [emitMessage, run_bind, run_get, run_ite]
  split
  · rename_i hmode
    split
    · rename_i cr hcr hkeys
      simp only [run_bind, run_modify, run_get, onWorld_run]
      split
      · rename_i e he
        refine ⟨.head (.lost ?_) (.single (.quiet (.world _ _))), fun _ _ => h.numbered _⟩
        simp only [Bool.and_eq_true, decide_eq_true_eq] at hmode
        exact .symmetric cr _ r.requestId body e hcr hmode.2 hmode.1 hsize he
      · rename_i bytes hbytes
        rw [run_bind]
        refine ⟨sendNumbered_acts ?_ ?_ ?_ _, by rintro _ ⟨⟩⟩
        · exact (symChunkWrap_length (by decide) (Prod.ext hbytes rfl)).2
        · rintro ⟨⟩
        · rintro r' hr'
          obtain rfl := Option.some.inj hr'
          refine ⟨?_, t, rfl, h⟩
          have hmode' : (b.security && s.numbered.conn.channel.mode ≠ .none) = true := hmode
          rw [FramesMsg, if_pos hmode']
          exact ⟨cr, _, body, hcr, hbytes⟩
    · exact ⟨.refl, fun _ _ => h⟩
  · rename_i hmode
    split
    · exact ⟨.refl, fun _ _ => h⟩
    · rename_i hfits
      rw [run_modify]
      split
      · rename_i e he
        exact absurd he (by simp only [finalizeSymmetric]; rw [if_neg (by omega)]; rintro ⟨⟩)
      · rename_i bytes hbytes
        rw [run_bind]
        refine ⟨sendNumbered_acts (finalizeSymmetric_length hbytes) ?_ ?_ s.world, by rintro _ ⟨⟩⟩
        · rintro ⟨⟩
        rintro r' hr'
        obtain rfl := Option.some.inj hr'
        refine ⟨?_, t, rfl, h⟩
        have hmode' : ¬ (b.security && s.numbered.conn.channel.mode ≠ .none) = true := hmode
        rw [FramesMsg, if_neg hmode']
        exact ⟨body, hbytes⟩

theorem emitFault_acts (e : Fault) (hsend : symmetricHeaderSize ≤ c.sendBufferSize)
    (h : Emitted b t s r) : Acts b c app (.turn t) s ((emitFault b c r e).run s).2 := by
  unfold emitFault
  split
  · split
    · rename_i fault _
      exact (emitMessage_acts app hsend (fault.2.trans (by decide)) h).1
    · exact .refl
  · exact .refl

theorem emitOrFault_acts (built : Except Fault Bytes) (hsend : symmetricHeaderSize ≤ c.sendBufferSize)
    (hsize : ∀ bs, built = .ok bs → bs.length ≤ secureRespMax) (h : Emitted b t s r) :
    Acts b c app (.turn t) s ((emitOrFault b c r built).run s).2 := by
  cases built with
  | error e => exact emitFault_acts app e hsend h
  | ok body =>
    obtain ⟨hacts, hfailed⟩ := emitMessage_acts app hsend (hsize body rfl) h
    simp only [emitOrFault, run_bind]
    split
    · exact hacts
    · rename_i e he
      exact hacts.trans (emitFault_acts app e hsend (hfailed e he))

end Emit

section Turn

variable (app) {t : Turn b W A} {s : Ctx W A} {sub : Subscription}

structure Preparing (t : Turn b W A) (s : Ctx W A) : Prop where
  trace : s.trace = t.start.trace
  conn : s.conn = t.start.conn
  queue : s.shared.subs.publishQueue = t.start.shared.subs.publishQueue
  subs : s.shared.subs.subscriptions = t.start.shared.subs.subscriptions

variable (b c) in
structure Published (t : Turn b W A) (s : Ctx W A) (sub : Subscription)
    (p : Subscription × Ctx W A) : Prop where
  acts : Acts b c app (.turn t) s p.2
  subs : p.2.shared.subs.subscriptions = s.shared.subs.subscriptions
  key : p.1.key = sub.key

theorem Quiet.setSubs (t : Turn b W A) (s : Ctx W A) (w : W) (subs : Subscriptions W)
    (h : SameTables s.shared.subs subs) :
    Quiet (.turn t) s { s with shared := { s.shared with subs := subs }, world := w } :=
  ⟨rfl, rfl, rfl, nofun, h, rfl⟩

def Ctx.answering (s : Ctx W A) (queue : List PublishRequest) (w : W) : Ctx W A :=
  { s with shared := { s.shared with subs := { s.shared.subs with publishQueue := queue } }, world := w }

theorem dequeuePublish_none {sessionId : UInt32} {s : Ctx W A}
    (h : publishRequestDequeue s.shared.subs.publishQueue sessionId = none) :
    (dequeuePublish sessionId).run s = (none, s) := by
  simp only [dequeuePublish, StateT.run, h]

theorem dequeuePublish_some {sessionId : UInt32} {s : Ctx W A} {r : PublishRequest}
    {queue : List PublishRequest}
    (h : publishRequestDequeue s.shared.subs.publishQueue sessionId = some (r, queue)) :
    (dequeuePublish sessionId).run s = (some r, s.answering queue s.world) := by
  simp only [dequeuePublish, StateT.run, h]
  rfl

def Ctx.response (b : Build) (c : Config W) (s : Ctx W A) (sub : Subscription) (r : PublishRequest)
    (includeData : Bool) (n : Nat) : Except Fault (Bytes × Bytes) :=
  buildPublish b s.shared.subs.items.monitoredItems sub r includeData n
    (c.platform.getTime.run s.world).1

def Ctx.answer (b : Build) (c : Config W) (s : Ctx W A) (sub : Subscription) (r : PublishRequest)
    (queue : List PublishRequest) (includeData : Bool) (n : Nat) : Bool × Ctx W A :=
  (emitOrFault b c r ((s.response b c sub r includeData n).map Prod.fst)).run
    (s.answering queue (c.platform.getTime.run s.world).2)

theorem Ctx.answer_shared (b : Build) (c : Config W) (s : Ctx W A) (sub : Subscription)
    (r : PublishRequest) (queue : List PublishRequest) (includeData : Bool) (n : Nat) :
    (s.answer b c sub r queue includeData n).2.shared.subs =
      { s.shared.subs with publishQueue := queue } := by
  rw [answer, emitOrFault_shared]
  rfl

section Branches

variable {includeData : Bool} {n : Nat} {sent : Sent W} {r : PublishRequest}
    {queue : List PublishRequest}

theorem publishAnswer_none (h : publishRequestDequeue s.shared.subs.publishQueue sub.sessionId = none) :
    (publishAnswer b c includeData n sent sub).run s = (sub, s) := by
  unfold publishAnswer
  rw [run_bind, dequeuePublish_none h]
  rfl

def Ctx.answered (s : Ctx W A) (p : Subscription × Subscriptions W) : Subscription × Ctx W A :=
  (p.1, ((modifySubs fun _ => p.2).run s).2)

theorem publishAnswer_some {accepted : Bool} {u : Ctx W A}
    (h : publishRequestDequeue s.shared.subs.publishQueue sub.sessionId = some (r, queue))
    (hanswer : s.answer b c sub.numbered r queue includeData n = (accepted, u)) :
    (publishAnswer b c includeData n sent sub).run s =
      if accepted then
        u.answered
          (sent sub.numbered
            (((s.response b c sub.numbered r includeData n).map Prod.snd).toOption.getD [])
            u.shared.subs)
      else (sub.numbered, u) := by
  unfold Ctx.answer Ctx.response Ctx.answering at hanswer
  unfold publishAnswer Ctx.response
  rw [run_bind, dequeuePublish_some h]
  dsimp only
  rw [run_bind, onWorld_run, run_bind, run_get, run_bind, run_ite]
  unfold Ctx.answering
  rw [hanswer]
  cases accepted with
  | false => rfl
  | true => rfl

theorem publishKeepAlive_waits (h : sub.counted.keepAliveCounter < sub.maxKeepAliveCount) :
    (publishKeepAlive b c sub).run s = (sub.counted, s) := by
  unfold publishKeepAlive
  exact (run_ite ..).trans (if_pos h)

theorem publishKeepAlive_due (hdue : ¬ sub.counted.keepAliveCounter < sub.maxKeepAliveCount) :
    (publishKeepAlive b c sub).run s = (publishAnswer b c false 0 sentKeepAlive sub.counted).run s := by
  unfold publishKeepAlive
  exact (run_ite ..).trans (if_neg hdue)

end Branches

theorem buildPublish_length {items : ItemList W} {r : PublishRequest} {includeData : Bool} {n : Nat}
    {publishTime : UInt64} {bs : Bytes}
    (h : (buildPublish b items sub r includeData n publishTime).map Prod.fst = .ok bs) :
    bs.length ≤ publishBodyBytes := by
  simp only [buildPublish] at h
  generalize StateT.run _ Writer.init = p at h
  obtain ⟨e | ⟨start, stop⟩, w⟩ := p
  · cases h
  · obtain rfl := Except.ok.inj h
    exact w.fits

theorem Preparing.answer (h : Preparing t s) {r : PublishRequest} {queue : List PublishRequest}
    (hsend : symmetricHeaderSize ≤ c.sendBufferSize)
    (hr : publishRequestDequeue s.shared.subs.publishQueue t.sub.sessionId = some (r, queue))
    (sub : Subscription) (includeData : Bool) (n : Nat) :
    Acts b c app (.turn t) s (s.answer b c sub r queue includeData n).2 := by
  obtain ⟨hmem, hin, hid⟩ := publishRequestDequeue_eq_some hr
  have hemitted : Emitted b t (s.answering queue (c.platform.getTime.run s.world).2) r :=
    ⟨h.trace, h.queue ▸ hmem, hin, hid, by rw [Ctx.answering, h.conn], by rw [Ctx.answering, h.conn]⟩
  have hacts := emitOrFault_acts app ((s.response b c sub r includeData n).map Prod.fst) hsend
    (fun bs hbs => (buildPublish_length hbs).trans (by decide)) hemitted
  exact .head
    (.quiet (.setSubs t s _ { s.shared.subs with publishQueue := queue } ⟨rfl, rfl, rfl⟩)) hacts

structure Sent.Frames (sent : Sent W) : Prop where
  key : ∀ sub message s, (sent sub message s).1.key = sub.key
  tables : ∀ sub message s, SameTables s (sent sub message s).2
  subscriptions : ∀ sub message s, (sent sub message s).2.subscriptions = s.subscriptions
  publishQueue : ∀ sub message s, (sent sub message s).2.publishQueue = s.publishQueue

theorem sentData_frames (n : Nat) : (sentData b n : Sent W).Frames where
  key _ message _ := reported_key _ message
  tables sub _ _ :=
    ⟨rfl, slots_of_keys (keys_of_works (works_of_steps (clearReportedItems_steps sub _ _ _))), rfl⟩
  subscriptions _ _ _ := rfl
  publishQueue _ _ _ := rfl

theorem sentKeepAlive_frames : (sentKeepAlive : Sent W).Frames where
  key _ _ _ := rfl
  tables _ _ _ := ⟨rfl, rfl, rfl⟩
  subscriptions _ _ _ := rfl
  publishQueue _ _ _ := rfl

theorem publishAnswer_published {sent : Sent W} (hsent : sent.Frames) (includeData : Bool) (n : Nat)
    (hsend : symmetricHeaderSize ≤ c.sendBufferSize) (h : Preparing t s)
    (howner : sub.sessionId = t.sub.sessionId) :
    Published b c app t s sub ((publishAnswer b c includeData n sent sub).run s) := by
  cases hr : publishRequestDequeue s.shared.subs.publishQueue sub.sessionId with
  | none =>
    rw [publishAnswer_none hr]
    exact ⟨.refl, rfl, rfl⟩
  | some p =>
    obtain ⟨r, queue⟩ := p
    have hacts := h.answer app hsend (howner ▸ hr) sub.numbered includeData n
    have hsubs :=
      congrArg Subscriptions.subscriptions (s.answer_shared b c sub.numbered r queue includeData n)
    cases hanswer : s.answer b c sub.numbered r queue includeData n with
    | mk accepted u =>
      rw [hanswer] at hacts hsubs
      rw [publishAnswer_some hr hanswer]
      cases accepted with
      | false => exact ⟨hacts, hsubs, rfl⟩
      | true =>
        refine ⟨.tail hacts (.quiet (.setSubs t u u.world _ (hsent.tables ..))), ?_, hsent.key ..⟩
        exact (hsent.subscriptions ..).trans hsubs

theorem publishKeepAlive_published (hsend : symmetricHeaderSize ≤ c.sendBufferSize) (h : Preparing t s)
    (howner : sub.sessionId = t.sub.sessionId) :
    Published b c app t s sub ((publishKeepAlive b c sub).run s) := by
  by_cases hwaits : sub.counted.keepAliveCounter < sub.maxKeepAliveCount
  · rw [publishKeepAlive_waits hwaits]
    exact ⟨.refl, rfl, rfl⟩
  · rw [publishKeepAlive_due hwaits]
    have hpublished : Published b c app t s sub.counted _ :=
      publishAnswer_published app sentKeepAlive_frames false 0 hsend h howner
    exact ⟨hpublished.acts, hpublished.subs, hpublished.key⟩

theorem publishBranch_published (n : Nat) (hsend : symmetricHeaderSize ≤ c.sendBufferSize)
    (h : Preparing t s) (howner : sub.sessionId = t.sub.sessionId) :
    Published b c app t s sub ((publishBranch b c sub n).run s) := by
  unfold publishBranch
  split
  · exact publishAnswer_published app (sentData_frames n) true n hsend h howner
  · exact publishKeepAlive_published app hsend h howner

theorem Published.commit {p : Subscription × Ctx W A} (h : Published b c app t s sub p)
    (hs : Preparing t s) (hsub : sub.key = t.sub.key) (nowMs : UInt64) : Acts b c app (.turn t) s
      ((modifySubs (setSubscription t.index (p.1.advancePublishTimer nowMs))).run p.2).2 := by
  refine .tail h.acts
    (.quiet (.setSubs t p.2 p.2.world (setSubscription t.index _ p.2.shared.subs) ⟨?_, rfl, rfl⟩))
  have hkey := ((advancePublishTimer_key p.1 nowMs).trans h.key).trans hsub
  obtain ⟨hlt, hfound⟩ := List.getElem?_eq_some_iff.mp t.found
  change (p.2.shared.subs.subscriptions.set t.index _).map Subscription.key = _
  rw [h.subs, hs.subs, List.map_set, hkey, ← hfound, ← List.map_set, List.set_getElem_self]

theorem publishTurn_acts (nowMs : UInt64) (hsend : symmetricHeaderSize ≤ c.sendBufferSize)
    (t : Turn b W A) :
    Acts b c app (.turn t) t.start ((publishTurn b c t.index nowMs).run t.start).2 := by
  simp only [publishTurn, run_bind, run_get, t.found, onWorld_run]
  have hsub :
    ((prepareReport b t.sub t.start.shared.subs.items.monitoredItems).run t.start.world).1.2.2.key =
      t.sub.key := by
    obtain ⟨more, resend, hsub⟩ :=
      prepareReport_sub (b := b) t.sub t.start.shared.subs.items.monitoredItems t.start.world
    rw [hsub]
    rfl
  have hsteps :=
    prepareReport_steps (b := b) t.sub t.start.shared.subs.items.monitoredItems t.start.world
  generalize StateT.run (prepareReport b t.sub _) _ = p at hsub hsteps
  have hs : Preparing t ((modifySubs (setItemList p.1.1)).run { t.start with world := p.2 }).2 :=
    ⟨rfl, rfl, rfl, rfl⟩
  refine .head (.quiet (.setSubs t t.start p.2 (setItemList p.1.1 t.start.shared.subs)
    ⟨rfl, slots_of_keys (keys_of_works (works_of_steps hsteps)), rfl⟩)) ?_
  have hsession : p.1.2.2.sessionId = t.sub.sessionId := congrArg SubscriptionKey.sessionId hsub
  exact (publishBranch_published app _ hsend hs hsession).commit app hs hsub nowMs

end Turn

section Engine

variable {x : TurnInput W} {s : Ctx W A}

theorem Ctx.response_eq (hx : x.publishTime = (c.platform.getTime.run s.world).1) (sub : Subscription)
    (r : PublishRequest) (includeData : Bool) (n : Nat) :
    x.response b s.shared.subs sub r includeData n = s.response b c sub r includeData n := by
  unfold TurnInput.response Ctx.response
  rw [hx]

theorem Ctx.answer_accepted {sub : Subscription} {r : PublishRequest} {queue : List PublishRequest}
    {includeData : Bool} {n : Nat} {u : Ctx W A}
    (h : s.answer b c sub r queue includeData n = (true, u)) :
    ∃ response message, s.response b c sub r includeData n = .ok (response, message) := by
  cases hbuilt : s.response b c sub r includeData n with
  | error e =>
    rw [answer, hbuilt] at h
    cases congrArg Prod.fst h
  | ok p => exact ⟨p.1, p.2, rfl⟩

/-- The answer is that of the engine, for the time read and the outcome of the emission. -/
theorem publishAnswer_refines (b : Build) (c : Config W) (includeData : Bool) (n : Nat) (sent : Sent W)
    (sub : Subscription) (s : Ctx W A) :
    ∃ accepted, ∀ x : TurnInput W, x.publishTime = (c.platform.getTime.run s.world).1 →
      x.accepted = accepted → (turnAnswer b x includeData n sent sub s.shared.subs).2 =
        (((publishAnswer b c includeData n sent sub).run s).1,
          ((publishAnswer b c includeData n sent sub).run s).2.shared.subs) := by
  cases hr : publishRequestDequeue s.shared.subs.publishQueue sub.sessionId with
  | none =>
    refine ⟨false, fun x _ _ => ?_⟩
    rw [publishAnswer_none hr, turnAnswer_none hr]
  | some p =>
    obtain ⟨r, queue⟩ := p
    cases hanswer : s.answer b c sub.numbered r queue includeData n with
    | mk accepted u =>
      have hshared : u.shared.subs = { s.shared.subs with publishQueue := queue } := by
        rw [← s.answer_shared b c sub.numbered r queue includeData n, hanswer]
      refine ⟨accepted, fun x htime haccepted => ?_⟩
      rw [publishAnswer_some hr hanswer]
      cases accepted with
      | false =>
        rw [turnAnswer_refused hr (fun _ _ => haccepted)]
        exact congrArg (Prod.mk sub.numbered) hshared.symm
      | true =>
        obtain ⟨response, message, hbuilt⟩ := Ctx.answer_accepted hanswer
        rw [turnAnswer_accepted hr ((Ctx.response_eq htime _ _ _ _).trans hbuilt) haccepted,
          hbuilt, ← hshared]
        rfl

theorem publishKeepAlive_refines (b : Build) (c : Config W) (sub : Subscription) (s : Ctx W A) :
    ∃ accepted, ∀ x : TurnInput W, x.publishTime = (c.platform.getTime.run s.world).1 →
      x.accepted = accepted → (turnKeepAlive b x sub s.shared.subs).2 =
        (((publishKeepAlive b c sub).run s).1, ((publishKeepAlive b c sub).run s).2.shared.subs) := by
  by_cases hwaits : sub.counted.keepAliveCounter < sub.maxKeepAliveCount
  · refine ⟨false, fun x _ _ => ?_⟩
    rw [publishKeepAlive_waits hwaits, turnKeepAlive_waits hwaits]
  · obtain ⟨accepted, haccepted⟩ := publishAnswer_refines b c false 0 sentKeepAlive sub.counted s
    refine ⟨accepted, fun x htime hx => ?_⟩
    rw [publishKeepAlive_due hwaits, turnKeepAlive_due hwaits]
    exact haccepted x htime hx

theorem publishBranch_refines (b : Build) (c : Config W) (sub : Subscription) (n : Nat) (s : Ctx W A) :
    ∃ accepted, ∀ x : TurnInput W, x.publishTime = (c.platform.getTime.run s.world).1 →
      x.accepted = accepted → (turnBranch b x sub n s.shared.subs).2 =
        (((publishBranch b c sub n).run s).1, ((publishBranch b c sub n).run s).2.shared.subs) := by
  unfold turnBranch publishBranch
  split
  · exact publishAnswer_refines b c true n (sentData b n) sub s
  · exact publishKeepAlive_refines b c sub s

theorem publishTurn_run {i : Nat} {sub prepared : Subscription} {items : ItemList W} {n : Nat} {w : W}
    (hfound : s.shared.subs.subscriptions[i]? = some sub)
    (hprepare : (prepareReport b sub s.shared.subs.items.monitoredItems).run s.world =
      ((items, n, prepared), w))
    (nowMs : UInt64) :
    (publishTurn b c i nowMs).run s =
      let u := ((modifySubs (setItemList items)).run { s with world := w }).2
      (modifySubs
        (setSubscription i (((publishBranch b c prepared n).run u).1.advancePublishTimer nowMs))).run
          ((publishBranch b c prepared n).run u).2 := by
  simp only [publishTurn, run_bind, run_get, hfound, onWorld_run, hprepare]

theorem publishTurn_refines {i : Nat} {sub : Subscription} (b : Build) (c : Config W) (nowMs : UInt64)
    (hfound : s.shared.subs.subscriptions[i]? = some sub) (hin : sub.inUse = true)
    (hdue : sub.nextPublishMs ≤ nowMs) :
    ∃ x : TurnInput W, x.index = i ∧ x.nowMs = nowMs ∧ x.world = s.world ∧
      ((publishTurn b c i nowMs).run s).2.shared.subs = (turn b x s.shared.subs).2 := by
  cases hprepare : (prepareReport b sub s.shared.subs.items.monitoredItems).run s.world with
  | mk p w =>
    obtain ⟨items, n, prepared⟩ := p
    obtain ⟨accepted, haccepted⟩ := publishBranch_refines b c prepared n
      ((modifySubs (setItemList items)).run { s with world := w }).2
    let x : TurnInput W := ⟨i, nowMs, s.world, (c.platform.getTime.run w).1, accepted⟩
    have hturn : turn b x s.shared.subs = turnOf b x sub s.shared.subs := by
      simp only [turn, x, hfound, hin, hdue, Bool.true_and, decide_true, if_true]
    have hbranch : (turnBranch b x prepared n (setItemList items s.shared.subs)).2 = _ :=
      haccepted x rfl rfl
    refine ⟨x, rfl, rfl, rfl, ?_⟩
    rw [publishTurn_run hfound hprepare, hturn, turnOf_eq (congrArg Prod.fst hprepare), hbranch]
    rfl

end Engine

end MicroOpcua
