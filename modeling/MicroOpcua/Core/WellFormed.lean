import MicroOpcua.Core.SessionRun
import MicroOpcua.Lib.History

namespace MicroOpcua

open Relation

variable {W A : Type} {b : Build} {c : Config W} {app : Application W A}

def Event.conn? : Event W A → Option ConnId
  | .accepted id => some id
  | .hello id _ => some id
  | .message id _ _ => some id
  | .dispatched id _ _ _ => some id
  | .turn _ _ => none
  | .wrote w => some w.conn
  | .closed id => some id

section Acts

variable {k : Cause b W A} {s t : Ctx W A}

def Extends (id : ConnId) (l l' : List (Event W A)) : Prop :=
  l' = l ∨ ∃ e, l' = e :: l ∧ e.conn? = some id

section

variable (s : Ctx W A) (content : Content) (bytes : Bytes)

theorem Ctx.written_trace :
    (s.written content bytes).trace = s.trace ∨ ∃ h, s.conn.clientHandle = some h ∧
      (s.written content bytes).trace =
        .wrote ⟨s.conn.id, h, s.conn.channel, content, bytes⟩ :: s.trace := by
  unfold Ctx.written
  split
  · rename_i h hh
    exact .inr ⟨h, hh, rfl⟩
  · exact .inl rfl

@[simp] theorem Ctx.written_conn : (s.written content bytes).conn = s.conn := by
  unfold Ctx.written
  split <;> rfl

theorem Ctx.written_extends :
    Extends (s.written content bytes).conn.id s.trace (s.written content bytes).trace := by
  rw [written_conn]
  exact (s.written_trace content bytes).imp id (fun ⟨_, _, h⟩ => ⟨_, h, rfl⟩)

end

theorem Act.trace (h : Act b c app k s t) : Extends t.conn.id s.trace t.trace := by
  cases h with
  | quiet h => exact .inl h.trace
  | buffer | reset | policy | sequence | lost => exact .inl rfl
  | close | shut | accept | hello | dispatch => exact .inr ⟨_, rfl, rfl⟩
  | transport bytes => exact s.written_extends _ bytes
  | send _ _ _ bytes => exact s.numbered.written_extends _ bytes

theorem Act.id (h : Act b c app k s t) :
    t.conn.id.slot = s.conn.id.slot ∧ s.conn.id.epoch ≤ t.conn.id.epoch := by
  cases h with
  | quiet h =>
    rw [h.conn]
    exact ⟨rfl, le_rfl⟩
  | accept => exact ⟨rfl, Nat.le_succ _⟩
  | transport | send =>
    rw [Ctx.written_conn]
    exact ⟨rfl, le_rfl⟩
  | _ => exact ⟨rfl, le_rfl⟩

/-- The tables: new subscriptions have an owner with an open session, and the subscription engine stays
consistent. -/
theorem Act.tables (h : Act b c app k s t) :
    owners t.shared.subs.subscriptions ⊆ owners s.shared.subs.subscriptions ∪ openIds s.shared.sessions ∧
      (s.shared.subs.Consistent b → t.shared.subs.Consistent b) := by
  have hrefl :
    owners s.shared.subs.subscriptions ⊆ owners s.shared.subs.subscriptions ∪ openIds s.shared.sessions ∧
      (s.shared.subs.Consistent b → s.shared.subs.Consistent b) := ⟨Set.subset_union_left, fun h => h⟩
  cases h with
  | quiet h => exact ⟨(owners_congr h.tables.keys).subset.trans Set.subset_union_left, fun hs =>
    hs.congr h.tables⟩
  | transport | send =>
    rw [Ctx.written_shared]
    exact hrefl
  | dispatch cap chunk typeId =>
    obtain ⟨run, hdispatches⟩ := dispatchInbound_dispatches b c app cap _ chunk typeId s
    exact ⟨hdispatches.owners, hdispatches.engine.consistent⟩
  | _ => exact hrefl

end Acts

structure WellFormed (b : Build) (s : Server W A) : Prop where
  slots : ∀ (i : Nat) (conn : Connection), s.conns[i]? = some conn → conn.id.slot = i
  epochs : ∀ e ∈ s.trace, ∀ id, e.conn? = some id → ∀ conn, s.conns[id.slot]? = some conn →
    id.epoch ≤ conn.id.epoch
  sessions : s.shared.sessions.length = b.maxSessions
  identifiers : UniqueIdentifiers s.shared.sessions
  owned : 0 ∉ owners s.shared.subs.subscriptions
  engine : s.shared.subs.Consistent b

namespace WellFormed

variable {s t : Server W A}

theorem put {k : Cause b W A} {i : Nat} {conn : Connection} {u : Ctx W A} (h : WellFormed b s)
    (found : s.conns[i]? = some conn) (hact : Act b c app k (s.ctx conn) u) :
    WellFormed b (s.put i u) := by
  obtain ⟨hslot, hepoch⟩ := hact.id
  obtain ⟨howners, hengine⟩ := hact.tables
  obtain ⟨hlength, hunique⟩ := hact.identifiers (h.sessions ▸ b.maxSessions_lt) h.identifiers
  have hi : u.conn.id.slot = i := hslot.trans (h.slots i conn found)
  have hconns (j : Nat) (conn' : Connection) (found' : (s.put i u).conns[j]? = some conn') :
      j = i ∧ conn' = u.conn ∨ j ≠ i ∧ s.conns[j]? = some conn' := by
    by_cases hij : j = i
    · subst hij
      rw [Server.put_found found] at found'
      exact .inl ⟨rfl, (Option.some.inj found').symm⟩
    · exact .inr ⟨hij, by simpa only [Server.put, List.getElem?_set_ne (Ne.symm hij)] using found'⟩
  refine ⟨?_, ?_, hlength.trans h.sessions, hunique, ?_, hengine h.engine⟩
  · intro j conn' found'
    rcases hconns j conn' found' with ⟨rfl, rfl⟩ | ⟨-, hold⟩
    · exact hi
    · exact h.slots j conn' hold
  · intro e he id hid conn' found'
    have htrace : e ∈ s.trace ∨ id = u.conn.id := by
      have he : e ∈ u.trace := he
      rcases hact.trace with hsame | ⟨e', hcons, hid'⟩
      · rw [hsame] at he
        exact .inl he
      · rcases List.mem_cons.mp (hcons ▸ he) with rfl | hold
        · exact .inr (Option.some.inj (hid.symm.trans hid'))
        · exact .inl hold
    rcases hconns _ conn' found' with ⟨hslot', rfl⟩ | ⟨hne, hold⟩
    · rcases htrace with he | rfl
      · exact (h.epochs e he id hid conn (hslot' ▸ found)).trans hepoch
      · exact le_rfl
    · rcases htrace with he | rfl
      · exact h.epochs e he id hid conn' hold
      · exact absurd hi hne
  · exact fun hzero => (howners hzero).elim h.owned h.identifiers.zero_notMem

theorem record (h : WellFormed b s) {e : Event W A}
    (he : ∀ id, e.conn? = some id → ∃ conn ∈ s.conns, conn.id = id) : WellFormed b (s.record e) := by
  refine ⟨h.slots, ?_, h.sessions, h.identifiers, h.owned, h.engine⟩
  intro e' he' id hid conn found
  rcases List.mem_cons.mp he' with rfl | hold
  · obtain ⟨conn', hmem, rfl⟩ := he id hid
    obtain ⟨j, hj⟩ := List.mem_iff_getElem?.mp hmem
    rw [h.slots j conn' hj] at found
    have found : s.conns[j]? = some conn := found
    obtain rfl : conn' = conn := Option.some.inj (hj.symm.trans found)
    exact le_rfl
  · exact h.epochs e' hold id hid conn found

theorem owners_init (b : Build) : owners (Subscriptions.init b : Subscriptions W).subscriptions = ∅ := by
  refine Set.eq_empty_of_forall_notMem (fun id ⟨sub, hmem, hin, _⟩ => ?_)
  rw [List.eq_of_mem_replicate hmem] at hin
  cases hin

theorem unique (h : WellFormed b s) {conn conn' : Connection} (hmem : conn ∈ s.conns)
    (hmem' : conn' ∈ s.conns) (hslot : conn.id.slot = conn'.id.slot) : conn = conn' := by
  obtain ⟨i, hi⟩ := List.mem_iff_getElem?.mp hmem
  obtain ⟨j, hj⟩ := List.mem_iff_getElem?.mp hmem'
  rw [h.slots i conn hi, h.slots j conn' hj] at hslot
  subst hslot
  exact Option.some.inj (hi.symm.trans hj)

theorem step (h : WellFormed b s) (hstep : Step b c app s t) : WellFormed b t := by
  cases hstep with
  | act i conn k found cause hact => exact h.put found hact
  | message conn bytes running mem connected =>
    exact h.record (fun id hid => ⟨conn, mem, Option.some.inj hid⟩)
  | turn index running => exact h.record nofun
  | background subs a w same =>
    exact ⟨h.slots, h.epochs, h.sessions, h.identifiers, owners_congr same.keys ▸ h.owned,
      h.engine.congr same⟩
  | reset running =>
    unfold resetShared
    split
    · exact h
    · refine ⟨h.slots, h.epochs, (List.length_map _).trans h.sessions,
        .of_closed (fun session hmem => ?_), ?_, ?_⟩
      · obtain ⟨-, -, rfl⟩ := List.mem_map.mp hmem
        rfl
      · split
        · rw [owners_init]
          exact Set.notMem_empty 0
        · exact h.owned
      · dsimp only
        split
        · exact init_consistent
        · exact h.engine
  | stop => exact ⟨h.slots, h.epochs, h.sessions, h.identifiers, h.owned, h.engine⟩

theorem init (b : Build) (a : A) (w : W) : WellFormed b (Server.init b a w) := by
  have htrace : (Server.init b a w).trace = [] := rfl
  refine ⟨?_, ?_, List.length_replicate, .of_closed (fun session hmem => ?_), ?_, init_consistent⟩
  · intro i conn found
    simp only [Server.init, List.getElem?_map, Option.map_eq_some_iff] at found
    obtain ⟨j, hj, rfl⟩ := found
    obtain ⟨hlt, rfl⟩ := List.getElem?_eq_some_iff.mp hj
    exact List.getElem_range hlt
  · rw [htrace]
    exact fun e he => absurd he List.not_mem_nil
  · rw [List.eq_of_mem_replicate hmem]
    rfl
  · rw [Server.init, owners_init]
    exact Set.notMem_empty 0

end WellFormed

section Rules

variable {s t : Server W A} {C : Event W A → Prop} {I : Server W A → Prop}

theorem Step.trace_cases (h : Step b c app s t) : t.trace = s.trace ∨ ∃ e, t.trace = e :: s.trace := by
  cases h with
  | act i conn k found cause hact => exact hact.trace.imp id (fun ⟨e, he, _⟩ => ⟨e, he⟩)
  | message | turn => exact .inr ⟨_, rfl⟩
  | reset =>
    unfold resetShared
    split <;> exact .inl rfl
  | background | stop => exact .inl rfl

theorem Step.trace_subset (h : Step b c app s t) : s.trace ⊆ t.trace := by
  rcases h.trace_cases with hsame | ⟨e, hcons⟩
  · rw [hsame]
    exact List.Subset.refl _
  · rw [hcons]
    exact List.subset_cons_self _ _

theorem Step.trace_suffix (h : Step b c app s t) : s.trace <:+ t.trace := by
  obtain hsame | ⟨e, hcons⟩ := h.trace_cases
  · rw [hsame]
  · rw [hcons]
    exact List.suffix_cons e s.trace

theorem Steps.trace_subset (h : Steps b c app s t) : s.trace ⊆ t.trace := by
  induction h with
  | refl => exact List.Subset.refl _
  | tail _ hlast ih => exact List.Subset.trans ih hlast.trace_subset

theorem Step.running (h : Step b c app s t) (ht : t.isRunning = true) : s.isRunning = true := by
  cases h with
  | stop => cases ht
  | reset running => exact running
  | act | message | turn | background => exact ht

theorem Steps.invariant (hstep : ∀ s t, WellFormed b s → (∀ e ∈ t.trace, C e) →
    Step b c app s t → I s → I t) (hwf : WellFormed b s) (h : Steps b c app s t) (hC :
    ∀ e ∈ t.trace, C e) (hs : I s) : WellFormed b t ∧ I t := by
  induction h with
  | refl => exact ⟨hwf, hs⟩
  | tail _ hlast ih =>
    obtain ⟨hwf', hI⟩ := ih (fun e he => hC e (hlast.trace_subset he))
    exact ⟨hwf'.step hlast, hstep _ _ hwf' hC hlast hI⟩

theorem Reachable.invariant (hinit : ∀ a w, I (Server.init b a w))
    (hstep : ∀ s t, WellFormed b s → (∀ e ∈ t.trace, C e) → Step b c app s t → I s → I t)
    (h : Reachable b c app s) (hC : ∀ e ∈ s.trace, C e) : WellFormed b s ∧ I s := by
  obtain ⟨a, w, hrun⟩ := h.run
  exact Steps.invariant hstep (.init b a w) (hrun.steps h.valid) hC (hinit a w)

variable (b c app) in
/-- A state that a server started with a valid configuration passes through, also in the middle of a
call. -/
structure Visited (s : Server W A) : Prop where
  valid : configValidate b c = .ok ()
  steps : ∃ a w, Steps b c app (Server.init b a w) s

theorem Reachable.visited (h : Reachable b c app s) : Visited b c app s := by
  obtain ⟨a, w, hrun⟩ := h.run
  exact ⟨h.valid, a, w, hrun.steps h.valid⟩

theorem Visited.wellFormed (h : Visited b c app s) : WellFormed b s := by
  obtain ⟨a, w, hsteps⟩ := h.steps
  induction hsteps with
  | refl => exact .init b a w
  | tail hsteps hlast ih => exact (ih ⟨h.valid, a, w, hsteps⟩).step hlast

theorem Step.conns {Q : Connection → Prop}
    (hact : ∀ (k : Cause b W A) i conn u, s.conns[i]? = some conn → k.At i s →
      Act b c app k (s.ctx conn) u → Q conn → Q u.conn) (h : Step b c app s t) (hs :
      ∀ conn ∈ s.conns, Q conn) : ∀ conn ∈ t.conns, Q conn := by
  cases h with
  | act i conn k found cause h =>
    intro conn' hmem
    rcases List.mem_or_eq_of_mem_set hmem with hold | rfl
    · exact hs conn' hold
    · exact hact k i conn _ found cause h (hs conn (List.mem_of_getElem? found))
  | reset =>
    unfold resetShared
    split <;> exact hs
  | message | turn | background | stop => exact hs

theorem Server.init_conns {Q : Connection → Prop} (hQ : ∀ slot, Q (.empty slot)) (a : A) (w : W) :
    ∀ conn ∈ (Server.init b a w).conns, Q conn := by
  intro conn hmem
  obtain ⟨slot, -, rfl⟩ := List.mem_map.mp hmem
  exact hQ slot

end Rules

section Events

open Lib.History

variable {s t : Server W A}

variable (b c) in
structure DispatchIn (s : Server W A) (a : Arrival W A) (i : Nat) (conn : Connection) (chunk : Inbound)
    (typeId : UInt32) (run : Option HandlerRun) : Prop where
  found : s.conns[i]? = some conn
  cause : (Cause.message a : Cause b W A).At i s
  arrived : Arrived b c a (s.ctx conn) chunk
  type : chunk.typeId.ns0Numeric? = some typeId
  ran : ∀ r, run = some r → Ran b chunk typeId (s.ctx conn) r

section

variable {a : Arrival W A} {i : Nat} {conn : Connection} {chunk : Inbound} {typeId : UInt32}
    {run : Option HandlerRun} (h : DispatchIn b c s a i conn chunk typeId run)

include h

theorem DispatchIn.id : conn.id = a.start.conn.id :=
  (congrArg Connection.id h.arrived.conn).trans rfl

theorem DispatchIn.trace :
    s.trace = .message conn.id a.bytes ⟨a.start.shared, a.conns, a.start.world⟩ :: a.past := by
  rw [h.id]
  exact h.arrived.trace.trans a.trace

theorem DispatchIn.message_mem :
    .message conn.id a.bytes ⟨a.start.shared, a.conns, a.start.world⟩ ∈ s.trace := by
  rw [h.trace]
  exact .head _

end

theorem Arrived.channelId {a : Arrival W A} {u : Ctx W A} {chunk : Inbound} (h : Arrived b c a u chunk) :
    u.conn.channel.channelId = a.start.conn.channel.channelId :=
  (congrArg SecureChannel.channelId h.channel).trans rfl

variable (b c) in
structure PublishIn (s : Server W A) (t : Turn b W A) (conn : Connection) (requestId : UInt32)
    (r : PublishRequest) (w : Written) : Prop where
  emitted : Emitted b t (s.ctx conn) r
  id : w.conn = conn.id
  handle : conn.clientHandle = some w.handle
  channel : w.channel = (s.ctx conn).numbered.conn.channel
  framed : FramesMsg b c w.channel requestId w.bytes

variable (b c) in
/-- What is known when an event occurs in state `s`. A dispatch has its message, a publish message has
the turn of its subscription. -/
def Occurs (s : Server W A) : Event W A → Prop
  | .dispatched id before chunk run => ∃ a i conn typeId, DispatchIn b c s a i conn chunk typeId run ∧
    id = conn.id ∧ before = a.start.conn.channel
  | .wrote w => w.bytes.length ≤ c.sendBufferSize ∧ ∀ n requestId payload publish,
    w.content = .chunk n requestId payload publish → n = w.channel.outSequenceNumber ∧ ∀ r,
      publish = some r → ∃ t conn, PublishIn b c s t conn requestId r w
  | _ => True

variable {e : Event W A}

theorem cons_eq_of_cons {e' : Event W A} {l l' : List (Event W A)} (h : l' = e :: l)
    (h' : l' = e' :: l) : e = e' :=
  (List.cons.inj (h.symm.trans h')).1

theorem Ctx.written_occurs {u : Ctx W A} {content : Content} {bytes : Bytes}
    (he : (u.written content bytes).trace = e :: u.trace) :
    ∃ handle, u.conn.clientHandle = some handle ∧
      e = .wrote ⟨u.conn.id, handle, u.conn.channel, content, bytes⟩ := by
  rcases u.written_trace content bytes with hsame | ⟨handle, hhandle, hcons⟩
  · rw [hsame] at he
    exact absurd he (List.cons_ne_self _ _).symm
  · exact ⟨handle, hhandle, cons_eq_of_cons he hcons⟩

theorem Act.occurs {k : Cause b W A} {i : Nat} {conn : Connection} {u v : Ctx W A}
    (h : Act b c app k u v) (hu : u = s.ctx conn) (found : s.conns[i]? = some conn) (cause : k.At i s)
    (he : v.trace = e :: u.trace) : Occurs b c s e := by
  have hnone (heq : v.trace = u.trace) : Occurs b c s e := by
    rw [heq] at he
    exact absurd he (List.cons_ne_self _ _).symm
  cases h with
  | quiet h => exact hnone h.trace
  | buffer | reset | policy | sequence | lost => exact hnone rfl
  | close | shut | accept | hello =>
    obtain rfl := cons_eq_of_cons he rfl
    trivial
  | transport bytes size =>
    obtain ⟨handle, -, rfl⟩ := Ctx.written_occurs he
    exact ⟨size, fun _ _ _ _ h => nomatch h⟩
  | dispatch cap chunk typeId arrived type =>
    obtain ⟨run, hdispatches⟩ := dispatchInbound_dispatches b c app cap _ chunk typeId u
    obtain rfl := cons_eq_of_cons he hdispatches.trace
    subst hu
    exact ⟨_, i, conn, typeId, ⟨found, cause, arrived, type, hdispatches.run⟩, rfl, rfl⟩
  | send requestId payload publish bytes size serving emitted =>
    obtain ⟨handle, hhandle, rfl⟩ := Ctx.written_occurs (u := u.numbered) he
    subst hu
    refine ⟨size, fun n requestId' payload' publish' hcontent => ?_⟩
    obtain ⟨rfl, rfl, rfl, rfl⟩ := Content.chunk.inj hcontent
    refine ⟨rfl, fun r hr => ?_⟩
    obtain ⟨hframes, t, -, hemitted⟩ := emitted r hr
    exact ⟨t, conn, hemitted, rfl, hhandle, rfl, hframes⟩

theorem Step.occurs (h : Step b c app s t) (he : t.trace = e :: s.trace) : Occurs b c s e := by
  have hnone (heq : t.trace = s.trace) : Occurs b c s e := by
    rw [heq] at he
    exact absurd he (List.cons_ne_self _ _).symm
  cases h with
  | act i conn k found cause hact => exact hact.occurs rfl found cause he
  | message | turn =>
    obtain rfl := cons_eq_of_cons he rfl
    trivial
  | reset =>
    refine hnone ?_
    unfold resetShared
    split <;> rfl
  | background | stop => exact hnone rfl

/-- A property of events holds along a run if it holds of each event when it occurs, in a state that
meets an invariant. -/
theorem Reachable.always_of_invariant {C : Event W A → Prop} {I : Server W A → Prop}
    {P : Event W A → List (Event W A) → Prop} (hinit : ∀ a w, I (Server.init b a w))
    (hstep : ∀ s t, WellFormed b s → (∀ e ∈ t.trace, C e) → Step b c app s t → I s → I t)
    (hP : ∀ (s : Server W A) e, I s → (∀ e' ∈ e :: s.trace, C e') → Occurs b c s e → P e s.trace)
    (h : Reachable b c app s) (hC : ∀ e ∈ s.trace, C e) : Always P s.trace := by
  refine (h.invariant (I := fun s => I s ∧ Always P s.trace) (fun a w => ⟨hinit a w, always_nil⟩)
    (fun s t hwf hC hlast hs => ⟨hstep s t hwf hC hlast hs.1, ?_⟩) hC).2.2
  rcases hlast.trace_cases with hsame | ⟨e, hcons⟩
  · rw [hsame]
    exact hs.2
  · rw [hcons] at hC ⊢
    exact always_cons.mpr ⟨hP s e hs.1 hC (hlast.occurs hcons), hs.2⟩

theorem Reachable.always {C : Event W A → Prop} {P : Event W A → List (Event W A) → Prop}
    (hP : ∀ (s : Server W A) e, (∀ e' ∈ e :: s.trace, C e') → Occurs b c s e → P e s.trace)
    (h : Reachable b c app s) (hC : ∀ e ∈ s.trace, C e) : Always P s.trace :=
  h.always_of_invariant (I := fun _ => True) (fun _ _ => trivial) (fun _ _ _ _ _ _ => trivial)
    (fun s e _ => hP s e) hC

end Events

end MicroOpcua
