import MicroOpcua.Services.Subscription

namespace MicroOpcua

inductive QueueOp where
  | enqueue (r : PublishRequest)
  | dequeue (sessionId : UInt32)

def QueueOp.apply : QueueOp → List PublishRequest → Option PublishRequest × List PublishRequest
  | .enqueue r, queue =>
    match publishRequestEnqueue queue { r with inUse := true } with
    | .ok queue => (none, queue)
    | .error _ => (none, queue)
  | .dequeue sessionId, queue =>
    match publishRequestDequeue queue sessionId with
    | some (r, queue) => (some r, queue)
    | none => (none, queue)

def queueReturns : List QueueOp → List PublishRequest → List (Option PublishRequest)
  | [], _ => []
  | op :: ops, queue => (op.apply queue).1 :: queueReturns ops (op.apply queue).2

/-- The same calls on the list of parked requests in order of arrival, of which there are at most
`limit`. -/
def QueueOp.serve (limit : Nat) : QueueOp → List PublishRequest →
    Option PublishRequest × List PublishRequest
  | .enqueue r, parked =>
    (none, if parked.length < limit then parked ++ [{ r with inUse := true }] else parked)
  | .dequeue sessionId, parked =>
    (parked.find? (fun r => r.sessionId = sessionId), parked.eraseP (fun r => r.sessionId = sessionId))

def fifoReturns (limit : Nat) : List QueueOp → List PublishRequest → List (Option PublishRequest)
  | [], _ => []
  | op :: ops, parked => (op.serve limit parked).1 :: fifoReturns limit ops (op.serve limit parked).2

/-- A request that is parked is younger than those of its session in the queue, or it takes a later slot
than those of the same tick. -/
def QueueOp.Ordered (queue : List PublishRequest) : QueueOp → Prop
  | .enqueue r => ∀ i, queue.findIdx? (fun p => !p.inUse) = some i → ∀ (j : Nat) p, queue[j]? = some p →
  p.inUse = true →
      p.sessionId = r.sessionId → p.enqueuedMs < r.enqueuedMs ∨ p.enqueuedMs = r.enqueuedMs ∧ j < i
  | .dequeue _ => True

def OrderedRun : List QueueOp → List PublishRequest → Prop
  | [], _ => True
  | op :: ops, queue => op.Ordered queue ∧ OrderedRun ops (op.apply queue).2

section Scan

variable {sessionId : UInt32}

def Before (i : Nat) (p : PublishRequest) (j : Nat) (q : PublishRequest) : Prop :=
  p.enqueuedMs < q.enqueuedMs ∨ p.enqueuedMs = q.enqueuedMs ∧ i < j

section

variable {i j : Nat} {p q : PublishRequest}

theorem Before.asymm (h : Before i p j q) : ¬ Before j q i p := by
  unfold Before at h ⊢
  simp only [UInt64.lt_iff_toNat_lt, ← UInt64.toNat_inj] at h ⊢
  omega

theorem Before.trans {k : Nat} {r : PublishRequest} (h : Before i p j q) (h' : Before j q k r) :
    Before i p k r := by
  unfold Before at h h' ⊢
  simp only [UInt64.lt_iff_toNat_lt, ← UInt64.toNat_inj] at h h' ⊢
  omega

theorem before_of_not_lt (h : ¬ q.enqueuedMs < p.enqueuedMs) (hij : i < j) : Before i p j q := by
  unfold Before
  simp only [UInt64.lt_iff_toNat_lt, ← UInt64.toNat_inj] at h ⊢
  omega

end

def PublishRequest.ParkedBy (sessionId : UInt32) (r : PublishRequest) : Prop :=
  r.inUse = true ∧ r.sessionId = sessionId

theorem oldestRequest_eq_none {rs : List PublishRequest} {k : Nat} {best : Option (Nat × PublishRequest)}
    (h : oldestRequest sessionId rs k best = none) : best = none ∧ ∀ r ∈ rs, ¬ r.ParkedBy sessionId := by
  induction rs generalizing k best with
  | nil => exact ⟨h, nofun⟩
  | cons r rs ih =>
    simp only [oldestRequest] at h
    split at h
    · cases (ih h).1
    · rename_i hskipped
      obtain ⟨rfl, hrest⟩ := ih h
      refine ⟨rfl, fun p hp => ?_⟩
      obtain rfl | hp := List.mem_cons.mp hp
      · exact fun hparked => hskipped (by simp [hparked.1, hparked.2])
      · exact hrest p hp

theorem oldestRequest_eq_some {rs : List PublishRequest} {k i : Nat} {r : PublishRequest}
    {best : Option (Nat × PublishRequest)} (hbest : ∀ p, best = some p → p.1 < k)
    (h : oldestRequest sessionId rs k best = some (i, r)) :
    (best = some (i, r) ∨ ∃ j, i = k + j ∧ rs[j]? = some r ∧ r.ParkedBy sessionId) ∧
      (∀ p, best = some p → p = (i, r) ∨ Before i r p.1 p.2) ∧
      ∀ (j : Nat) r', rs[j]? = some r' → r'.ParkedBy sessionId → k + j = i ∨ Before i r (k + j) r' := by
  induction rs generalizing k best with
  | nil =>
    obtain rfl : best = some (i, r) := h
    exact ⟨.inl rfl, fun p hp => .inl (Option.some.inj hp).symm, nofun⟩
  | cons first rs ih =>
    simp only [oldestRequest] at h
    split at h
    · rename_i htaken
      simp only [Bool.and_eq_true, decide_eq_true_eq] at htaken
      obtain ⟨hparked, hyounger⟩ := htaken
      obtain ⟨hfound, hold, hrest⟩ := ih (fun p hp => Option.some.inj hp ▸ Nat.lt_succ_self k) h
      have hfirst := hold _ rfl
      refine ⟨.inr ?_, fun p hp => .inr ?_, fun j r' hj hr' => ?_⟩
      · obtain heq | ⟨j, rfl, hj, hr⟩ := hfound
        · obtain ⟨rfl, rfl⟩ := Prod.mk.inj (Option.some.inj heq)
          exact ⟨0, rfl, rfl, hparked⟩
        · exact ⟨j + 1, by omega, hj, hr⟩
      · subst hp
        have hbefore : Before k first p.1 p.2 := .inl (by simpa using hyounger)
        obtain heq | hfirst := hfirst
        · obtain ⟨rfl, rfl⟩ := Prod.mk.inj heq
          exact hbefore
        · exact hfirst.trans hbefore
      · cases j with
        | zero =>
          obtain rfl := Option.some.inj hj
          exact hfirst.imp (fun heq => congrArg Prod.fst heq) id
        | succ j =>
          have hnext := hrest j r' hj hr'
          rwa [Nat.add_assoc, Nat.add_comm 1] at hnext
    · rename_i hskipped
      obtain ⟨hfound, hold, hrest⟩ := ih (k := k + 1) (fun p hp => Nat.lt_succ_of_lt (hbest p hp)) h
      refine ⟨hfound.imp id ?_, hold, fun j r' hj hr' => ?_⟩
      · rintro ⟨j, rfl, hj, hr⟩
        exact ⟨j + 1, by omega, hj, hr⟩
      · cases j with
        | zero =>
          obtain rfl := Option.some.inj hj
          cases hcurrent : best with
          | none => exact absurd (by simp [hcurrent, hr'.1, hr'.2]) hskipped
          | some p =>
            have hyounger : ¬ first.enqueuedMs < p.2.enqueuedMs := by
              simpa [hcurrent, hr'.1, hr'.2] using hskipped
            have hbefore : Before p.1 p.2 k first := before_of_not_lt hyounger (hbest p hcurrent)
            obtain rfl | hfirst := hold p hcurrent
            · exact .inr hbefore
            · exact .inr (hfirst.trans hbefore)
        | succ j =>
          have hnext := hrest j r' hj hr'
          rwa [Nat.add_assoc, Nat.add_comm 1] at hnext

theorem publishRequestDequeue_cases (queue : List PublishRequest) (sessionId : UInt32) :
    publishRequestDequeue queue sessionId = none ∧ (∀ r ∈ queue, ¬ r.ParkedBy sessionId) ∨
      ∃ (i : Nat) (r : PublishRequest), queue[i]? = some r ∧ r.ParkedBy sessionId ∧
        publishRequestDequeue queue sessionId = some (r, queue.set i .zero) ∧
        ∀ (j : Nat) (r' : PublishRequest), queue[j]? = some r' → r'.ParkedBy sessionId →
            j = i ∨ Before i r j r' := by
  unfold publishRequestDequeue
  cases h : oldestRequest sessionId queue 0 none with
  | none => exact .inl ⟨rfl, (oldestRequest_eq_none h).2⟩
  | some p =>
    obtain ⟨i, r⟩ := p
    have hbest : ∀ p : Nat × PublishRequest, none = some p → p.1 < 0 := fun _ hnone => nomatch hnone
    obtain ⟨hfound, -, hfirst⟩ := oldestRequest_eq_some hbest h
    simp only [Nat.zero_add] at hfound hfirst
    obtain hnone | ⟨j, rfl, hi, hparked⟩ := hfound
    · cases hnone
    · exact .inr ⟨i, r, hi, hparked, rfl, hfirst⟩

end Scan

section Order

variable {queue parked : List PublishRequest} {slots : List Nat}

/-- The requests of `queue`, in the order of arrival, are `parked`, and `slots` says where they are. -/
structure Arranged (slots : List Nat) (queue parked : List PublishRequest) : Prop where
  nodup : slots.Nodup
  inUse : ∀ (j : Nat) r, queue[j]? = some r → (r.inUse = true ↔ j ∈ slots)
  bound : ∀ j ∈ slots, j < queue.length
  requests : slots.map (fun j => queue.getD j .zero) = parked
  order : slots.Pairwise (fun i j => (queue.getD i .zero).sessionId = (queue.getD j .zero).sessionId →
    Before i (queue.getD i .zero) j (queue.getD j .zero))

theorem Arranged.init (limit : Nat) : Arranged [] (List.replicate limit .zero) [] := by
  refine ⟨.nil, fun j r hj => ?_, nofun, rfl, .nil⟩
  obtain rfl := List.eq_of_mem_replicate (List.mem_of_getElem? hj)
  simp [PublishRequest.zero]

theorem Arranged.full_iff (h : Arranged slots queue parked) :
    queue.findIdx? (fun p => !p.inUse) = none ↔ ¬ parked.length < queue.length := by
  have hlength : parked.length = slots.length := by rw [← h.requests, List.length_map]
  have hbound : slots ⊆ List.range queue.length := fun j hj => List.mem_range.mpr (h.bound j hj)
  have hle := (List.subperm_of_subset h.nodup hbound).length_le
  rw [List.length_range] at hle
  rw [List.findIdx?_eq_none_iff, hlength]
  constructor
  · intro hall hlt
    have hsubset : List.range queue.length ⊆ slots := by
      intro j hj
      have hj := List.mem_range.mp hj
      exact (h.inUse j _ (List.getElem?_eq_getElem hj)).mp (by simpa using hall _ (List.getElem_mem hj))
    have hge := (List.subperm_of_subset List.nodup_range hsubset).length_le
    rw [List.length_range] at hge
    omega
  · intro hfull r hr
    by_contra hfree
    obtain ⟨j, hj⟩ := List.mem_iff_getElem?.mp hr
    have hnot : j ∉ slots := fun hmem => hfree (by simp [(h.inUse j r hj).mpr hmem])
    have hlt := (List.getElem?_eq_some_iff.mp hj).1
    have hsubset : j :: slots ⊆ List.range queue.length :=
      List.cons_subset.mpr ⟨List.mem_range.mpr hlt, hbound⟩
    have hge := (List.subperm_of_subset (List.nodup_cons.mpr ⟨hnot, h.nodup⟩) hsubset).length_le
    rw [List.length_range, List.length_cons] at hge
    omega

variable {i : Nat}

theorem getD_set_self (hi : i < queue.length) (r : PublishRequest) :
    (queue.set i r).getD i .zero = r := by
  simp [hi]

theorem getD_set_ne {j : Nat} (h : i ≠ j) (r : PublishRequest) :
    (queue.set i r).getD j .zero = queue.getD j .zero := by
  simp [h]

theorem Arranged.map_set (hi : i ∉ slots) (r : PublishRequest) :
    slots.map (fun j => (queue.set i r).getD j .zero) = slots.map (fun j => queue.getD j .zero) := by
  refine List.map_congr_left (fun j hj => ?_)
  exact getD_set_ne (ne_of_mem_of_not_mem hj hi).symm r

theorem Arranged.pairwise_set (hi : i ∉ slots) (r : PublishRequest)
    (h : slots.Pairwise (fun i j => (queue.getD i .zero).sessionId = (queue.getD j .zero).sessionId →
      Before i (queue.getD i .zero) j (queue.getD j .zero))) :
    slots.Pairwise (fun i' j =>
      ((queue.set i r).getD i' .zero).sessionId = ((queue.set i r).getD j .zero).sessionId →
          Before i' ((queue.set i r).getD i' .zero) j ((queue.set i r).getD j .zero)) := by
  refine h.imp_of_mem (fun {j k} hj hk hjk => ?_)
  rw [getD_set_ne (ne_of_mem_of_not_mem hj hi).symm, getD_set_ne (ne_of_mem_of_not_mem hk hi).symm]
  exact hjk

theorem Arranged.enqueue {r : PublishRequest} (h : Arranged slots queue parked)
    (hfree : queue.findIdx? (fun p => !p.inUse) = some i) (hr : r.inUse = true)
    (horder : ∀ (j : Nat) p, queue[j]? = some p → p.inUse = true → p.sessionId = r.sessionId →
      Before j p i r) :
    Arranged (slots ++ [i]) (queue.set i r) (parked ++ [r]) := by
  obtain ⟨hlt, hunused, -⟩ := List.findIdx?_eq_some_iff_getElem.mp hfree
  have hgetElem : queue[i]? = some queue[i] := List.getElem?_eq_getElem hlt
  have hnot : i ∉ slots := by
    intro hmem
    have hused := (h.inUse i _ hgetElem).mpr hmem
    rw [hused] at hunused
    cases hunused
  refine ⟨?_, fun j p hj => ?_, fun j hj => ?_, ?_, ?_⟩
  · exact List.nodup_append.mpr ⟨h.nodup, List.nodup_singleton i, fun j hj k hk => by
      rw [List.mem_singleton.mp hk]
      exact fun heq => hnot (heq ▸ hj)⟩
  · by_cases hij : i = j
    · subst hij
      rw [List.getElem?_set_self hlt] at hj
      obtain rfl := Option.some.inj hj
      simp [hr]
    · rw [List.getElem?_set_ne hij] at hj
      rw [h.inUse j p hj]
      simp [Ne.symm hij]
  · rw [List.length_set]
    obtain hj | hj := List.mem_append.mp hj
    · exact h.bound j hj
    · exact List.mem_singleton.mp hj ▸ hlt
  · rw [List.map_append, Arranged.map_set hnot, h.requests, List.map_singleton, getD_set_self hlt]
  · refine List.pairwise_append.mpr ⟨Arranged.pairwise_set hnot r h.order,
      List.pairwise_singleton _ _, ?_⟩
    intro j hj k hk hsession
    obtain rfl := List.mem_singleton.mp hk
    rw [getD_set_self hlt, getD_set_ne (ne_of_mem_of_not_mem hj hnot).symm] at hsession ⊢
    have hj' : queue[j]? = some (queue.getD j .zero) := by
      rw [List.getD_eq_getElem?_getD, List.getElem?_eq_getElem (h.bound j hj)]
      rfl
    exact horder j _ hj' ((h.inUse j _ hj').mpr hj) hsession

theorem Arranged.first {sessionId : UInt32} {r : PublishRequest} (h : Arranged slots queue parked)
    (hi : queue[i]? = some r) (hr : r.ParkedBy sessionId)
    (hfirst : ∀ (j : Nat) (r' : PublishRequest), queue[j]? = some r' → r'.ParkedBy sessionId →
      j = i ∨ Before i r j r') :
    ∃ earlier later, slots = earlier ++ i :: later ∧ i ∉ earlier ∧ i ∉ later ∧
      ∀ j ∈ earlier, (queue.getD j .zero).sessionId ≠ sessionId := by
  have hmem : i ∈ slots := (h.inUse i r hi).mp hr.1
  obtain ⟨earlier, later, rfl⟩ := List.append_of_mem hmem
  have hget : queue.getD i .zero = r := by rw [List.getD_eq_getElem?_getD, hi]; rfl
  obtain ⟨-, hlater, hdisjoint⟩ := List.nodup_append.mp h.nodup
  have hnot : i ∉ earlier := fun hi' => hdisjoint i hi' i (.head _) rfl
  refine ⟨earlier, later, rfl, hnot, (List.nodup_cons.mp hlater).1, fun j hj hsession => ?_⟩
  have hslot : j ∈ earlier ++ i :: later := List.mem_append_left _ hj
  have hj' : queue[j]? = some (queue.getD j .zero) := by
    rw [List.getD_eq_getElem?_getD, List.getElem?_eq_getElem (h.bound j hslot)]
    rfl
  have hbefore := (List.pairwise_append.mp h.order).2.2 j hj i (.head _)
  rw [hget] at hbefore
  obtain rfl | hyounger := hfirst j _ hj' ⟨(h.inUse j _ hj').mpr hslot, hsession⟩
  · exact hnot hj
  · exact hyounger.asymm (hbefore (hsession.trans hr.2.symm))

theorem Arranged.dequeue {earlier later : List Nat} (h : Arranged (earlier ++ i :: later) queue parked) :
    Arranged (earlier ++ later) (queue.set i .zero)
      (earlier.map (fun j => queue.getD j .zero) ++ later.map (fun j => queue.getD j .zero)) := by
  have hsub : (earlier ++ later).Sublist (earlier ++ i :: later) :=
    .append_left (.cons i (.refl later)) earlier
  obtain ⟨-, hlater, hdisjoint⟩ := List.nodup_append.mp h.nodup
  have hnot : i ∉ earlier ++ later := by
    intro hi
    obtain hi | hi := List.mem_append.mp hi
    · exact hdisjoint i hi i (.head _) rfl
    · exact (List.nodup_cons.mp hlater).1 hi
  have hlt : i < queue.length := h.bound i (List.mem_append_right _ (.head _))
  refine ⟨h.nodup.sublist hsub, fun j r hj => ?_, fun j hj => ?_, ?_,
    Arranged.pairwise_set hnot .zero (h.order.sublist hsub)⟩
  · by_cases hij : i = j
    · subst hij
      rw [List.getElem?_set_self hlt] at hj
      obtain rfl := Option.some.inj hj
      simp [hnot, PublishRequest.zero]
    · rw [List.getElem?_set_ne hij] at hj
      rw [h.inUse j r hj]
      simp [Ne.symm hij]
  · rw [List.length_set]
    exact h.bound j (hsub.subset hj)
  · rw [Arranged.map_set hnot, List.map_append]

theorem Arranged.step {op : QueueOp} (h : Arranged slots queue parked) (hop : op.Ordered queue) :
    (op.apply queue).1 = (op.serve queue.length parked).1 ∧ (op.apply queue).2.length = queue.length ∧
      ∃ slots', Arranged slots' (op.apply queue).2 (op.serve queue.length parked).2 := by
  cases op with
  | enqueue r =>
    simp only [QueueOp.apply, QueueOp.serve, publishRequestEnqueue]
    cases hfree : queue.findIdx? (fun p => !p.inUse) with
    | none =>
      rw [if_neg (h.full_iff.mp hfree)]
      exact ⟨rfl, rfl, slots, h⟩
    | some i =>
      rw [if_pos (by
        by_contra hfull
        cases (h.full_iff.mpr hfull).symm.trans hfree)]
      exact ⟨rfl, List.length_set .., _, h.enqueue hfree rfl (hop i hfree)⟩
  | dequeue sessionId =>
    simp only [QueueOp.apply, QueueOp.serve]
    obtain ⟨hnone, hparked⟩ | ⟨i, r, hi, hr, hsome, hfirst⟩ :=
      publishRequestDequeue_cases queue sessionId
    · have hother : ∀ p ∈ parked, ¬ decide (p.sessionId = sessionId) = true := by
        intro p hp hsession
        rw [← h.requests] at hp
        obtain ⟨j, hj, rfl⟩ := List.mem_map.mp hp
        have hj' : queue[j]? = some (queue.getD j .zero) := by
          rw [List.getD_eq_getElem?_getD, List.getElem?_eq_getElem (h.bound j hj)]
          rfl
        exact hparked _ (List.mem_of_getElem? hj') ⟨(h.inUse j _ hj').mpr hj, of_decide_eq_true hsession⟩
      rw [hnone, List.find?_eq_none.mpr hother, List.eraseP_of_forall_not hother]
      exact ⟨rfl, rfl, slots, h⟩
    · obtain ⟨earlier, later, rfl, hearlier, hlater, hothers⟩ := h.first hi hr hfirst
      have hget : queue.getD i .zero = r := by rw [List.getD_eq_getElem?_getD, hi]; rfl
      have hparked : parked = earlier.map (fun j => queue.getD j .zero) ++
          r :: later.map (fun j => queue.getD j .zero) := by
        rw [← h.requests, List.map_append, List.map_cons, hget]
      have hskip : ∀ p ∈ earlier.map (fun j => queue.getD j .zero),
          ¬ decide (p.sessionId = sessionId) = true := by
        intro p hp
        obtain ⟨j, hj, rfl⟩ := List.mem_map.mp hp
        simpa using hothers j hj
      have htaken : decide (r.sessionId = sessionId) = true := decide_eq_true hr.2
      rw [hsome, hparked]
      refine ⟨?_, List.length_set .., earlier ++ later, ?_⟩
      · rw [List.find?_append, List.find?_eq_none.mpr hskip, List.find?_cons, htaken]
        rfl
      · rw [List.eraseP_append_right _ hskip, List.eraseP_cons, htaken]
        exact h.dequeue

theorem queueReturns_eq {ops : List QueueOp} (h : Arranged slots queue parked)
    (hops : OrderedRun ops queue) : queueReturns ops queue = fifoReturns queue.length ops parked := by
  induction ops generalizing slots queue parked with
  | nil => rfl
  | cons op ops ih =>
    obtain ⟨hreturn, hlength, slots', hnext⟩ := h.step hops.1
    have hrest := ih hnext hops.2
    rw [hlength] at hrest
    rw [queueReturns, fifoReturns, hreturn, hrest]

end Order

/-- The requests of every session are returned in the order in which they were parked, each of them once,
in every run in which a request never takes an earlier slot than one of its session from the same
tick. -/
theorem publish_requests_in_order (limit : Nat) (ops : List QueueOp)
    (h : OrderedRun ops (List.replicate limit .zero)) :
    queueReturns ops (List.replicate limit .zero) = fifoReturns limit ops [] := by
  have hreturns := queueReturns_eq (.init limit) h
  rwa [List.length_replicate] at hreturns

def sameTick (requestId : UInt32) : QueueOp := .enqueue ⟨false, 1, 0, requestId, 5, [], none⟩

theorem publish_requests_in_order_same_tick :
    (queueReturns [sameTick 1, sameTick 2, .dequeue 1, .dequeue 1] (List.replicate 4 .zero)).map
      (Option.map PublishRequest.requestId) = [none, none, some 1, some 2] := by
  have hordered :
      OrderedRun [sameTick 1, sameTick 2, .dequeue 1, .dequeue 1] (List.replicate 4 .zero) := by
    have hzero {j : Nat} {n : Nat} {p : PublishRequest}
      (hj : (List.replicate n PublishRequest.zero)[j]? = some p) :
        p.inUse = false := by
      rw [List.eq_of_mem_replicate (List.mem_of_getElem? hj)]
      rfl
    refine ⟨fun i _ j p hj hin => ?_, fun i hi j p hj hin _ => ?_, trivial, trivial, trivial⟩
    · exact absurd hin (by simp [hzero hj])
    · obtain rfl : 1 = i := Option.some.inj hi
      cases j with
      | zero =>
        obtain rfl := Option.some.inj hj
        exact .inr ⟨rfl, by decide⟩
      | succ j =>
        have hrest : (List.replicate 3 PublishRequest.zero)[j]? = some p := hj
        exact absurd hin (by simp [hzero hrest])
  rw [publish_requests_in_order 4 _ hordered]
  decide

/-- Requests 1 and 2 are parked in one tick; 3 takes the slot that 1 leaves and is returned before 2. -/
theorem publish_requests_overtaken :
    let ops := [sameTick 1, sameTick 2, .dequeue 1, sameTick 3, .dequeue 1]
    (queueReturns ops (List.replicate 4 .zero)).map (Option.map PublishRequest.requestId) =
        [none, none, some 1, none, some 3] ∧
      (fifoReturns 4 ops []).map (Option.map PublishRequest.requestId) =
          [none, none, some 1, none, some 2] := by
  decide

end MicroOpcua
