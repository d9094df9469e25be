import MicroOpcua.Services.Alarms

namespace MicroOpcua

variable {m : AlarmBuild}

section Steps

def AlarmOp.act (m : AlarmBuild) : AlarmOp → Condition → Condition
  | .setActive _ active, c => c.setActive active
  | .triggerDialog _ mask, c => c.triggerDialog mask
  | .acknowledge _ _, c => c.acknowledge.2
  | .respond _ args, c => (c.respond m args).2.1

def AlarmOp.Allocates : AlarmOp → Prop
  | .setActive _ _ | .triggerDialog _ _ => True
  | .acknowledge _ _ | .respond _ _ => False

theorem Condition.setActive_id (c : Condition) (active : Bool) : (c.setActive active).id = c.id := by
  unfold setActive
  split_ifs <;> rfl

theorem Condition.acknowledge_id (c : Condition) : c.acknowledge.2.id = c.id := by
  unfold acknowledge
  split_ifs <;> rfl

def Condition.Asked (c : Condition) (args : List Scalar) (v : UInt32) : Prop :=
  (∃ rest, args = .int32 v :: rest) ∧ c.isDialog = true ∧ c.activeState = true

/-- What Respond does: it fails, or it shifts and looks at the mask. -/
theorem Condition.respond_cases (m : AlarmBuild) (args : List Scalar) (c : Condition) :
    (∃ status, status ≠ .good ∧ c.respond m args = (status, c, []) ∧ ∀ v, ¬ c.Asked args v) ∨
      ∃ v, c.Asked args v ∧ c.respond m args =
        if c.validResponsesMask &&& m.shift v.toInt32.toInt = 0 then
        (.dialogResponseInvalid, c, [v.toInt32.toInt])
        else (.good, { c with
          expectedResponse := v.toInt32.toInt
          activeState := false
          retain := false }, [v.toInt32.toInt]) := by
  by_cases hdialog : c.isDialog = true
  · by_cases hactive : c.activeState = true
    · rw [respond.eq_def, if_neg (not_not.mpr hdialog), if_neg (not_not.mpr hactive)]
      split
      · rename_i v rest
        exact .inr ⟨v, ⟨⟨rest, rfl⟩, hdialog, hactive⟩, rfl⟩
      · rename_i hargs
        exact .inl ⟨.invalidArgument, nofun, rfl, fun v h => h.1.elim (hargs v)⟩
    · refine .inl ⟨.dialogNotActive, nofun, ?_, fun v h => hactive h.2.2⟩
      rw [respond.eq_def, if_neg (not_not.mpr hdialog), if_pos hactive]
  · exact .inl ⟨.nodeIdUnknown, nofun, if_pos hdialog, fun v h => hdialog h.2.1⟩

theorem AlarmOp.act_id (op : AlarmOp) (c : Condition) : (op.act m c).id = c.id := by
  cases op with
  | setActive id active => exact c.setActive_id active
  | triggerDialog id mask => rfl
  | acknowledge id args => exact c.acknowledge_id
  | respond id args =>
    simp only [act]
    obtain ⟨status, -, heq, -⟩ | ⟨v, -, heq⟩ := c.respond_cases m args
    · rw [heq]
    · rw [heq]
      split <;> rfl

inductive AlarmStep (m : AlarmBuild) (op : AlarmOp) (cs : List Condition) :
    List Condition → Prop
  | found (i : Fin cs.length) (hi : findCondition cs op.target = some i) :
      AlarmStep m op cs (cs.set i (op.act m cs[i]))
  | allocated (absent : findCondition cs op.target = none) (hop : op.Allocates)
    (room : cs.length < m.maxConditions) :
      AlarmStep m op cs (cs ++ [op.act m (.new op.target)])
  | refused (absent : findCondition cs op.target = none)
    (hop : op.Allocates → ¬ cs.length < m.maxConditions) :
      AlarmStep m op cs cs

theorem AlarmOp.run_step (op : AlarmOp) (s : Alarms) :
    AlarmStep m op s.conditions (op.run m s).2.conditions := by
  have happ : ∀ f : Condition → Condition, (∀ c, op.act m c = f c) → op.Allocates →
      AlarmStep m op s.conditions
        ((findOrAllocateCondition m s.conditions op.target).elim s.conditions fun p =>
          p.2.modify p.1 f) := by
    intro f hf hop
    unfold findOrAllocateCondition
    cases hfind : findCondition s.conditions op.target with
    | some i =>
      have hset : s.conditions.modify i f = s.conditions.set i (f s.conditions[i]) := by
        rw [List.modify_eq_set_getElem?, List.getElem?_eq_getElem i.isLt]
        rfl
      rw [← hf] at hset
      simp only [Option.elim_some, hset]
      exact .found i hfind
    | none =>
      by_cases hroom : s.conditions.length < m.maxConditions
      · have hset : (s.conditions ++ [Condition.new op.target]).modify s.conditions.length f =
            s.conditions ++ [f (.new op.target)] := by
          rw [List.modify_eq_set_getElem?, List.getElem?_concat_length]
          simp
        rw [← hf] at hset
        simp only [if_pos hroom, Option.elim_some, hset]
        exact .allocated hfind hop hroom
      · simp only [if_neg hroom, Option.elim_none]
        exact .refused hfind fun _ => hroom
  cases op with
  | setActive id active =>
    have h := happ (Condition.setActive active) (fun _ => rfl) trivial
    simp only [run, alarmsSetActive, target] at h ⊢
    cases hfind : findOrAllocateCondition m s.conditions id with
    | none => simpa only [hfind, Option.elim_none] using h
    | some found => simpa only [hfind, Option.elim_some] using h
  | triggerDialog id mask =>
    have h := happ (Condition.triggerDialog mask) (fun _ => rfl) trivial
    simp only [run, alarmsTriggerDialog, target] at h ⊢
    cases hfind : findOrAllocateCondition m s.conditions id with
    | none => simpa only [hfind, Option.elim_none] using h
    | some found => simpa only [hfind, Option.elim_some] using h
  | acknowledge id args =>
    cases hfind : findCondition s.conditions id with
    | none =>
      simp only [run, alarmsConditionsMethodDispatch, hfind]
      exact .refused hfind (by rintro ⟨⟩)
    | some i =>
      simp only [run, alarmsConditionsMethodDispatch, hfind]
      exact .found i hfind
  | respond id args =>
    have hne : respondId ≠ acknowledgeId := by decide
    cases hfind : findCondition s.conditions id with
    | none =>
      simp only [run, alarmsConditionsMethodDispatch, hfind, if_neg hne]
      exact .refused hfind (by rintro ⟨⟩)
    | some i =>
      simp only [run, alarmsConditionsMethodDispatch, hfind, if_neg hne]
      exact .found i hfind

end Steps

section Runs

theorem after_concat (ops : List AlarmOp) (op : AlarmOp) : m.after (ops ++ [op]) =
      (op.run m (m.after ops)).2 := by
  rw [AlarmBuild.after, List.foldl_append]
  rfl

/-- What every table satisfies after `ops`: no NodeId twice, and a NodeId that is not there although
there is room was in no operation that allocates. -/
structure AlarmTable (m : AlarmBuild) (ops : List AlarmOp) (cs : List Condition) : Prop where
  unique : cs.Pairwise fun c d => c.id.equal d.id = false
  absent : ∀ id, (∀ c ∈ cs, c.id.equal id = false) → cs.length < m.maxConditions →
    ∀ op ∈ ops, id.equal op.target = true → ¬ op.Allocates

variable {cs : List Condition}

theorem findCondition_none {id : RawNodeId} (h : findCondition cs id = none) :
    ∀ c ∈ cs, c.id.equal id = false :=
  fun c hc => Bool.eq_false_iff.mpr (List.findFinIdx?_eq_none_iff.mp h c hc)

theorem findCondition_some {id : RawNodeId} {i : Fin cs.length}
    (h : findCondition cs id = some i) : cs[i].id.equal id = true :=
  (List.findFinIdx?_eq_some_iff.mp h).1

theorem AlarmTable.step {ops : List AlarmOp} {op : AlarmOp} {cs' : List Condition}
    (h : AlarmTable m ops cs) (hstep : AlarmStep m op cs cs') : AlarmTable m (ops ++ [op]) cs' := by
  have hids :
      ∀ i : Fin cs.length, (cs.set i (op.act m cs[i])).map Condition.id = cs.map Condition.id := by
    intro i
    rw [List.map_set, op.act_id]
    apply List.ext_getElem? fun j => ?_
    by_cases hij : i.val = j
    · subst hij
      simp
    · rw [List.getElem?_set_ne hij]
  have hlast : ∀ id : RawNodeId, (∀ o ∈ ops, id.equal o.target = true → ¬ o.Allocates) →
      (id.equal op.target = true → ¬ op.Allocates) → ∀ o ∈ ops ++ [op], id.equal o.target = true →
      ¬ o.Allocates := by
    intro id hold hnew o ho
    obtain hmem | rfl := List.mem_append.mp ho |>.imp_right List.mem_singleton.mp
    · exact hold o hmem
    · exact hnew
  cases hstep with
  | found i hi =>
    refine ⟨?_, fun id habsent hroom => ?_⟩
    · have hpair : (cs.map Condition.id).Pairwise fun m n => m.equal n = false :=
        List.pairwise_map.mpr h.unique
      rw [← hids i] at hpair
      exact List.pairwise_map.mp hpair
    · have hall : ∀ n ∈ cs.map Condition.id, n.equal id = false := by
        rw [← hids i]
        exact List.forall_mem_map.mpr habsent
      have hold := List.forall_mem_map.mp hall
      rw [List.length_set] at hroom
      refine hlast id (h.absent id hold hroom) fun hid => ?_
      have hequal := RawNodeId.equal_trans (findCondition_some hi) (RawNodeId.equal_symm hid)
      exact absurd hequal (Bool.eq_false_iff.mp (hold _ (List.getElem_mem _)))
  | allocated habsent hop hroom =>
    have hnew : (op.act m (.new op.target)).id = op.target := op.act_id _
    refine ⟨?_, fun id hid hroom' => ?_⟩
    · refine List.pairwise_append.mpr ⟨h.unique, List.pairwise_singleton _ _, fun c hc d hd => ?_⟩
      rw [List.mem_singleton.mp hd, hnew]
      exact findCondition_none habsent c hc
    · refine hlast id (h.absent id (fun c hc => hid c (List.mem_append_left _ hc)) hroom) fun hequal =>
        ?_
      have hself := hid _ (List.mem_append_right _ (List.mem_singleton.mpr rfl))
      rw [hnew, RawNodeId.equal_symm hequal] at hself
      cases hself
  | refused habsent hop =>
    exact ⟨h.unique, fun id hid hroom => hlast id (h.absent id hid hroom) fun _ hallocates =>
      hop hallocates hroom⟩

variable (m) in
theorem after_table (ops : List AlarmOp) : AlarmTable m ops (m.after ops).conditions := by
  induction ops using List.reverseRecOn with
  | nil => exact ⟨List.Pairwise.nil, fun _ _ _ _ h => nomatch h⟩
  | append_singleton ops op ih =>
    rw [after_concat]
    exact ih.step (op.run_step _)

structure AlarmTracks (m : AlarmBuild) (ops : List AlarmOp) (P : List AlarmOp → Condition → Prop) :
    Prop where
  other : ∀ pre op c, pre ++ [op] <+: ops → c.id.equal op.target = false → P pre c → P (pre ++ [op]) c
  act : ∀ pre op i, pre ++ [op] <+: ops →
    findCondition (m.after pre).conditions op.target = some i →
    P pre (m.after pre).conditions[i] →
    P (pre ++ [op]) (op.act m (m.after pre).conditions[i])
  new : ∀ pre op, pre ++ [op] <+: ops → op.Allocates →
    (∀ o ∈ pre, op.target.equal o.target = true → ¬ o.Allocates) →
    P (pre ++ [op]) (op.act m (.new op.target))

theorem AlarmTracks.holds {ops : List AlarmOp} {P : List AlarmOp → Condition → Prop}
    (h : AlarmTracks m ops P) {pre : List AlarmOp} (hpre : pre <+: ops) :
    ∀ c ∈ (m.after pre).conditions, P pre c := by
  induction pre using List.reverseRecOn with
  | nil => exact nofun
  | append_singleton pre op ih =>
    have hold := ih ((List.prefix_append pre [op]).trans hpre)
    have htable := after_table m pre
    have hstep : AlarmStep m op _ _ := op.run_step (m.after pre)
    rw [← after_concat] at hstep
    intro c hc
    generalize (m.after (pre ++ [op])).conditions = cs' at hstep hc
    cases hstep with
    | found i hi =>
      obtain ⟨j, hj, rfl⟩ := List.getElem_of_mem hc
      rw [List.length_set] at hj
      by_cases hij : i.val = j
      · subst hij
        rw [List.getElem_set_self]
        exact h.act pre op i hpre hi (hold _ (List.getElem_mem _))
      · rw [List.getElem_set_ne hij]
        refine h.other pre op _ hpre ?_ (hold _ (List.getElem_mem _))
        have hpair := List.pairwise_iff_getElem.mp htable.unique
        refine Bool.eq_false_iff.mpr fun hequal => ?_
        have hboth := RawNodeId.equal_trans hequal (RawNodeId.equal_symm (findCondition_some hi))
        obtain hlt | hgt := Nat.lt_or_gt_of_ne hij
        · exact Bool.eq_false_iff.mp (hpair i.val j i.isLt hj hlt) (RawNodeId.equal_symm hboth)
        · exact Bool.eq_false_iff.mp (hpair j i.val hj i.isLt hgt) hboth
    | allocated habsent hop hroom =>
      obtain hmem | hmem := List.mem_append.mp hc
      · exact h.other pre op c hpre (findCondition_none habsent c hmem) (hold c hmem)
      · rw [List.mem_singleton.mp hmem]
        exact h.new pre op hpre hop (htable.absent _ (findCondition_none habsent) hroom)
    | refused habsent hop => exact h.other pre op c hpre (findCondition_none habsent c hc) (hold c hc)

end Runs

section Retained

def RawNodeId.IsNumeric (n : RawNodeId) : Prop := ∃ id, n.identifier = .numeric id

theorem RawNodeId.IsNumeric.equal_iff {n1 : RawNodeId} (h : n1.IsNumeric) (n2 : RawNodeId) :
    n1.equal n2 = true ↔ n1 = n2 := by
  obtain ⟨ns1, id1⟩ := n1
  obtain ⟨ns2, id2⟩ := n2
  obtain ⟨n, rfl⟩ : ∃ n, id1 = .numeric n := h
  cases id2 <;> simp [RawNodeId.equal]

/-- What an operator sees of a condition: whether it is active, and whether its last activation is still
to be acknowledged. -/
structure AlarmView where
  active : Bool
  pending : Bool

def AlarmView.step (id : RawNodeId) (v : AlarmView) : AlarmOp → AlarmView
  | .setActive id' active =>
    if id.equal id' then
      if active then if v.active then v else ⟨true, true⟩
      else { v with active := false }
    else v
  | .acknowledge id' _ => if id.equal id' then { v with pending := false } else v
  | .triggerDialog _ _ | .respond _ _ => v

def alarmView (id : RawNodeId) (ops : List AlarmOp) : AlarmView :=
  ops.foldl (AlarmView.step id) ⟨false, false⟩

theorem alarmView_concat (id : RawNodeId) (ops : List AlarmOp) (op : AlarmOp) :
    alarmView id (ops ++ [op]) = (alarmView id ops).step id op := by
  rw [alarmView, List.foldl_append]
  rfl

variable {id : RawNodeId}

theorem AlarmView.step_other {op : AlarmOp} (h : id.equal op.target = false) (v : AlarmView) :
    v.step id op = v := by
  cases op with
  | setActive id' active => exact if_neg (Bool.eq_false_iff.mp h)
  | acknowledge id' args => exact if_neg (Bool.eq_false_iff.mp h)
  | triggerDialog id' mask => rfl
  | respond id' args => rfl

theorem alarmView_new {ops : List AlarmOp}
    (h : ∀ o ∈ ops, id.equal o.target = true → ¬ o.Allocates) : alarmView id ops = ⟨false, false⟩ := by
  induction ops using List.reverseRecOn with
  | nil => rfl
  | append_singleton ops op ih =>
    rw [alarmView_concat, ih fun o ho => h o (List.mem_append_left _ ho)]
    have hop := h op (List.mem_append_right _ (List.mem_singleton.mpr rfl))
    cases hid : id.equal op.target with
    | false => exact AlarmView.step_other hid _
    | true =>
      cases op with
      | setActive id' active => exact absurd trivial (hop hid)
      | triggerDialog id' mask => exact absurd trivial (hop hid)
      | acknowledge id' args => exact if_pos hid
      | respond id' args => rfl

structure AlarmView.Shows (v : AlarmView) (c : Condition) : Prop where
  dialog : c.isDialog = false
  active : c.activeState = v.active
  retain : c.retain = (v.active || v.pending)
  pending : v.pending = true → c.ackedState = false
  unacked : v.active = true → c.ackedState = false → v.pending = true

theorem AlarmView.Shows.act {v : AlarmView} {c : Condition} {op : AlarmOp} (h : v.Shows c)
    (hid : id.equal op.target = true) (hop : ∀ id mask, op ≠ .triggerDialog id mask) :
    (v.step id op).Shows (op.act m c) := by
  obtain ⟨dialog, active, retain, pending, unacked⟩ := h
  obtain ⟨va, vp⟩ := v
  obtain ⟨cid, ca, ck, cr, cd, cx, cm⟩ := c
  simp only at dialog active retain pending unacked
  subst dialog active retain
  cases op with
  | setActive id' a =>
    have hid' : id.equal id' = true := hid
    simp only [step, if_pos hid', AlarmOp.act, Condition.setActive]
    cases a <;> cases ca <;> cases ck <;> cases vp <;> simp_all <;> constructor <;> simp
  | triggerDialog id' mask => exact absurd rfl (hop id' mask)
  | acknowledge id' args =>
    have hid' : id.equal id' = true := hid
    simp only [step, if_pos hid', AlarmOp.act, Condition.acknowledge]
    cases ca <;> cases ck <;> cases vp <;> simp_all <;> constructor <;> simp
  | respond id' args => exact ⟨rfl, rfl, rfl, pending, unacked⟩

theorem AlarmOp.act_retain {op : AlarmOp} {c : Condition} (h : c.activeState = true → c.retain = true) :
    (op.act m c).activeState = true → (op.act m c).retain = true := by
  cases op with
  | setActive id active =>
    simp only [act, Condition.setActive]
    split_ifs <;> simp_all
  | triggerDialog id mask => exact fun _ => rfl
  | acknowledge id args =>
    simp only [act, Condition.acknowledge]
    split_ifs <;> simp_all
  | respond id args =>
    simp only [act]
    obtain ⟨status, -, heq, -⟩ | ⟨v, -, heq⟩ := c.respond_cases m args
    · rw [heq]
      exact h
    · rw [heq]
      split
      · exact h
      · exact nofun

def Retained (ops : List AlarmOp) (c : Condition) : Prop :=
  (c.activeState = true → c.retain = true) ∧ (∃ op ∈ ops, c.id = op.target) ∧
    (c.id.equal c.id = true → (∀ id mask, .triggerDialog id mask ∈ ops → c.id.equal id = false) →
      (alarmView c.id ops).Shows c)

variable (m) in
theorem retained_tracks (ops : List AlarmOp) : AlarmTracks m ops Retained where
  other := by
    rintro pre op c - hid ⟨hretain, ⟨o, ho, htarget⟩, hshows⟩
    refine ⟨hretain, ⟨o, List.mem_append_left _ ho, htarget⟩, fun hself hnever => ?_⟩
    rw [alarmView_concat, AlarmView.step_other hid]
    exact hshows hself fun id mask h => hnever id mask (List.mem_append_left _ h)
  act := by
    rintro pre op i - hfind ⟨hretain, ⟨o, ho, htarget⟩, hshows⟩
    have hid := findCondition_some hfind
    refine ⟨op.act_retain hretain, ⟨o, List.mem_append_left _ ho, (op.act_id _).trans htarget⟩, ?_⟩
    rw [op.act_id]
    intro hself hnever
    rw [alarmView_concat]
    refine (hshows hself fun id mask h => hnever id mask (List.mem_append_left _ h)).act hid ?_
    rintro id mask rfl
    have hother := hnever id mask (List.mem_append_right _ (List.mem_singleton.mpr rfl))
    exact Bool.eq_false_iff.mp hother hid
  new := by
    rintro pre op - hop hfresh
    have hmem : op ∈ pre ++ [op] := List.mem_append_right _ (List.mem_singleton.mpr rfl)
    refine ⟨op.act_retain nofun, ⟨op, hmem, op.act_id _⟩, ?_⟩
    have hid : (op.act m (.new op.target)).id = op.target := op.act_id _
    rw [hid]
    intro hself hnever
    rw [alarmView_concat, alarmView_new hfresh]
    cases op with
    | setActive id active =>
      have hnew : AlarmView.Shows ⟨false, false⟩ (Condition.new id) := ⟨rfl, rfl, rfl, nofun, nofun⟩
      exact hnew.act hself nofun
    | triggerDialog id mask => exact absurd hself (Bool.eq_false_iff.mp (hnever id mask hmem))
    | acknowledge id args => exact hop.elim
    | respond id args => exact hop.elim

/-- Over every run on numeric NodeIds. -/
theorem conditions_retained (m : AlarmBuild) (ops : List AlarmOp)
    (hnumeric : ∀ op ∈ ops, op.target.IsNumeric) :
    (∀ (i j : Nat) (c d : Condition), (m.after ops).conditions[i]? = some c →
      (m.after ops).conditions[j]? = some d → c.id = d.id → i = j) ∧
    (∀ c ∈ (m.after ops).conditions, c.activeState = true → c.retain = true) ∧
    ∀ c ∈ (m.after ops).conditions, (∀ id mask, .triggerDialog id mask ∈ ops → c.id ≠ id) →
      c.activeState = (alarmView c.id ops).active ∧
      (c.retain = true ↔ c.activeState = true ∨ (alarmView c.id ops).pending = true) := by
  have hretained := (retained_tracks m ops).holds List.prefix_rfl
  have hids : ∀ c ∈ (m.after ops).conditions, c.id.IsNumeric := by
    intro c hc
    obtain ⟨op, hop, htarget⟩ := (hretained c hc).2.1
    exact htarget ▸ hnumeric op hop
  refine ⟨fun i j c d hi hj hid => ?_, fun c hc => (hretained c hc).1, fun c hc hnever => ?_⟩
  · have hpair := List.pairwise_iff_getElem.mp (after_table m ops).unique
    obtain ⟨hilt, rfl⟩ := List.getElem?_eq_some_iff.mp hi
    obtain ⟨hjlt, rfl⟩ := List.getElem?_eq_some_iff.mp hj
    obtain hlt | heq | hgt := Nat.lt_trichotomy i j
    · exact absurd (((hids _ (List.getElem_mem _)).equal_iff _).mpr hid)
        (Bool.eq_false_iff.mp (hpair i j hilt hjlt hlt))
    · exact heq
    · exact absurd (((hids _ (List.getElem_mem _)).equal_iff _).mpr hid.symm)
        (Bool.eq_false_iff.mp (hpair j i hjlt hilt hgt))
  · have hself := ((hids c hc).equal_iff c.id).mpr rfl
    have hshows := (hretained c hc).2.2 hself fun id mask h =>
      Bool.eq_false_iff.mpr fun hequal => hnever id mask h (((hids c hc).equal_iff id).mp hequal)
    refine ⟨hshows.active, ?_⟩
    rw [hshows.retain, hshows.active, Bool.or_eq_true]

def modularBuild : AlarmBuild where
  maxConditions := 10
  shift r := 1 <<< UInt32.ofNat (r % 32).toNat
  shift_eq r h0 h32 := by rw [Int.emod_eq_of_lt h0 h32]

theorem conditions_retained_unacknowledged : ∃ c, (modularBuild.after
        [.setActive ⟨1, .numeric 7⟩ true, .setActive ⟨1, .numeric 7⟩ false]).conditions = [c] ∧
      c.activeState = false ∧ c.retain = true := by
  have h := conditions_retained modularBuild
    [.setActive ⟨1, .numeric 7⟩ true, .setActive ⟨1, .numeric 7⟩ false]
    (by simp [AlarmOp.target, RawNodeId.IsNumeric])
  have hlast := h.2.2 _ (List.mem_singleton.mpr rfl) (by simp)
  exact ⟨_, rfl, hlast.1, hlast.2.mpr (.inr (by decide))⟩

end Retained

section Dialogs

def ValidResponse (mask : UInt32) (r : Int) : Prop := 0 ≤ r ∧ r < 32 ∧ mask.toNat.testBit r.toNat = true

def latestMask (id : RawNodeId) (ops : List AlarmOp) : Option UInt32 :=
  ops.foldl (fun latest op => match op with
    | .triggerDialog id' mask => if id.equal id' then some mask else latest
    | _ => latest) none

def DialogActive (s : Alarms) (id : RawNodeId) : Prop :=
  ∃ i, findCondition s.conditions id = some i ∧ (s.conditions.get i).isDialog = true ∧
    (s.conditions.get i).activeState = true

def AlarmOp.IsDialog : AlarmOp → Prop
  | .triggerDialog _ _ | .respond _ (.int32 _ :: _) => True
  | _ => False

/-- Respond succeeds on an active dialog exactly for the responses of the latest mask, shifts by less
than 32 only, and a closed dialog stores such a response. -/
structure DialogsSound (m : AlarmBuild) (ops : List AlarmOp) : Prop where
  succeeds : ∀ pre id v rest, pre ++ [.respond id (.int32 v :: rest)] <+: ops →
    DialogActive (m.after pre) id →
    ((AlarmOp.run m (.respond id (.int32 v :: rest)) (m.after pre)).1 = .good ↔
      ∃ mask, latestMask id pre = some mask ∧ ValidResponse mask v.toInt32.toInt)
  shifts : ∀ r ∈ (m.after ops).shifts, 0 ≤ r ∧ r < 32
  closed : ∀ pre, pre <+: ops → ∀ c ∈ (m.after pre).conditions, c.isDialog = true →
    c.activeState = false → ∃ mask, latestMask c.id pre = some mask ∧
    ValidResponse mask c.expectedResponse

theorem validResponse_iff {mask : UInt32} {r : Int} (h0 : 0 ≤ r) (h32 : r < 32) :
    mask &&& m.shift r ≠ 0 ↔ ValidResponse mask r := by
  rw [m.shift_eq r h0 h32, ValidResponse, and_iff_right h0, and_iff_right h32, ne_eq, ← UInt32.toNat_inj]
  have hlt : r.toNat < 32 := by omega
  have hpow : 2 ^ r.toNat < 2 ^ 32 := Nat.pow_lt_pow_right (by decide) hlt
  have hshift : ((1 : UInt32) <<< UInt32.ofNat r.toNat).toNat = 2 ^ r.toNat := by
    rw [UInt32.toNat_shiftLeft, UInt32.toNat_ofNat_of_lt' (by change _ < 4294967296; omega),
      Nat.mod_eq_of_lt hlt]
    change (1 <<< r.toNat) % 2 ^ 32 = _
    rw [Nat.one_shiftLeft, Nat.mod_eq_of_lt hpow]
  rw [UInt32.toNat_and, hshift, Nat.and_two_pow]
  cases mask.toNat.testBit r.toNat <;> simp

theorem latestMask_concat (id : RawNodeId) (ops : List AlarmOp) (op : AlarmOp) :
    latestMask id (ops ++ [op]) = match op with
      | .triggerDialog id' mask => if id.equal id' then some mask else latestMask id ops
      | _ => latestMask id ops := by
  rw [latestMask, List.foldl_append]
  rfl

variable {id : RawNodeId}

theorem latestMask_other {op : AlarmOp} (h : id.equal op.target = false) (ops : List AlarmOp) :
    latestMask id (ops ++ [op]) = latestMask id ops := by
  rw [latestMask_concat]
  cases op with
  | triggerDialog id' mask => exact if_neg (Bool.eq_false_iff.mp h)
  | _ => rfl

theorem latestMask_congr {id' : RawNodeId} (h : id.equal id' = true) (ops : List AlarmOp) :
    latestMask id ops = latestMask id' ops := by
  unfold latestMask
  simp only [RawNodeId.equal_congr h]

theorem respond_found {s : Alarms} {i : Fin s.conditions.length}
    (h : findCondition s.conditions id = some i) (args : List Scalar) :
    AlarmOp.run m (.respond id args) s =
      (((s.conditions.get i).respond m args).1,
        ⟨s.conditions.set i ((s.conditions.get i).respond m args).2.1,
          ((s.conditions.get i).respond m args).2.2 ++ s.shifts⟩) := by
  have hne : respondId ≠ acknowledgeId := by decide
  simp only [AlarmOp.run, alarmsConditionsMethodDispatch, h, if_neg hne]
  rfl

theorem Condition.mem_respond_shifts (args : List Scalar) (c : Condition) (r : Int) :
    r ∈ (c.respond m args).2.2 ↔ ∃ v, c.Asked args v ∧ r = v.toInt32.toInt := by
  obtain ⟨status, -, heq, hnot⟩ | ⟨v, hasked, heq⟩ := c.respond_cases m args
  · rw [heq]
    exact ⟨nofun, fun ⟨v, h, _⟩ => absurd h (hnot v)⟩
  · have hshifts : (c.respond m args).2.2 = [v.toInt32.toInt] := by
      rw [heq]
      split <;> rfl
    rw [hshifts, List.mem_singleton]
    refine ⟨fun h => ⟨v, hasked, h⟩, fun ⟨v', h', hr⟩ => ?_⟩
    obtain ⟨⟨⟨rest, rfl⟩, -⟩, ⟨rest', hargs⟩, -⟩ := And.intro hasked h'
    cases hargs
    exact hr

/-- Where the shifts come from. -/
theorem AlarmOp.run_shifts (op : AlarmOp) (s : Alarms) (r : Int) :
    r ∈ (op.run m s).2.shifts ↔ r ∈ s.shifts ∨
      ∃ id v rest, op = .respond id (.int32 v :: rest) ∧ DialogActive s id ∧ r = v.toInt32.toInt := by
  have hactive : ∀ (id : RawNodeId) (i : Fin s.conditions.length),
    findCondition s.conditions id = some i →
      (DialogActive s id ↔
        (s.conditions.get i).isDialog = true ∧ (s.conditions.get i).activeState = true) := by
    intro id i hi
    refine ⟨?_, fun h => ⟨i, hi, h⟩⟩
    rintro ⟨j, hj, h⟩
    rw [hi] at hj
    exact Option.some.inj hj ▸ h
  cases op with
  | setActive id active =>
    simp only [run, alarmsSetActive]
    split <;> simp
  | triggerDialog id mask =>
    simp only [run, alarmsTriggerDialog]
    split <;> simp
  | acknowledge id args =>
    cases hfind : findCondition s.conditions id <;> simp [run, alarmsConditionsMethodDispatch, hfind]
  | respond id args =>
    cases hfind : findCondition s.conditions id with
    | none =>
      have hne : respondId ≠ acknowledgeId := by decide
      have hnone : ¬ DialogActive s id := by
        rintro ⟨i, hi, -⟩
        cases hfind.symm.trans hi
      simp only [run, alarmsConditionsMethodDispatch, hfind, if_neg hne]
      refine ⟨.inl, fun h => h.elim (fun h => h) ?_⟩
      rintro ⟨id, v, rest, heq, hdialog, -⟩
      cases heq
      exact absurd hdialog hnone
    | some i =>
      rw [respond_found hfind, List.mem_append, Condition.mem_respond_shifts, or_comm]
      refine or_congr_right ⟨?_, ?_⟩
      · rintro ⟨v, ⟨⟨rest, rfl⟩, hdialog⟩, rfl⟩
        exact ⟨id, v, rest, rfl, (hactive id i hfind).mpr hdialog, rfl⟩
      · rintro ⟨id, v, rest, heq, h, rfl⟩
        cases heq
        exact ⟨v, ⟨⟨rest, rfl⟩, (hactive id i hfind).mp h⟩, rfl⟩

variable {ops : List AlarmOp}

theorem after_shifts_subset {pre : List AlarmOp} (h : pre <+: ops) :
    (m.after pre).shifts ⊆ (m.after ops).shifts := by
  obtain ⟨post, rfl⟩ := h
  induction post using List.reverseRecOn with
  | nil => simp
  | append_singleton post op ih =>
    rw [← List.append_assoc, after_concat]
    exact fun r hr => (op.run_shifts _ r).mpr (.inl (ih hr))

theorem exists_respond_of_shift {r : Int} (h : r ∈ (m.after ops).shifts) :
    ∃ pre id v rest, pre ++ [.respond id (.int32 v :: rest)] <+: ops ∧
      DialogActive (m.after pre) id ∧ r = v.toInt32.toInt := by
  induction ops using List.reverseRecOn with
  | nil => cases h
  | append_singleton ops op ih =>
    rw [after_concat] at h
    obtain hold | ⟨id, v, rest, rfl, hactive, hr⟩ := (op.run_shifts _ r).mp h
    · obtain ⟨pre, id, v, rest, hpre, hlater⟩ := ih hold
      exact ⟨pre, id, v, rest, hpre.trans (List.prefix_append _ _), hlater⟩
    · exact ⟨ops, id, v, rest, List.prefix_rfl, hactive, hr⟩

def DialogAnswered (ops : List AlarmOp) (c : Condition) : Prop :=
  c.isDialog = true → (c.id.equal c.id = true → latestMask c.id ops = some c.validResponsesMask) ∧
    (c.activeState = false →
      c.id.equal c.id = true ∧ ValidResponse c.validResponsesMask c.expectedResponse)

/-- Every response that reaches an active dialog is a shift C defines. -/
def ResponsesInRange (m : AlarmBuild) (ops : List AlarmOp) : Prop :=
  ∀ pre id v rest, pre ++ [.respond id (.int32 v :: rest)] <+: ops →
    DialogActive (m.after pre) id → 0 ≤ v.toInt32.toInt ∧ v.toInt32.toInt < 32

theorem answered_tracks (hops : ∀ op ∈ ops, op.IsDialog)
    (hrange : ResponsesInRange m ops) : AlarmTracks m ops DialogAnswered where
  other := by
    intro pre op c _ hid h hdialog
    obtain ⟨hmask, hclosed⟩ := h hdialog
    refine ⟨fun hself => ?_, hclosed⟩
    rw [latestMask_other hid]
    exact hmask hself
  act := by
    intro pre op i hpre hfind h
    have hid := findCondition_some hfind
    have hself := RawNodeId.equal_trans hid (RawNodeId.equal_symm hid)
    have hop := hops op (hpre.subset (List.mem_append_right _ (List.mem_singleton.mpr rfl)))
    cases op with
    | setActive id active => exact hop.elim
    | acknowledge id args => exact hop.elim
    | triggerDialog id mask =>
      refine fun _ => ⟨fun _ => ?_, nofun⟩
      rw [latestMask_concat]
      exact if_pos hid
    | respond id args =>
      simp only [DialogAnswered, latestMask_concat, AlarmOp.act]
      obtain ⟨status, -, heq, -⟩ | ⟨v, ⟨⟨rest, rfl⟩, hdialog, hactive⟩, heq⟩ :=
        Condition.respond_cases m args (m.after pre).conditions[i]
      · rw [heq]
        exact h
      · rw [heq]
        split
        · exact h
        rename_i hmask
        obtain ⟨h0, h32⟩ := hrange pre id v rest hpre ⟨i, hfind, hdialog, hactive⟩
        exact fun _ => ⟨(h hdialog).1, fun _ => ⟨hself, (validResponse_iff h0 h32).mp hmask⟩⟩
  new := by
    intro pre op hpre hop _
    cases op with
    | setActive id active =>
      exact (hops _ (hpre.subset (List.mem_append_right _ (List.mem_singleton.mpr rfl)))).elim
    | triggerDialog id mask =>
      refine fun _ => ⟨fun hself => ?_, nofun⟩
      rw [latestMask_concat]
      exact if_pos hself
    | acknowledge id args => exact hop.elim
    | respond id args => exact hop.elim

/-- Dialogs are answered as they should be in exactly the runs where no response outside 0..31 reaches
one. -/
theorem dialogs_sound_iff (m : AlarmBuild) (ops : List AlarmOp) (hops : ∀ op ∈ ops, op.IsDialog) :
    DialogsSound m ops ↔ ResponsesInRange m ops := by
  refine ⟨fun h pre id v rest hpre hactive => ?_, fun hrange => ?_⟩
  · apply h.shifts
    apply after_shifts_subset hpre
    rw [after_concat]
    exact (AlarmOp.run_shifts _ _ _).mpr (.inr ⟨id, v, rest, rfl, hactive, rfl⟩)
  · have htracks := answered_tracks hops hrange
    refine ⟨fun pre id v rest hpre hactive => ?_, fun r hr => ?_,
      fun pre hpre c hc hdialog hinactive => ?_⟩
    · obtain ⟨h0, h32⟩ := hrange pre id v rest hpre hactive
      obtain ⟨i, hfind, hdialog, hact⟩ := hactive
      have hid : ((m.after pre).conditions.get i).id.equal id = true := findCondition_some hfind
      have hself := RawNodeId.equal_trans hid (RawNodeId.equal_symm hid)
      have hanswered : DialogAnswered pre ((m.after pre).conditions.get i) :=
        htracks.holds ((List.prefix_append _ _).trans hpre) _ (List.getElem_mem i.isLt)
      have hlatest := (hanswered hdialog).1 hself
      rw [latestMask_congr hid] at hlatest
      rw [respond_found hfind, hlatest]
      simp only [Option.some.injEq, exists_eq_left']
      rw [← validResponse_iff (m := m) h0 h32]
      obtain ⟨-, -, -, hnot⟩ | ⟨v', ⟨⟨rest', hargs⟩, -⟩, heq⟩ :=
        Condition.respond_cases m (.int32 v :: rest) ((m.after pre).conditions.get i)
      · exact absurd ⟨⟨rest, rfl⟩, hdialog, hact⟩ (hnot v)
      · cases hargs
        rw [heq]
        split <;> simp_all
    · obtain ⟨pre, id, v, rest, hpre, hactive, rfl⟩ := exists_respond_of_shift hr
      exact hrange pre id v rest hpre hactive
    · obtain ⟨hmask, hclosed⟩ := htracks.holds hpre c hc hdialog
      obtain ⟨hself, hvalid⟩ := hclosed hinactive
      exact ⟨_, hmask hself, hvalid⟩

theorem dialogs_sound_iff_two_calls : DialogsSound modularBuild
        [.triggerDialog ⟨1, .numeric 1000⟩ 3, .respond ⟨1, .numeric 1000⟩ [.int32 1]] ↔
      ResponsesInRange modularBuild
        [.triggerDialog ⟨1, .numeric 1000⟩ 3, .respond ⟨1, .numeric 1000⟩ [.int32 1]] :=
  dialogs_sound_iff _ _ (by simp [AlarmOp.IsDialog])

/-- Response 33 answers a dialog whose mask allows 0 and 1. -/
theorem dialog_answered_out_of_range : ¬ DialogsSound modularBuild
      [.triggerDialog ⟨1, .numeric 1000⟩ 3, .respond ⟨1, .numeric 1000⟩ [.int32 33]] := by
  intro h
  have hshift : (33 : Int) ∈ (modularBuild.after
      [.triggerDialog ⟨1, .numeric 1000⟩ 3, .respond ⟨1, .numeric 1000⟩ [.int32 33]]).shifts := by
    decide
  exact absurd (h.shifts 33 hshift).2 (by decide)

end Dialogs

end MicroOpcua
