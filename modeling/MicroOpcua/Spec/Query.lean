import MicroOpcua.Services.Query
import MicroOpcua.Spec.NodeAccess

namespace MicroOpcua

variable {W : Type} {capacity : Nat} {sp : ServerSpaces W} {l : DynamicLimits}
    {server : QueryServer capacity}
  {filter : List ContentFilterElement} {maxReturn : UInt32}

section Scan

def pageSize (maxReturn : UInt32) (maxDataSets : Nat) : Nat :=
  if maxReturn > 0 then min maxDataSets maxReturn.toNat else maxDataSets

theorem evaluateContentFilter_eq (filter : List ContentFilterElement) :
    evaluateContentFilter filter = true := by
  cases filter with
  | nil => rfl
  | cons _ _ => rfl

theorem queryScan_eq (filter : List ContentFilterElement) (maxReturn : UInt32) (maxDataSets : Nat)
    (ids : List RawNodeId) (i : Nat) (returned : List RawNodeId)
    (h : returned.length ≤ pageSize maxReturn maxDataSets) :
    queryScan filter maxReturn maxDataSets ids i returned =
      (returned ++ ids.take (pageSize maxReturn maxDataSets - returned.length),
        if returned.length + ids.length ≤ pageSize maxReturn maxDataSets then 0
        else i + (pageSize maxReturn maxDataSets - returned.length)) := by
  induction ids generalizing i returned with
  | nil => simp [queryScan, h]
  | cons id ids ih =>
    have hroom :
      (returned.length < maxDataSets ∧ ¬ (maxReturn > 0 ∧ returned.length ≥ maxReturn.toNat)) ↔
        returned.length < pageSize maxReturn maxDataSets := by
      unfold pageSize
      split
      · rename_i hpos
        simp only [hpos, true_and]
        omega
      · rename_i hpos
        simp only [hpos, false_and, not_false_eq_true, and_true]
    rw [queryScan, if_pos (evaluateContentFilter_eq filter)]
    by_cases hlt : returned.length < pageSize maxReturn maxDataSets
    · obtain ⟨hmax, hreturn⟩ := hroom.mpr hlt
      obtain ⟨n, hn⟩ : ∃ n, pageSize maxReturn maxDataSets - returned.length = n + 1 :=
        ⟨pageSize maxReturn maxDataSets - returned.length - 1, by omega⟩
      have hlength : (returned ++ [id]).length = returned.length + 1 := by simp
      have hn' : pageSize maxReturn maxDataSets - (returned.length + 1) = n := by omega
      rw [if_pos hmax, if_neg hreturn, ih (i + 1) (returned ++ [id]) (by omega), hn, hlength, hn']
      refine Prod.ext (by simp) ?_
      rw [List.length_cons]
      dsimp only
      split
      · rw [if_pos (by omega)]
      · rw [if_neg (by omega)]
        omega
    · have hfull : pageSize maxReturn maxDataSets - returned.length = 0 := by omega
      have hover : ¬ returned.length + (id :: ids).length ≤ pageSize maxReturn maxDataSets := by
        rw [List.length_cons]
        omega
      rw [hfull, if_neg hover]
      split
      · rename_i hmax
        rw [if_pos (not_not.mp (fun hreturn => hlt (hroom.mp ⟨hmax, hreturn⟩)))]
        simp
      · simp

def QueryServer.scanned (sp : ServerSpaces W) (server : QueryServer capacity) : List RawNodeId :=
  sp.indexedIds server.index ++ server.dynamic.nodeIds

theorem queryScans_eq (hindexed : (sp.indexedIds server.index).length = server.index.count)
    (maxDataSets : Nat) (hpos : 0 < pageSize maxReturn maxDataSets) :
    queryScans sp filter maxReturn maxDataSets server =
      ((server.scanned sp).take (pageSize maxReturn maxDataSets),
        if (server.scanned sp).length ≤ pageSize maxReturn maxDataSets then
        0 else pageSize maxReturn maxDataSets) := by
  unfold queryScans QueryServer.scanned
  rw [queryScan_eq filter maxReturn maxDataSets _ 0 [] (Nat.zero_le _)]
  simp only [List.nil_append, List.length_nil, Nat.zero_add, Nat.sub_zero, List.length_append]
  by_cases hfits : (sp.indexedIds server.index).length ≤ pageSize maxReturn maxDataSets
  · rw [if_pos hfits, if_pos rfl, List.take_of_length_le hfits,
      queryScan_eq filter maxReturn maxDataSets _ _ _ hfits, List.take_append,
      List.take_of_length_le hfits]
    refine Prod.ext rfl ?_
    dsimp only
    split
    · rfl
    · omega
  · rw [if_neg hfits, if_neg (by omega), if_neg (by omega), List.take_append_of_le_length (by omega)]

end Scan

section Index

def ServerSpaces.userIds (sp : ServerSpaces W) : List RawNodeId :=
  match sp.user with
  | none => []
  | some a => (sp.spaces.get a).items.map SpaceNode.nodeId

/-- The index is as a new server has it or holds no node, or it holds the nodes of the user address
space. -/
def UserIndex (sp : ServerSpaces W) (index : SpaceIndex capacity) : Prop :=
  index.Sound sp.spaces ∧ (index.count = 0 ∨
    ∃ a, sp.user = some a ∧ (sp.spaces.get a).data ≠ none ∧ index.count = (sp.spaces.get a).count ∧
      index.count ≤ capacity ∧ (index.order.take index.count).Perm (List.range index.count))

theorem UserIndex.init : UserIndex sp (SpaceIndex.init : SpaceIndex capacity) :=
  ⟨SpaceIndex.init_sound, .inl rfl⟩

theorem rebuildIndex_count (m : Spaces W) (a : SpaceRef) (index : SpaceIndex capacity) :
    (rebuildIndex m a index).count = 0 ∨ (rebuildIndex m a index).indexed = true := by
  unfold rebuildIndex
  dsimp only
  split
  · exact .inl rfl
  · exact .inr rfl

section

variable {index : SpaceIndex capacity} (h : UserIndex sp index)

include h

theorem UserIndex.findNode {a : SpaceRef} (ha : sp.user = some a)
    (id : RawNodeId) : UserIndex sp (findNode sp.spaces a id index).2 := by
  by_cases hdata : (sp.spaces.get a).data = none
  · rw [MicroOpcua.findNode, if_pos hdata]
    exact h
  · obtain hsame | hcurrent := findNode_index sp.spaces a id index
    · rw [hsame]
      exact h
    · rw [hcurrent]
      refine ⟨h.1.current a, ?_⟩
      unfold currentIndex
      split
      · obtain hzero | hindexed := rebuildIndex_count sp.spaces a index
        · exact .inl hzero
        · have hbuilt : (rebuildIndex sp.spaces a index).builtFor = some a ∧
              (rebuildIndex sp.spaces a index).builtCount = (sp.spaces.get a).count := by
            unfold rebuildIndex
            dsimp only
            split
            · exact ⟨rfl, rfl⟩
            · exact ⟨rfl, rfl⟩
          obtain ⟨hcount, hcapacity, hperm, -⟩ :=
            (rebuildIndex_sound sp.spaces a index).order a hbuilt.1 hbuilt.2 hindexed
          exact .inr ⟨a, ha, hdata, hcount, hcapacity, hperm⟩
      · exact h.2

theorem UserIndex.resolveNode (extra : Option SpaceRef)
    (id : RawNodeId) : UserIndex sp (resolveNode sp.spaces sp.user extra id index).2 := by
  have hindex : (MicroOpcua.resolveNode sp.spaces sp.user extra id index).2 =
      (findUserNode sp.spaces sp.user id index).2 := by
    unfold MicroOpcua.resolveNode
    split
    · rename_i heq
      rw [heq]
    · rename_i heq
      rw [heq]
      split
      · rfl
      · rfl
  rw [hindex]
  cases huser : sp.user with
  | none => exact h
  | some a => exact h.findNode huser id

theorem UserIndex.length : (sp.indexedIds index).length = index.count := by
  unfold ServerSpaces.indexedIds
  obtain hzero | ⟨a, ha, -, -, hcapacity, -⟩ := h.2
  · rw [hzero]
    split
    · rfl
    · simp
  · rw [ha, List.length_map, List.length_take, index.sized]
    exact Nat.min_eq_left hcapacity

theorem UserIndex.ids : sp.indexedIds index = [] ∨ (sp.indexedIds index).Perm sp.userIds := by
  obtain hzero | ⟨a, ha, hdata, hcount, -, hperm⟩ := h.2
  · left
    rw [← List.length_eq_zero_iff, h.length, hzero]
  · right
    have hrange : sp.userIds = (List.range index.count).map (sp.spaces.get a).idAt := by
      have hlength := CArray.items_length hdata
      simp only [ServerSpaces.userIds, ha]
      apply List.ext_getElem
      · simp [hlength, hcount]
      · intro k hk hk'
        rw [List.getElem_map, List.getElem_map, List.getElem_range, CArray.idAt_eq (by simpa using hk)]
    rw [hrange, ServerSpaces.indexedIds, ha]
    exact hperm.map _

end

def QueryServer.nodes (sp : ServerSpaces W) (server : QueryServer capacity) : List RawNodeId :=
  sp.userIds ++ server.dynamic.nodeIds

theorem UserIndex.scanned_length_le (h : UserIndex sp server.index) :
    (server.scanned sp).length ≤ (server.nodes sp).length := by
  unfold QueryServer.scanned QueryServer.nodes
  rw [List.length_append, List.length_append]
  obtain hnone | hperm := h.ids
  · rw [hnone]
    simp
  · rw [hperm.length_eq]

/-- The scans go through all nodes exactly when the index holds as many as the user address space. -/
theorem UserIndex.scanned_perm_iff (h : UserIndex sp server.index) :
    (server.scanned sp).Perm (server.nodes sp) ↔ server.index.count = sp.userIds.length := by
  unfold QueryServer.scanned QueryServer.nodes
  rw [List.perm_append_right_iff, ← h.length]
  constructor
  · exact List.Perm.length_eq
  · intro hlength
    obtain hnone | hperm := h.ids
    · rw [hnone] at hlength ⊢
      rw [List.eq_nil_of_length_eq_zero hlength.symm]
    · exact hperm

theorem queryRun_userIndex (sp : ServerSpaces W) (l : DynamicLimits) (maxPoints : Nat)
    (ops : List QueryOp) : UserIndex sp (queryRun sp l maxPoints ops : QueryServer capacity).index := by
  induction ops using List.reverseRecOn with
  | nil => exact UserIndex.init
  | append_singleton ops op ih =>
    rw [queryRun, List.foldl_append]
    cases op with
    | lookup id => exact ih.resolveNode _ id
    | manage op => exact ih
    | first session filter maxReturn =>
      have hindex :
        ((queryFirstProcess sp filter maxReturn maxQueryDataSets (queryRun sp l maxPoints ops)).2 :
          QueryServer capacity).index = (queryRun sp l maxPoints ops : QueryServer capacity).index := by
        unfold queryFirstProcess
        dsimp only
        split
        · rfl
        · rfl
      rw [← hindex] at ih
      exact ih
    | next session point release =>
      have hindex : ((queryNextProcess point release (queryRun sp l maxPoints ops)).2 :
          QueryServer capacity).index = (queryRun sp l maxPoints ops : QueryServer capacity).index := by
        unfold queryNextProcess
        split
        · rfl
        · split
          · rfl
          · cases release with
            | false => rfl
            | true => rfl
      rw [← hindex] at ih
      exact ih

end Index

section Pages

theorem pageSize_pos (maxReturn : UInt32) : 0 < pageSize maxReturn maxQueryDataSets := by
  unfold pageSize maxQueryDataSets
  split
  · rename_i hpos
    have hnat : 0 < maxReturn.toNat := hpos
    omega
  · decide

/-- The response of QueryFirst: the first page, with a continuation point unless that is all. -/
theorem queryFirstProcess_eq (h : UserIndex sp server.index) (filter : List ContentFilterElement)
    (maxReturn : UInt32) : queryFirstProcess sp filter maxReturn maxQueryDataSets server =
      if (server.scanned sp).length ≤ pageSize maxReturn maxQueryDataSets
      then (⟨server.scanned sp, some none⟩, server)
      else (⟨(server.scanned sp).take (pageSize maxReturn maxQueryDataSets),
          (continuationPointAlloc (pageSize maxReturn maxQueryDataSets) server.slots).1⟩,
        { server with
          slots := (continuationPointAlloc (pageSize maxReturn maxQueryDataSets) server.slots).2 }) := by
  have hpos := pageSize_pos maxReturn
  unfold queryFirstProcess
  rw [queryScans_eq h.length maxQueryDataSets hpos]
  by_cases hfits : (server.scanned sp).length ≤ pageSize maxReturn maxQueryDataSets
  · simp only [if_pos hfits, List.take_of_length_le hfits]
    rfl
  · simp only [if_neg hfits, gt_iff_lt, if_pos hpos]

/-- QueryNext, called again with what it returns until a null continuation point comes back. -/
inductive Pages : QueryServer capacity → MuString → List RawNodeId → Prop
  | done {server : QueryServer capacity} {point : MuString}
  (h : continuationPointSupplied point = false) :
    Pages server point []
  | next {server server' : QueryServer capacity} {point point' : MuString} {r : QueryResponse}
    {ids : List RawNodeId} (h : continuationPointSupplied point = true)
      (hnext : queryNextProcess point false server = (.ok r, server'))
    (hpoint : r.continuationPoint = some point') (hrest : Pages server' point' ids) :
    Pages server point (r.dataSets ++ ids)

def Enumerated (sp : ServerSpaces W) (server : QueryServer capacity) (maxReturn : UInt32)
    (ids : List RawNodeId) : Prop :=
  ∃ r server' point rest, queryFirstProcess sp [] maxReturn maxQueryDataSets server = (r, server') ∧
    r.continuationPoint = some point ∧ Pages server' point rest ∧ ids = r.dataSets ++ rest

variable {point : MuString}

theorem queryNextProcess_ok {release : Bool} {r : QueryResponse} {server' : QueryServer capacity}
    (h : queryNextProcess point release server = (.ok r, server')) : r = ⟨[], some none⟩ := by
  unfold queryNextProcess at h
  split at h
  · exact (Except.ok.inj (Prod.mk.inj h).1).symm
  · split at h
    · cases h
    · exact (Except.ok.inj (Prod.mk.inj h).1).symm

theorem queryNextProcess_found {i : Nat} (release : Bool)
    (hpoint : continuationPointSupplied point = true)
    (hfind : findContinuationPoint point server.slots = some i) :
    queryNextProcess point release server =
      (.ok ⟨[], some none⟩, if release then
        { server with slots := server.slots.set i .released } else server) := by
  simp [queryNextProcess, hpoint, hfind]

theorem Pages.eq_nil {ids : List RawNodeId} (h : Pages server point ids) : ids = [] := by
  induction h with
  | done _ => rfl
  | next h hnext hpoint hrest ih =>
    rw [ih, queryNextProcess_ok hnext]
    rfl

/-- After any run and for any limit, QueryFirst and QueryNext return every node of the user and the
dynamic address space exactly once if and only if a look-up has filled the index and all nodes fit in the
first page. -/
theorem query_enumerates_iff (sp : ServerSpaces W) (l : DynamicLimits) (maxPoints : Nat)
    (ops : List QueryOp) (maxReturn : UInt32) (h : 1 ≤ maxReturn) :
    let server : QueryServer capacity := queryRun sp l maxPoints ops
    (∃ ids, Enumerated sp server maxReturn ids ∧ ids.Perm (server.nodes sp)) ↔
      server.index.count = sp.userIds.length ∧ (server.nodes sp).length ≤ min 16 maxReturn.toNat := by
  intro server
  have hindex : UserIndex sp server.index := queryRun_userIndex sp l maxPoints ops
  have hsize : pageSize maxReturn maxQueryDataSets = min 16 maxReturn.toNat := if_pos h
  have hfirst := queryFirstProcess_eq hindex [] maxReturn
  rw [hsize] at hfirst
  constructor
  · rintro ⟨_, ⟨r, server', point, rest, hr, -, hrest, rfl⟩, hperm⟩
    have hle := hindex.scanned_length_le
    have hsets : r.dataSets = (server.scanned sp).take (min 16 maxReturn.toNat) := by
      rw [hfirst] at hr
      split at hr
      · rename_i hfits
        rw [← (Prod.mk.inj hr).1, List.take_of_length_le hfits]
      · rw [← (Prod.mk.inj hr).1]
    rw [hrest.eq_nil, List.append_nil, hsets] at hperm
    have hlength := hperm.length_eq
    rw [List.length_take] at hlength
    rw [List.take_of_length_le (by omega)] at hperm
    exact ⟨hindex.scanned_perm_iff.mp hperm, by omega⟩
  · rintro ⟨hcount, hfits⟩
    have hperm := hindex.scanned_perm_iff.mpr hcount
    rw [if_pos (hperm.length_eq.trans_le hfits)] at hfirst
    exact ⟨_, ⟨_, _, none, [], hfirst, rfl, .done rfl, rfl⟩, by simpa using hperm⟩

def oneNodeSpaces : ServerSpaces Unit := userSpaces ⟨⟨none⟩, .ns0 5000, 1, none, none, .null⟩

/-- One node of the user address space, which was looked up, and two that were added. -/
theorem query_enumerates_iff_three_nodes :
    let ops : List QueryOp :=
      [.lookup (.ns0 5000), .manage (.addNode (plainItem 0)), .manage (.addNode (plainItem 0))]
    let server : QueryServer 4 := queryRun oneNodeSpaces .default 2 ops
    (server.nodes oneNodeSpaces).length = 3 ∧
      ∃ ids, Enumerated oneNodeSpaces server 5 ids ∧ ids.Perm (server.nodes oneNodeSpaces) :=
  ⟨by decide,
    (query_enumerates_iff oneNodeSpaces .default 2 _ 5 (by decide)).mpr ⟨by decide +kernel, by decide⟩⟩

/-- Two nodes are there, the limit is one, and what comes back is one of them. -/
theorem query_loses_second_page :
    let ops : List QueryOp := [.manage (.addNode (plainItem 0)), .manage (.addNode (plainItem 0))]
    let server : QueryServer 4 := queryRun bareSpaces .default 2 ops
    (server.nodes bareSpaces).length = 2 ∧ (∃ ids, Enumerated bareSpaces server 1 ids) ∧
      ∀ ids, Enumerated bareSpaces server 1 ids → ids.length = 1 := by
  intro ops server
  have hindex : UserIndex bareSpaces server.index := queryRun_userIndex bareSpaces .default 2 ops
  have hnodes : (server.scanned bareSpaces).length = 2 := by decide
  have hsize : pageSize 1 maxQueryDataSets = 1 := by decide
  have hfirst := queryFirstProcess_eq hindex [] 1
  rw [hsize, hnodes, if_neg (by decide)] at hfirst
  have halloc : (continuationPointAlloc 1 server.slots).1 = some (some (continuationId 1)) := by decide
  have hfind :
      findContinuationPoint (some (continuationId 1)) (continuationPointAlloc 1 server.slots).2 =
        some 0 := by
    decide
  obtain ⟨server', hserver⟩ : ∃ server' : QueryServer 4,
      { server with slots := (continuationPointAlloc 1 server.slots).2 } = server' := ⟨_, rfl⟩
  have hslots : server'.slots = (continuationPointAlloc 1 server.slots).2 := hserver ▸ rfl
  rw [hserver] at hfirst
  have hnext := queryNextProcess_found false (by decide) (hslots ▸ hfind)
  have hdone : Pages server' none [] := .done rfl
  refine ⟨by decide, ⟨_, _, _, _, _, hfirst, halloc, .next (by decide) hnext rfl hdone, rfl⟩, ?_⟩
  · rintro _ ⟨r, server', point, rest, hr, -, hrest, rfl⟩
    rw [hfirst] at hr
    rw [hrest.eq_nil, ← (Prod.mk.inj hr).1, List.append_nil, List.length_take, hnodes]
    rfl

end Pages

section Slots

variable {slots : List QuerySlot}

theorem continuationPointAlloc_some (nextIndex : Nat) {i : Nat} (h : freeSlot slots = some i) :
    ∃ slot slot', slots[i]? = some slot ∧ slot.id = none ∧
      continuationPointAlloc nextIndex slots =
        (some (some (continuationId nextIndex)), slots.set i slot') ∧
      slot'.id = some (continuationId nextIndex) ∧ slot'.nextIndex = nextIndex := by
  obtain ⟨hi, hfree, -⟩ := List.findIdx?_eq_some_iff_getElem.mp h
  refine ⟨slots[i], { slots[i] with id := some (continuationId nextIndex), nextIndex := nextIndex },
    List.getElem?_eq_getElem hi, Option.isNone_iff_eq_none.mp hfree, ?_, rfl, rfl⟩
  simp only [continuationPointAlloc, h]
  rw [List.modify_eq_set_getElem?, List.getElem?_eq_getElem hi]
  rfl

theorem continuationPointAlloc_none {nextIndex : Nat} (h : freeSlot slots = none) :
    continuationPointAlloc nextIndex slots = (none, slots) := by
  simp only [continuationPointAlloc, h]

def takenSlot (sp : ServerSpaces W) (filter : List ContentFilterElement) (maxReturn : UInt32)
    (server : QueryServer capacity) : Option Nat :=
  if (queryScans sp filter maxReturn maxQueryDataSets server).2 > 0 then freeSlot server.slots else none

def CoherentSlots (slots : List QuerySlot) : Prop :=
  ∀ slot ∈ slots, slot.id ≠ none → slot.id = some (continuationId slot.nextIndex) ∧
    slot.nextIndex ≤ maxQueryDataSets

theorem pageSize_le (maxReturn : UInt32) : pageSize maxReturn maxQueryDataSets ≤ maxQueryDataSets := by
  unfold pageSize
  split
  · exact Nat.min_le_left _ _
  · exact Nat.le_refl _

theorem continuationId_inj {m n : Nat} (hm : m ≤ maxQueryDataSets) (hn : n ≤ maxQueryDataSets)
    (h : continuationId m = continuationId n) : m = n := by
  have hall : ∀ m ≤ 16, ∀ n ≤ 16, continuationId m = continuationId n → m = n := by decide
  exact hall m hm n hn h

theorem queryFirstProcess_slots (h : UserIndex sp server.index) (filter : List ContentFilterElement)
    (maxReturn : UInt32) : (takenSlot sp filter maxReturn server = none ∧
        (queryFirstProcess sp filter maxReturn maxQueryDataSets server).2.slots = server.slots) ∨
      ∃ i slot slot', takenSlot sp filter maxReturn server = some i ∧ server.slots[i]? = some slot ∧
        slot.id = none ∧ slot'.id = some (continuationId (pageSize maxReturn maxQueryDataSets)) ∧
        slot'.nextIndex = pageSize maxReturn maxQueryDataSets ∧
        (queryFirstProcess sp filter maxReturn maxQueryDataSets server).1.continuationPoint =
          some slot'.id ∧
        (queryFirstProcess sp filter maxReturn maxQueryDataSets server).2.slots =
            server.slots.set i slot' := by
  have hpos := pageSize_pos maxReturn
  rw [queryFirstProcess_eq h, takenSlot, queryScans_eq h.length maxQueryDataSets hpos]
  by_cases hfits : (server.scanned sp).length ≤ pageSize maxReturn maxQueryDataSets
  · left
    rw [if_pos hfits, if_pos hfits]
    exact ⟨rfl, rfl⟩
  · rw [if_neg hfits, if_neg hfits, if_pos hpos]
    cases hfree : freeSlot server.slots with
    | none =>
      left
      rw [continuationPointAlloc_none hfree]
      exact ⟨rfl, rfl⟩
    | some i =>
      right
      obtain ⟨slot, slot', hslot, hnone, halloc, hid, hnext⟩ :=
        continuationPointAlloc_some (pageSize maxReturn maxQueryDataSets) hfree
      rw [halloc]
      exact ⟨i, slot, slot', rfl, hslot, hnone, hid, hnext, congrArg some hid.symm, rfl⟩

theorem findContinuationPoint_id {point : MuString} {i : Nat}
    (h : findContinuationPoint point slots = some i) :
    ∃ slot, slots[i]? = some slot ∧ slot.id = point ∧ continuationPointSupplied point = true := by
  obtain ⟨hi, hmatch, -⟩ := List.findIdx?_eq_some_iff_getElem.mp h
  simp only [continuationPointMatches, Bool.and_eq_true, decide_eq_true_eq] at hmatch
  exact ⟨slots[i], List.getElem?_eq_getElem hi, hmatch.2, hmatch.1.2⟩

/-- What the requests and their responses say: which QueryFirst has created a slot, by its session and
the id it returned, and which continuation points a session was given and has not released. The server
keeps no note of it. -/
structure QueryHistory where
  created : Nat → Option (UInt32 × Bytes)
  given : UInt32 → List Bytes

def QueryHistory.empty : QueryHistory := ⟨fun _ => none, fun _ => []⟩

def QueryHistory.give (h : QueryHistory) (i : Nat) (session : UInt32) (id : Bytes) : QueryHistory where
  created := Function.update h.created i (some (session, id))
  given := Function.update h.given session (id :: h.given session)

def QueryHistory.takeBack (h : QueryHistory) (i : Nat) (session : UInt32) (id : Bytes) :
    QueryHistory where
  created := Function.update h.created i none
  given := Function.update h.given session ((h.given session).filter (· ≠ id))

def QueryOp.record (sp : ServerSpaces W) (server : QueryServer capacity) (h : QueryHistory) :
    QueryOp → QueryHistory
  | .first session filter maxReturn =>
    match takenSlot sp filter maxReturn server,
      (queryFirstProcess sp filter maxReturn maxQueryDataSets server).1.continuationPoint with
    | some i, some (some id) => h.give i session id
    | _, _ => h
  | .next session (some id) true =>
    match findContinuationPoint (some id) server.slots with
    | some i => h.takeBack i session id
    | none => h
  | _ => h

def QueryOp.step (sp : ServerSpaces W) (l : DynamicLimits) (st : QueryServer capacity × QueryHistory)
    (op : QueryOp) : QueryServer capacity × QueryHistory :=
  (op.apply sp l st.1, op.record sp st.1 st.2)

inductive SlotStep (sp : ServerSpaces W) (st st' : QueryServer capacity × QueryHistory) : QueryOp → Prop
  | keep {op : QueryOp} (hslots : st'.1.slots = st.1.slots) (hhistory : st'.2 = st.2) :
  SlotStep sp st st' op
  | take {session : UInt32} {filter : List ContentFilterElement} {maxReturn : UInt32} {i : Nat}
    {slot slot' : QuerySlot} (hslot : st.1.slots[i]? = some slot) (hfree : slot.id = none)
    (hid : slot'.id = some (continuationId (pageSize maxReturn maxQueryDataSets)))
    (hnext : slot'.nextIndex = pageSize maxReturn maxQueryDataSets)
      (hslots : st'.1.slots = st.1.slots.set i slot')
    (hhistory : st'.2 = st.2.give i session (continuationId (pageSize maxReturn maxQueryDataSets))) :
    SlotStep sp st st' (.first session filter maxReturn)
  | release {session : UInt32} {id : Bytes} {i : Nat}
    (hfind : findContinuationPoint (some id) st.1.slots = some i)
      (hslots : st'.1.slots = st.1.slots.set i .released)
    (hhistory : st'.2 = st.2.takeBack i session id) :
    SlotStep sp st st' (.next session (some id) true)

variable {st : QueryServer capacity × QueryHistory}

theorem QueryOp.slotStep (hindex : UserIndex sp st.1.index) (op : QueryOp) :
    SlotStep sp st (op.step sp l st) op := by
  cases op with
  | lookup id => exact .keep rfl rfl
  | manage op => exact .keep rfl rfl
  | first session filter maxReturn =>
    obtain ⟨hnone, hslots⟩ | ⟨i, slot, slot', htaken, hslot, hfree, hid, hnext, hpoint, hslots⟩ :=
      queryFirstProcess_slots hindex filter maxReturn
    · refine .keep hslots ?_
      simp only [QueryOp.step, QueryOp.record, hnone]
    · refine .take hslot hfree hid hnext hslots ?_
      rw [hid] at hpoint
      simp only [QueryOp.step, QueryOp.record, htaken, hpoint]
  | next session point release =>
    cases release with
    | false =>
      have hsame : (queryNextProcess point false st.1).2 = st.1 := by
        unfold queryNextProcess
        split
        · rfl
        · split
          · rfl
          · rfl
      refine .keep (congrArg QueryServer.slots hsame) ?_
      cases point with
      | none => rfl
      | some id => rfl
    | true =>
      cases point with
      | none => exact .keep rfl rfl
      | some id =>
        cases hfind : findContinuationPoint (some id) st.1.slots with
        | none =>
          refine .keep ?_ ?_
          · simp only [QueryOp.step, QueryOp.apply, queryNextProcess, hfind]
            split
            · rfl
            · rfl
          · simp only [QueryOp.step, QueryOp.record, hfind]
        | some i =>
          obtain ⟨-, -, -, hsupplied⟩ := findContinuationPoint_id hfind
          refine .release hfind ?_ ?_
          · simp only [QueryOp.step, QueryOp.apply, queryNextProcess_found true hsupplied hfind, if_true]
          · simp only [QueryOp.step, QueryOp.record, hfind]

theorem queryRun_coherent (sp : ServerSpaces W) (l : DynamicLimits) (maxPoints : Nat)
    (ops : List QueryOp) : CoherentSlots (queryRun sp l maxPoints ops : QueryServer capacity).slots := by
  induction ops using List.reverseRecOn with
  | nil =>
    intro slot hslot hne
    obtain rfl := (List.mem_replicate.mp hslot).2
    exact absurd rfl hne
  | append_singleton ops op ih =>
    rw [queryRun, List.foldl_append]
    have hstep : SlotStep sp (queryRun sp l maxPoints ops, .empty)
        (op.step sp l ((queryRun sp l maxPoints ops : QueryServer capacity), .empty)) op :=
      op.slotStep (queryRun_userIndex sp l maxPoints ops)
    cases hstep with
    | keep hslots _ => exact hslots ▸ ih
    | take _ _ hid hnext hslots _ =>
      intro x hx hne
      obtain hx | rfl := List.mem_or_eq_of_mem_set (hslots ▸ hx)
      · exact ih x hx hne
      · exact ⟨by rw [hid, hnext], hnext ▸ pageSize_le _⟩
    | release _ hslots _ =>
      intro x hx hne
      obtain hx | rfl := List.mem_or_eq_of_mem_set (hslots ▸ hx)
      · exact ih x hx hne
      · exact absurd rfl hne

end Slots

section Complete

/-- What a response of QueryFirst should be: with a null continuation point it has all nodes, and where
nodes are left out its continuation point names a slot from whose position on the scans find the rest. -/
def FirstComplete (sp : ServerSpaces W) (server : QueryServer capacity)
    (result : QueryResponse × QueryServer capacity) : Prop :=
  (result.1.continuationPoint = some none → result.1.dataSets.Perm (server.nodes sp)) ∧
    (¬ result.1.dataSets.Perm (server.nodes sp) → ∃ (id : Bytes) (i : Nat) (slot : QuerySlot),
      result.1.continuationPoint = some (some id) ∧ result.2.slots[i]? = some slot ∧ slot.id = some id ∧
        (result.1.dataSets ++ (result.2.scanned sp).drop slot.nextIndex).Perm (server.nodes sp))

/-- After any run, a QueryFirst is complete in this sense if and only if the index is filled, and the
nodes fit in the page or a slot is free. -/
theorem query_first_complete_iff (sp : ServerSpaces W) (l : DynamicLimits) (maxPoints : Nat)
    (ops : List QueryOp) (filter : List ContentFilterElement) (maxReturn : UInt32) :
    let server : QueryServer capacity := queryRun sp l maxPoints ops
    FirstComplete sp server (queryFirstProcess sp filter maxReturn maxQueryDataSets server) ↔
      server.index.count = sp.userIds.length ∧
        ((server.nodes sp).length ≤ pageSize maxReturn maxQueryDataSets ∨
          ∃ i, freeSlot server.slots = some i) := by
  intro server
  have hindex : UserIndex sp server.index := queryRun_userIndex sp l maxPoints ops
  have hle := hindex.scanned_length_le
  rw [queryFirstProcess_eq hindex, ← hindex.scanned_perm_iff]
  by_cases hfits : (server.scanned sp).length ≤ pageSize maxReturn maxQueryDataSets
  · rw [if_pos hfits]
    constructor
    · intro h
      have hperm : (server.scanned sp).Perm (server.nodes sp) := h.1 rfl
      exact ⟨hperm, .inl (hperm.length_eq ▸ hfits)⟩
    · rintro ⟨hperm, -⟩
      exact ⟨fun _ => hperm, fun h => absurd hperm h⟩
  · rw [if_neg hfits]
    have hshort :
        ¬ ((server.scanned sp).take (pageSize maxReturn maxQueryDataSets)).Perm (server.nodes sp) := by
      intro hperm
      have hlength := hperm.length_eq
      rw [List.length_take] at hlength
      exact hfits (by omega)
    cases hfree : freeSlot server.slots with
    | none =>
      rw [continuationPointAlloc_none hfree]
      constructor
      · intro h
        obtain ⟨id, i, slot, hpoint, -⟩ := h.2 hshort
        cases hpoint
      · rintro ⟨-, hnodes | ⟨i, hi⟩⟩
        · exact absurd (hle.trans hnodes) hfits
        · cases hi
    | some i =>
      obtain ⟨slot, slot', hslot, -, halloc, hid, hnext⟩ :=
        continuationPointAlloc_some (pageSize maxReturn maxQueryDataSets) hfree
      rw [halloc]
      have hnamed : (server.slots.set i slot')[i]? = some slot' :=
        List.getElem?_set_self (List.getElem?_eq_some_iff.mp hslot).1
      have hpage {n : Nat} (hn : n = pageSize maxReturn maxQueryDataSets) :
          ((server.scanned sp).take (pageSize maxReturn maxQueryDataSets) ++
            (server.scanned sp).drop n).Perm (server.nodes sp) ↔
              (server.scanned sp).Perm (server.nodes sp) := by
        rw [hn, List.take_append_drop]
      constructor
      · intro h
        obtain ⟨id, j, other, hpoint, hother, hid', hperm⟩ := h.2 hshort
        obtain rfl : continuationId _ = id := Option.some.inj (Option.some.inj hpoint)
        have hposition : other.nextIndex = pageSize maxReturn maxQueryDataSets := by
          obtain hmem | rfl := List.mem_or_eq_of_mem_set (List.mem_of_getElem? hother)
          · obtain ⟨hcoherent, hbound⟩ :=
              queryRun_coherent sp l maxPoints ops other hmem (by rw [hid']; exact nofun)
            rw [hid'] at hcoherent
            exact (continuationId_inj (pageSize_le maxReturn) hbound (Option.some.inj hcoherent)).symm
          · exact hnext
        exact ⟨(hpage hposition).mp hperm, .inr ⟨i, rfl⟩⟩
      · rintro ⟨hperm, -⟩
        exact ⟨nofun, fun _ => ⟨_, i, slot', rfl, hnamed, hid, (hpage hnext).mpr hperm⟩⟩

/-- Before the first look-up QueryFirst returns no node of the user address space, and says that this is
all. -/
theorem query_first_misses_nodes :
    let server : QueryServer 4 := queryRun oneNodeSpaces .default 2 []
    validate oneNodeSpaces.spaces (.other 1) = .ok () ∧
      ¬ FirstComplete oneNodeSpaces server
      (queryFirstProcess oneNodeSpaces [] 0 maxQueryDataSets server) := by
  intro server
  refine ⟨rfl, fun h => ?_⟩
  have hlength := (h.1 rfl).length_eq
  revert hlength
  decide

end Complete

section Owners

def recordedRun (capacity : Nat) (sp : ServerSpaces W) (l : DynamicLimits) (maxPoints : Nat)
    (ops : List QueryOp) : QueryServer capacity × QueryHistory :=
  ops.foldl (QueryOp.step sp l) (.init l maxPoints, .empty)

def DistinctPoints (slots : List QuerySlot) : Prop :=
  ∀ (i j : Nat) (slot slot' : QuerySlot), slots[i]? = some slot → slots[j]? = some slot' →
    slot.id ≠ none → slot.id = slot'.id → i = j

/-- A QueryNext that is answered with GOOD acts on the slot that a QueryFirst of its session has created,
the one that returned the id, and on no other. -/
def OwnSlot (st : QueryServer capacity × QueryHistory) : QueryOp → Prop
  | .next session point release => ∀ r server', continuationPointSupplied point = true →
      queryNextProcess point release st.1 = (.ok r, server') →
        ∃ i id, point = some id ∧ st.2.created i = some (session, id) ∧
          server'.slots = if release then st.1.slots.set i .released else st.1.slots
  | _ => True

def Isolated (sp : ServerSpaces W) (l : DynamicLimits) (maxPoints capacity : Nat)
    (ops : List QueryOp) : Prop :=
  ∀ before op after, ops = before ++ op :: after →
    DistinctPoints (op.step sp l (recordedRun capacity sp l maxPoints before)).1.slots ∧
      OwnSlot (recordedRun capacity sp l maxPoints before) op

/-- The step is no QueryFirst that takes a slot while a live one resumes at the same index, and no
QueryNext with a continuation point that another session was given and has not released. -/
def Polite (sp : ServerSpaces W) (st : QueryServer capacity × QueryHistory) : QueryOp → Prop
  | .first _ filter maxReturn => takenSlot sp filter maxReturn st.1 ≠ none →
      ∀ slot ∈ st.1.slots, slot.id ≠ none → slot.nextIndex ≠ pageSize maxReturn maxQueryDataSets
  | .next session point _ => ∀ other id, point = some id → id ∈ st.2.given other → other = session
  | _ => True

theorem DistinctPoints.set {slots : List QuerySlot} (h : DistinctPoints slots) (i : Nat)
    {slot : QuerySlot} (hfresh : slot.id ≠ none → ∀ other ∈ slots, other.id ≠ slot.id) :
    DistinctPoints (slots.set i slot) := by
  intro a b x y hx hy hne heq
  rw [List.getElem?_set] at hx hy
  split at hx
  · rename_i hia
    split at hy
    · rename_i hib
      omega
    · split at hx
      · obtain rfl := Option.some.inj hx
        exact absurd heq.symm (hfresh hne y (List.mem_of_getElem? hy))
      · cases hx
  · split at hy
    · split at hy
      · obtain rfl := Option.some.inj hy
        exact absurd heq (hfresh (heq ▸ hne) x (List.mem_of_getElem? hx))
      · cases hy
    · exact h a b x y hx hy hne heq

def PointRecorded (st : QueryServer capacity × QueryHistory) : Prop :=
  ∀ i, (st.2.created i).map Prod.snd = (st.1.slots[i]?).bind QuerySlot.id

def GivenOwn (h : QueryHistory) : Prop := ∀ session id, id ∈ h.given session ↔
    ∃ i, h.created i = some (session, id)

variable {st st' : QueryServer capacity × QueryHistory} {op : QueryOp}

theorem PointRecorded.slot (h : PointRecorded st) {i : Nat} {session : UInt32} {id : Bytes}
    (hcreated : st.2.created i = some (session, id)) :
    ∃ slot, st.1.slots[i]? = some slot ∧ slot.id = some id := by
  have hi := h i
  rw [hcreated] at hi
  exact Option.bind_eq_some_iff.mp hi.symm

theorem PointRecorded.created (h : PointRecorded st) {i : Nat} {slot : QuerySlot} {id : Bytes}
    (hslot : st.1.slots[i]? = some slot) (hid : slot.id = some id) :
    ∃ session, st.2.created i = some (session, id) := by
  have hi := h i
  rw [hslot, Option.bind_some, hid] at hi
  obtain ⟨⟨session, id'⟩, hcreated, rfl⟩ := Option.map_eq_some_iff.mp hi
  exact ⟨session, hcreated⟩

/-- A slot that is live under an id is the one that is found for it. -/
theorem findContinuationPoint_live {slots : List QuerySlot} (hdistinct : DistinctPoints slots)
    (hcoherent : CoherentSlots slots) {i : Nat} {slot : QuerySlot} {id : Bytes}
    (hslot : slots[i]? = some slot)
    (hid : slot.id = some id) :
    continuationPointSupplied (some id) = true ∧ findContinuationPoint (some id) slots = some i := by
  have hmem := List.mem_of_getElem? hslot
  have hne : slot.id ≠ none := by rw [hid]; exact nofun
  obtain ⟨hpoint, -⟩ := hcoherent slot hmem hne
  obtain rfl : id = continuationId slot.nextIndex := Option.some.inj (hid.symm.trans hpoint)
  refine ⟨rfl, ?_⟩
  cases hfind : findContinuationPoint (some (continuationId slot.nextIndex)) slots with
  | none =>
    have hmiss := List.findIdx?_eq_none_iff.mp hfind slot hmem
    rw [hid] at hmiss
    simp [continuationPointMatches, continuationPointSupplied, continuationId, MuString.size] at hmiss
  | some j =>
    obtain ⟨other, hother, hid', -⟩ := findContinuationPoint_id hfind
    rw [hdistinct i j slot other hslot hother hne (hid.trans hid'.symm)]

theorem queryNextProcess_find {point : MuString} {release : Bool} {r : QueryResponse}
    {server' : QueryServer capacity} (hsupplied : continuationPointSupplied point = true)
    (h : queryNextProcess point release server = (.ok r, server')) :
    ∃ i, findContinuationPoint point server.slots = some i := by
  cases hfind : findContinuationPoint point server.slots with
  | some i => exact ⟨i, rfl⟩
  | none =>
    simp only [queryNextProcess, hsupplied, hfind, Bool.not_true, Bool.false_eq_true, if_false] at h
    cases h

/-- Where the points are distinct and the sessions hold their own, a QueryNext acts on a slot of its
session exactly if no other session was given the point. -/
theorem ownSlot_iff_polite (hdistinct : DistinctPoints st.1.slots) (hcoherent : CoherentSlots st.1.slots)
    (hrecorded : PointRecorded st) (hgiven : GivenOwn st.2) (session : UInt32) (point : MuString)
    (release : Bool) :
    OwnSlot st (.next session point release) ↔ Polite sp st (.next session point release) := by
  constructor
  · rintro h other id rfl hother
    obtain ⟨i, hi⟩ := (hgiven other id).mp hother
    obtain ⟨slot, hslot, hid⟩ := hrecorded.slot hi
    obtain ⟨hsupplied, hfind⟩ := findContinuationPoint_live hdistinct hcoherent hslot hid
    obtain ⟨j, id', hpoint, hj, -⟩ := h _ _ hsupplied (queryNextProcess_found release hsupplied hfind)
    obtain rfl := Option.some.inj hpoint
    obtain ⟨slot', hslot', hid'⟩ := hrecorded.slot hj
    obtain rfl := hdistinct i j slot slot' hslot hslot' (by rw [hid]; exact nofun) (hid.trans hid'.symm)
    exact (Prod.mk.inj (Option.some.inj (hi.symm.trans hj))).1
  · intro h r server' hsupplied hnext
    obtain ⟨i, hfind⟩ := queryNextProcess_find hsupplied hnext
    obtain ⟨slot, hslot, hid, -⟩ := findContinuationPoint_id hfind
    obtain ⟨id, rfl⟩ : ∃ id, point = some id := by
      cases point with
      | none => exact absurd hsupplied (by decide)
      | some id => exact ⟨id, rfl⟩
    obtain ⟨other, hother⟩ := hrecorded.created hslot hid
    obtain rfl := h other id rfl ((hgiven other id).mpr ⟨i, hother⟩)
    refine ⟨i, id, rfl, hother, ?_⟩
    rw [queryNextProcess_found release hsupplied hfind] at hnext
    rw [← (Prod.mk.inj hnext).2]
    cases release with
    | false => rfl
    | true => rfl

theorem distinct_first_iff (hindex : UserIndex sp st.1.index) (hdistinct : DistinctPoints st.1.slots)
    (hcoherent : CoherentSlots st.1.slots) (session : UInt32) (filter : List ContentFilterElement)
    (maxReturn : UInt32) :
    DistinctPoints (queryFirstProcess sp filter maxReturn maxQueryDataSets st.1).2.slots ↔
      Polite sp st (.first session filter maxReturn) := by
  obtain ⟨hnone, hslots⟩ | ⟨i, slot, slot', htaken, hslot, hid, hid', -, -, hslots⟩ :=
    queryFirstProcess_slots hindex filter maxReturn
  · rw [hslots]
    exact iff_of_true hdistinct (fun h => absurd hnone h)
  · rw [hslots]
    have hlive : slot'.id ≠ none := by rw [hid']; exact nofun
    constructor
    · intro hafter _ other hother hne hnext
      obtain ⟨hpoint, -⟩ := hcoherent other hother hne
      obtain ⟨j, hj, hget⟩ := List.mem_iff_getElem.mp hother
      have hij : i ≠ j := by
        rintro rfl
        rw [List.getElem?_eq_getElem hj, hget] at hslot
        exact hne (Option.some.inj hslot ▸ hid)
      refine hij (hafter i j slot' other ?_ ?_ hlive (by rw [hid', hpoint, hnext]))
      · exact List.getElem?_set_self (List.getElem?_eq_some_iff.mp hslot).1
      · rw [List.getElem?_set_ne hij, List.getElem?_eq_getElem hj, hget]
    · intro h
      refine hdistinct.set i (fun _ other hother heq => ?_)
      have hne : other.id ≠ none := heq ▸ hlive
      obtain ⟨hpoint, hle⟩ := hcoherent other hother hne
      refine h (by rw [htaken]; exact nofun) other hother hne ?_
      rw [heq, hid'] at hpoint
      exact (continuationId_inj (pageSize_le maxReturn) hle (Option.some.inj hpoint)).symm

section

variable (capacity : Nat) (sp : ServerSpaces W) (l : DynamicLimits) (maxPoints : Nat)
    (ops : List QueryOp)

theorem recordedRun_snoc (op : QueryOp) :
    recordedRun capacity sp l maxPoints (ops ++ [op]) =
      op.step sp l (recordedRun capacity sp l maxPoints ops) := by
  rw [recordedRun, List.foldl_append]
  rfl

theorem recordedRun_fst : (recordedRun capacity sp l maxPoints ops).1 = queryRun sp l maxPoints ops := by
  induction ops using List.reverseRecOn with
  | nil => rfl
  | append_singleton ops op ih =>
    rw [recordedRun_snoc, QueryOp.step, ih, queryRun, queryRun, List.foldl_append]
    rfl

end

theorem PointRecorded.update (h : PointRecorded st) (i : Nat) (slot : QuerySlot)
    (hi : i < st.1.slots.length) (entry : Option (UInt32 × Bytes))
    (hentry : entry.map Prod.snd = slot.id) (k : Nat) :
    (Function.update st.2.created i entry k).map Prod.snd =
      ((st.1.slots.set i slot)[k]?).bind QuerySlot.id := by
  by_cases hk : k = i
  · subst hk
    rw [Function.update_self, List.getElem?_set_self hi, hentry]
    rfl
  · rw [Function.update_of_ne hk, List.getElem?_set_ne (Ne.symm hk)]
    exact h k

theorem PointRecorded.step (h : PointRecorded st) (hstep : SlotStep sp st st' op) :
    PointRecorded st' := by
  intro k
  cases hstep with
  | keep hslots hhistory =>
    rw [hslots, hhistory]
    exact h k
  | take hslot hfree hid hnext hslots hhistory =>
    rw [hslots, hhistory]
    exact h.update _ _ (List.getElem?_eq_some_iff.mp hslot).1 (some (_, _)) hid.symm k
  | release hfind hslots hhistory =>
    obtain ⟨slot, hslot, -⟩ := findContinuationPoint_id hfind
    rw [hslots, hhistory]
    exact h.update _ _ (List.getElem?_eq_some_iff.mp hslot).1 none rfl k

variable {h : QueryHistory} {i : Nat} {session : UInt32} {id : Bytes}

theorem QueryHistory.mem_give {other : UInt32} {id' : Bytes} :
    id' ∈ (h.give i session id).given other ↔ (other = session ∧ id' = id) ∨ id' ∈ h.given other := by
  by_cases hother : other = session
  · subst hother
    simp [QueryHistory.give]
  · simp [QueryHistory.give, hother]

theorem QueryHistory.mem_takeBack {other : UInt32} {id' : Bytes} :
    id' ∈ (h.takeBack i session id).given other ↔
      id' ∈ h.given other ∧ (other = session → id' ≠ id) := by
  by_cases hother : other = session
  · subst hother
    simp [QueryHistory.takeBack]
  · simp [QueryHistory.takeBack, hother]

theorem GivenOwn.give (hgiven : GivenOwn h) (hfree : h.created i = none) :
    GivenOwn (h.give i session id) := by
  intro other id'
  rw [QueryHistory.mem_give, hgiven other id']
  constructor
  · rintro (⟨rfl, rfl⟩ | ⟨j, hj⟩)
    · exact ⟨i, Function.update_self ..⟩
    · refine ⟨j, (Function.update_of_ne ?_ ..).trans hj⟩
      rintro rfl
      cases hfree.symm.trans hj
  · rintro ⟨j, hj⟩
    by_cases hji : j = i
    · subst hji
      have hself : (h.give j session id).created j = some (session, id) := Function.update_self ..
      obtain ⟨rfl, rfl⟩ := Prod.mk.inj (Option.some.inj (hself.symm.trans hj))
      exact .inl ⟨rfl, rfl⟩
    · exact .inr ⟨j, (Function.update_of_ne hji ..).symm.trans hj⟩

theorem GivenOwn.takeBack (hgiven : GivenOwn h) (hi : h.created i = some (session, id))
    (hunique : ∀ j other, h.created j = some (other, id) → j = i) :
    GivenOwn (h.takeBack i session id) := by
  intro other id'
  rw [QueryHistory.mem_takeBack, hgiven other id']
  constructor
  · rintro ⟨⟨j, hj⟩, hne⟩
    refine ⟨j, (Function.update_of_ne ?_ ..).trans hj⟩
    rintro rfl
    obtain ⟨rfl, rfl⟩ := Prod.mk.inj (Option.some.inj (hi.symm.trans hj))
    exact hne rfl rfl
  · rintro ⟨j, hj⟩
    have hji : j ≠ i := by
      rintro rfl
      have hself : (h.takeBack j session id).created j = none := Function.update_self ..
      cases hself.symm.trans hj
    have hj' := (Function.update_of_ne hji ..).symm.trans hj
    refine ⟨⟨j, hj'⟩, ?_⟩
    rintro - rfl
    exact hji (hunique j other hj')

/-- A step keeps the continuation points with the sessions they were given to, if it acts on a slot of
its session. -/
theorem GivenOwn.step (hgiven : GivenOwn st.2) (hrecorded : PointRecorded st)
    (hdistinct : DistinctPoints st.1.slots) (hstep : SlotStep sp st st' op) (hown : OwnSlot st op) :
    GivenOwn st'.2 := by
  cases hstep with
  | keep hslots hhistory => exact hhistory ▸ hgiven
  | take hslot hfree hid hnext hslots hhistory =>
    rw [hhistory]
    refine hgiven.give (Option.map_eq_none_iff.mp ((hrecorded _).trans ?_))
    rw [hslot]
    exact hfree
  | @release session id i hfind hslots hhistory =>
    obtain ⟨slot, hslot, hid, hsupplied⟩ := findContinuationPoint_id hfind
    have hlive {j : Nat} {other : UInt32} (hj : st.2.created j = some (other, id)) : j = i := by
      obtain ⟨slot', hslot', hid'⟩ := hrecorded.slot hj
      exact hdistinct j _ slot' slot hslot' hslot (by rw [hid']; exact nofun) (hid'.trans hid.symm)
    obtain ⟨j, id', hpoint, hj, -⟩ := hown _ _ hsupplied (queryNextProcess_found true hsupplied hfind)
    obtain rfl := Option.some.inj hpoint
    rw [hhistory]
    exact hgiven.takeBack (hlive hj ▸ hj) (fun k other hk => hlive hk)

theorem recordedRun_recorded (capacity : Nat) (sp : ServerSpaces W) (l : DynamicLimits) (maxPoints : Nat)
    (ops : List QueryOp) : PointRecorded (recordedRun capacity sp l maxPoints ops) := by
  induction ops using List.reverseRecOn with
  | nil =>
    intro i
    cases hslot : (List.replicate maxPoints QuerySlot.released)[i]? with
    | none => exact (congrArg (Option.bind · QuerySlot.id) hslot).symm
    | some slot =>
      obtain rfl := (List.mem_replicate.mp (List.mem_of_getElem? hslot)).2
      exact (congrArg (Option.bind · QuerySlot.id) hslot).symm
  | append_singleton ops op ih =>
    rw [recordedRun_snoc]
    exact ih.step
      (op.slotStep (recordedRun_fst capacity sp l maxPoints ops ▸ queryRun_userIndex sp l maxPoints ops))

structure PointsKept (st : QueryServer capacity × QueryHistory) : Prop where
  distinct : DistinctPoints st.1.slots
  given : GivenOwn st.2

/-- In a run without conflicts so far, a step is without conflict exactly if it is polite. -/
theorem PointsKept.isolated_iff (maxPoints : Nat) (ops : List QueryOp)
    (h : PointsKept (recordedRun capacity sp l maxPoints ops)) (op : QueryOp) :
    (DistinctPoints (op.step sp l (recordedRun capacity sp l maxPoints ops)).1.slots ∧
        OwnSlot (recordedRun capacity sp l maxPoints ops) op) ↔
      Polite sp (recordedRun capacity sp l maxPoints ops) op := by
  have hrecorded := recordedRun_recorded capacity sp l maxPoints ops
  have hindex : UserIndex sp (recordedRun capacity sp l maxPoints ops).1.index :=
    recordedRun_fst capacity sp l maxPoints ops ▸ queryRun_userIndex sp l maxPoints ops
  have hcoherent : CoherentSlots (recordedRun capacity sp l maxPoints ops).1.slots :=
    recordedRun_fst capacity sp l maxPoints ops ▸ queryRun_coherent sp l maxPoints ops
  cases op with
  | lookup id => exact iff_of_true ⟨h.distinct, trivial⟩ trivial
  | manage op => exact iff_of_true ⟨h.distinct, trivial⟩ trivial
  | first session filter maxReturn =>
    exact (and_iff_left trivial).trans
      (distinct_first_iff hindex h.distinct hcoherent session filter maxReturn)
  | next session point release =>
    have hafter : DistinctPoints ((QueryOp.next session point release).step sp l
        (recordedRun capacity sp l maxPoints ops)).1.slots := by
      have hstep := (QueryOp.next session point release).slotStep (l := l) hindex
      cases hstep with
      | keep hslots hhistory => exact hslots ▸ h.distinct
      | release hfind hslots hhistory => exact hslots ▸ h.distinct.set _ (fun hne => absurd rfl hne)
    exact (and_iff_right hafter).trans
      (ownSlot_iff_polite h.distinct hcoherent hrecorded h.given session point release)

theorem PointsKept.step {maxPoints : Nat} {ops : List QueryOp}
    (h : PointsKept (recordedRun capacity sp l maxPoints ops)) {op : QueryOp}
    (hpolite : Polite sp (recordedRun capacity sp l maxPoints ops) op) :
    PointsKept (recordedRun capacity sp l maxPoints (ops ++ [op])) := by
  obtain ⟨hdistinct, hown⟩ := (h.isolated_iff maxPoints ops op).mpr hpolite
  rw [recordedRun_snoc]
  refine ⟨hdistinct,
    h.given.step (recordedRun_recorded capacity sp l maxPoints ops) h.distinct (op.slotStep ?_) hown⟩
  exact recordedRun_fst capacity sp l maxPoints ops ▸ queryRun_userIndex sp l maxPoints ops

theorem recordedRun_kept (maxPoints : Nat) (ops : List QueryOp)
    (h : ∀ before op after, ops = before ++ op :: after →
      PointsKept (recordedRun capacity sp l maxPoints before) →
      Polite sp (recordedRun capacity sp l maxPoints before) op) :
    PointsKept (recordedRun capacity sp l maxPoints ops) := by
  induction ops using List.reverseRecOn with
  | nil =>
    constructor
    · intro i j slot slot' hslot hslot' hne
      obtain rfl := (List.mem_replicate.mp (List.mem_of_getElem? hslot)).2
      exact absurd rfl hne
    · intro session id
      constructor
      · rintro ⟨⟩
      · rintro ⟨i, ⟨⟩⟩
  | append_singleton ops op ih =>
    have hkept := ih (fun before op' after hops => h before op' (after ++ [op]) (by rw [hops]; simp))
    exact hkept.step (h ops op [] rfl hkept)

/-- In every run, the continuation points of sessions are kept apart if and only if every step is
polite. -/
theorem continuation_points_isolated_iff (sp : ServerSpaces W) (l : DynamicLimits)
    (maxPoints capacity : Nat) (ops : List QueryOp) : Isolated sp l maxPoints capacity ops ↔
      ∀ before op after, ops = before ++ op :: after →
        Polite sp (recordedRun capacity sp l maxPoints before) op := by
  constructor
  · intro h before op after hops
    have hkept : PointsKept (recordedRun capacity sp l maxPoints before) := by
      refine recordedRun_kept maxPoints before (fun before' op' after' hbefore hkept => ?_)
      exact (hkept.isolated_iff maxPoints before' op').mp
        (h before' op' (after' ++ op :: after) (by rw [hops, hbefore]; simp))
    exact (hkept.isolated_iff maxPoints before op).mp (h before op after hops)
  · intro h before op after hops
    have hkept : PointsKept (recordedRun capacity sp l maxPoints before) :=
      recordedRun_kept maxPoints before (fun before' op' after' hbefore _ =>
        h before' op' (after' ++ op :: after) (by rw [hops, hbefore]; simp))
    exact (hkept.isolated_iff maxPoints before op).mpr (h before op after hops)

/-- Sessions 1 and 2 ask for one node of two each and get the same continuation point, with which session
2 releases the slot of session 1. -/
theorem continuation_points_shared :
    let before : List QueryOp :=
  [.manage (.addNode (plainItem 0)), .manage (.addNode (plainItem 0)), .first 1 [] 1,
      .first 2 [] 1]
    let point : Bytes := continuationId 1
    (recordedRun 4 bareSpaces .default 2 before).1.slots =
      [⟨some point, 0, 1, 0⟩, ⟨some point, 0, 1, 0⟩] ∧
      (recordedRun 4 bareSpaces .default 2 before).2.created 0 = some (1, point) ∧
      (recordedRun 4 bareSpaces .default 2 before).2.created 1 = some (2, point) ∧
      (recordedRun 4 bareSpaces .default 2 (before ++ [.next 2 (some point) true])).1.slots =
        [.released, ⟨some point, 0, 1, 0⟩] ∧
      ¬ Isolated bareSpaces .default 2 4 (before ++ [.next 2 (some point) true]) := by
  intro before point
  have hslots : (recordedRun 4 bareSpaces .default 2 before).1.slots =
      [⟨some point, 0, 1, 0⟩, ⟨some point, 0, 1, 0⟩] := by
    decide
  refine ⟨hslots, by decide, by decide, by decide, fun h => ?_⟩
  have hdistinct := (h (before.take 3) (.first 2 [] 1) [.next 2 (some point) true] rfl).1
  change DistinctPoints (recordedRun 4 bareSpaces .default 2 before).1.slots at hdistinct
  rw [hslots] at hdistinct
  exact absurd (hdistinct 0 1 _ _ rfl rfl nofun rfl) (by decide)

end Owners

end MicroOpcua
