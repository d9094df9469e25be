import MicroOpcua.Services.MonitoredItemService
import MicroOpcua.Services.NodeAccess
import MicroOpcua.Spec.AddressSpace
import MicroOpcua.Spec.NodeManagement

namespace MicroOpcua

open Lib.StateRun

variable {W : Type} {capacity : Nat} {sp : ServerSpaces W} {index : SpaceIndex capacity}

def ServerSpaces.staticNode (sp : ServerSpaces W) (id : NodeId) : Option (SpaceNode W) :=
  (firstMatch sp.spaces sp.refs id.raw).bind sp.spaces.nodeAt

def ServerSpaces.Valid (sp : ServerSpaces W) : Prop := ∀ a ∈ sp.user, validate sp.spaces a = .ok ()

def ServerSpaces.answer {α : Type} (sp : ServerSpaces W) (id : NodeId) (unknown : α)
    (known : SpaceNode W → α) : α :=
  match sp.staticNode id with
  | none => unknown
  | some node => known node

theorem resolve_eq_staticNode (hindex : index.Sound sp.spaces) (hvalid : sp.Valid)
    (world : W) (id : NodeId) :
    ((sp.resolve id.raw : AccessM W capacity _) (index, world)).1 = sp.staticNode id := by
  have hmatch :
      (resolveNode sp.spaces sp.user (some sp.runtime) id.raw index).1 =
        firstMatch sp.spaces sp.refs id.raw :=
    resolveNode_eq_firstMatch hindex hvalid id.raw_supported
  exact congrArg (fun p => p.bind sp.spaces.nodeAt) hmatch

/-- What a service does after the look-up, which may have built the index but has left the world
alone. -/
theorem resolve_bind {α : Type} (hindex : index.Sound sp.spaces) (hvalid : sp.Valid)
    (world : W) (id : NodeId) (f : Option (SpaceNode W) → AccessM W capacity α) :
    ∃ index' : SpaceIndex capacity, (sp.resolve id.raw >>= f) (index, world) = f (sp.staticNode id)
      (index', world) := by
  refine ⟨((sp.resolve id.raw : AccessM W capacity _) (index, world)).2.1, ?_⟩
  rw [← resolve_eq_staticNode hindex hvalid world id]
  rfl

theorem firstMatch_eq_none_iff (m : Spaces W) (refs : List SpaceRef) (id : RawNodeId) :
    firstMatch m refs id = none ↔ ∀ a ∈ refs, ∀ node ∈ (m.get a).items,
      node.nodeId.equal id = false := by
  simp only [firstMatch, List.findSome?_eq_none_iff, Option.map_eq_none_iff, findNodeLinear,
    List.findIdx?_eq_none_iff]

theorem firstMatch_nodeAt {m : Spaces W} {refs : List SpaceRef} {id : RawNodeId} {p : SpaceRef × Nat}
    (h : firstMatch m refs id = some p) : ∃ node, m.nodeAt p = some node := by
  obtain ⟨a, -, ha⟩ := List.exists_of_findSome?_eq_some h
  obtain ⟨i, hi, rfl⟩ := Option.map_eq_some_iff.mp ha
  obtain ⟨hlt, -, -⟩ := findNodeLinear_eq_some_iff.mp hi
  exact ⟨_, List.getElem?_eq_getElem hlt⟩

theorem staticNode_eq_none_iff (sp : ServerSpaces W) (id : NodeId) : sp.staticNode id = none ↔
      ∀ a ∈ sp.refs, ∀ node ∈ (sp.spaces.get a).items, node.nodeId.equal id.raw = false := by
  rw [← firstMatch_eq_none_iff, ServerSpaces.staticNode]
  cases hmatch : firstMatch sp.spaces sp.refs id.raw with
  | none => exact iff_of_true rfl rfl
  | some p =>
    obtain ⟨node, hnode⟩ := firstMatch_nodeAt hmatch
    rw [Option.bind_some, hnode]
    exact iff_of_false nofun nofun

section

variable (hindex : index.Sound sp.spaces) (hvalid : sp.Valid) (world : W)

include hindex hvalid

theorem readNode_eq (item : ReadValueId) : ((readNode sp item : AccessM W capacity _) (index, world)).1 =
      sp.answer item.nodeId ⟨none, some Fault.nodeIdUnknown.code, none, none⟩
        (fun node => readResult (readAttribute node item world).1) := by
  obtain ⟨index', hrun⟩ := resolve_bind hindex hvalid world item.nodeId (α := DataValue) (fun
    | none => return ⟨none, some Fault.nodeIdUnknown.code, none, none⟩
    | some node => return readResult (← liftWorld (readAttribute node item)))
  rw [ServerSpaces.answer]
  refine (congrArg Prod.fst hrun).trans ?_
  cases sp.staticNode item.nodeId with
  | none => rfl
  | some node => rfl

theorem writeNode_eq (handler : Option (WriteHandler W)) (item : WriteValue) :
    ((writeNode sp handler item : AccessM W capacity _) (index, world)).1 =
      sp.answer item.nodeId Fault.nodeIdUnknown.code (fun node =>
        (writeNodeValue handler node item world).1) := by
  obtain ⟨index', hrun⟩ := resolve_bind hindex hvalid world item.nodeId (α := StatusCode) (fun
    | none => return Fault.nodeIdUnknown.code
    | some node => liftWorld (writeNodeValue handler node item))
  rw [ServerSpaces.answer]
  refine (congrArg Prod.fst hrun).trans ?_
  cases sp.staticNode item.nodeId with
  | none => rfl
  | some node => rfl

theorem browseNode_eq (s : DynamicSpace)
    (maxPerNode : UInt32) (remaining : Nat) {desc : BrowseDescription}
    (hdirection : desc.browseDirection ≤ 2) :
    ∃ index' : SpaceIndex capacity,
      ((browseNode sp s maxPerNode remaining desc : AccessM W capacity _) (index, world)).1 =
        sp.answer desc.nodeId (.error .nodeIdUnknown)
          (fun node => (browseFound sp s maxPerNode remaining desc node (index', world)).1) := by
  obtain ⟨index', hrun⟩ := resolve_bind hindex hvalid world desc.nodeId
    (α := Except Fault (List ReferenceDescription)) (fun
      | none => return .error .nodeIdUnknown
      | some node => browseFound sp s maxPerNode remaining desc node)
  refine ⟨index', ?_⟩
  rw [ServerSpaces.answer, browseNode, if_neg (by simpa using hdirection)]
  refine (congrArg Prod.fst hrun).trans ?_
  cases sp.staticNode desc.nodeId with
  | none => rfl
  | some node => rfl

theorem createItemCheck_eq (b : Build) (body : MonitoredItemCreateBody) :
    createItemCheck b body
      (((sp.resolve body.nodeId.raw : AccessM W capacity _) (index, world)).1.map (·.toNode)) =
        sp.answer body.nodeId (.error .nodeIdUnknown)
        (fun node => createItemCheck b body (some node.toNode)) := by
  rw [resolve_eq_staticNode hindex hvalid, ServerSpaces.answer]
  cases sp.staticNode body.nodeId with
  | none => rfl
  | some node => rfl

end

section Index

variable {α : Type}

def KeepsIndex (sp : ServerSpaces W) (m : AccessM W capacity α) : Prop :=
  ∀ p, p.1.Sound sp.spaces → (m p).2.1.Sound sp.spaces

theorem KeepsIndex.pure (a : α) : KeepsIndex sp (pure a : AccessM W capacity α) := fun _ h => h

theorem KeepsIndex.bind {β : Type} {m : AccessM W capacity α} {f : α → AccessM W capacity β}
    (hm : KeepsIndex sp m) (hf : ∀ a, KeepsIndex sp (f a)) : KeepsIndex sp (m >>= f) :=
  fun p h => hf _ _ (hm p h)

theorem KeepsIndex.liftWorld (m : StateM W α) :
    KeepsIndex sp (MicroOpcua.liftWorld m : AccessM W capacity α) :=
  fun _ h => h

theorem KeepsIndex.resolve (id : RawNodeId) : KeepsIndex sp (sp.resolve id : AccessM W capacity _) := by
  rintro ⟨index, world⟩ hindex
  have huser : (findUserNode sp.spaces sp.user id index).2.Sound sp.spaces := by
    unfold findUserNode
    cases sp.user with
    | none => exact hindex
    | some a => exact IndexRuns.sound (.single ⟨a, id, rfl⟩) hindex
  change (resolveNode sp.spaces sp.user (some sp.runtime) id index).2.Sound sp.spaces
  unfold resolveNode
  generalize findUserNode sp.spaces sp.user id index = p at huser
  obtain ⟨_ | p, index'⟩ := p
  · dsimp only
    split <;> exact huser
  · exact huser

theorem KeepsIndex.browseReferences (maxPerNode : UInt32) (remaining : Nat)
    (desc : BrowseDescription) (typed : Bool) (rs : List Reference) (found : List ReferenceDescription) :
    KeepsIndex sp (MicroOpcua.browseReferences sp maxPerNode remaining desc typed rs found :
      AccessM W capacity _) := by
  induction rs generalizing found with
  | nil => exact .pure _
  | cons r rs ih =>
    unfold MicroOpcua.browseReferences
    split
    · exact ih found
    · refine .bind (.resolve _) (fun target => ?_)
      split
      · exact ih found
      · split
        · exact ih found
        · split
          · exact .pure _
          · split
            · exact .pure _
            · exact ih _

theorem KeepsIndex.browseNode (s : DynamicSpace) (maxPerNode : UInt32) (remaining : Nat)
    (desc : BrowseDescription) :
    KeepsIndex sp (MicroOpcua.browseNode sp s maxPerNode remaining desc : AccessM W capacity _) := by
  unfold MicroOpcua.browseNode
  split
  · exact .pure _
  · refine .bind (.resolve _) (fun node => ?_)
    split
    · exact .pure _
    · exact .bind (.browseReferences _ _ _ _ _ _) (fun _ =>
        .bind (.browseReferences _ _ _ _ _ _) (fun _ => .pure _))

end Index

section Known

variable {handler : Option (WriteHandler W)}

/-- The callbacks of the application do not answer Bad_NodeIdUnknown for a node they are called for. -/
structure ServerSpaces.CallbacksKnow (sp : ServerSpaces W)
    (handler : Option (WriteHandler W)) : Prop where
  read : ∀ a ∈ sp.user, ∀ node ∈ (sp.spaces.get a).items, ∀ read, node.value = some (.callback read) →
    ∀ id world, (read id world).1.1 ≠ Fault.nodeIdUnknown.code
  write : ∀ write ∈ handler, ∀ id attributeId value world,
    (write id attributeId value world).1 ≠ Fault.nodeIdUnknown.code

theorem staticNode_mem {id : NodeId} {node : SpaceNode W} (h : sp.staticNode id = some node) :
    ∃ a ∈ sp.refs, node ∈ (sp.spaces.get a).items := by
  obtain ⟨p, hp, hnode⟩ := Option.bind_eq_some_iff.mp h
  obtain ⟨a, ha, hmatch⟩ := List.exists_of_findSome?_eq_some hp
  obtain ⟨i, -, rfl⟩ := Option.map_eq_some_iff.mp hmatch
  exact ⟨a, ha, List.mem_of_getElem? hnode⟩

theorem valueSourceRead_static (value : Variant) (id : NodeId) (world : W) :
    (valueSourceRead (.static value) id .null world).1.1 ≠ Fault.nodeIdUnknown.code := by
  cases value with
  | array t n es => exact show good ≠ _ by decide
  | scalar v =>
    cases v with
    | string str =>
      by_cases hsize : str.size > maxStringValueLength
      · simp only [valueSourceRead, if_pos hsize]
        exact show Fault.encodingLimitsExceeded.code ≠ _ by decide
      · simp only [valueSourceRead, if_neg hsize]
        exact show good ≠ _ by decide
    | boolean | int32 | uint32 | float => exact show good ≠ _ by decide
    | _ => exact show Fault.notReadable.code ≠ _ by decide

theorem statusTimeRead_good (rt : BaseRuntime W) (id : NodeId) (world : W) :
    (rt.statusTimeRead id world).1.1 = good := by
  unfold BaseRuntime.statusTimeRead
  split
  · rfl
  · cases rt.getTime <;> rfl

/-- A value source of a node the server resolves reads without Bad_NodeIdUnknown: the nodes of the server
have constants or the clock, those of the application its callbacks. -/
theorem valueSourceRead_known (hknow : sp.CallbacksKnow handler) {a : SpaceRef} (ha : a ∈ sp.refs)
    {node : SpaceNode W} (hnode : node ∈ (sp.spaces.get a).items) {source : ValueSource W}
    (hsource : node.value = some source) (id : NodeId)
    (world : W) : (valueSourceRead source id .null world).1.1 ≠ Fault.nodeIdUnknown.code := by
  cases source with
  | static value => exact valueSourceRead_static value id world
  | callback read =>
    simp only [ServerSpaces.refs, List.mem_append, List.mem_singleton, Option.mem_toList] at ha
    obtain (huser | rfl) | rfl := ha
    · exact hknow.read a huser node hnode read hsource id world
    · rw [sp.runtime_space, BaseFlags.runtimeSpace] at hnode
      have hread : read = sp.rt.statusTimeRead := by
        split at hnode
        · obtain rfl | rfl := List.mem_pair.mp hnode
          all_goals exact (ValueSource.callback.inj (Option.some.inj hsource)).symm
        · cases hnode
      change (read id world).1.1 ≠ _
      rw [hread, statusTimeRead_good]
      decide
    · change node ∈ sp.spaces.flags.baseSpace.items at hnode
      unfold BaseFlags.baseSpace at hnode
      split at hnode
      · obtain ⟨row, -, rfl⟩ := List.mem_map.mp hnode
        obtain ⟨value, -, heq⟩ := Option.map_eq_some_iff.mp hsource
        cases heq
      · cases hnode

theorem readNode_known (hindex : index.Sound sp.spaces) (hvalid : sp.Valid)
    (hknow : sp.CallbacksKnow handler) (world : W) {item : ReadValueId}
    (hknown : sp.staticNode item.nodeId ≠ none) :
    ((readNode sp item : AccessM W capacity _) (index, world)).1.status ≠
      some Fault.nodeIdUnknown.code := by
  obtain ⟨node, hnode⟩ := Option.ne_none_iff_exists'.mp hknown
  obtain ⟨a, ha, hmem⟩ := staticNode_mem hnode
  have hstatus : (readAttribute node item world).1.1 ≠ Fault.nodeIdUnknown.code := by
    have hgood : good ≠ Fault.nodeIdUnknown.code := by decide
    have hinvalid : Fault.attributeIdInvalid.code ≠ Fault.nodeIdUnknown.code := by decide
    unfold readAttribute
    generalize item.attributeId = n
    by_cases hclass : node.nodeClass ≠ NodeClass.variable.code
    · simp only [if_pos hclass]
      split
      case h_5 | h_6 => exact hinvalid
      all_goals exact hgood
    · simp only [if_neg hclass]
      cases hsource : node.value with
      | none =>
        split
        case h_5 => exact show Fault.notReadable.code ≠ _ by decide
        case h_6 => exact hinvalid
        all_goals exact hgood
      | some source =>
        split
        case h_5 => exact valueSourceRead_known hknow ha hmem hsource item.nodeId world
        case h_6 => exact hinvalid
        all_goals exact hgood
  rw [readNode_eq hindex hvalid, ServerSpaces.answer, hnode]
  change (readResult (readAttribute node item world).1).status ≠ _
  unfold readResult
  split
  · exact nofun
  · exact fun h => hstatus (Option.some.inj h)

theorem checkWriteType_status (node : SpaceNode W) (id : NodeId) (value : Variant) (world : W) :
    (checkWriteType node id value world).1 = good ∨ (checkWriteType node id value world).1 =
      Fault.typeMismatch.code := by
  unfold checkWriteType
  cases node.value with
  | none => exact .inl rfl
  | some source =>
    change (if (valueSourceRead source id .null world).1.1 = good ∧
        (valueSourceRead source id .null world).1.2.type ≠ value.type then
        Fault.typeMismatch.code else good) = good ∨
      (if (valueSourceRead source id .null world).1.1 = good ∧
        (valueSourceRead source id .null world).1.2.type ≠ value.type then
        Fault.typeMismatch.code else good) = _
    generalize (valueSourceRead source id .null world).1 = read
    split
    · exact .inr rfl
    · exact .inl rfl

theorem writeNode_known (hindex : index.Sound sp.spaces) (hvalid : sp.Valid)
    (hknow : sp.CallbacksKnow handler) (world : W) {item : WriteValue}
    (hknown : sp.staticNode item.nodeId ≠ none) :
    ((writeNode sp handler item : AccessM W capacity _) (index, world)).1 ≠
      Fault.nodeIdUnknown.code := by
  obtain ⟨node, hnode⟩ := Option.ne_none_iff_exists'.mp hknown
  rw [writeNode_eq hindex hvalid, ServerSpaces.answer, hnode]
  change (writeNodeValue handler node item world).1 ≠ _
  unfold writeNodeValue
  by_cases hattribute : item.attributeId ≠ 13
  · rw [if_pos hattribute]
    exact show Fault.notWritable.code ≠ _ by decide
  rw [if_neg hattribute]
  cases item.value.value with
  | none => exact show Fault.typeMismatch.code ≠ _ by decide
  | some value =>
    dsimp only
    by_cases hrange : item.indexRange.size > 0
    · rw [if_pos hrange]
      exact show Fault.writeNotSupported.code ≠ _ by decide
    rw [if_neg hrange]
    by_cases hclass : node.nodeClass ≠ NodeClass.variable.code
    · rw [if_pos hclass]
      exact show Fault.notWritable.code ≠ _ by decide
    rw [if_neg hclass]
    have htype := checkWriteType_status node item.nodeId value world
    have hbind (f : StatusCode → StateM W StatusCode) :
      (checkWriteType node item.nodeId value >>= f) world =
        f (checkWriteType node item.nodeId value world).1
        (checkWriteType node item.nodeId value world).2 := rfl
    rw [hbind]
    generalize checkWriteType node item.nodeId value world = r at htype
    obtain ⟨status, world'⟩ := r
    rcases htype with rfl | rfl
    · cases handler with
      | none => exact show Fault.writeNotSupported.code ≠ _ by decide
      | some write => exact hknow.write write rfl item.nodeId 13 value world'
    · exact show Fault.typeMismatch.code ≠ _ by decide

end Known

section Filter

variable {b : Build}

def FilterBody.Known (f : FilterBody) : Prop := f.filterResult ≠ Fault.nodeIdUnknown.code

variable {f : FilterBody}

theorem setDatachangeTriggerFromWire_known (hf : f.Known) (trigger : UInt32) :
    (setDatachangeTriggerFromWire f trigger).Known := by
  unfold setDatachangeTriggerFromWire
  split
  · exact hf
  split
  · exact hf
  split
  · exact hf
  · exact show Fault.monitoredItemFilterInvalid.code ≠ _ by decide

theorem setDeadbandFromWire_known (hf : f.Known) (type : UInt32) (value : UInt64) :
    (setDeadbandFromWire f type value).Known := by
  unfold setDeadbandFromWire
  split
  · exact hf
  split
  · exact hf
  split
  · change (if _ then _ else _) ≠ Fault.nodeIdUnknown.code
    split
    · decide
    · exact hf
  · exact show Fault.monitoredItemFilterInvalid.code ≠ _ by decide

theorem aggregateFilterResult_known (hf : f.Known) (d : DoubleOps) (type : NodeId)
    (interval : UInt64) : (aggregateFilterResult d type interval f).Known := by
  have hunsupported : Fault.monitoredItemFilterUnsupported.code ≠ Fault.nodeIdUnknown.code := by decide
  simp only [aggregateFilterResult]
  split
  · exact hunsupported
  split
  · exact hunsupported
  split
  · exact show Fault.filterNotAllowed.code ≠ _ by decide
  · exact hf

theorem readExactly_gives {α : Type} {P : α → Prop} {length : Nat} {m : ReadM α} (hm : Gives P m) :
    Gives P (readExactly length m) :=
  .bind_then (fun _ => .bind hm (fun _ ha => .bind_then (fun _ => .guard (.pure ha))))

theorem readDatachangeFilterBody_known (hf : f.Known) (length : Nat) :
    Gives FilterBody.Known (readDatachangeFilterBody length f) := by
  unfold readDatachangeFilterBody
  split
  · exact .pure hf
  · exact .guard
        (.bind_then (fun _ =>
          .bind_then (fun _ => .bind_then (fun _ => .bind_then (fun _ => .bind_then (fun _ =>
      .pure (setDeadbandFromWire_known (setDatachangeTriggerFromWire_known hf _) _ _)))))))

theorem readAggregateFilterBody_known (hf : f.Known) (d : DoubleOps) (length : Nat) :
    Gives FilterBody.Known (readAggregateFilterBody d length f) := by
  unfold readAggregateFilterBody
  split
  · exact .pure (show Fault.decodingError.code ≠ _ by decide)
  · exact .bind_then (fun _ =>
        .bind_then (fun _ => .bind_then (fun _ => .bind_then (fun _ => .bind_then (fun _ =>
      .bind_then (fun _ =>
          .bind_then (fun _ => .bind_then (fun _ => .bind_then (fun _ => .bind_then (fun _ =>
        .pure (aggregateFilterResult_known hf _ _ _)))))))))))

variable (clauses : SelectClauses)

theorem readStandardFilter_known (type : NodeId) (length : Nat) :
    Gives (fun p => p.1.Known) (readStandardFilter b clauses type length) := by
  have hdefault : FilterBody.default.Known := show good ≠ _ by decide
  have hdata : FilterBody.Known { FilterBody.default with hasDatachangeFilter := true } := hdefault
  unfold readStandardFilter
  refine .bind_then (fun _ => ?_)
  split
  · exact .bind (readExactly_gives (readDatachangeFilterBody_known hdata length)) (fun _ hf => .pure hf)
  split
  · exact .bind (readExactly_gives (readAggregateFilterBody_known hdefault _ length))
      (fun _ hf => .pure hf)
  split
  · exact .bind_then (fun _ => .pure hdefault)
  split
  · exact .pure hdefault
  · exact .bind_then (fun _ => .pure (show Fault.monitoredItemFilterUnsupported.code ≠ _ by decide))

theorem readBasicFilter_known (type : NodeId) (length : Nat) :
    Gives (fun p => p.1.Known) (readBasicFilter b clauses type length) := by
  have hdefault : FilterBody.default.Known := show good ≠ _ by decide
  unfold readBasicFilter
  split
  · exact .bind_then (fun _ => .pure hdefault)
  · exact .bind_then (fun _ => .pure hdefault)

theorem readMonitoredItemCreateBody_known :
    Gives (fun body => body.filter.Known) (readMonitoredItemCreateBody b clauses) := by
  unfold readMonitoredItemCreateBody
  refine .bind_then (fun _ =>
      .bind_then (fun _ => .bind_then (fun _ => .bind_then (fun _ => .bind_then (fun _ =>
    .bind_then (fun _ =>
      .bind_then (fun _ => .bind_then (fun _ => .bind_then (fun _ => .bind_then (fun _ => ?_))))))))))
  dsimp only
  split
  · exact .bind (readStandardFilter_known _ _ _) (fun _ hf =>
      .bind_then (fun _ => .bind_then (fun _ => .bind_then (fun _ => .pure hf))))
  · exact .bind (readBasicFilter_known _ _ _) (fun _ hf =>
      .bind_then (fun _ => .bind_then (fun _ => .bind_then (fun _ => .pure hf))))

theorem check_code {status : StatusCode} {e : Fault} (h : check status = .error e) :
    e.code = status := by
  unfold check at h
  split at h
  · cases h
  · exact congrArg Fault.code (Except.error.inj h).symm

/-- An item on a node the server has found is refused for other reasons than an unknown NodeId. -/
theorem createItemCheck_known {body : MonitoredItemCreateBody} (hbody : body.filter.Known)
    (node : Node W) : createItemCheck b body (some node) ≠ .error .nodeIdUnknown := by
  have hguard (node : Node W) : (do
      if body.attributeId ≠ 13 ∧
          ¬ (b.events ∧ body.attributeId = MonitoredItem.eventNotifierAttribute) then
        throw Fault.attributeIdInvalid
      return node) ≠ Except.error Fault.nodeIdUnknown :=
    guard_ne_error (by decide) (fun _ => by rintro ⟨⟩)
  unfold createItemCheck
  dsimp only
  split
  · cases hcheck : check body.filter.filterResult with
    | error e =>
      refine fun h => hbody ?_
      rw [← check_code hcheck]
      exact congrArg Fault.code (Except.error.inj h)
    | ok u =>
      rw [show (Except.ok u : Except Fault Unit) = pure u from rfl, pure_bind]
      refine guard_ne_error (by decide) (fun _ => ?_)
      refine guard_ne_error (by decide) (fun _ => ?_)
      exact guard_ne_error (by decide) (fun _ => hguard node)
  · exact hguard node

end Filter

section Requests

variable {handler : Option (WriteHandler W)} {p : SpaceIndex capacity × W}

theorem KeepsIndex.readNode (item : ReadValueId) :
    KeepsIndex sp (MicroOpcua.readNode sp item : AccessM W capacity _) := by
  refine .bind (.resolve _) (fun node => ?_)
  cases node with
  | none => exact .pure _
  | some node => exact .bind (.liftWorld _) (fun _ => .pure _)

theorem KeepsIndex.writeNode (item : WriteValue) :
    KeepsIndex sp (MicroOpcua.writeNode sp handler item : AccessM W capacity _) := by
  refine .bind (.resolve _) (fun node => ?_)
  cases node with
  | none => exact .pure _
  | some node => exact .liftWorld _

theorem readNodes_known (hvalid : sp.Valid) (hknow : sp.CallbacksKnow handler) (hp : p.1.Sound sp.spaces)
    (items : List ReadValueId) :
    List.Forall₂ (fun item r => sp.staticNode item.nodeId ≠ none →
      r.status ≠ some Fault.nodeIdUnknown.code) items
        ((items.mapM (readNode sp) : AccessM W capacity _) p).1 :=
  mapM_forall₂ (I := fun p => p.1.Sound sp.spaces)
    (fun item q hq => ⟨readNode_known hq hvalid hknow q.2, KeepsIndex.readNode item q hq⟩) items p hp

theorem writeNodes_known (hvalid : sp.Valid) (hknow : sp.CallbacksKnow handler)
    (hp : p.1.Sound sp.spaces) (items : List WriteValue) :
    List.Forall₂ (fun item r => sp.staticNode item.nodeId ≠ none → r ≠ Fault.nodeIdUnknown.code) items
      ((items.mapM (writeNode sp handler) : AccessM W capacity _) p).1 :=
  mapM_forall₂ (I := fun p => p.1.Sound sp.spaces)
    (fun item q hq => ⟨writeNode_known hq hvalid hknow q.2, KeepsIndex.writeNode item q hq⟩) items p hp

theorem browseFound_known (s : DynamicSpace) (maxPerNode : UInt32) (remaining : Nat)
    (desc : BrowseDescription) (node : SpaceNode W) (p : SpaceIndex capacity × W) :
    ((browseFound sp s maxPerNode remaining desc node : AccessM W capacity _) p).1 ≠
      .error .nodeIdUnknown := by
  have hresult (full : Bool) (found : List ReferenceDescription) :
      (if full = true then .error Fault.noContinuationPoints else .ok found : Except Fault _) ≠
      .error .nodeIdUnknown := by
    cases full
    · rintro ⟨⟩
    · exact fun h => absurd (Except.error.inj h) (by decide)
  exact hresult _ _

theorem browseNode_known (hvalid : sp.Valid) (hp : p.1.Sound sp.spaces) (s : DynamicSpace)
    (maxPerNode : UInt32) (remaining : Nat) {desc : BrowseDescription}
    (hknown : sp.staticNode desc.nodeId ≠ none) :
    ((browseNode sp s maxPerNode remaining desc : AccessM W capacity _) p).1 ≠
      .error .nodeIdUnknown := by
  by_cases hdirection : desc.browseDirection ≤ 2
  · obtain ⟨node, hnode⟩ := Option.ne_none_iff_exists'.mp hknown
    obtain ⟨index', hbrowse⟩ := browseNode_eq hp hvalid p.2 s maxPerNode remaining hdirection
    rw [ServerSpaces.answer, hnode] at hbrowse
    refine fun h => absurd (hbrowse.symm.trans h) ?_
    exact browseFound_known s maxPerNode remaining desc node _
  · rw [browseNode, if_pos (by simpa using hdirection)]
    exact fun h => absurd (Except.error.inj h) (by decide)

theorem browseNodes_known (hvalid : sp.Valid) (hp : p.1.Sound sp.spaces) (s : DynamicSpace)
    (maxPerNode : UInt32) (descs : List BrowseDescription) (used : Nat) :
    List.Forall₂ (fun desc r => sp.staticNode desc.nodeId ≠ none → r ≠ .error .nodeIdUnknown) descs
      ((browseNodes sp s maxPerNode descs used : AccessM W capacity _) p).1 := by
  induction descs generalizing used p with
  | nil => exact .nil
  | cons desc descs ih =>
    exact .cons (browseNode_known hvalid hp s maxPerNode _)
      (ih (KeepsIndex.browseNode s maxPerNode _ desc p hp) _)

/-- Read, Write, Browse and CreateMonitoredItems requests that name the NodeId do not report it as
unknown. -/
structure Resolved (sp : ServerSpaces W) (handler : Option (WriteHandler W)) (s : DynamicSpace)
    (p : SpaceIndex capacity × W) (id : NodeId) : Prop where
  read : ∀ req results, (readProcess sp req p).1 = .ok results →
    ∀ q ∈ req.nodesToRead.zip results, q.1.nodeId = id → q.2.status ≠ some Fault.nodeIdUnknown.code
  write : ∀ items results, (writeProcess sp handler items p).1 = .ok results →
    ∀ q ∈ items.zip results, q.1.nodeId = id → q.2 ≠ Fault.nodeIdUnknown.code
  browse : ∀ req results, (browseProcess sp s req p).1 = .ok results →
    ∀ q ∈ req.nodesToBrowse.zip results, q.1.nodeId = id → q.2 ≠ .error .nodeIdUnknown
  create : ∀ b clauses reader reader' body,
    (readMonitoredItemCreateBody b clauses).run.run reader = (.ok body, reader') → body.nodeId = id →
      createItemCheck b body ((sp.resolve body.nodeId.raw p).1.map (·.toNode)) ≠ .error .nodeIdUnknown

def ServerSpaces.Has (sp : ServerSpaces W) (id : NodeId) : Prop :=
  ∃ a ∈ sp.refs, ∃ node ∈ (sp.spaces.get a).items, node.nodeId.equal id.raw = true

theorem has_iff_staticNode (sp : ServerSpaces W) (id : NodeId) :
    sp.Has id ↔ sp.staticNode id ≠ none := by
  rw [ne_eq, staticNode_eq_none_iff, ServerSpaces.Has]
  push Not
  simp only [Bool.not_eq_false]

theorem mem_zip_of_forall₂ {α β : Type} {P : α → β → Prop} {as : List α} {bs : List β}
    (h : List.Forall₂ P as bs) {q : α × β} (hq : q ∈ as.zip bs) : P q.1 q.2 :=
  List.forall₂_iff_zip.mp h |>.2 hq

theorem Resolved.of_static (hvalid : sp.Valid) (hknow : sp.CallbacksKnow handler)
    (hp : p.1.Sound sp.spaces) (s : DynamicSpace) {id : NodeId} (hknown : sp.staticNode id ≠ none) :
    Resolved sp handler s p id where
  read := by
    rintro req results hresults q hq rfl
    unfold readProcess at hresults
    split at hresults
    · cases hresults
    split at hresults
    · cases hresults
    obtain rfl := Except.ok.inj hresults
    exact mem_zip_of_forall₂ (readNodes_known hvalid hknow hp req.nodesToRead) hq hknown
  write := by
    rintro items results hresults q hq rfl
    unfold writeProcess at hresults
    split at hresults
    · cases hresults
    obtain rfl := Except.ok.inj hresults
    exact mem_zip_of_forall₂ (writeNodes_known hvalid hknow hp items) hq hknown
  browse := by
    rintro req results hresults q hq rfl
    unfold browseProcess at hresults
    split at hresults
    · cases hresults
    obtain rfl := Except.ok.inj hresults
    exact mem_zip_of_forall₂ (browseNodes_known hvalid hp s _ req.nodesToBrowse 0) hq hknown
  create := by
    rintro b clauses reader reader' body hbody rfl
    rw [createItemCheck_eq hp hvalid p.2]
    obtain ⟨node, hnode⟩ := Option.ne_none_iff_exists'.mp hknown
    rw [ServerSpaces.answer, hnode]
    exact createItemCheck_known (readMonitoredItemCreateBody_known clauses _ _ _ hbody) _

/-- After any run of NodeManagement requests and any look-ups, the services know a NodeId exactly if one
of the address spaces of the configuration and the server has it: that AddNodes has added it makes no
difference. -/
theorem added_node_resolved_iff (hvalid : sp.Valid) (hruns : IndexRuns sp.spaces .init index)
    (hknow : sp.CallbacksKnow handler) (world : W) (l : DynamicLimits) (allow : Bool)
    (requests : List ManagementRequest) (id : NodeId) :
    Resolved sp handler (requestRun l allow requests) (index, world) id ↔ sp.Has id := by
  have hindex := hruns.sound SpaceIndex.init_sound
  rw [has_iff_staticNode]
  constructor
  · intro h hnone
    have hread := readNode_eq hindex hvalid world ⟨id, 1, none, 0, none⟩
    rw [ServerSpaces.answer, hnone] at hread
    refine h.read ⟨0, [⟨id, 1, none, 0, none⟩]⟩ _ rfl _ (List.mem_singleton.mpr rfl) rfl ?_
    exact congrArg DataValue.status hread
  · exact Resolved.of_static hvalid hknow hindex _

end Requests

def bareSpaces : ServerSpaces Unit where
  spaces := ⟨⟨true, true, true⟩, fun _ => BaseFlags.runtimeSpace ⟨true, true, true⟩ ⟨none, 0⟩⟩
  user := none
  runtime := .other 0
  rt := ⟨none, 0⟩
  runtime_space := rfl

theorem bareSpaces_unknown : bareSpaces.staticNode ⟨1, .numeric 1000⟩ = none := by
  rw [staticNode_eq_none_iff]
  intro a ha node hnode
  obtain rfl | rfl : a = .other 0 ∨ a = .base := by simpa [ServerSpaces.refs, bareSpaces] using ha
  · obtain rfl | rfl := List.mem_pair.mp hnode
    · rfl
    · rfl
  · exact base_not_serverRange _ 1000 node hnode

def addOneNode : Bytes :=
  [1, 0, 0, 0, 0, 0x55, 0, 0x23, 1, 1, 0, 0, 1, 0, 1, 0, 0, 0, 0x61, 1, 0, 0, 0, 0, 0, 0, 0, 0x3A]

def userSpaces (node : SpaceNode Unit) : ServerSpaces Unit where
  spaces := ⟨⟨true, true, true⟩, fun n =>
    if n = 0 then BaseFlags.runtimeSpace ⟨true, true, true⟩ ⟨none, 0⟩ else .ofList [node]⟩
  user := some (.other 1)
  runtime := .other 0
  rt := ⟨none, 0⟩
  runtime_space := rfl

/-- The user address space has the NodeId that the server gives to the first node that is added. -/
def sharedSpaces : ServerSpaces Unit :=
  userSpaces ⟨⟨some (.static (.scalar (.int32 7)))⟩, ⟨1, .numeric 1000⟩, 2, none, none, .null⟩

theorem added_node_resolved_iff_shared :
    let s := requestRun .default true [.addNodes addOneNode]
    let id : NodeId := ⟨1, .numeric 1000⟩
    sharedSpaces.Valid ∧ (addNodesProcess .default true addOneNode (.init .default)).1 = .ok [.ok id] ∧
      (∃ v ∈ s.nodeValues, v.nodeId = id) ∧
      Resolved sharedSpaces none s ((.init : SpaceIndex 4), ()) id := by
  intro s id
  have hvalid : sharedSpaces.Valid := by
    rintro a ⟨⟩
    rfl
  refine ⟨hvalid, by decide +kernel, by decide +kernel, ?_⟩
  refine (added_node_resolved_iff hvalid .refl ⟨?_, ?_⟩ () .default true _ id).mpr ⟨.other 1, ?_, _,
    List.mem_singleton.mpr rfl, rfl⟩
  · rintro a ⟨⟩ node hnode read hread
    obtain rfl := List.mem_singleton.mp hnode
    cases hread
  · rintro write ⟨⟩
  · exact List.mem_append_left _ (List.mem_append_left _ (List.mem_singleton.mpr rfl))

/-- A node is added with GOOD and is there, and the four services do not know it. -/
theorem added_node_unknown :
    let s := managementRun .default [.addNode (plainItem 0)]
    let id : NodeId := ⟨1, .numeric 1000⟩
    (addNode .default (plainItem 0) (.init .default)).1 = .ok id ∧ (∃ v ∈ s.nodeValues, v.nodeId = id) ∧
      ((readNode bareSpaces ⟨id, 2, none, 0, none⟩ : AccessM Unit 4 _) (.init, ())).1.status =
        some Fault.nodeIdUnknown.code ∧
      ((writeNode bareSpaces none ⟨id, 13, none, ⟨some .null, none, none, none⟩⟩ : AccessM Unit 4 _)
        (.init, ())).1 = Fault.nodeIdUnknown.code ∧
      ((browseNode bareSpaces s 0 32 ⟨id, 2, .ns0 0, false, 0, 63⟩ : AccessM Unit 4 _) (.init, ())).1 =
        .error .nodeIdUnknown ∧
      ∀ (b : Build) (body : MonitoredItemCreateBody), body.nodeId = id →
        createItemCheck b body
            (((bareSpaces.resolve body.nodeId.raw : AccessM Unit 4 _) (.init, ())).1.map (·.toNode)) =
          .error .nodeIdUnknown := by
  intro s id
  have hindex : (SpaceIndex.init : SpaceIndex 4).Sound bareSpaces.spaces := SpaceIndex.init_sound
  have hvalid : bareSpaces.Valid := nofun
  have hanswer {α : Type} (unknown : α) (known : SpaceNode Unit → α) :
      bareSpaces.answer id unknown known = unknown := by
    rw [ServerSpaces.answer, bareSpaces_unknown]
  refine ⟨by decide, by decide, ?_, ?_, ?_, ?_⟩
  · rw [readNode_eq hindex hvalid, hanswer]
  · rw [writeNode_eq hindex hvalid, hanswer]
  · obtain ⟨index', hbrowse⟩ := browseNode_eq hindex hvalid () s 0 32
      (show (⟨id, 2, .ns0 0, false, 0, 63⟩ : BrowseDescription).browseDirection ≤ 2 by decide)
    rw [hbrowse, hanswer]
  · rintro b body hid
    rw [createItemCheck_eq hindex hvalid, hid, hanswer]

end MicroOpcua
