import MicroOpcua.AddressSpace.Lookup
import MicroOpcua.Services.NodeManagementLaws

namespace MicroOpcua

variable {W : Type} {l : DynamicLimits} {s : DynamicSpace} {m : Spaces W} {user : Option SpaceRef}

section Deletion

/-- In every state a run can reach, the items of a DeleteNodes or DeleteReferences request do, one after
the other, what their results say, and every state on the way is sound. -/
theorem deletion_is_exact (l : DynamicLimits) (ops : List ManagementOp) (allow : Bool)
    (request : Bytes) :
    let s := managementRun l ops
    s.Sound l ∧
      RequestEffect deleteNodesRequestDecode (fun item r s t =>
        t.Sound l ∧ NodeDeleted item r s t) request s (deleteNodesProcess allow request s) ∧
      RequestEffect deleteReferencesRequestDecode (fun item r s t =>
        t.Sound l ∧ ReferenceDeleted item r s t) request s
            (deleteReferencesProcess allow request s) := by
  intro s
  have hs : s.Sound l := managementRun_sound l ops
  refine ⟨hs, ?_, ?_⟩
  · exact processRequest_effect (fun item _ hs => deleteNode_spec hs item) allow _ request hs
  · exact processRequest_effect (fun item _ hs => deleteReference_spec hs item) allow _ request hs

end Deletion

section Fresh

def Present (m : Spaces W) (user : Option SpaceRef) (s : DynamicSpace) (id : NodeId) : Prop :=
  (∃ v ∈ s.nodeValues, v.nodeId = id) ∨
    ∃ a ∈ user.toList ++ [.base], ∃ node ∈ (m.get a).items, node.nodeId.equal id.raw = true

/-- The NodeId of the item is taken: the one it asks for or, where it asks for none, the one of namespace
1 behind the number of dynamic nodes. -/
def AddNodesItem.Clashes (m : Spaces W) (user : Option SpaceRef) (item : AddNodesItem)
    (s : DynamicSpace) : Prop :=
  if item.requestedNewNodeId.nodeId.identifier = .numeric 0
  then Present m user s ⟨1, .numeric (1000 + UInt32.ofNat s.nodesCount)⟩
  else Present m user s item.requestedNewNodeId.nodeId

/-- `P` holds at every AddNodes item of the run that is reported GOOD, of the state before it and the
NodeId returned. -/
def AtAdds (l : DynamicLimits) (ops : List ManagementOp)
    (P : DynamicSpace → AddNodesItem → NodeId → Prop) : Prop :=
  ∀ before item after id, ops = before ++ .addNode item :: after →
    (addNode l item (managementRun l before)).1 = .ok id → P (managementRun l before) item id

theorem addNode_ok {item : AddNodesItem} {id : NodeId} (h : (addNode l item s).1 = .ok id) :
    id = item.newNodeId s ∧ ∃ displayName, item.check l s = .ok displayName ∧ (addNode l item s).2 =
      s.storeNode ⟨item.newNodeId s, item.nodeClass, item.browseName.2, displayName⟩ := by
  unfold addNode at h ⊢
  cases hcheck : item.check l s with
  | error e =>
    rw [hcheck] at h
    cases h
  | ok displayName =>
    rw [hcheck] at h
    exact ⟨(Except.ok.inj h).symm, displayName, rfl, rfl⟩

theorem present_newNodeId (item : AddNodesItem) : Present m user s (item.newNodeId s) ↔
    item.Clashes m user s := by
  unfold AddNodesItem.newNodeId AddNodesItem.Clashes
  split
  · rename_i hid
    rw [if_pos hid]
  · rename_i hid
    rw [if_neg hid]

def serverRange (id : NodeId) : Prop := ∃ n : UInt32, 1000 ≤ n ∧ id = ⟨1, .numeric n⟩

/-- The step deletes no node, and a NodeId it asks for is neither taken nor one that AddNodes gives out
itself. -/
def ManagementOp.Orderly (m : Spaces W) (user : Option SpaceRef) (s : DynamicSpace) : ManagementOp → Prop
  | .addNode item => item.requestedNewNodeId.nodeId.identifier = .numeric 0 ∨
      ¬ Present m user s item.requestedNewNodeId.nodeId ∧ ¬ serverRange item.requestedNewNodeId.nodeId
  | .deleteNode _ => False
  | _ => True

def Numbered (s : DynamicSpace) : Prop :=
  ∀ (i : Nat) (v : NodeValue), s.nodeValues[i]? = some v → ∀ n : UInt32, 1000 ≤ n →
    v.nodeId = ⟨1, .numeric n⟩ → n = 1000 + UInt32.ofNat i

theorem nodeValues_length (s : DynamicSpace) : s.nodeValues.length = s.nodesCount := by
  simp [DynamicSpace.nodeValues]

theorem addNode_numbered (hs : s.Sound l) (hnumbered : Numbered s) (item : AddNodesItem)
    (horderly : (ManagementOp.addNode item).Orderly m user s) : Numbered (addNode l item s).2 := by
  cases hadd : (addNode l item s).1 with
  | error e =>
    have hsame : (addNode l item s).2 = s := by
      unfold addNode at hadd ⊢
      cases hcheck : item.check l s with
      | error e => rfl
      | ok name =>
        rw [hcheck] at hadd
        cases hadd
    rwa [hsame]
  | ok id =>
    obtain ⟨-, displayName, hcheck, hstore⟩ := addNode_ok hadd
    obtain ⟨hroom, hfits⟩ := AddNodesItem.check_ok hcheck
    obtain ⟨-, hvalues, -⟩ := storeNode_sound hs hroom hfits
    intro i v hv n hn hid
    rw [hstore, hvalues] at hv
    obtain hlt | hge := Nat.lt_or_ge i s.nodeValues.length
    · rw [List.getElem?_append_left hlt] at hv
      exact hnumbered i v hv n hn hid
    · obtain ⟨hi, rfl⟩ : i = s.nodeValues.length ∧ _ = v := by
        rw [List.getElem?_append_right hge, List.getElem?_singleton] at hv
        split at hv
        · exact ⟨by omega, Option.some.inj hv⟩
        · cases hv
      rw [hi, nodeValues_length]
      unfold AddNodesItem.newNodeId at hid
      split at hid
      · exact (Identifier.numeric.inj (NodeId.mk.inj hid).2).symm
      · rename_i hrequested
        exact absurd ⟨n, hn, hid⟩ (horderly.resolve_left hrequested).2

theorem ManagementOp.apply_numbered (hs : s.Sound l) (hnumbered : Numbered s) {op : ManagementOp}
    (horderly : op.Orderly m user s) : Numbered (op.apply l s) := by
  have hsame {t : DynamicSpace} (h : t.nodeValues = s.nodeValues) : Numbered t := by
    unfold Numbered
    rwa [h]
  cases op with
  | addNode item => exact addNode_numbered hs hnumbered item horderly
  | addReference item => exact hsame (addReference_sound hs item).2
  | deleteNode item => exact horderly.elim
  | deleteReference item => exact hsame (deleteReference_spec hs item).2.nodeValues

def OrderlyRun (m : Spaces W) (user : Option SpaceRef) (l : DynamicLimits)
    (ops : List ManagementOp) : Prop :=
  ∀ before op after, ops = before ++ op :: after → op.Orderly m user (managementRun l before)

theorem OrderlyRun.numbered {ops : List ManagementOp} (h : OrderlyRun m user l ops) :
    Numbered (managementRun l ops) := by
  induction ops using List.reverseRecOn with
  | nil => exact fun i v hv => nomatch hv
  | append_singleton ops op ih =>
    rw [managementRun, List.foldl_append]
    apply ManagementOp.apply_numbered (managementRun_sound l ops) (m := m)
    · apply ih
      intro before op' after hops
      apply h before op' (after ++ [op])
      rw [hops, List.append_assoc, List.cons_append]
    · exact h ops op [] rfl

theorem base_not_serverRange (f : BaseFlags) (n : UInt32) (node : SpaceNode W)
    (h : node ∈ f.baseSpace.items) : node.nodeId.equal (NodeId.raw ⟨1, .numeric n⟩) = false := by
  unfold BaseFlags.baseSpace at h
  split at h
  · obtain ⟨row, -, rfl⟩ := List.mem_map.mp h
    rfl
  · cases h

theorem serverId_not_present (hnumbered : Numbered s) (hcount : s.nodesCount < 2 ^ 32 - 1000)
    (huser : ∀ a ∈ user, ∀ node ∈ (m.get a).items, ∀ id, serverRange id →
      node.nodeId.equal id.raw = false) :
    ¬ Present m user s ⟨1, .numeric (1000 + UInt32.ofNat s.nodesCount)⟩ := by
  have hnat : ∀ i, i ≤ s.nodesCount → (1000 + UInt32.ofNat i).toNat = 1000 + i := by
    intro i hi
    rw [UInt32.toNat_add, UInt32.toNat_ofNat_of_lt' (by omega : i < 2 ^ 32)]
    exact Nat.mod_eq_of_lt (by simp; omega)
  have hrange : (1000 : UInt32) ≤ 1000 + UInt32.ofNat s.nodesCount := by
    rw [UInt32.le_iff_toNat_le, hnat _ (Nat.le_refl _)]
    exact Nat.le_add_right _ _
  rintro (⟨v, hv, hid⟩ | ⟨a, ha, node, hnode, hequal⟩)
  · obtain ⟨i, hi, rfl⟩ := List.mem_iff_getElem.mp hv
    have hlt : i < s.nodesCount := nodeValues_length s ▸ hi
    have heq := hnumbered i _ (List.getElem?_eq_getElem hi) _ hrange hid
    have heq := congrArg UInt32.toNat heq
    rw [hnat _ (Nat.le_refl _), hnat i hlt.le] at heq
    omega
  · obtain ha | ha := List.mem_append.mp ha
    · have hfalse := huser a (Option.mem_toList.mp ha) node hnode _ ⟨_, hrange, rfl⟩
      rw [hequal] at hfalse
      cases hfalse
    · obtain rfl := List.mem_singleton.mp ha
      have hfalse := base_not_serverRange m.flags (1000 + UInt32.ofNat s.nodesCount) node hnode
      rw [hequal] at hfalse
      cases hfalse

/-- In every run, each NodeId that AddNodes reports GOOD is new in the three address spaces exactly when
none of the items clashes with a node that is there before it. So it is in a run that deletes no node,
where clients only ask for free NodeIds outside namespace 1 from 1000 on, which the user address space
has none of either. -/
theorem added_ids_new_iff (m : Spaces W) (user : Option SpaceRef) (l : DynamicLimits)
    (ops : List ManagementOp) :
    (AtAdds l ops (fun s _ id => ¬ Present m user s id) ↔
      AtAdds l ops (fun s item _ => ¬ item.Clashes m user s)) ∧
        (l.maxNodes ≤ 2 ^ 32 - 1000 → OrderlyRun m user l ops →
          (∀ a ∈ user, ∀ node ∈ (m.get a).items, ∀ id, serverRange id →
            node.nodeId.equal id.raw = false) →
        AtAdds l ops (fun s _ id => ¬ Present m user s id)) := by
  have hiff : AtAdds l ops (fun s _ id => ¬ Present m user s id) ↔
      AtAdds l ops (fun s item _ => ¬ item.Clashes m user s) := by
    constructor
    · intro h before item after id hops hadd
      rw [← present_newNodeId, ← (addNode_ok hadd).1]
      exact h before item after id hops hadd
    · intro h before item after id hops hadd
      rw [(addNode_ok hadd).1, present_newNodeId]
      exact h before item after id hops hadd
  refine ⟨hiff, fun hmax horderly huser => hiff.mpr ?_⟩
  intro before item after id hops hadd
  have hnumbered : Numbered (managementRun l before) := by
    have horderly' : OrderlyRun m user l before := by
      intro before' op after' hbefore
      apply horderly before' op (after' ++ .addNode item :: after)
      rw [hops, hbefore, List.append_assoc, List.cons_append]
    exact horderly'.numbered
  obtain ⟨-, displayName, hcheck, -⟩ := addNode_ok hadd
  have hroom := (AddNodesItem.check_ok hcheck).1
  unfold AddNodesItem.Clashes
  split
  · exact serverId_not_present hnumbered (by omega) huser
  · rename_i hrequested
    exact ((horderly before (.addNode item) after hops).resolve_left hrequested).1

def plainItem (n : UInt32) : AddNodesItem where
  parentNodeId := .ns0 85
  referenceTypeId := .ns0 35
  requestedNewNodeId := ⟨⟨1, .numeric n⟩, none, 0⟩
  browseName := (1, some [0x61])
  nodeClass := 1
  nodeAttributesTypeId := .ns0 0
  nodeAttributes := []
  typeDefinition := ⟨.ns0 58, none, 0⟩

theorem added_ids_new_iff_two_nodes : AtAdds .default [.addNode (plainItem 7), .addNode (plainItem 0)]
      (fun s _ id => ¬ Present (W := Unit) ⟨⟨true, true, false⟩, fun _ => .null⟩ none s id) := by
  apply (added_ids_new_iff _ none .default _).2 (by decide)
  · intro before op after hops
    match before with
    | [] =>
      obtain ⟨rfl, -⟩ := List.cons.inj hops
      refine Or.inr ⟨?_, ?_⟩
      · rintro (⟨v, hv, -⟩ | ⟨a, ha, node, hnode, hequal⟩)
        · cases hv
        · obtain rfl := List.mem_singleton.mp ha
          exact absurd hequal (Bool.eq_false_iff.mp (base_not_serverRange _ 7 node hnode))
      · rintro ⟨n, hn, hid⟩
        obtain rfl := Identifier.numeric.inj (NodeId.mk.inj hid).2
        exact absurd hn (by decide)
    | [_] =>
      obtain ⟨-, hops⟩ := List.cons.inj hops
      obtain ⟨rfl, -⟩ := List.cons.inj hops
      exact Or.inl rfl
    | _ :: _ :: before =>
      obtain ⟨-, hops⟩ := List.cons.inj hops
      obtain ⟨-, hops⟩ := List.cons.inj hops
      exact absurd hops (by simp)
  · exact nofun

/-- Two nodes are added, the first is deleted, and the third gets the NodeId of the second. -/
theorem added_id_repeats :
    let node : SpaceNode Unit := ⟨⟨none⟩, .ns0 5000, 1, none, none, .null⟩
    let m : Spaces Unit := ⟨⟨true, false, false⟩, fun _ => .ofList [node]⟩
    let add : ManagementOp := .addNode (plainItem 0)
    let ops := [add, add, .deleteNode ⟨⟨1, .numeric 1000⟩, false⟩]
    validate m (.other 0) = .ok () ∧
      (addNode .default (plainItem 0) (managementRun .default ops)).1 = .ok ⟨1, .numeric 1001⟩ ∧
      Present m (some (.other 0)) (managementRun .default ops) ⟨1, .numeric 1001⟩ ∧
      ¬ AtAdds .default (ops ++ [add]) (fun s _ id => ¬ Present m (some (.other 0)) s id) := by
  intro node m add ops
  have hadded :
      (addNode .default (plainItem 0) (managementRun .default ops)).1 = .ok ⟨1, .numeric 1001⟩ := by
    decide
  have hpresent : Present m (some (.other 0)) (managementRun .default ops) ⟨1, .numeric 1001⟩ := by
    left
    decide
  exact ⟨rfl, hadded, hpresent, fun h => h ops (plainItem 0) [] ⟨1, .numeric 1001⟩ rfl hadded hpresent⟩

end Fresh

end MicroOpcua
