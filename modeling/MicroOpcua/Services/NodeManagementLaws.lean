import MicroOpcua.Lib.SwapRemove
import MicroOpcua.Services.NodeManagement

namespace MicroOpcua

open Lib.SwapRemove Lib.StateRun

variable {l : DynamicLimits} {s : DynamicSpace} {st st' : Storage} {row dest : Row} {limit i j : Nat}

section Strings

theorem Storage.write_same (st : Storage) (row : Row) (bs : Bytes) :
    (st.write row bs) row = bs ++ (st row).drop bs.length := if_pos rfl

theorem Storage.write_other (bs : Bytes) (h : row ≠ dest) : (st.write dest bs) row = st row := if_neg h

def OwnedString (st : Storage) (row : Row) (limit : Nat) (x : StoredString) : Prop :=
  ∀ p ∈ x, p.1 = row ∧ p.2 ≤ limit ∧ p.2 ≤ (st row).length

def OwnedNodeId (st : Storage) (row : Row) (limit : Nat) (n : StoredNodeId) : Prop :=
  ∀ x, n.identifier = .string x → OwnedString st row limit x

theorem dynamicStringCopy_string (dest : Row) (source : MuString) (st : Storage) :
    (dynamicStringCopy dest source st).2.string (dynamicStringCopy dest source st).1 = source := by
  cases source with
  | none => rfl
  | some bs => simp [dynamicStringCopy, Storage.string, Storage.read, Storage.write_same]

theorem dynamicStringCopy_owned {source : MuString} (dest : Row) (st : Storage)
    (h : dynamicStringFits source limit = true) :
    OwnedString (dynamicStringCopy dest source st).2 dest limit
      (dynamicStringCopy dest source st).1 := by
  intro p hp
  cases source with
  | none => cases hp
  | some bs =>
    obtain rfl := Option.some.inj hp
    refine ⟨rfl, ?_, ?_⟩
    · exact of_decide_eq_true h
    · simp [dynamicStringCopy, Storage.write_same]

theorem dynamicStringCopy_other (dest : Row) (source : MuString) (h : row ≠ dest) :
    (dynamicStringCopy dest source st).2 row = st row := by
  cases source with
  | none => rfl
  | some bs => exact Storage.write_other bs h

theorem OwnedString.congr {x : StoredString} (h : OwnedString st row limit x) (hrow : st' row = st row) :
    OwnedString st' row limit x ∧ st'.string x = st.string x := by
  refine ⟨fun p hp => ?_, ?_⟩
  · rw [hrow]
    exact h p hp
  · cases x with
    | none => rfl
    | some p =>
      obtain ⟨hp, -, -⟩ := h p rfl
      simp [Storage.string, Storage.read, hp, hrow]

theorem moveString_eq {buffer : Buffer} {x : StoredString} {source : Nat} (st' : Storage) (dest : Nat)
    (h : OwnedString st ⟨buffer, source⟩ limit x) (hrow : st' ⟨buffer, source⟩ = st ⟨buffer, source⟩) :
    moveString buffer dest source x st' = dynamicStringCopy ⟨buffer, dest⟩ (st.string x) st' := by
  cases x with
  | none => rfl
  | some p =>
    obtain ⟨hp, -, hlength⟩ := h p rfl
    simp [moveString, dynamicStringCopy, Storage.string, Storage.read, hp, hrow, Nat.min_eq_left hlength]

theorem dynamicNodeIdCopy_nodeId (dest : Row) (source : NodeId) (st : Storage) :
    (dynamicNodeIdCopy dest source st).2.nodeId (dynamicNodeIdCopy dest source st).1 = source := by
  obtain ⟨ns, identifier⟩ := source
  cases identifier with
  | numeric id => rfl
  | string x =>
    have hstring := dynamicStringCopy_string dest x st
    simp only [dynamicNodeIdCopy, Storage.nodeId, hstring]

theorem dynamicNodeIdCopy_owned {source : NodeId} (dest : Row) (st : Storage)
    (h : dynamicNodeIdFits source limit = true) :
    OwnedNodeId (dynamicNodeIdCopy dest source st).2 dest limit
      (dynamicNodeIdCopy dest source st).1 := by
  obtain ⟨ns, identifier⟩ := source
  intro x hx
  cases identifier with
  | numeric id => cases hx
  | string y =>
    obtain rfl := StoredIdentifier.string.inj hx
    exact dynamicStringCopy_owned dest st h

theorem dynamicNodeIdCopy_other (dest : Row) (source : NodeId) (h : row ≠ dest) :
    (dynamicNodeIdCopy dest source st).2 row = st row := by
  obtain ⟨ns, identifier⟩ := source
  cases identifier with
  | numeric id => rfl
  | string x => exact dynamicStringCopy_other dest x h

theorem OwnedNodeId.congr {n : StoredNodeId} (h : OwnedNodeId st row limit n) (hrow : st' row = st row) :
    OwnedNodeId st' row limit n ∧ st'.nodeId n = st.nodeId n := by
  obtain ⟨ns, identifier⟩ := n
  cases identifier with
  | numeric id => exact ⟨nofun, rfl⟩
  | string x =>
    obtain ⟨howned, hstring⟩ := OwnedString.congr (h x rfl) hrow
    refine ⟨fun y hy => ?_, ?_⟩
    · obtain rfl := StoredIdentifier.string.inj hy
      exact howned
    · simp only [Storage.nodeId, hstring]

end Strings

section Values

def Storage.nodeValue (st : Storage) (n : DynamicNode) : NodeValue :=
  ⟨st.nodeId n.nodeId, n.nodeClass, st.string n.browseName, st.string n.displayName⟩

def Storage.referenceValue (st : Storage) (r : DynamicReference) : ReferenceValue :=
  ⟨st.nodeId r.sourceNodeId, st.nodeId r.referenceTypeId, st.nodeId r.targetId, r.isForward⟩

def DynamicSpace.nodeAt (s : DynamicSpace) (i : Nat) : NodeValue :=
  s.storage.nodeValue (s.nodes.getD i .zero)

def DynamicSpace.referenceAt (s : DynamicSpace) (i : Nat) : ReferenceValue :=
  s.storage.referenceValue (s.references.getD i .zero)

def DynamicSpace.nodeValues (s : DynamicSpace) : List NodeValue := (List.range s.nodesCount).map s.nodeAt

def DynamicSpace.referenceValues (s : DynamicSpace) : List ReferenceValue :=
  (List.range s.referencesCount).map s.referenceAt

structure OwnedNode (l : DynamicLimits) (st : Storage) (i : Nat) (n : DynamicNode) : Prop where
  nodeId : OwnedNodeId st ⟨.stringNodeId, i⟩ l.stringNodeIdLength n.nodeId
  browseName : OwnedString st ⟨.browseName, i⟩ l.browseNameLength n.browseName
  displayName : OwnedString st ⟨.displayName, i⟩ l.displayNameLength n.displayName

structure OwnedReference (l : DynamicLimits) (st : Storage) (i : Nat) (r : DynamicReference) : Prop where
  source : OwnedNodeId st ⟨.referenceSource, i⟩ l.referenceStringNodeIdLength r.sourceNodeId
  type : OwnedNodeId st ⟨.referenceType, i⟩ l.referenceStringNodeIdLength r.referenceTypeId
  target : OwnedNodeId st ⟨.referenceTarget, i⟩ l.referenceStringNodeIdLength r.targetId

/-- The counts are within the arrays, and every string of a slot in use is in the slot's own row. -/
structure DynamicSpace.Sound (l : DynamicLimits) (s : DynamicSpace) : Prop where
  nodesLength : s.nodes.length = l.maxNodes
  nodesCount : s.nodesCount ≤ l.maxNodes
  referencesLength : s.references.length = l.maxReferences
  referencesCount : s.referencesCount ≤ l.maxReferences
  node : ∀ i, i < s.nodesCount → OwnedNode l s.storage i (s.nodes.getD i .zero)
  reference : ∀ i, i < s.referencesCount → OwnedReference l s.storage i (s.references.getD i .zero)

theorem DynamicSpace.init_sound : (DynamicSpace.init l).Sound l where
  nodesLength := List.length_replicate
  nodesCount := Nat.zero_le _
  referencesLength := List.length_replicate
  referencesCount := Nat.zero_le _
  node i hi := absurd hi (Nat.not_lt_zero i)
  reference i hi := absurd hi (Nat.not_lt_zero i)

def NodeValue.Fits (l : DynamicLimits) (v : NodeValue) : Prop :=
  dynamicNodeIdFits v.nodeId l.stringNodeIdLength = true ∧
    dynamicStringFits v.browseName l.browseNameLength = true ∧
    dynamicStringFits v.displayName l.displayNameLength = true

def ReferenceValue.Fits (l : DynamicLimits) (v : ReferenceValue) : Prop :=
  dynamicNodeIdFits v.sourceNodeId l.referenceStringNodeIdLength = true ∧
    dynamicNodeIdFits v.referenceTypeId l.referenceStringNodeIdLength = true ∧
    dynamicNodeIdFits v.targetId l.referenceStringNodeIdLength = true

theorem OwnedString.fits {x : StoredString} (h : OwnedString st row limit x) :
    dynamicStringFits (st.string x) limit = true := by
  cases x with
  | none => rfl
  | some p =>
    obtain ⟨-, hlimit, -⟩ := h p rfl
    have hread : (st.read p.1 p.2).length ≤ limit := (List.length_take_le _ _).trans hlimit
    exact decide_eq_true hread

theorem OwnedNodeId.fits {n : StoredNodeId} (h : OwnedNodeId st row limit n) :
    dynamicNodeIdFits (st.nodeId n) limit = true := by
  obtain ⟨ns, identifier⟩ := n
  cases identifier with
  | numeric id => rfl
  | string x => exact (h x rfl).fits

theorem OwnedNode.fits {n : DynamicNode} (h : OwnedNode l st i n) : (st.nodeValue n).Fits l :=
  ⟨h.nodeId.fits, h.browseName.fits, h.displayName.fits⟩

theorem OwnedReference.fits {r : DynamicReference} (h : OwnedReference l st i r) :
    (st.referenceValue r).Fits l :=
  ⟨h.source.fits, h.type.fits, h.target.fits⟩

theorem OwnedNode.congr {n : DynamicNode} (h : OwnedNode l st i n)
    (hrows : ∀ buffer ∈ [Buffer.stringNodeId, .browseName, .displayName], st' ⟨buffer, i⟩ =
      st ⟨buffer, i⟩) :
    OwnedNode l st' i n ∧ st'.nodeValue n = st.nodeValue n := by
  obtain ⟨hid, hid'⟩ := h.nodeId.congr (hrows .stringNodeId (by simp))
  obtain ⟨hbrowse, hbrowse'⟩ := h.browseName.congr (hrows .browseName (by simp))
  obtain ⟨hdisplay, hdisplay'⟩ := h.displayName.congr (hrows .displayName (by simp))
  refine ⟨⟨hid, hbrowse, hdisplay⟩, ?_⟩
  rw [Storage.nodeValue, hid', hbrowse', hdisplay']
  rfl

theorem OwnedReference.congr {r : DynamicReference} (h : OwnedReference l st i r)
    (hrows : ∀ buffer ∈ [Buffer.referenceSource, .referenceType, .referenceTarget],
      st' ⟨buffer, i⟩ = st ⟨buffer, i⟩) :
    OwnedReference l st' i r ∧ st'.referenceValue r = st.referenceValue r := by
  obtain ⟨hsource, hsource'⟩ := h.source.congr (hrows .referenceSource (by simp))
  obtain ⟨htype, htype'⟩ := h.type.congr (hrows .referenceType (by simp))
  obtain ⟨htarget, htarget'⟩ := h.target.congr (hrows .referenceTarget (by simp))
  refine ⟨⟨hsource, htype, htarget⟩, ?_⟩
  rw [Storage.referenceValue, hsource', htype', htarget']
  rfl

end Values

section Put

theorem nodeMove_eq {source : Nat} (dest : Nat)
    (h : OwnedNode l s.storage source (s.nodes.getD source .zero)) :
    s.nodeMove dest source = s.putNode dest (s.nodeAt source) := by
  simp only [DynamicSpace.nodeMove, DynamicSpace.nodeAt, DynamicSpace.putNode, Storage.nodeValue]
  generalize s.nodes.getD source .zero = moved at h
  obtain ⟨⟨ns, identifier⟩, nodeClass, browseName, displayName⟩ := moved
  -- the storage after the NodeId has gone over, which still has the names of the source slot
  have hnames : ∀ st : Storage, (∀ slot, st ⟨.browseName, slot⟩ = s.storage ⟨.browseName, slot⟩) →
      (∀ slot, st ⟨.displayName, slot⟩ = s.storage ⟨.displayName, slot⟩) →
      moveString .browseName dest source browseName st =
          dynamicStringCopy ⟨.browseName, dest⟩ (s.storage.string browseName) st ∧
        moveString .displayName dest source displayName
            (dynamicStringCopy ⟨.browseName, dest⟩ (s.storage.string browseName) st).2 =
          dynamicStringCopy ⟨.displayName, dest⟩ (s.storage.string displayName)
            (dynamicStringCopy ⟨.browseName, dest⟩ (s.storage.string browseName) st).2 := by
    intro st hbrowse hdisplay
    refine ⟨moveString_eq st dest h.browseName (hbrowse source), moveString_eq _ dest h.displayName ?_⟩
    rw [dynamicStringCopy_other _ _ (by simp)]
    exact hdisplay source
  cases identifier with
  | numeric id =>
    obtain ⟨hbrowse, hdisplay⟩ := hnames s.storage (fun _ => rfl) (fun _ => rfl)
    simp only [Storage.nodeId, dynamicNodeIdCopy, hbrowse, hdisplay]
  | string x =>
    have hid := moveString_eq s.storage dest (h.nodeId x rfl) rfl
    obtain ⟨hbrowse, hdisplay⟩ :=
      hnames (dynamicStringCopy ⟨.stringNodeId, dest⟩ (s.storage.string x) s.storage).2 (fun _ =>
        dynamicStringCopy_other _ _ (by simp)) (fun _ => dynamicStringCopy_other _ _ (by simp))
    simp only [Storage.nodeId, dynamicNodeIdCopy, hid, hbrowse, hdisplay]

theorem referenceMove_eq {source : Nat} (dest : Nat)
    (h : OwnedReference l s.storage source (s.references.getD source .zero)) :
    s.referenceMove dest source = s.putReference dest (s.referenceAt source) := by
  simp only [DynamicSpace.referenceMove, DynamicSpace.referenceAt, DynamicSpace.putReference,
    Storage.referenceValue]
  generalize s.references.getD source .zero = moved at h
  have htype := (h.type.congr (dynamicNodeIdCopy_other ⟨.referenceSource, dest⟩
    (s.storage.nodeId moved.sourceNodeId) (by simp))).2
  have htarget := h.target.congr (dynamicNodeIdCopy_other ⟨.referenceSource, dest⟩
    (s.storage.nodeId moved.sourceNodeId) (by simp))
  have htarget' := (htarget.1.congr (dynamicNodeIdCopy_other ⟨.referenceType, dest⟩
    (s.storage.nodeId moved.referenceTypeId) (by simp))).2
  simp only [htype, htarget', htarget.2]

theorem Row.ne_of_outside {buffers : List Buffer} (h : row.slot ≠ i ∨ row.buffer ∉ buffers) :
    ∀ buffer ∈ buffers, row ≠ ⟨buffer, i⟩ := by
  rintro buffer hbuffer rfl
  obtain hslot | hslot := h
  · exact hslot rfl
  · exact hslot hbuffer

theorem putNode_other (v : NodeValue)
    (h : row.slot ≠ i ∨ row.buffer ∉ [Buffer.stringNodeId, .browseName, .displayName]) :
    (s.putNode i v).storage row = s.storage row := by
  have hne := Row.ne_of_outside h
  simp only [DynamicSpace.putNode]
  rw [dynamicStringCopy_other _ _ (hne .displayName (by simp)),
    dynamicStringCopy_other _ _ (hne .browseName (by simp)),
    dynamicNodeIdCopy_other _ _ (hne .stringNodeId (by simp))]

theorem putReference_other (v : ReferenceValue)
    (h : row.slot ≠ i ∨ row.buffer ∉ [Buffer.referenceSource, .referenceType, .referenceTarget]) :
    (s.putReference i v).storage row = s.storage row := by
  have hne := Row.ne_of_outside h
  simp only [DynamicSpace.putReference]
  rw [dynamicNodeIdCopy_other _ _ (hne .referenceTarget (by simp)),
    dynamicNodeIdCopy_other _ _ (hne .referenceType (by simp)),
    dynamicNodeIdCopy_other _ _ (hne .referenceSource (by simp))]

theorem putNode_slot {v : NodeValue} (hi : i < s.nodes.length) (hfits : v.Fits l) :
    OwnedNode l (s.putNode i v).storage i ((s.putNode i v).nodes.getD i .zero) ∧
      (s.putNode i v).nodeAt i = v := by
  obtain ⟨hid, hbrowse, hdisplay⟩ := hfits
  simp only [DynamicSpace.nodeAt, DynamicSpace.putNode, List.getD_eq_getElem?_getD,
    List.getElem?_set_self hi, Option.getD_some]
  have hid' := dynamicNodeIdCopy_nodeId ⟨.stringNodeId, i⟩ v.nodeId s.storage
  have hid := dynamicNodeIdCopy_owned ⟨.stringNodeId, i⟩ s.storage hid
  generalize dynamicNodeIdCopy ⟨.stringNodeId, i⟩ v.nodeId s.storage = c1 at hid hid' ⊢
  obtain ⟨hid, hid2⟩ := hid.congr (dynamicStringCopy_other ⟨.browseName, i⟩ v.browseName (by simp))
  have hbrowse' := dynamicStringCopy_string ⟨.browseName, i⟩ v.browseName c1.2
  have hbrowse := dynamicStringCopy_owned ⟨.browseName, i⟩ c1.2 hbrowse
  generalize dynamicStringCopy ⟨.browseName, i⟩ v.browseName c1.2 = c2 at hid hid2 hbrowse hbrowse' ⊢
  obtain ⟨hid, hid3⟩ := hid.congr (dynamicStringCopy_other ⟨.displayName, i⟩ v.displayName (by simp))
  obtain ⟨hbrowse, hbrowse2⟩ := hbrowse.congr
    (dynamicStringCopy_other ⟨.displayName, i⟩ v.displayName (by simp))
  refine ⟨⟨hid, hbrowse, dynamicStringCopy_owned _ _ hdisplay⟩, ?_⟩
  rw [Storage.nodeValue, hid3, hid2, hid', hbrowse2, hbrowse', dynamicStringCopy_string]

theorem putReference_slot {v : ReferenceValue} (hi : i < s.references.length) (hfits : v.Fits l) :
    OwnedReference l (s.putReference i v).storage i ((s.putReference i v).references.getD i .zero) ∧
      (s.putReference i v).referenceAt i = v := by
  obtain ⟨hsource, htype, htarget⟩ := hfits
  simp only [DynamicSpace.referenceAt, DynamicSpace.putReference, List.getD_eq_getElem?_getD,
    List.getElem?_set_self hi, Option.getD_some]
  have hsource' := dynamicNodeIdCopy_nodeId ⟨.referenceSource, i⟩ v.sourceNodeId s.storage
  have hsource := dynamicNodeIdCopy_owned ⟨.referenceSource, i⟩ s.storage hsource
  generalize dynamicNodeIdCopy ⟨.referenceSource, i⟩ v.sourceNodeId s.storage = c1 at hsource hsource' ⊢
  obtain ⟨hsource, hsource2⟩ := hsource.congr
    (dynamicNodeIdCopy_other ⟨.referenceType, i⟩ v.referenceTypeId (by simp))
  have htype' := dynamicNodeIdCopy_nodeId ⟨.referenceType, i⟩ v.referenceTypeId c1.2
  have htype := dynamicNodeIdCopy_owned ⟨.referenceType, i⟩ c1.2 htype
  generalize dynamicNodeIdCopy ⟨.referenceType, i⟩ v.referenceTypeId c1.2 =
    c2 at hsource hsource2 htype htype' ⊢
  obtain ⟨hsource, hsource3⟩ := hsource.congr
    (dynamicNodeIdCopy_other ⟨.referenceTarget, i⟩ v.targetId (by simp))
  obtain ⟨htype, htype2⟩ :=
    htype.congr (dynamicNodeIdCopy_other ⟨.referenceTarget, i⟩ v.targetId (by simp))
  refine ⟨⟨hsource, htype, dynamicNodeIdCopy_owned _ _ htarget⟩, ?_⟩
  rw [Storage.referenceValue, hsource3, hsource2, hsource', htype2, htype', dynamicNodeIdCopy_nodeId]

theorem owned_update {α : Type} {own : Nat → Prop} {f g : Nat → α} {n count : Nat} {v : α}
    (hself : own i ∧ g i = v) (hother : ∀ k, k < count → k ≠ i → own k ∧ g k = f k)
    (hslots : ∀ k, k < n → k < count ∨ k = i) :
    ∀ k, k < n → own k ∧ g k = Function.update f i v k := by
  intro k hk
  by_cases hki : k = i
  · subst hki
    rw [Function.update_self]
    exact hself
  · rw [Function.update_of_ne hki]
    exact hother k ((hslots k hk).resolve_right hki) hki

theorem putNode_sound (hs : s.Sound l) {v : NodeValue} {n : Nat} (hi : i < l.maxNodes) (hfits : v.Fits l)
    (hn : n ≤ l.maxNodes) (hslots : ∀ k, k < n → k < s.nodesCount ∨ k = i) :
    DynamicSpace.Sound l { s.putNode i v with nodesCount := n } ∧
      ({ s.putNode i v with nodesCount := n } : DynamicSpace).nodeValues =
        (List.range n).map (Function.update s.nodeAt i v) ∧
      ({ s.putNode i v with nodesCount := n } : DynamicSpace).referenceValues = s.referenceValues := by
  have hnodes : ∀ k, k < n → OwnedNode l (s.putNode i v).storage k ((s.putNode i v).nodes.getD k .zero) ∧
      (s.putNode i v).nodeAt k = Function.update s.nodeAt i v k := by
    refine owned_update (putNode_slot (hs.nodesLength ▸ hi) hfits) (fun k hk hki => ?_) hslots
    have hsame : (s.putNode i v).nodes.getD k .zero = s.nodes.getD k .zero := by
      simp only [DynamicSpace.putNode, List.getD_eq_getElem?_getD, List.getElem?_set_ne (Ne.symm hki)]
    rw [DynamicSpace.nodeAt, hsame]
    exact (hs.node k hk).congr (fun buffer _ => putNode_other v (Or.inl hki))
  have hreferences : ∀ k, k < s.referencesCount →
      OwnedReference l (s.putNode i v).storage k (s.references.getD k .zero) ∧
        (s.putNode i v).referenceAt k = s.referenceAt k := by
    intro k hk
    apply (hs.reference k hk).congr
    intro buffer hbuffer
    apply putNode_other v
    right
    revert hbuffer
    cases buffer <;> simp
  refine ⟨⟨?_, hn, hs.referencesLength, hs.referencesCount, fun k hk => (hnodes k hk).1,
    fun k hk => (hreferences k hk).1⟩, ?_, ?_⟩
  · rw [← hs.nodesLength]
    exact List.length_set
  · exact List.map_congr_left (fun k hk => (hnodes k (List.mem_range.mp hk)).2)
  · exact List.map_congr_left (fun k hk => (hreferences k (List.mem_range.mp hk)).2)

theorem putReference_sound (hs : s.Sound l) {v : ReferenceValue} {n : Nat} (hi : i < l.maxReferences)
    (hfits : v.Fits l) (hn : n ≤ l.maxReferences) (hslots : ∀ k, k < n → k < s.referencesCount ∨ k = i) :
    DynamicSpace.Sound l { s.putReference i v with referencesCount := n } ∧
      ({ s.putReference i v with referencesCount := n } : DynamicSpace).referenceValues =
        (List.range n).map (Function.update s.referenceAt i v) ∧
      ({ s.putReference i v with referencesCount := n } : DynamicSpace).nodeValues = s.nodeValues := by
  have hreferences : ∀ k, k < n →
      OwnedReference l (s.putReference i v).storage k ((s.putReference i v).references.getD k .zero) ∧
        (s.putReference i v).referenceAt k = Function.update s.referenceAt i v k := by
    refine owned_update (putReference_slot (hs.referencesLength ▸ hi) hfits) (fun k hk hki => ?_) hslots
    have hsame : (s.putReference i v).references.getD k .zero = s.references.getD k .zero := by
      simp only [DynamicSpace.putReference, List.getD_eq_getElem?_getD,
        List.getElem?_set_ne (Ne.symm hki)]
    rw [DynamicSpace.referenceAt, hsame]
    exact (hs.reference k hk).congr (fun buffer _ => putReference_other v (Or.inl hki))
  have hnodes : ∀ k, k < s.nodesCount →
      OwnedNode l (s.putReference i v).storage k (s.nodes.getD k .zero) ∧
        (s.putReference i v).nodeAt k = s.nodeAt k := by
    intro k hk
    apply (hs.node k hk).congr
    intro buffer hbuffer
    apply putReference_other v
    right
    revert hbuffer
    cases buffer <;> simp
  refine ⟨⟨hs.nodesLength, hs.nodesCount, ?_, hn, fun k hk => (hnodes k hk).1, fun k hk =>
    (hreferences k hk).1⟩, ?_, ?_⟩
  · rw [← hs.referencesLength]
    exact List.length_set
  · exact List.map_congr_left (fun k hk => (hreferences k (List.mem_range.mp hk)).2)
  · exact List.map_congr_left (fun k hk => (hnodes k (List.mem_range.mp hk)).2)

end Put

section Operations

theorem map_range_update {α : Type} (f : Nat → α) (n : Nat) (x : α) :
    (List.range (n + 1)).map (Function.update f n x) = (List.range n).map f ++ [x] := by
  rw [← map_range_set, List.range_succ, List.map_append, List.set_append_right _ _ (by simp)]
  simp

theorem storeNode_sound (hs : s.Sound l) {v : NodeValue} (hroom : s.nodesCount < l.maxNodes)
    (hfits : v.Fits l) : (s.storeNode v).Sound l ∧ (s.storeNode v).nodeValues = s.nodeValues ++ [v] ∧
      (s.storeNode v).referenceValues = s.referenceValues := by
  obtain ⟨hsound, hnodes, hreferences⟩ :=
    putNode_sound hs hroom hfits (n := s.nodesCount + 1) hroom (fun k hk => by omega)
  exact ⟨hsound, hnodes.trans (map_range_update _ _ _), hreferences⟩

theorem storeReference_sound (hs : s.Sound l) {v : ReferenceValue}
    (hroom : s.referencesCount < l.maxReferences) (hfits : v.Fits l) :
    (s.storeReference v).Sound l ∧ (s.storeReference v).referenceValues = s.referenceValues ++ [v] ∧
      (s.storeReference v).nodeValues = s.nodeValues := by
  obtain ⟨hsound, hreferences, hnodes⟩ :=
    putReference_sound hs hroom hfits (n := s.referencesCount + 1) hroom (fun k hk => by omega)
  exact ⟨hsound, hreferences.trans (map_range_update _ _ _), hnodes⟩

theorem removeNodeAt_sound (hs : s.Sound l) (hj : j < s.nodesCount) :
    (s.removeNodeAt j).Sound l ∧ (s.removeNodeAt j).nodeValues = swapRemove s.nodeValues j ∧
      (s.removeNodeAt j).referenceValues = s.referenceValues := by
  obtain ⟨last, hlast⟩ : ∃ last, s.nodesCount = last + 1 := ⟨s.nodesCount - 1, by omega⟩
  have hcount := hs.nodesCount
  have howned := hs.node last (by omega)
  have hvalues :
      swapRemove s.nodeValues j =
        (List.range last).map (Function.update s.nodeAt j (s.nodeAt last)) := by
    rw [DynamicSpace.nodeValues, hlast, swapRemove_range _ (by omega)]
  simp only [DynamicSpace.removeNodeAt, hlast, Nat.add_sub_cancel]
  by_cases hjl : j = last
  · rw [if_neg (not_not.mpr hjl), hvalues]
    have hshrunk : last ≤ l.maxNodes := by omega
    have hfirst : ∀ k, k < last → k < s.nodesCount := fun k hk => by omega
    refine ⟨⟨hs.nodesLength, hshrunk, hs.referencesLength, hs.referencesCount,
      fun k hk => hs.node k (hfirst k hk), hs.reference⟩, ?_, rfl⟩
    refine List.map_congr_left (fun k hk => ?_)
    have hk : k < last := List.mem_range.mp hk
    rw [Function.update_of_ne (by omega)]
    rfl
  · have hmove : ({ s with nodesCount := last } : DynamicSpace).nodeMove j last =
        { s.putNode j (s.nodeAt last) with nodesCount := last } := nodeMove_eq j howned
    rw [if_pos hjl, hvalues, hmove]
    exact putNode_sound hs (by omega) howned.fits (by omega) (fun k hk => by omega)

theorem removeReferenceAt_sound (hs : s.Sound l) (hj : j < s.referencesCount) :
    (s.removeReferenceAt j).Sound l ∧ (s.removeReferenceAt j).referencesCount + 1 = s.referencesCount ∧
      (s.removeReferenceAt j).referenceValues = swapRemove s.referenceValues j ∧
      (s.removeReferenceAt j).nodeValues = s.nodeValues := by
  obtain ⟨last, hlast⟩ : ∃ last, s.referencesCount = last + 1 := ⟨s.referencesCount - 1, by omega⟩
  have hcount := hs.referencesCount
  have howned := hs.reference last (by omega)
  have hvalues : swapRemove s.referenceValues j =
      (List.range last).map (Function.update s.referenceAt j (s.referenceAt last)) := by
    rw [DynamicSpace.referenceValues, hlast, swapRemove_range _ (by omega)]
  simp only [DynamicSpace.removeReferenceAt, hlast, Nat.add_sub_cancel]
  by_cases hjl : j = last
  · rw [if_neg (not_not.mpr hjl), hvalues]
    have hshrunk : last ≤ l.maxReferences := by omega
    have hfirst : ∀ k, k < last → k < s.referencesCount := fun k hk => by omega
    refine ⟨⟨hs.nodesLength, hs.nodesCount, hs.referencesLength, hshrunk, hs.node,
      fun k hk => hs.reference k (hfirst k hk)⟩, rfl, ?_, rfl⟩
    refine List.map_congr_left (fun k hk => ?_)
    have hk : k < last := List.mem_range.mp hk
    rw [Function.update_of_ne (by omega)]
    rfl
  · have hmove : ({ s with referencesCount := last } : DynamicSpace).referenceMove j last =
        { s.putReference j (s.referenceAt last) with referencesCount := last } :=
          referenceMove_eq j howned
    rw [if_pos hjl, hvalues, hmove]
    obtain ⟨hsound, hreferences, hnodes⟩ :=
      putReference_sound hs (i := j) (by omega) howned.fits (n := last) (by omega) (fun k hk => by omega)
    exact ⟨hsound, rfl, hreferences, hnodes⟩

def ReferenceValue.names (id : NodeId) (v : ReferenceValue) : Bool :=
  v.sourceNodeId = id || v.targetId = id

theorem removeReferencesOf_succ (id : NodeId) (rounds rIdx : Nat) (s : DynamicSpace) :
    removeReferencesOf id (rounds + 1) rIdx s =
      if (s.referenceAt rIdx).names id = true then
      removeReferencesOf id rounds rIdx (s.removeReferenceAt rIdx)
      else removeReferencesOf id rounds (rIdx + 1) s := by
  simp only [removeReferencesOf, ReferenceValue.names, Bool.or_eq_true, decide_eq_true_eq]
  rfl

theorem removeReferencesOf_sound (id : NodeId) (rounds rIdx : Nat) (hs : s.Sound l)
    (hrounds : s.referencesCount = rIdx + rounds) : (removeReferencesOf id rounds rIdx s).Sound l ∧
      (removeReferencesOf id rounds rIdx s).referenceValues =
        removeAll (ReferenceValue.names id) rounds rIdx s.referenceValues ∧
      (removeReferencesOf id rounds rIdx s).nodeValues = s.nodeValues := by
  induction rounds generalizing rIdx s with
  | zero => exact ⟨hs, rfl, rfl⟩
  | succ rounds ih =>
    have hidx : rIdx < s.referencesCount := by omega
    have hentry : s.referenceValues[rIdx]? = some (s.referenceAt rIdx) := by
      simp [DynamicSpace.referenceValues, hidx]
    rw [removeReferencesOf_succ, removeAll, hentry, Option.any_some]
    by_cases hnames : (s.referenceAt rIdx).names id = true
    · obtain ⟨hsound, hcount, hreferences, hnodes⟩ := removeReferenceAt_sound hs hidx
      obtain ⟨hsound', hreferences', hnodes'⟩ := ih rIdx hsound (by omega)
      rw [if_pos hnames, if_pos hnames, ← hreferences, ← hnodes]
      exact ⟨hsound', hreferences', hnodes'⟩
    · rw [if_neg hnames, if_neg hnames]
      exact ih (rIdx + 1) hs (by omega)

theorem AddNodesItem.check_ok {item : AddNodesItem} {displayName : MuString}
    (h : item.check l s = .ok displayName) :
    s.nodesCount < l.maxNodes ∧
      NodeValue.Fits l ⟨item.newNodeId s, item.nodeClass, item.browseName.2, displayName⟩ := by
  simp only [AddNodesItem.check, guard_eq_ok, bind_eq_ok, pure_eq_ok] at h
  obtain ⟨-, hroom, hbrowse, name, -, hdisplay, hid, rfl⟩ := h
  simp only [Bool.not_eq_true, Bool.not_eq_false'] at hbrowse hdisplay hid
  exact ⟨by omega, hid, hbrowse, hdisplay⟩

theorem addNode_sound (hs : s.Sound l) (item : AddNodesItem) : (addNode l item s).2.Sound l := by
  unfold addNode
  cases hcheck : item.check l s with
  | error e => exact hs
  | ok displayName =>
    obtain ⟨hroom, hfits⟩ := AddNodesItem.check_ok hcheck
    exact (storeNode_sound hs hroom hfits).1

theorem addReference_sound (hs : s.Sound l) (item : AddReferencesItem) :
    (addReference l item s).2.Sound l ∧ (addReference l item s).2.nodeValues = s.nodeValues := by
  unfold addReference
  split
  · exact ⟨hs, rfl⟩
  · rename_i hroom
    split
    · exact ⟨hs, rfl⟩
    · rename_i hfits
      have hfits' : ReferenceValue.Fits l
          ⟨item.sourceNodeId, item.referenceTypeId, item.targetNodeId.nodeId, item.isForward⟩ := by
        simpa [AddReferencesItem.fits, ReferenceValue.Fits, and_assoc] using hfits
      obtain ⟨hsound, -, hnodes⟩ := storeReference_sound hs (by omega) hfits'
      exact ⟨hsound, hnodes⟩

theorem nodeValues_getElem? (hi : i < s.nodesCount) : s.nodeValues[i]? = some (s.nodeAt i) := by
  simp [DynamicSpace.nodeValues, hi]

theorem referenceValues_getElem? (hi : i < s.referencesCount) :
    s.referenceValues[i]? = some (s.referenceAt i) := by
  simp [DynamicSpace.referenceValues, hi]

/-- What a DeleteNodes item does: a node with its NodeId goes, and the references that name it. -/
def NodeDeleted (item : DeleteNodesItem) (r : Except Fault Unit) (s s' : DynamicSpace) : Prop :=
  match r with
  | .ok () => ∃ j, (∃ v, s.nodeValues[j]? = some v ∧ v.nodeId = item.nodeId) ∧
      s'.nodeValues.Perm (s.nodeValues.eraseIdx j) ∧
      s'.referenceValues.Perm (s.referenceValues.filter (fun v => !v.names item.nodeId))
  | .error _ => s' = s

def DeleteReferencesItem.matches (item : DeleteReferencesItem) (v : ReferenceValue) : Prop :=
  v.sourceNodeId = item.sourceNodeId ∧ v.referenceTypeId = item.referenceTypeId ∧
    v.targetId = item.targetNodeId.nodeId ∧ v.isForward = item.isForward

def ReferenceDeleted (item : DeleteReferencesItem) (r : Except Fault Unit)
    (s s' : DynamicSpace) : Prop :=
  match r with
  | .ok () => s'.nodeValues = s.nodeValues ∧ ∃ j,
    (∃ v, s.referenceValues[j]? = some v ∧ item.matches v) ∧
      s'.referenceValues.Perm (s.referenceValues.eraseIdx j)
  | .error _ => s' = s

theorem ReferenceDeleted.nodeValues {item : DeleteReferencesItem} {r : Except Fault Unit}
    {s s' : DynamicSpace} (h : ReferenceDeleted item r s s') : s'.nodeValues = s.nodeValues := by
  cases r with
  | error e => exact congrArg DynamicSpace.nodeValues h
  | ok _ => exact h.1

theorem deleteNode_spec (hs : s.Sound l) (item : DeleteNodesItem) :
    (deleteNode item s).2.Sound l ∧ NodeDeleted item (deleteNode item s).1 s (deleteNode item s).2 := by
  unfold deleteNode
  cases hfind :
      (s.nodes.take s.nodesCount).findIdx? (fun node => s.storage.nodeId node.nodeId = item.nodeId) with
  | none => exact ⟨hs, rfl⟩
  | some j =>
    obtain ⟨hj, hid, -⟩ := List.findIdx?_eq_some_iff_getElem.mp hfind
    have hcount : j < s.nodesCount := by
      rw [List.length_take] at hj
      omega
    have hfound : (s.nodeAt j).nodeId = item.nodeId := by
      rw [List.getElem_take] at hid
      rw [DynamicSpace.nodeAt, List.getD_eq_getElem?_getD,
        List.getElem?_eq_getElem (hs.nodesLength ▸ hcount.trans_le hs.nodesCount)]
      exact of_decide_eq_true hid
    obtain ⟨hsound, hnodes, hreferences⟩ := removeNodeAt_sound hs hcount
    obtain ⟨hsound', hreferences', hnodes'⟩ :=
      removeReferencesOf_sound item.nodeId (s.removeNodeAt j).referencesCount 0 hsound
        (Nat.zero_add _).symm
    refine ⟨hsound', j, ⟨_, nodeValues_getElem? hcount, hfound⟩, ?_, ?_⟩
    · rw [hnodes', hnodes]
      exact swapRemove_perm (by simpa [DynamicSpace.nodeValues] using hcount)
    · rw [hreferences', ← hreferences]
      apply removeAll_perm
      · simp [DynamicSpace.referenceValues]
      · simp

theorem deleteReference_spec (hs : s.Sound l) (item : DeleteReferencesItem) :
    (deleteReference item s).2.Sound l ∧
      ReferenceDeleted item (deleteReference item s).1 s (deleteReference item s).2 := by
  unfold deleteReference
  split
  · exact ⟨hs, rfl⟩
  · rename_i j hfind
    obtain ⟨hj, hmatch, -⟩ := List.findIdx?_eq_some_iff_getElem.mp hfind
    have hcount : j < s.referencesCount := by
      rw [List.length_take] at hj
      omega
    have hfound : item.matches (s.referenceAt j) := by
      rw [List.getElem_take] at hmatch
      rw [DynamicSpace.referenceAt, List.getD_eq_getElem?_getD,
        List.getElem?_eq_getElem (hs.referencesLength ▸ hcount.trans_le hs.referencesCount)]
      simp only [Bool.and_eq_true, decide_eq_true_eq, and_assoc] at hmatch
      exact hmatch
    obtain ⟨hsound, -, hreferences, hnodes⟩ := removeReferenceAt_sound hs hcount
    refine ⟨hsound, hnodes, j, ⟨_, referenceValues_getElem? hcount, hfound⟩, ?_⟩
    rw [hreferences]
    exact swapRemove_perm (by simpa [DynamicSpace.referenceValues] using hcount)

end Operations

section Runs

def managementRun (l : DynamicLimits) (ops : List ManagementOp) : DynamicSpace :=
  ops.foldl (fun s op => op.apply l s) (.init l)

theorem ManagementOp.apply_sound (hs : s.Sound l) (op : ManagementOp) : (op.apply l s).Sound l := by
  cases op with
  | addNode item => exact addNode_sound hs item
  | addReference item => exact (addReference_sound hs item).1
  | deleteNode item => exact (deleteNode_spec hs item).1
  | deleteReference item => exact (deleteReference_spec hs item).1

theorem managementRun_sound (l : DynamicLimits) (ops : List ManagementOp) :
    (managementRun l ops).Sound l := by
  induction ops using List.reverseRecOn with
  | nil => exact DynamicSpace.init_sound
  | append_singleton ops op ih =>
    rw [managementRun, List.foldl_append]
    exact op.apply_sound ih

def ItemByItem {α β : Type} (effect : α → Except Fault β → DynamicSpace → DynamicSpace → Prop) :
    List α → List (Except Fault β) → DynamicSpace → DynamicSpace → Prop
  | [], [], s, s' => s' = s
  | item :: items, r :: rs, s, s' => ∃ t, effect item r s t ∧ ItemByItem effect items rs t s'
  | _, _, _, _ => False

/-- A request that fails as a whole changes nothing; the items of another one have their effects. -/
def RequestEffect {α β : Type} (requestDecode : ReadM (List α))
    (effect : α → Except Fault β → DynamicSpace → DynamicSpace → Prop) (request : Bytes)
    (s : DynamicSpace) :
    Except Fault (List (Except Fault β)) × DynamicSpace → Prop
  | (.error _, s') => s' = s
  | (.ok results, s') => ∃ items, requestDecode.decode request = .ok items ∧
    ItemByItem effect items results s s'

section Effects

variable {α β : Type} {process : α → DynamicSpace → Except Fault β × DynamicSpace}
  {effect : α → Except Fault β → DynamicSpace → DynamicSpace → Prop}

section

variable (hstep : ∀ item s, s.Sound l → (process item s).2.Sound l ∧
    effect item (process item s).1 s (process item s).2)

include hstep

theorem processItems_effect (items : List α) (hs : s.Sound l) :
    ItemByItem (fun item r s t => t.Sound l ∧ effect item r s t) items (processItems process items s).1 s
      (processItems process items s).2 := by
  induction items generalizing s with
  | nil => rfl
  | cons item items ih =>
    obtain ⟨hsound, heffect⟩ := hstep item s hs
    exact ⟨_, ⟨hsound, heffect⟩, ih hsound⟩

theorem processRequest_effect
    (allow : Bool) (requestDecode : ReadM (List α)) (request : Bytes) (hs : s.Sound l) :
    RequestEffect requestDecode (fun item r s t => t.Sound l ∧ effect item r s t) request s
      (processRequest allow requestDecode process request s) := by
  cases allow with
  | false => rfl
  | true =>
    cases hdecode : requestDecode.decode request with
    | error e =>
      simp only [processRequest, hdecode]
      rfl
    | ok items =>
      simp only [processRequest, hdecode]
      exact ⟨items, hdecode, processItems_effect hstep items hs⟩

end

end Effects

section Requests

theorem processItems_foldl {α β : Type} (process : α → DynamicSpace → Except Fault β × DynamicSpace)
    (items : List α) (s : DynamicSpace) :
    (processItems process items s).2 = items.foldl (fun s item => (process item s).2) s := by
  induction items generalizing s with
  | nil => rfl
  | cons item items ih => exact ih _

theorem processRequest_foldl {α β : Type} (allow : Bool) (requestDecode : ReadM (List α))
    (process : α → DynamicSpace → Except Fault β × DynamicSpace) (request : Bytes) (s : DynamicSpace) :
    ∃ items : List α, (processRequest allow requestDecode process request s).2 =
      items.foldl (fun s item => (process item s).2) s := by
  cases allow with
  | false => exact ⟨[], rfl⟩
  | true =>
    cases hdecode : requestDecode.decode request with
    | error e => exact ⟨[], by simp only [processRequest, hdecode]; rfl⟩
    | ok items =>
      refine ⟨items, ?_⟩
      rw [← processItems_foldl]
      simp only [processRequest, hdecode]
      rfl

theorem ManagementRequest.process_ops (l : DynamicLimits) (allow : Bool) (r : ManagementRequest)
    (s : DynamicSpace) :
    ∃ ops : List ManagementOp, r.process l allow s = ops.foldl (fun s op => op.apply l s) s := by
  have hops {α β : Type} {requestDecode : ReadM (List α)}
      {process : α → DynamicSpace → Except Fault β × DynamicSpace} {request : Bytes}
      (op : α → ManagementOp)
      (hop : ∀ item s, (op item).apply l s = (process item s).2) :
      ∃ ops : List ManagementOp, (processRequest allow requestDecode process request s).2 =
        ops.foldl (fun s op => op.apply l s) s := by
    obtain ⟨items, hitems⟩ := processRequest_foldl allow requestDecode process request s
    refine ⟨items.map op, ?_⟩
    rw [hitems, List.foldl_map]
    simp only [hop]
  cases r with
  | addNodes request => exact hops .addNode (fun _ _ => rfl)
  | addReferences request => exact hops .addReference (fun _ _ => rfl)
  | deleteNodes request => exact hops .deleteNode (fun _ _ => rfl)
  | deleteReferences request => exact hops .deleteReference (fun _ _ => rfl)

def requestRun (l : DynamicLimits) (allow : Bool) (requests : List ManagementRequest) : DynamicSpace :=
  requests.foldl (fun s r => r.process l allow s) (.init l)

/-- What a run of requests reaches, the run of their items does. -/
theorem requestRun_eq (l : DynamicLimits) (allow : Bool) (requests : List ManagementRequest) :
    ∃ ops, requestRun l allow requests = managementRun l ops := by
  induction requests using List.reverseRecOn with
  | nil => exact ⟨[], rfl⟩
  | append_singleton requests r ih =>
    obtain ⟨ops, hops⟩ := ih
    obtain ⟨ops', hops'⟩ := r.process_ops l allow (requestRun l allow requests)
    refine ⟨ops ++ ops', ?_⟩
    rw [requestRun, List.foldl_append]
    change r.process l allow (requestRun l allow requests) = _
    rw [hops', hops, managementRun, managementRun, List.foldl_append]

end Requests

end Runs

end MicroOpcua
