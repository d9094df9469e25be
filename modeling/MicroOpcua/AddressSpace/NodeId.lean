import MicroOpcua.Encoding.Types

namespace MicroOpcua

open Std

/-- `mu_string_t` as an application may build it: any length, and data that may be NULL. -/
structure RawString where
  length : Int
  data : Option Bytes
  sized : ∀ bs, data = some bs → bs.length = length.toNat

inductive RawIdentifier where
  | numeric (id : UInt32)
  | string (id : RawString)
  | guid
  | byteString

structure RawNodeId where
  namespaceIndex : UInt16
  identifier : RawIdentifier

def RawIdentifier.type : RawIdentifier → Nat
  | .numeric _ => 0
  | .string _ => 1
  | .guid => 2
  | .byteString => 3

def RawNodeId.Supported (n : RawNodeId) : Prop := n.identifier.type ≤ 1

section Compare

def RawString.compareDirect (left right : RawString) : Ordering :=
  (compare left.length right.length).then
    (if left.length ≤ 0 then .eq
    else match left.data, right.data with
      | none, none => .eq
      | none, some _ => .lt
      | some _, none => .gt
      | some l, some r => compare l r)

def RawIdentifier.compareDirect : RawIdentifier → RawIdentifier → Ordering
  | .numeric l, .numeric r => compare l r
  | .string l, .string r => l.compareDirect r
  | _, _ => .eq

def RawNodeId.compareDirect (left right : RawNodeId) : Ordering :=
  (compare left.namespaceIndex right.namespaceIndex).then
    ((compare left.identifier.type right.identifier.type).then
      (left.identifier.compareDirect right.identifier))

end Compare

section Equal

def RawString.equal (n1 n2 : RawString) : Bool :=
  if n1.length ≠ n2.length then false
  else if n1.length ≤ 0 then true
  else match n1.data, n2.data with
    | some b1, some b2 => b1 = b2
    | none, none => true
    | _, _ => false

def RawNodeId.equal (n1 n2 : RawNodeId) : Bool :=
  if n1.namespaceIndex ≠ n2.namespaceIndex then false
  else match n1.identifier, n2.identifier with
    | .numeric id1, .numeric id2 => id1 = id2
    | .string s1, .string s2 => s1.equal s2
    | _, _ => false

end Equal

section Order

def RawIdentifier.number : RawIdentifier → UInt32
  | .numeric id => id
  | _ => 0

def RawIdentifier.stringLength : RawIdentifier → Int
  | .string s => s.length
  | _ => 0

def RawIdentifier.stringData : RawIdentifier → Option Bytes
  | .string s => if s.length ≤ 0 then none else s.data
  | _ => none

def RawNodeId.compareFields : RawNodeId → RawNodeId → Ordering :=
  compareLex (compareOn RawNodeId.namespaceIndex)
    (compareLex (compareOn (fun n => n.identifier.type))
      (compareLex (compareOn (fun n => n.identifier.number))
        (compareLex (compareOn (fun n => n.identifier.stringLength))
          (compareOn (fun n => n.identifier.stringData)))))

theorem RawString.compareDirect_eq (l r : RawString) :
    l.compareDirect r = (compare l.length r.length).then
      (compare (RawIdentifier.string l).stringData (RawIdentifier.string r).stringData) := by
  unfold RawString.compareDirect
  cases hlength : compare l.length r.length with
  | lt => rfl
  | gt => rfl
  | eq =>
    have heq : l.length = r.length := LawfulEqOrd.eq_of_compare hlength
    simp only [Ordering.then, RawIdentifier.stringData, ← heq]
    by_cases hpos : l.length ≤ 0
    · simp only [if_pos hpos]
      rfl
    · simp only [if_neg hpos]
      cases l.data with
      | none => cases r.data <;> rfl
      | some bl => cases r.data <;> rfl

theorem RawNodeId.compareDirect_eq_fields : RawNodeId.compareDirect = RawNodeId.compareFields := by
  funext ⟨ns, l⟩ ⟨ns', r⟩
  have hself : compare (0 : UInt32) 0 = .eq := rfl
  have hlength : compare (0 : Int) 0 = .eq := rfl
  have hdata : compare (none : Option Bytes) none = .eq := rfl
  simp only [RawNodeId.compareDirect, RawNodeId.compareFields, compareLex, compareOn]
  congr 1
  cases htype : compare l.type r.type with
  | lt => rfl
  | gt => rfl
  | eq =>
    have heq : l.type = r.type := LawfulEqOrd.eq_of_compare htype
    cases l with
    | numeric id =>
      cases r with
      | numeric id' =>
        simp only [RawIdentifier.compareDirect, RawIdentifier.number, RawIdentifier.stringLength,
          RawIdentifier.stringData, hlength, hdata, Ordering.then]
        cases compare id id' <;> rfl
      | _ => cases heq
    | string s =>
      cases r with
      | string s' =>
        simp only [RawIdentifier.compareDirect, RawString.compareDirect_eq, RawIdentifier.number, hself,
          RawIdentifier.stringLength, Ordering.then]
      | _ => cases heq
    | guid =>
      cases r with
      | guid => rfl
      | _ => cases heq
    | byteString =>
      cases r with
      | byteString => rfl
      | _ => cases heq

instance : TransCmp RawNodeId.compareDirect := by
  rw [RawNodeId.compareDirect_eq_fields]
  unfold RawNodeId.compareFields
  infer_instance

theorem RawString.equal_iff (l r : RawString) : l.equal r = true ↔ l.compareDirect r = .eq := by
  unfold RawString.equal RawString.compareDirect
  rw [Ordering.then_eq_eq, LawfulEqCmp.compare_eq_iff_eq]
  by_cases hlength : l.length = r.length
  · rw [if_neg (not_not.mpr hlength), and_iff_right hlength]
    by_cases hpos : l.length ≤ 0
    · rw [if_pos hpos, if_pos hpos]
      exact iff_of_true rfl rfl
    · rw [if_neg hpos, if_neg hpos]
      cases l.data with
      | none => cases r.data <;> simp
      | some bl =>
        cases r.data with
        | none => simp
        | some br => simp
  · simp [hlength]

theorem RawNodeId.equal_iff (n1 : RawNodeId) {n2 : RawNodeId} (h : n2.Supported) :
    n1.equal n2 = true ↔ n1.compareDirect n2 = .eq := by
  obtain ⟨ns1, id1⟩ := n1
  obtain ⟨ns2, id2⟩ := n2
  unfold RawNodeId.equal RawNodeId.compareDirect
  rw [Ordering.then_eq_eq, Ordering.then_eq_eq, LawfulEqCmp.compare_eq_iff_eq,
    LawfulEqCmp.compare_eq_iff_eq]
  by_cases hns : ns1 = ns2
  · rw [if_neg (not_not.mpr hns)]
    cases id2 with
    | numeric n => cases id1 <;> simp [hns, RawIdentifier.type, RawIdentifier.compareDirect]
    | string s => cases id1 <;> simp [hns, RawIdentifier.type, RawIdentifier.compareDirect,
      RawString.equal_iff]
    | guid => exact absurd h (by simp [Supported, RawIdentifier.type])
    | byteString => exact absurd h (by simp [Supported, RawIdentifier.type])
  · simp [hns]

theorem RawNodeId.Supported.of_compare {n1 n2 : RawNodeId} (h : n2.Supported)
    (heq : n1.compareDirect n2 = .eq) : n1.Supported := by
  have htypes := LawfulEqOrd.eq_of_compare (Ordering.then_eq_eq.mp (Ordering.then_eq_eq.mp heq).2).1
  exact htypes.trans_le h

section

variable {n1 n2 : RawNodeId} (h : n1.equal n2 = true)

include h

theorem RawNodeId.Supported.of_equal : n2.Supported := by
  obtain ⟨ns1, id1⟩ := n1
  obtain ⟨ns2, id2⟩ := n2
  cases id2 with
  | numeric n => exact Nat.zero_le 1
  | string s => exact Nat.le_refl 1
  | guid => cases id1 <;> simp [equal] at h
  | byteString => cases id1 <;> simp [equal] at h

theorem RawNodeId.equal_symm : n2.equal n1 = true := by
  have hcompare := (equal_iff n1 (.of_equal h)).mp h
  exact (equal_iff n2 (.of_compare (.of_equal h) hcompare)).mpr (OrientedCmp.eq_symm hcompare)

theorem RawNodeId.equal_trans {n3 : RawNodeId} (h' : n2.equal n3 = true) : n1.equal n3 = true := by
  have hsupported := Supported.of_equal h'
  have hcompare := (equal_iff n1 (.of_equal h)).mp h
  exact (equal_iff n1 hsupported).mpr (TransCmp.eq_trans hcompare ((equal_iff n2 hsupported).mp h'))

theorem RawNodeId.equal_congr (n : RawNodeId) : n1.equal n = n2.equal n :=
  Bool.eq_iff_iff.mpr ⟨equal_trans (equal_symm h), equal_trans h⟩

end

end Order

section Wire

def MuString.raw : MuString → RawString
  | none => ⟨-1, none, nofun⟩
  | some bs => ⟨bs.length, some bs, fun _ h => Option.some.inj h ▸ rfl⟩

def NodeId.raw (n : NodeId) : RawNodeId :=
  ⟨n.namespaceIndex, match n.identifier with
    | .numeric id => .numeric id
    | .string s => .string (MuString.raw s)⟩

theorem NodeId.raw_supported (n : NodeId) : n.raw.Supported := by
  obtain ⟨ns, identifier⟩ := n
  cases identifier with
  | numeric id => exact Nat.zero_le 1
  | string s => exact Nat.le_refl 1

theorem MuString.raw_equal (s1 s2 : MuString) :
    (MuString.raw s1).equal (MuString.raw s2) = decide (s1 = s2) := by
  cases s1 with
  | none =>
    cases s2 with
    | none => rfl
    | some b2 =>
      have hne : (-1 : Int) ≠ b2.length := by omega
      simp [MuString.raw, RawString.equal, hne]
  | some b1 =>
    cases s2 with
    | none =>
      have hne : (b1.length : Int) ≠ -1 := by omega
      simp [MuString.raw, RawString.equal, hne]
    | some b2 =>
      simp only [MuString.raw, RawString.equal]
      by_cases hlength : b1.length = b2.length
      · by_cases hpos : (b1.length : Int) ≤ 0
        · have h1 : b1 = [] := List.eq_nil_of_length_eq_zero (by omega)
          have h2 : b2 = [] := List.eq_nil_of_length_eq_zero (by omega)
          simp [h1, h2]
        · have hne : b2 ≠ [] := by
            rintro rfl
            exact hpos (by simp [hlength])
          simp [hlength, hne]
      · have hne : b1 ≠ b2 := fun h => hlength (congrArg List.length h)
        simp [hlength, hne]

theorem NodeId.raw_equal (n1 n2 : NodeId) : n1.raw.equal n2.raw = decide (n1 = n2) := by
  obtain ⟨ns1, id1⟩ := n1
  obtain ⟨ns2, id2⟩ := n2
  unfold RawNodeId.equal
  by_cases hns : ns1 = ns2
  · cases id1 with
    | numeric i1 => cases id2 <;> simp [NodeId.raw, hns]
    | string s1 =>
      cases id2 with
      | numeric i2 => simp [NodeId.raw, hns]
      | string s2 => simp [NodeId.raw, hns, MuString.raw_equal]
  · simp [NodeId.raw, hns]

end Wire

end MicroOpcua
