import MicroOpcua.Encoding.WriterLaws

namespace MicroOpcua

open Lib.LittleEndian Lib.StateRun

variable {cap n k : Nat} {α : Type} {p q : Prop}

/-- On a writer that has not failed, `m` returns exactly if `p` holds and there is room for `n` bytes,
which it has then written. -/
structure Costs (p : Prop) (n : Nat) (m : WriteM cap Unit) : Prop where
  returns : ∀ w : Writer cap, w.status = none → p → w.bytes.length + n ≤ cap →
    ∃ w', m.run.run w = (.ok (), w') ∧ w'.status = none ∧ w'.bytes.length = w.bytes.length + n
  needs : ∀ w w' : Writer cap, w.status = none → m.run.run w = (.ok (), w') →
    p ∧ w.bytes.length + n ≤ cap

namespace Costs

variable {m : WriteM cap Unit}

theorem wrote (hm : Costs p n m) {w w' : Writer cap} (hw : w.status = none)
    (hrun : m.run.run w = (.ok (), w')) :
    p ∧ w'.status = none ∧ w'.bytes.length = w.bytes.length + n := by
  obtain ⟨hp, hfits⟩ := hm.needs w w' hw hrun
  obtain ⟨w₁, hrun', hstatus, hlen⟩ := hm.returns w hw hp hfits
  obtain rfl : w₁ = w' := congrArg Prod.snd (hrun'.symm.trans hrun)
  exact ⟨hp, hstatus, hlen⟩

theorem bind {f : Unit → WriteM cap Unit} (hm : Costs p n m) (hf : Costs q k (f ())) :
    Costs (p ∧ q) (n + k) (m >>= f) := by
  refine ⟨fun w hw hpq hfits => ?_, fun w w' hw hrun => ?_⟩
  · obtain ⟨w₁, hrun, hw₁, hlen⟩ := hm.returns w hw hpq.1 (by omega)
    obtain ⟨w₂, hrun', hw₂, hlen'⟩ := hf.returns w₁ hw₁ hpq.2 (by omega)
    exact ⟨w₂, bind_returns.mpr ⟨(), w₁, hrun, hrun'⟩, hw₂, by omega⟩
  · obtain ⟨⟨⟩, w₁, hfirst, hrest⟩ := bind_returns.mp hrun
    obtain ⟨hp, hw₁, hlen⟩ := hm.wrote hw hfirst
    obtain ⟨hq, hfits'⟩ := hf.needs w₁ w' hw₁ hrest
    exact ⟨⟨hp, hq⟩, by omega⟩

theorem congr (hm : Costs p n m) (hpq : p ↔ q) (hnk : n = k) : Costs q k m := by
  subst hnk
  refine ⟨fun w hw hq hfits => hm.returns w hw (hpq.mpr hq) hfits, fun w w' hw hrun => ?_⟩
  exact ⟨hpq.mp (hm.needs w w' hw hrun).1, (hm.needs w w' hw hrun).2⟩

theorem of_sized (hm : Sized n m) : Costs True n m := by
  obtain ⟨bs, hbs, rfl⟩ := hm
  refine ⟨fun w hw _ hfits => ⟨_, hbs.fits w hw hfits, hw, List.length_append⟩, fun w w' hw hrun =>
    ⟨trivial, ?_⟩⟩
  by_contra hfits
  obtain ⟨e, w'', hfails⟩ := hbs.fails w hw (by omega)
  cases hrun.symm.trans hfails

theorem pure : Costs True 0 (Pure.pure () : WriteM cap Unit) :=
  ⟨fun w hw _ _ => ⟨w, rfl, hw, rfl⟩, fun w _ _ _ => ⟨trivial, w.fits⟩⟩

theorem writeEach {f : α → WriteM cap Unit} {ok : α → Prop} {size : α → Nat}
    (hf : ∀ a, Costs (ok a) (size a) (f a)) (as : List α) :
    Costs (∀ a ∈ as, ok a) (as.map size).sum (writeEach f as) := by
  induction as with
  | nil => exact pure.congr (by simp) rfl
  | cons a as ih => exact ((hf a).bind ih).congr (by simp) (by simp)

end Costs

theorem writeString_costs (s : MuString) :
    Costs (s.size ≤ maxEncodedStringLength) (4 + s.size) (writeString s : WriteM cap Unit) := by
  by_cases h : s.size ≤ maxEncodedStringLength
  · exact (Costs.of_sized (writeString_sized h)).congr (by simp [h]) rfl
  · refine ⟨fun _ _ hsize => absurd hsize h, fun w w' _ hrun => ?_⟩
    cases s with
    | none => exact absurd (Nat.zero_le _) h
    | some bs =>
      simp only [writeString, guard_returns] at hrun
      exact absurd (Nat.le_of_not_lt hrun.1) h

end MicroOpcua
