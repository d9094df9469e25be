import Mathlib

namespace MicroOpcua.Lib.Frames

variable {α : Type}

/-- A way to cut streams into frames: `next l` is the length of the first frame of `l`, once `l` holds
all of it. What follows a frame does not change it. -/
structure Framing (α : Type) where
  next : List α → Option Nat
  pos : ∀ {l n}, next l = some n → 0 < n
  le : ∀ {l n}, next l = some n → n ≤ l.length
  stable : ∀ {l n}, next l = some n → ∀ r, next (l ++ r) = some n

namespace Framing

variable {F : Framing α} {l : List α} {n : Nat}

theorem drop_lt (h : F.next l = some n) : (l.drop n).length < l.length := by
  have hpos := F.pos h
  have hle := F.le h
  rw [List.length_drop]
  omega

variable (F) in
def parse (l : List α) : List (List α) × List α :=
  match _h : F.next l with
  | none => ([], l)
  | some n => (l.take n :: (parse (l.drop n)).1, (parse (l.drop n)).2)
termination_by l.length
decreasing_by all_goals exact drop_lt ‹_›

theorem parse_none (h : F.next l = none) : F.parse l = ([], l) := by
  rw [parse]
  split
  · rfl
  · rename_i n hn
    rw [h] at hn
    cases hn

theorem parse_some (h : F.next l = some n) :
    F.parse l = (l.take n :: (F.parse (l.drop n)).1, (F.parse (l.drop n)).2) := by
  rw [parse]
  split
  · rename_i hnone
    rw [h] at hnone
    cases hnone
  · rename_i m hm
    obtain rfl : n = m := Option.some.inj (h.symm.trans hm)
    rfl

theorem parse_append (l r : List α) : F.parse (l ++ r) =
      ((F.parse l).1 ++ (F.parse ((F.parse l).2 ++ r)).1, (F.parse ((F.parse l).2 ++ r)).2) := by
  induction hl : l.length using Nat.strong_induction_on generalizing l with
  | _ length ih =>
    cases hnext : F.next l with
    | none => simp [parse_none hnext]
    | some n =>
      have hrest := ih _ (hl ▸ drop_lt hnext) (l.drop n) rfl
      have htake : (l ++ r).take n = l.take n := List.take_append_of_le_length (F.le hnext)
      have hdrop : (l ++ r).drop n = l.drop n ++ r := List.drop_append_of_le_length (F.le hnext)
      rw [parse_some (F.stable hnext r), parse_some hnext, htake, hdrop, hrest]
      rfl

end Framing

end MicroOpcua.Lib.Frames
