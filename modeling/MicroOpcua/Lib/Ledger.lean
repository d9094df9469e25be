import Mathlib

namespace MicroOpcua.Lib.Ledger

variable {α : Type} [DecidableEq α] {m : Multiset α} {a : α}

inductive Entry (α : Type) where
  | taken (a : α)
  | returned (a : α)
deriving DecidableEq

/-- What is out, newest entry first; `none` once something was returned that was not out. -/
def outstanding : List (Entry α) → Option (Multiset α)
  | [] => some 0
  | .taken a :: log => (outstanding log).map (a ::ₘ ·)
  | .returned a :: log => (outstanding log).bind fun m => if a ∈ m then some (m.erase a) else none

theorem outstanding_taken {log : List (Entry α)} (h : outstanding log = some m) (a : α) :
    outstanding (.taken a :: log) = some (a ::ₘ m) := by
  rw [outstanding, h, Option.map_some]

theorem outstanding_returned {log : List (Entry α)} (h : outstanding log = some (a ::ₘ m)) :
    outstanding (.returned a :: log) = some m := by
  rw [outstanding, h, Option.bind_some, if_pos (Multiset.mem_cons_self a m), Multiset.erase_cons_head]

end MicroOpcua.Lib.Ledger
