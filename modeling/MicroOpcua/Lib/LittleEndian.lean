import Mathlib

namespace MicroOpcua.Lib.LittleEndian

abbrev Bytes := List UInt8

def put : Nat → Nat → Bytes
  | 0, _ => []
  | n + 1, v => UInt8.ofNat v :: put n (v / 256)

def get : Bytes → Nat
  | [] => 0
  | b :: bs => b.toNat + 256 * get bs

@[simp] theorem put_length (n v : Nat) : (put n v).length = n := by
  induction n generalizing v with
  | zero => rfl
  | succ n ih => simp [put, ih]

theorem get_put (n v : Nat) : get (put n v) = v % 256 ^ n := by
  induction n generalizing v with
  | zero => simp [put, get, Nat.mod_one]
  | succ n ih =>
    have hsplit : v % 256 ^ (n + 1) = v % 256 + 256 * (v / 256 % 256 ^ n) := by
      rw [Nat.pow_succ, Nat.mul_comm (256 ^ n), Nat.mod_mul]
    simp [put, get, ih, hsplit]

theorem get_lt (bs : Bytes) : get bs < 256 ^ bs.length := by
  induction bs with
  | nil => simp [get]
  | cons b bs ih =>
    have hb := b.toNat_lt
    simp only [get, List.length_cons, Nat.pow_succ]
    omega

theorem put_get (bs : Bytes) : put bs.length (get bs) = bs := by
  induction bs with
  | nil => rfl
  | cons b bs ih =>
    have hb := b.toNat_lt
    have hdiv : (b.toNat + 256 * get bs) / 256 = get bs := by omega
    have hbyte : UInt8.ofNat (b.toNat + 256 * get bs) = b := by
      apply UInt8.toNat_inj.mp
      simp only [UInt8.toNat_ofNat']
      omega
    simp [put, get, hdiv, ih, hbyte]

end MicroOpcua.Lib.LittleEndian
