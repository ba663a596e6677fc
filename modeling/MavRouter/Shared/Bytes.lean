import Mathlib.Algebra.Group.Nat.Defs
import Mathlib.Data.List.Induction

set_option autoImplicit false

namespace Bytes

def bigEndian : Nat → Nat → List UInt8
  | 0, _ => []
  | count + 1, n => bigEndian count (n / 256) ++ [n.toUInt8]

def ofBigEndian (bytes : List UInt8) : Nat := bytes.foldl (fun n byte => n * 256 + byte.toNat) 0

theorem length_bigEndian (count n : Nat) : (bigEndian count n).length = count := by
  induction count generalizing n with
  | zero => rfl
  | succ count ih => rw [bigEndian, List.length_append, ih, List.length_singleton]

theorem ofBigEndian_concat (bytes : List UInt8) (byte : UInt8) :
    ofBigEndian (bytes ++ [byte]) = ofBigEndian bytes * 256 + byte.toNat := by
  rw [ofBigEndian, List.foldl_append]
  rfl

theorem ofBigEndian_bigEndian (count n : Nat) (fits : n < 256 ^ count) : ofBigEndian (bigEndian count n) = n := by
  induction count generalizing n with
  | zero =>
    rw [Nat.pow_zero] at fits
    rw [bigEndian, ofBigEndian, List.foldl_nil]
    omega
  | succ count ih =>
    have high : n / 256 < 256 ^ count := Nat.div_lt_of_lt_mul (by rw [Nat.pow_succ'] at fits; exact fits)
    have low : n.toUInt8.toNat = n % 256 := rfl
    rw [bigEndian, ofBigEndian_concat, ih (n / 256) high, low]
    omega

theorem ofBigEndian_lt (bytes : List UInt8) : ofBigEndian bytes < 256 ^ bytes.length := by
  induction bytes using List.reverseRecOn with
  | nil => simp [ofBigEndian]
  | append_singleton bytes byte ih =>
    have small := byte.toNat_lt
    rw [ofBigEndian_concat, List.length_append, List.length_singleton, Nat.pow_succ]
    omega

theorem bigEndian_ofBigEndian (bytes : List UInt8) : bigEndian bytes.length (ofBigEndian bytes) = bytes := by
  induction bytes using List.reverseRecOn with
  | nil => rfl
  | append_singleton bytes byte ih =>
    have small := byte.toNat_lt
    have high : (ofBigEndian bytes * 256 + byte.toNat) / 256 = ofBigEndian bytes := by omega
    have low : (ofBigEndian bytes * 256 + byte.toNat).toUInt8 = byte := by
      apply UInt8.toNat_inj.mp
      change (ofBigEndian bytes * 256 + byte.toNat) % 256 = byte.toNat
      omega
    rw [List.length_append, List.length_singleton, bigEndian, ofBigEndian_concat, high, low, ih]

end Bytes
