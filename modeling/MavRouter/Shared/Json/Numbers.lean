import Mathlib.Data.List.Basic
import Mathlib.Data.List.TakeWhile

set_option autoImplicit false

namespace Json

structure Number where
  mantissa : Int
  exponent : Int
  deriving DecidableEq, Repr

def Number.ofNat (n : Nat) : Number := { mantissa := n, exponent := 0 }

def inNumber (c : Char) : Bool := c.isDigit || ['-', '+', '.', 'e', 'E'].contains c

def digits (text : List Char) : Option Nat :=
  if text.isEmpty || !text.all Char.isDigit then none else some (Nat.ofDigitChars 10 text 0)

def fraction : List Char → Option (List Char × List Char)
  | '.' :: text =>
    if (text.takeWhile Char.isDigit).isEmpty then none
    else some (text.takeWhile Char.isDigit, text.dropWhile Char.isDigit)
  | text => some ([], text)

def scale : List Char → Option Int
  | [] => some 0
  | e :: text =>
    if e ≠ 'e' ∧ e ≠ 'E' then none
    else
      match text with
      | '-' :: text => (digits text).map fun n => -(n : Int)
      | '+' :: text => (digits text).map fun n => (n : Int)
      | text => (digits text).map fun n => (n : Int)

-- A zero in front stands alone.
def unsigned (text : List Char) : Option Number :=
  let whole := text.takeWhile Char.isDigit
  if whole.isEmpty || (whole.head? == some '0' && whole.length != 1) then none
  else
    (fraction (text.dropWhile Char.isDigit)).bind fun read =>
      (scale read.2).map fun exponent =>
        { mantissa := Nat.ofDigitChars 10 (whole ++ read.1) 0, exponent := exponent - read.1.length }

def number : List Char → Option Number
  | '-' :: text => (unsigned text).map fun n => { n with mantissa := -n.mantissa }
  | text => unsigned text

theorem toDigits_head (n : Nat) (zero : (Nat.toDigits 10 n).head? = some '0') : n = 0 := by
  induction n using Nat.strongRecOn with
  | ind n ih =>
    by_cases small : n < 10
    · rw [Nat.toDigits_of_lt_base small, List.head?_cons, Option.some.injEq] at zero
      exact Nat.digitChar_eq_zero.mp zero
    · rw [Nat.toDigits_of_base_le (by decide) (by omega), List.head?_append_of_ne_nil _ Nat.toDigits_ne_nil] at zero
      have front := ih (n / 10) (by omega) zero
      omega

theorem number_toDigits (n : Nat) : number (Nat.toDigits 10 n) = some (.ofNat n) := by
  have all : ∀ c ∈ Nat.toDigits 10 n, c.isDigit = true :=
    fun c member => Nat.isDigit_of_mem_toDigits (by decide) (by decide) member
  have read : unsigned (Nat.toDigits 10 n) = some (.ofNat n) := by
    have filled : (Nat.toDigits 10 n).isEmpty = false := List.isEmpty_eq_false_iff.mpr Nat.toDigits_ne_nil
    have alone : ((Nat.toDigits 10 n).head? == some '0' && (Nat.toDigits 10 n).length != 1) = false := by
      by_cases zero : (Nat.toDigits 10 n).head? = some '0'
      · rw [toDigits_head n zero]
        rfl
      · simp [zero]
    simp [unsigned, List.takeWhile_eq_self_iff.mpr all, List.dropWhile_eq_nil_iff.mpr all, filled, alone, fraction,
      scale, Number.ofNat]
  unfold number
  split
  · rename_i text same
    have sign := all '-' (same ▸ List.mem_cons_self)
    exact absurd sign (by decide)
  · exact read

end Json
