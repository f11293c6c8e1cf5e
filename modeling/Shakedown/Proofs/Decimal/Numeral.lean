import Mathlib.Data.Nat.Digits.Defs
import Shakedown.Decimal.Numeral

/-!
# What decimal digits write

Digits are read from the left, with the bound looked at after each of them. Nothing is lost by that: a text is read as
a number exactly if it is a numeral for that number and the number is in bounds (`digitsUpTo_eq_some_iff`), however many
digits it has. With a bound on the number, a plus sign may come first (`naturalUpTo_eq_some_iff`).
-/

namespace Shakedown.Decimal

/-- The number that digits write in base ten, the last of them counting ones. -/
def valueOf (digits : List Char) : Nat := Nat.ofDigits 10 (digits.map fun c => c.toNat - '0'.toNat).reverse

/-- A text that writes a number in decimal digits; zeros may come first. -/
structure IsNumeral (digits : List Char) (n : Nat) : Prop where
  written : digits ≠ []
  decimal : ∀ c ∈ digits, c.isDigit = true
  value : valueOf digits = n

/-- What one more digit makes of the number before it, if that is in bounds. -/
def readDigit (max n : Nat) (c : Char) : Option Nat :=
  if c.isDigit then
    let n := n * 10 + (c.toNat - 48)
    if n ≤ max then some n else none
  else none

variable {max m n : Nat} {c : Char} {cs : List Char}

theorem valueOf_cons : valueOf (c :: cs) = valueOf cs + 10 ^ cs.length * (c.toNat - 48) := by
  rw [valueOf, List.map_cons, Nat.ofDigits_reverse_cons, List.length_map]
  rfl

theorem readDigit_eq_some_iff :
    readDigit max n c = some m ↔ c.isDigit = true ∧ n * 10 + (c.toNat - 48) = m ∧ m ≤ max := by
  unfold readDigit
  by_cases hc : c.isDigit = true
  · by_cases bounded : n * 10 + (c.toNat - 48) ≤ max
    · simp only [hc, bounded, if_true, true_and, Option.some.injEq]
      exact ⟨fun h => ⟨h, h ▸ bounded⟩, fun h => h.1⟩
    · simp only [hc, bounded, if_true, if_false, true_and]
      refine iff_of_false (fun h => nomatch h) ?_
      rintro ⟨rfl, h⟩
      exact bounded h
  · simp [hc]

theorem digitsUpTo_cons : digitsUpTo max (c :: cs) = (c :: cs).foldlM (readDigit max) 0 := rfl

/-- Digits after a number that was read are read on if what all of them write together is in bounds. -/
theorem foldlM_readDigit_eq_some_iff (h : m ≤ max) :
    cs.foldlM (readDigit max) m = some n ↔
      (∀ c ∈ cs, c.isDigit = true) ∧ m * 10 ^ cs.length + valueOf cs = n ∧ n ≤ max := by
  -- The number read so far is generalised. It is in bounds, as the last one is all that has to be.
  induction cs generalizing m with
  | nil =>
    simp only [List.foldlM_nil, Option.pure_def, Option.some.injEq, List.length_nil, Nat.pow_zero, Nat.mul_one]
    constructor
    · rintro rfl
      exact ⟨by simp, rfl, h⟩
    · rintro ⟨-, rfl, -⟩
      rfl
  | cons c cs ih =>
    have total : m * 10 ^ (c :: cs).length + valueOf (c :: cs) =
        (m * 10 + (c.toNat - 48)) * 10 ^ cs.length + valueOf cs := by
      rw [valueOf_cons, List.length_cons, Nat.pow_succ]
      ring
    rw [List.foldlM_cons, total, List.forall_mem_cons, Option.bind_eq_bind, Option.bind_eq_some_iff]
    constructor
    · rintro ⟨next, read, rest⟩
      obtain ⟨digit, rfl, bounded⟩ := readDigit_eq_some_iff.mp read
      obtain ⟨decimal, value⟩ := (ih bounded).mp rest
      exact ⟨⟨digit, decimal⟩, value⟩
    · rintro ⟨⟨digit, decimal⟩, value, bounded⟩
      have less : m * 10 + (c.toNat - 48) ≤ max := by
        have scale : 0 < 10 ^ cs.length := Nat.pow_pos (by decide)
        have grown := Nat.le_mul_of_pos_right (m * 10 + (c.toNat - 48)) scale
        omega
      exact ⟨_, readDigit_eq_some_iff.mpr ⟨digit, rfl, less⟩, (ih less).mpr ⟨decimal, value, bounded⟩⟩

theorem digitsUpTo_eq_some_iff : digitsUpTo max cs = some n ↔ IsNumeral cs n ∧ n ≤ max := by
  cases cs with
  | nil => exact iff_of_false (fun h => nomatch h) fun h => h.1.written rfl
  | cons c cs =>
    rw [digitsUpTo_cons, foldlM_readDigit_eq_some_iff (Nat.zero_le _), Nat.zero_mul, Nat.zero_add]
    constructor
    · rintro ⟨decimal, value, bounded⟩
      exact ⟨⟨by simp, decimal, value⟩, bounded⟩
    · rintro ⟨⟨-, decimal, value⟩, bounded⟩
      exact ⟨decimal, value, bounded⟩

/-- A number is written by a numeral, or by one after a plus sign. -/
theorem naturalUpTo_eq_some_iff :
    naturalUpTo max cs = some n ↔ ∃ digits, (cs = digits ∨ cs = '+' :: digits) ∧ IsNumeral digits n ∧ n ≤ max := by
  unfold naturalUpTo
  split
  · rename_i rest
    rw [digitsUpTo_eq_some_iff]
    constructor
    · intro h
      exact ⟨rest, Or.inr rfl, h⟩
    · rintro ⟨digits, rfl | plus, numeral, bounded⟩
      · -- The sign itself is no digit.
        exact absurd (numeral.decimal '+' (List.mem_cons_self ..)) (by decide)
      · cases plus
        exact ⟨numeral, bounded⟩
  · rename_i unsigned
    rw [digitsUpTo_eq_some_iff]
    constructor
    · intro h
      exact ⟨cs, Or.inl rfl, h⟩
    · rintro ⟨digits, rfl | plus, h⟩
      · exact h
      · exact absurd plus (unsigned digits)

end Shakedown.Decimal
