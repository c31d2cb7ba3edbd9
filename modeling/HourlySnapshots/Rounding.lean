/-!
# Rounding a quotient to a whole number

Decimal products and binary floating point both drop digits by the same rule: to the nearest whole
number, and from the middle to the even one.
-/

namespace HourlySnapshots

/-- The whole number nearest to `num / den`; of two equally near ones, the even one. -/
def roundHalfEven (num den : Nat) : Nat :=
  let quotient := num / den
  let twice := 2 * (num % den)
  if twice < den then quotient
  else if den < twice then quotient + 1
  else if quotient % 2 = 0 then quotient
  else quotient + 1

/-- Dividing by one rounds nothing. -/
theorem roundHalfEven_one (num : Nat) : roundHalfEven num 1 = num := by
  simp [roundHalfEven, Nat.mod_one]

/-- Rounding moves a quotient by half a unit at most. -/
theorem roundHalfEven_near (num : Nat) {den : Nat} (h : 0 < den) :
    2 * (roundHalfEven num den * den) ≤ 2 * num + den ∧
      2 * num ≤ 2 * (roundHalfEven num den * den) + den := by
  have parts := Nat.div_add_mod num den
  rw [Nat.mul_comm] at parts
  have small := Nat.mod_lt num h
  unfold roundHalfEven
  simp only
  generalize num / den = quotient at *
  generalize num % den = remainder at *
  split
  · generalize quotient * den = whole at *; omega
  · split
    · rw [Nat.add_mul]; generalize quotient * den = whole at *; omega
    · split
      · generalize quotient * den = whole at *; omega
      · rw [Nat.add_mul]; generalize quotient * den = whole at *; omega

/-- A quotient without remainder is itself the nearest whole number. -/
theorem roundHalfEven_mul (n : Nat) {den : Nat} (h : 0 < den) :
    roundHalfEven (n * den) den = n := by
  simp [roundHalfEven, Nat.mul_div_cancel n h, h]

end HourlySnapshots
