import HourlySnapshots.Uuid
import Mathlib.Tactic.Common

/-!
# Digits that are read again

Numbers with zeros in front of them and identifiers are read as what was written.
-/

namespace HourlySnapshots

namespace Text

/-! ## Decimal digits -/

theorem isBlank_of_isDigit {c : Char} (h : c.isDigit = true) : isBlank c = false := by
  simp only [Char.isDigit, Bool.and_eq_true, decide_eq_true_eq] at h
  obtain ⟨hge, hle⟩ := h
  have hge' : 48 ≤ c.toNat := hge
  have hle' : c.toNat ≤ 57 := hle
  simp [isBlank]
  omega

/-- A sign is no digit. -/
theorem ne_sign_of_isDigit {c : Char} (h : c.isDigit = true) : c ≠ '-' ∧ c ≠ '+' := by
  constructor
  · rintro rfl
    cases h
  · rintro rfl
    cases h

theorem isDigit_of_mem_padded {width n : Nat} {c : Char} (h : c ∈ padded width n) :
    c.isDigit = true := by
  rcases List.mem_append.mp h with hzero | hdigit
  · rw [List.eq_of_mem_replicate hzero]
    decide
  · exact Nat.isDigit_of_mem_toDigits (by decide) (by decide) hdigit

/-- Zeros in front do not change the number. -/
theorem ofDigitChars_padded (width n : Nat) : Nat.ofDigitChars 10 (padded width n) 0 = n := by
  rw [padded, Nat.ofDigitChars_append, Nat.ofDigitChars_replicate_zero, Nat.mul_zero,
    Nat.ofDigitChars_ten_toDigits]

/-- A number that is small enough has exactly the digits it is given room for. -/
theorem length_padded {width n : Nat} (hwidth : 0 < width) (h : n < Nat.pow 10 width) :
    (padded width n).length = width := by
  have hlength : (Nat.toDigits 10 n).length ≤ width :=
    (Nat.length_toDigits_le_iff (by decide) hwidth).mpr h
  rw [padded, List.length_append, List.length_replicate]
  omega

/-- A number is written with the digits that are asked for, if not with more. -/
theorem lt_length_padded (width n : Nat) : width < (padded (width + 1) n).length := by
  rw [padded, List.length_append, List.length_replicate]
  omega

theorem padded_ne_nil (width n : Nat) : padded width n ≠ [] :=
  List.append_ne_nil_of_right_ne_nil _ Nat.toDigits_ne_nil

/-- A written number begins with a digit. -/
theorem exists_padded_eq (width n : Nat) :
    ∃ c rest, padded width n = c :: rest ∧ c.isDigit = true := by
  obtain ⟨c, rest, hdigits⟩ := List.exists_cons_of_ne_nil (padded_ne_nil width n)
  have hmem : c ∈ padded width n := hdigits ▸ List.mem_cons_self
  exact ⟨c, rest, hdigits, isDigit_of_mem_padded hmem⟩

/-- A text without blanks is left as it is by trimming. -/
theorem trim_eq_self {cs : List Char} (h : ∀ c ∈ cs, isBlank c = false) : trim cs = cs := by
  have hstart (cs : List Char) (h : ∀ c ∈ cs, isBlank c = false) : cs.dropWhile isBlank = cs := by
    cases cs with
    | nil => rfl
    | cons c rest => exact List.dropWhile_cons_of_neg (by simpa using h c List.mem_cons_self)
  rw [trim, trimStart, hstart cs h, trimEnd,
    hstart cs.reverse fun c hc => h c (List.mem_reverse.mp hc), List.reverse_reverse]

/-! ## Hexadecimal digits -/

theorem hexValue?_digitChar : ∀ d < 16, hexValue? (Nat.digitChar d) = some d := by decide

/-- Of the digits that are written, the lowest ones of the number are read. -/
theorem readHex?_hexDigits (width n : Nat) :
    readHex? (hexDigits width n) = some (n % Nat.pow 16 width) := by
  induction width generalizing n with
  | zero => exact congrArg some (Nat.mod_one n).symm
  | succ width ih =>
    have hrest := ih (n / 16)
    unfold readHex? at hrest ⊢
    have hlast : n / 16 % Nat.pow 16 width * 16 + n % 16 = n % Nat.pow 16 (width + 1) := by
      have hpow : Nat.pow 16 (width + 1) = 16 * Nat.pow 16 width := Nat.mul_comm _ _
      rw [hpow, Nat.mod_mul]
      omega
    have hdigit := hexValue?_digitChar (n % 16) (Nat.mod_lt n (by decide))
    rw [hexDigits, List.foldlM_append, hrest, Option.bind_eq_bind, Option.bind_some,
      List.foldlM_cons, hdigit, ← hlast]
    rfl

end Text

/-! ## Identifiers -/

namespace Uuid

/-- Digits in groups are read as the digits without the hyphens. -/
theorem readGrouped?_groups {a b c d e : List Char} (ha : a.length = 8) (hb : b.length = 4)
    (hc : c.length = 4) (hd : d.length = 4) (he : e.length = 12) :
    readGrouped? (a ++ '-' :: b ++ '-' :: c ++ '-' :: d ++ '-' :: e) =
      readSimple? (a ++ b ++ c ++ d ++ e) := by
  unfold readGrouped?
  rw [if_pos]
  · simp [List.drop_append, List.drop_eq_nil_of_le, ha, hb, hc, hd]
  · simp [List.getElem?_append, ha, hb, hc, hd, he]

/-- An id is made again from its number. -/
theorem ofNat_value (u : Uuid) : ofNat u.value = u := by
  obtain ⟨value, hlt⟩ := u
  exact (mk.injEq _ _ _ _).mpr (Nat.mod_eq_of_lt hlt)

/-- An identifier is read as what was written. -/
theorem read?_toText (u : Uuid) : read? u.toText = some u := by
  obtain ⟨digits, hdigits⟩ : ∃ digits, Text.hexDigits 32 u.value = digits := ⟨_, rfl⟩
  have hlength : digits.length = 32 := by rw [← hdigits, Text.length_hexDigits]
  have hread : readSimple? digits = some u := by
    have hbits : Nat.pow 16 32 = Nat.pow 2 128 := by decide
    rw [readSimple?, if_pos hlength, ← hdigits, Text.readHex?_hexDigits, hbits,
      Nat.mod_eq_of_lt u.value_lt, Option.map_some, ofNat_value]
  have hpart (first width : Nat) :
      (digits.drop first).take width ++ digits.drop (first + width) = digits.drop first := by
    rw [← List.drop_drop, List.take_append_drop]
  have hgroups : digits.take 8 ++ (digits.drop 8).take 4 ++ (digits.drop 12).take 4 ++
      (digits.drop 16).take 4 ++ digits.drop 20 = digits := by
    rw [List.append_assoc, hpart 16 4, List.append_assoc, hpart 12 4, List.append_assoc,
      hpart 8 4, List.take_append_drop]
  have htext : u.toText.length = 36 := by simp [toText, hdigits, hlength]
  rw [read?, htext, if_neg (by decide), if_pos rfl, toText, hdigits,
    readGrouped?_groups, hgroups, hread] <;> simp [hlength]

end Uuid

end HourlySnapshots
