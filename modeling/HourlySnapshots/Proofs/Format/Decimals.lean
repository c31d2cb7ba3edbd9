import HourlySnapshots.Decimal
import HourlySnapshots.Proofs.Format.Digits

/-!
# Amounts that are read again

An amount is read as what was written, with all of its decimal places. Only the sign of a zero is
lost, which no comparison of amounts tells.
-/

namespace HourlySnapshots

namespace Decimal

open Text (digit? padded)

/-- The same amount with the same places; zero has no sign. -/
def canonical (d : Decimal) : Decimal := { d with negative := d.negative && !d.isZero }

/-- Only a zero with a sign is not canonical. -/
theorem canonical_eq_iff (d : Decimal) :
    d.canonical = d ↔ ¬ (d.negative = true ∧ d.isZero = true) := by
  have hsign : d.canonical = d ↔ (d.negative && !d.isZero) = d.negative := by
    constructor
    · intro h
      exact congrArg negative h
    · intro h
      unfold canonical
      rw [h]
  rw [hsign]
  cases d.negative <;> simp

/-! ## Digits -/

theorem le_ofDigitChars (digits : List Char) (n : Nat) : n ≤ Nat.ofDigitChars 10 digits n := by
  induction digits generalizing n with
  | nil => exact Nat.le_refl n
  | cons c rest ih =>
    rw [Nat.ofDigitChars_cons]
    have hrest := ih (10 * n + (c.toNat - '0'.toNat))
    omega

/-- A digit goes into the coefficient if it fits, before the point and behind it. -/
theorem scan_digit {c : Char} (hc : c.isDigit = true) (point seen : Bool) {coefficient : Nat}
    (hfits : Nat.ofDigitChars 10 [c] coefficient < bound) (scale : Nat) (rest : List Char) :
    scan point seen coefficient scale (c :: rest) =
      let longer := Nat.ofDigitChars 10 [c] coefficient
      let places := if point then scale + 1 else scale
      if point && 28 ≤ places then roundAt longer places (afterLastPlace coefficient rest)
      else scan point true longer places rest := by
  have hdigit : digit? c = some (c.toNat - '0'.toNat) := if_pos hc
  have hvalue : coefficient * 10 + (c.toNat - '0'.toNat) = Nat.ofDigitChars 10 [c] coefficient := by
    rw [Nat.ofDigitChars_cons, Nat.ofDigitChars_nil, Nat.mul_comm]
  rw [scan]
  simp only [hdigit, hvalue]
  rw [if_pos hfits]

/-- Digits before the point go into the coefficient as long as it fits. -/
theorem scan_whole {digits : List Char} (hdigits : ∀ c ∈ digits, c.isDigit = true) {seen : Bool}
    (hseen : seen = true ∨ digits ≠ []) {coefficient : Nat} (scale : Nat)
    (hfits : Nat.ofDigitChars 10 digits coefficient < bound) (rest : List Char) :
    scan false seen coefficient scale (digits ++ rest) =
      scan false true (Nat.ofDigitChars 10 digits coefficient) scale rest := by
  induction digits generalizing seen coefficient with
  | nil =>
    obtain rfl : seen = true := by simpa using hseen
    rfl
  | cons c others ih =>
    have hothers := fun d hd => hdigits d (List.mem_cons_of_mem c hd)
    have hlonger := le_ofDigitChars others (Nat.ofDigitChars 10 [c] coefficient)
    rw [← List.singleton_append, Nat.ofDigitChars_append] at hfits ⊢
    rw [List.append_assoc, List.singleton_append,
      scan_digit (hdigits c List.mem_cons_self) false seen (by omega)]
    exact ih hothers (.inl rfl) hfits

/-- Digits behind the point are places, of which there may be 28. -/
theorem scan_places {digits : List Char} (hdigits : ∀ c ∈ digits, c.isDigit = true)
    {coefficient scale : Nat} (hscale : scale + digits.length ≤ 28)
    (hfits : Nat.ofDigitChars 10 digits coefficient < bound) :
    scan true true coefficient scale digits =
      some (Nat.ofDigitChars 10 digits coefficient, scale + digits.length) := by
  induction digits generalizing coefficient scale with
  | nil => rfl
  | cons c others ih =>
    have hothers := fun d hd => hdigits d (List.mem_cons_of_mem c hd)
    have hlonger := le_ofDigitChars others (Nat.ofDigitChars 10 [c] coefficient)
    rw [← List.singleton_append, Nat.ofDigitChars_append] at hfits ⊢
    rw [List.singleton_append, scan_digit (hdigits c List.mem_cons_self) true true (by omega)]
    rw [List.length_cons] at hscale ⊢
    simp only [if_true, Bool.true_and, decide_eq_true_eq]
    split
    · -- the last place of all is followed by nothing
      obtain rfl : others = [] := List.length_eq_zero_iff.mp (by omega)
      simp [roundAt, afterLastPlace]
    · rw [ih hothers (by omega) hfits, Nat.add_assoc, Nat.add_comm 1]

/-! ## Written magnitudes -/

/-- A magnitude is written in two parts: digits before the point and a digit for each place. -/
structure WrittenAs (magnitude scale : Nat) (whole fraction : List Char) : Prop where
  text : digitsWithPoint magnitude scale = if scale = 0 then whole else whole ++ '.' :: fraction
  whole_ne : whole ≠ []
  places : fraction.length = scale
  digits : ∀ c ∈ whole ++ fraction, c.isDigit = true
  value : Nat.ofDigitChars 10 (whole ++ fraction) 0 = magnitude

theorem exists_writtenAs (magnitude scale : Nat) :
    ∃ whole fraction, WrittenAs magnitude scale whole fraction := by
  let written := padded (scale + 1) magnitude
  have hlength : scale < written.length := Text.lt_length_padded scale magnitude
  refine ⟨written.take (written.length - scale), written.drop (written.length - scale), rfl, ?_,
    ?_, ?_, ?_⟩
  · rw [Ne, List.take_eq_nil_iff]
    rintro (hnone | hnil)
    · omega
    · rw [hnil] at hlength
      cases hlength
  · rw [List.length_drop]
    omega
  · rw [List.take_append_drop]
    exact fun c hc => Text.isDigit_of_mem_padded hc
  · rw [List.take_append_drop]
    exact Text.ofDigitChars_padded (scale + 1) magnitude

/-- Digits with a point in them are scanned as the amount with its places. -/
theorem scan_digitsWithPoint {magnitude scale : Nat} (hm : magnitude < bound) (hs : scale ≤ 28) :
    scan false false 0 0 (digitsWithPoint magnitude scale) = some (magnitude, scale) := by
  obtain ⟨whole, fraction, h⟩ := exists_writtenAs magnitude scale
  have hvalue := h.value
  rw [Nat.ofDigitChars_append] at hvalue
  have hle := le_ofDigitChars fraction (Nat.ofDigitChars 10 whole 0)
  have hwhole (rest : List Char) : scan false false 0 0 (whole ++ rest) =
      scan false true (Nat.ofDigitChars 10 whole 0) 0 rest :=
    scan_whole (fun c hc => h.digits c (List.mem_append_left _ hc)) (.inr h.whole_ne) 0
      (by omega) rest
  rw [h.text]
  split
  · next hzero =>
    obtain rfl : fraction = [] := List.length_eq_zero_iff.mp (h.places.trans hzero)
    have hall := hwhole []
    rw [List.append_nil] at hall
    rw [hall, hzero, ← hvalue]
    rfl
  · have hpoint : scan false true (Nat.ofDigitChars 10 whole 0) 0 ('.' :: fraction) =
        scan true true (Nat.ofDigitChars 10 whole 0) 0 fraction := rfl
    have hplaces := h.places
    rw [hwhole, hpoint, scan_places (fun c hc => h.digits c (List.mem_append_right _ hc))
      (by omega) (by omega), hvalue, hplaces, Nat.zero_add]

/-- A magnitude begins with a digit, so that no sign is read where none is written. -/
theorem exists_digitsWithPoint_eq (magnitude scale : Nat) :
    ∃ c rest, digitsWithPoint magnitude scale = c :: rest ∧ c.isDigit = true := by
  obtain ⟨whole, fraction, h⟩ := exists_writtenAs magnitude scale
  obtain ⟨c, rest, rfl⟩ := List.exists_cons_of_ne_nil h.whole_ne
  have hc : c.isDigit = true := h.digits c List.mem_cons_self
  rw [h.text]
  split
  · exact ⟨c, rest, rfl, hc⟩
  · exact ⟨c, _, rfl, hc⟩

/-! ## Written amounts -/

/-- The reader makes an amount of its coefficient, in which zero has no sign. -/
theorem ofParts?_coefficient (d : Decimal) :
    ofParts? d.coefficient d.scale = some d.canonical := by
  have hmagnitude : d.coefficient.natAbs = d.magnitude := by
    unfold coefficient
    split
    · rw [Int.natAbs_neg, Int.natAbs_natCast]
    · exact Int.natAbs_natCast _
  have hsign : decide (d.coefficient < 0) = (d.negative && !d.isZero) := by
    rw [Bool.eq_iff_iff, decide_eq_true_iff]
    unfold coefficient isZero
    cases d.negative <;> simp
    omega
  rw [ofParts?, hmagnitude, hsign]
  exact dif_pos ⟨d.magnitude_lt, d.scale_le⟩

/-- An amount is read back with all its places. -/
theorem readPlain?_toText (d : Decimal) : readPlain? d.toText = some d.canonical := by
  have hscan := scan_digitsWithPoint d.magnitude_lt d.scale_le
  have hparts := ofParts?_coefficient d
  unfold toText coefficient at *
  cases hnegative : d.negative with
  | true =>
    simp only [hnegative, if_true] at hparts ⊢
    rw [readPlain?, hscan]
    exact hparts
  | false =>
    simp only [hnegative, Bool.false_eq_true, if_false] at hparts ⊢
    obtain ⟨c, rest, htext, hc⟩ := exists_digitsWithPoint_eq d.magnitude d.scale
    obtain ⟨hminus, hplus⟩ := Text.ne_sign_of_isDigit hc
    rw [htext] at hscan ⊢
    unfold readPlain?
    split
    · next heq => exact absurd (List.cons.inj heq).1 hminus
    · next heq => exact absurd (List.cons.inj heq).1 hplus
    · rw [hscan]
      exact hparts

/-- An amount is read as what was written, but for the sign of a zero. -/
theorem read?_toText (d : Decimal) : read? d.toText = some d.canonical := by
  rw [read?, readPlain?_toText, Option.some_or]

theorem toText_ne_nil (d : Decimal) : d.toText ≠ [] := by
  intro hnil
  have hread := read?_toText d
  rw [hnil] at hread
  cases hread

/-- There is nothing in a written amount that the lenient reader passes over. -/
theorem not_skipped_of_mem_toText {d : Decimal} {c : Char} (h : c ∈ d.toText) :
    Text.isBlank c = false ∧ c ≠ ',' := by
  have hdigit {c : Char} (hc : c.isDigit = true) : Text.isBlank c = false ∧ c ≠ ',' := by
    refine ⟨Text.isBlank_of_isDigit hc, ?_⟩
    rintro rfl
    cases hc
  have hbody : ∀ c ∈ digitsWithPoint d.magnitude d.scale, Text.isBlank c = false ∧ c ≠ ',' := by
    obtain ⟨whole, fraction, hwritten⟩ := exists_writtenAs d.magnitude d.scale
    have hdigits := hwritten.digits
    rw [hwritten.text]
    intro c hc
    split at hc
    · exact hdigit (hdigits c (List.mem_append_left _ hc))
    · rcases List.mem_append.mp hc with hwhole | hrest
      · exact hdigit (hdigits c (List.mem_append_left _ hwhole))
      · rcases List.mem_cons.mp hrest with rfl | hfraction
        · decide
        · exact hdigit (hdigits c (List.mem_append_right _ hfraction))
  unfold toText at h
  simp only at h
  split at h
  · rcases List.mem_cons.mp h with rfl | hrest
    · decide
    · exact hbody c hrest
  · exact hbody c h

/-- The reader of decorated amounts reads it back too. -/
theorem readLenient?_toText (d : Decimal) : readLenient? d.toText = some d.canonical := by
  have htrim : Text.trim d.toText = d.toText :=
    Text.trim_eq_self fun c hc => (not_skipped_of_mem_toText hc).1
  have hfilter : d.toText.filter (· != ',') = d.toText :=
    List.filter_eq_self.mpr fun c hc => by simpa using (not_skipped_of_mem_toText hc).2
  have hread := read?_toText d
  unfold readLenient?
  rw [htrim, hfilter]
  split
  · next hnil =>
    rw [hnil] at hread
    cases hread
  · exact hread

end Decimal

end HourlySnapshots
