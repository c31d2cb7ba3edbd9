import HourlySnapshots.Calendar.Rfc3339
import HourlySnapshots.Proofs.Calendar.CivilDate
import HourlySnapshots.Proofs.Format.Digits

/-!
# Instants that are read again

The lenient reader reads every instant as what was written: years of any length and sign, any number
of decimal places and leap seconds.
-/

namespace HourlySnapshots

namespace Rfc3339

open Text (padded trimStart isBlank)

/-! ## Parts of a text -/

/-- What follows does not go on with a digit. -/
def NoDigit (rest : List Char) : Prop := ∀ c ∈ rest.head?, c.isDigit = false

theorem noDigit_cons {c : Char} (h : c.isDigit = false) (rest : List Char) :
    NoDigit (c :: rest) := fun _ hd => Option.some.inj hd ▸ h

theorem trimStart_cons {c : Char} (h : isBlank c = false) (rest : List Char) :
    trimStart (c :: rest) = c :: rest :=
  List.dropWhile_cons_of_neg (by simpa using h)

theorem trimStart_padded (width n : Nat) (rest : List Char) :
    trimStart (padded width n ++ rest) = padded width n ++ rest := by
  obtain ⟨c, digits, hdigits, hc⟩ := Text.exists_padded_eq width n
  rw [hdigits]
  exact trimStart_cons (Text.isBlank_of_isDigit hc) _

/-- Digits are read up to the first character that is none. -/
theorem digitsUpTo_append {width : Nat} {digits rest : List Char}
    (hdigits : ∀ c ∈ digits, c.isDigit = true) (hne : digits ≠ [])
    (hlength : digits.length ≤ width) (hrest : NoDigit rest) :
    digitsUpTo width (digits ++ rest) = some (Nat.ofDigitChars 10 digits 0, rest) := by
  have hend : (rest.take (width - digits.length)).takeWhile Char.isDigit = [] := by
    cases rest with
    | nil => simp
    | cons c rest =>
      have hc := hrest c rfl
      cases width - digits.length with
      | zero => rfl
      | succ n => simp [hc]
  have hrun : ((digits ++ rest).take width).takeWhile Char.isDigit = digits := by
    rw [List.take_append, List.take_of_length_le hlength,
      List.takeWhile_append_of_pos hdigits, hend, List.append_nil]
  unfold digitsUpTo
  simp only [hrun, List.isEmpty_iff, hne, if_false, List.drop_left]

/-- A number that fits the limit is read back from its padded digits. -/
theorem digitsUpTo_padded {width limit n : Nat} {rest : List Char}
    (hlength : (padded width n).length ≤ limit) (hrest : NoDigit rest) :
    digitsUpTo limit (padded width n ++ rest) = some (n, rest) := by
  rw [digitsUpTo_append (fun c hc => Text.isDigit_of_mem_padded hc) (Text.padded_ne_nil width n)
    hlength hrest, Text.ofDigitChars_padded]

theorem lenientPair_padded {n : Nat} {rest : List Char} (hn : n < 100) (hrest : NoDigit rest) :
    lenientPair (padded 2 n ++ rest) = some (n, rest) := by
  rw [lenientPair, trimStart_padded]
  exact digitsUpTo_padded (Text.length_padded (by decide) hn).le hrest

theorem lenientMark_cons {c : Char} (h : isBlank c = false) (rest : List Char) :
    lenientMark c (c :: rest) = some rest := by
  rw [lenientMark, trimStart_cons h]
  exact if_pos rfl

/-- A year is read with its sign, however many digits it has. -/
theorem lenientYear_yearText (year : Int) {rest : List Char} (hrest : NoDigit rest) :
    lenientYear (yearText year ++ rest) = some (year, rest) := by
  have hlong : digitsUpTo (padded 4 year.natAbs ++ rest).length (padded 4 year.natAbs ++ rest) =
      some (year.natAbs, rest) := digitsUpTo_padded (by simp) hrest
  unfold yearText
  split
  · have hvalue : -(year.natAbs : Int) = year := by omega
    rw [lenientYear, List.cons_append, trimStart_cons (by decide)]
    simp only [hlong, Option.map_some, hvalue]
  · split
    · have hvalue : (year.natAbs : Int) = year := by omega
      rw [lenientYear, List.cons_append, trimStart_cons (by decide)]
      simp only [hlong, Option.map_some, hvalue]
    · have hvalue : (year.natAbs : Int) = year := by omega
      have hshort : digitsUpTo 4 (padded 4 year.natAbs ++ rest) = some (year.natAbs, rest) :=
        digitsUpTo_padded (Text.length_padded (by decide)
          (show year.natAbs < 10000 by omega)).le hrest
      rw [lenientYear, trimStart_padded]
      obtain ⟨c, digits, hdigits, hc⟩ := Text.exists_padded_eq 4 year.natAbs
      obtain ⟨hminus, hplus⟩ := Text.ne_sign_of_isDigit hc
      rw [hdigits] at hshort ⊢
      split
      · next heq => exact absurd (List.cons.inj heq).1 hminus
      · next heq => exact absurd (List.cons.inj heq).1 hplus
      · simp only [hshort, Option.map_some, hvalue]

/-- Up to nine decimal places are read back as nanoseconds. -/
theorem places_padded {width n nanos : Nat} (hwidth : 0 < width) (h9 : width ≤ 9)
    (hn : n < Nat.pow 10 width) (hvalue : n * Nat.pow 10 (9 - width) = nanos) {rest : List Char}
    (hrest : NoDigit rest) :
    places ('.' :: (padded width n ++ rest)) = some (nanos, rest) := by
  have hlength : (padded width n).length = width := Text.length_padded hwidth hn
  have hread : digitsUpTo 9 (padded width n ++ rest) = some (n, rest) :=
    digitsUpTo_padded (by omega) hrest
  have htaken : (padded width n ++ rest).length - rest.length = width := by
    rw [List.length_append, hlength, Nat.add_sub_cancel]
  have hleft : rest.dropWhile Char.isDigit = rest := by
    cases rest with
    | nil => rfl
    | cons c rest => exact List.dropWhile_cons_of_neg (by simpa using hrest c rfl)
  unfold places
  simp only [hread, Option.map_some, htaken, hleft]
  exact congrArg (fun value => some (value, rest)) hvalue

/-- Three, six or nine places say all that there is to say. -/
theorem places_fractionText {nanos : Nat} (h : nanos < second) {c : Char} (hc : c.isDigit = false)
    (hpoint : c ≠ '.') (rest : List Char) :
    places (fractionText nanos ++ c :: rest) = some (nanos, c :: rest) := by
  have hnanos : nanos < 1000000000 := h
  have hrest : NoDigit (c :: rest) := noDigit_cons hc rest
  unfold fractionText
  split
  · next hzero =>
    rw [hzero]
    unfold places
    split
    · next heq => exact absurd (List.cons.inj heq).1 hpoint
    · rfl
  · split
    · have hn : nanos / 1000000 < 1000 := by omega
      have hvalue : nanos / 1000000 * 1000000 = nanos := by omega
      exact places_padded (by decide) (by decide) hn hvalue hrest
    · split
      · have hn : nanos / 1000 < 1000000 := by omega
        have hvalue : nanos / 1000 * 1000 = nanos := by omega
        exact places_padded (by decide) (by decide) hn hvalue hrest
      · exact places_padded (by decide) (by decide) hnanos (Nat.mul_one nanos) hrest

/-! ## Whole texts -/

/-- What has been read is passed on to what comes next. -/
theorem read_bind {α β : Type} {part : Option α} {a : α} {next : α → Option β}
    (h : part = some a) : part >>= next = next a := by
  rw [h]
  rfl

/-- A character and the number after it are read, and then what comes next. -/
theorem read_part {β : Type} {c : Char} (hc : isBlank c = false) {n : Nat} (hn : n < 100)
    {rest : List Char} (hrest : NoDigit rest) {next : Nat × List Char → Option β} :
    (do let cs ← lenientMark c (c :: (padded 2 n ++ rest)); lenientPair cs >>= next) =
      next (n, rest) :=
  (read_bind (lenientMark_cons hc _)).trans (read_bind (lenientPair_padded hn hrest))

/-- The decimal places of a second are never followed by another digit. -/
theorem noDigit_fractionText (nanos : Nat) (rest : List Char) :
    NoDigit (fractionText nanos ++ 'Z' :: rest) := by
  unfold fractionText
  split
  · exact noDigit_cons (by decide) _
  · split
    · exact noDigit_cons (by decide) _
    · split <;> exact noDigit_cons (by decide) _

/-- A date and a time of day that an instant is written with make the instant again. -/
theorem assemble?_parts (t : Instant) :
    assemble? (Date.ofDays (t.secs / 86400)) ((t.secs % 86400).toNat / 3600)
      ((t.secs % 86400).toNat / 60 % 60) ((t.secs % 86400).toNat % 60 + t.nanos / second)
      (t.nanos % second) 0 = some t := by
  obtain ⟨hyear0, hyear1⟩ := t.year_date
  obtain ⟨inDay, hinDay⟩ : ∃ inDay : Nat, t.secs % 86400 = inDay :=
    ⟨(t.secs % 86400).toNat, by omega⟩
  -- only the last second of a minute can hold a leap second
  obtain ⟨hseconds, hwhole, hnanos⟩ : inDay % 60 + t.nanos / second ≤ 60 ∧
      min (inDay % 60 + t.nanos / second) 59 = inDay % 60 ∧
      t.nanos % second + (if inDay % 60 + t.nanos / second = 60 then second else 0) = t.nanos := by
    have hlt : t.nanos < 2 * 1000000000 := t.nanos_lt
    have hleap : 1000000000 ≤ t.nanos → t.secs % 60 = 59 := t.leap_at_minute
    simp only [second]
    split <;> omega
  have hsecs : t.secs / 86400 * 86400 + (inDay / 3600 : Nat) * 3600 +
      (inDay / 60 % 60 : Nat) * 60 + (inDay % 60 : Nat) - 0 = t.secs := by omega
  rw [hinDay, Int.toNat_natCast]
  unfold assemble?
  rw [if_pos ⟨Date.isValid_ofDays _, hyear0, hyear1, by omega, by omega, hseconds, by decide⟩]
  simp only [Date.toDays_ofDays, hwhole, hsecs, hnanos]
  exact dif_pos ⟨t.secs_ge, t.secs_le, t.nanos_lt, t.leap_at_minute⟩

theorem lenientOffset_zulu : lenientOffset (trimStart ['Z']) = some (0, []) := by decide

/-- Every instant is read as what was written. -/
theorem readLenient?_toText (t : Instant) : readLenient? (toText t) = some t := by
  have hdate := Date.lt_of_isValid (Date.isValid_ofDays (t.secs / 86400))
  have hinDay : (t.secs % 86400).toNat < 86400 := by omega
  have hsecond : t.nanos / second < 2 := Nat.div_lt_of_lt_mul t.nanos_lt
  have hnanos : t.nanos % second < second := Nat.mod_lt _ (by decide)
  refine Eq.trans ?_ (assemble?_parts t)
  unfold toText
  generalize Date.ofDays (t.secs / 86400) = date at *
  generalize (t.secs % 86400).toNat = inDay at *
  simp only [List.append_assoc, List.cons_append]
  -- part by part, each ends where the next begins
  refine (read_bind (lenientYear_yearText _ (noDigit_cons (by decide) _))).trans ?_
  refine (read_part (by decide) (by omega) (noDigit_cons (by decide) _)).trans ?_
  refine (read_part (by decide) (by omega) (noDigit_cons (by decide) _)).trans ?_
  refine (read_bind rfl).trans ?_
  refine (read_bind (lenientPair_padded (by omega) (noDigit_cons (by decide) _))).trans ?_
  refine (read_part (by decide) (by omega) (noDigit_cons (by decide) _)).trans ?_
  refine (read_part (by decide) (by omega) (noDigit_fractionText _ _)).trans ?_
  refine (read_bind (places_fractionText hnanos (by decide) (by decide) _)).trans ?_
  exact read_bind lenientOffset_zulu

end Rfc3339

end HourlySnapshots
