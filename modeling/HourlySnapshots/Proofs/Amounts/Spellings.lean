import HourlySnapshots.Json.Decode
import HourlySnapshots.Json.Reader
import HourlySnapshots.Proofs.Amounts.Products
import HourlySnapshots.Proofs.Format.Decimals
import HourlySnapshots.Proofs.Format.Trimming

/-!
# Spellings of amounts

Services write one amount in several ways: as a string in plain notation, with commas in it and
blanks around it, as a string with an exponent, or as a whole number. Over all magnitudes of 96 bits
and all numbers of places each spelling is read as the number it stands for. Of several fields the
first one counts that is there and denotes an amount.
-/

namespace HourlySnapshots

namespace Text

/-! ## Commas and blanks -/

/-- A text that is like this when the blanks around it and the commas in it are taken away. -/
def Decorates (text plain : List Char) : Prop :=
  ∃ before body after, text = before ++ body ++ after ∧ (∀ c ∈ before, isBlank c = true) ∧
    (∀ c ∈ after, isBlank c = true) ∧ body.filter (· != ',') = plain

/-- What decorates a text is left out again. -/
theorem filter_trim_of_decorates {text plain : List Char} (h : Decorates text plain)
    (hne : plain ≠ []) (hplain : ∀ c ∈ plain, isBlank c = false) :
    (trim text).filter (· != ',') = plain := by
  obtain ⟨before, body, after, rfl, hbefore, hafter, rfl⟩ := h
  have hbody : ∀ c ∈ body, isBlank c = false := by
    intro c hc
    by_cases hcomma : c = ','
    · subst hcomma
      decide
    · exact hplain c (List.mem_filter.mpr ⟨hc, by simpa using hcomma⟩)
  have hbody_ne : body ≠ [] := by
    rintro rfl
    exact hne rfl
  rw [trim_between hbefore hbody hbody_ne hafter]

/-! ## Digits -/

/-- No number is written with zeros in front. -/
theorem head?_toDigits_ne {n : Nat} (hpos : 0 < n) : (Nat.toDigits 10 n).head? ≠ some '0' := by
  induction n using Nat.strong_induction_on with
  | _ n ih =>
    by_cases hsmall : n < 10
    · rw [Nat.toDigits_of_lt_base hsmall, List.head?_cons, Ne, Option.some.injEq,
        Nat.digitChar_eq_zero]
      omega
    · rw [Nat.toDigits_of_base_le (by decide) (by omega),
        List.head?_append_of_ne_nil _ Nat.toDigits_ne_nil]
      exact ih (n / 10) (by omega) (by omega)

theorem isDigit_of_mem_toDigits {c : Char} {n : Nat} (h : c ∈ Nat.toDigits 10 n) :
    c.isDigit = true :=
  Nat.isDigit_of_mem_toDigits (by decide) (by decide) h

theorem exists_toDigits_eq (n : Nat) :
    ∃ c rest, Nat.toDigits 10 n = c :: rest ∧ c.isDigit = true := by
  obtain ⟨c, rest, hdigits⟩ := List.exists_cons_of_ne_nil (Nat.toDigits_ne_nil (n := n) (b := 10))
  exact ⟨c, rest, hdigits, isDigit_of_mem_toDigits (hdigits ▸ List.mem_cons_self)⟩

/-- A whole number below the limit is read back. -/
theorem readCount?_toDigits {limit n : Nat} (h : n < limit) :
    readCount? limit (Nat.toDigits 10 n) = some n := by
  obtain ⟨c, rest, hdigits, hc⟩ := exists_toDigits_eq n
  unfold readCount?
  split
  · next heq => exact absurd (List.cons.inj (hdigits.symm.trans heq)).1 (ne_sign_of_isDigit hc).2
  · dsimp only
    rw [readDigits?_toDigits, Option.bind_some, if_pos h]

end Text

namespace Decimal

open Text (signedDigits isDigit_of_mem_toDigits)

/-! ## Exponents -/

/-- A whole number with an exponent that makes its last digits places. -/
def scientificText (m : Int) (k : Nat) : List Char :=
  signedDigits m ++ 'e' :: '-' :: Nat.toDigits 10 k

variable {m : Int} {k : Nat}

theorem mem_signedDigits {c : Char} (h : c ∈ signedDigits m) : c = '-' ∨ c.isDigit = true := by
  unfold signedDigits at h
  split at h
  · rcases List.mem_cons.mp h with rfl | hdigit
    · exact .inl rfl
    · exact .inr (isDigit_of_mem_toDigits hdigit)
  · exact .inr (isDigit_of_mem_toDigits h)

/-- A whole number is read up to its last digit, whatever stands behind it. -/
theorem readPlain?_signedDigits_append (hm : m.natAbs < Nat.pow 2 96) (rest : List Char) :
    readPlain? (signedDigits m ++ rest) =
      (scan false true m.natAbs 0 rest).bind fun (n, s) =>
        ofParts? (if m < 0 then -(n : Int) else n) s := by
  have hscan : scan false false 0 0 (Nat.toDigits 10 m.natAbs ++ rest) =
      scan false true m.natAbs 0 rest := by
    have hvalue : Nat.ofDigitChars 10 (Nat.toDigits 10 m.natAbs) 0 = m.natAbs :=
      Nat.ofDigitChars_ten_toDigits
    have hdigits : ∀ c ∈ Nat.toDigits 10 m.natAbs, c.isDigit = true :=
      fun c hc => isDigit_of_mem_toDigits hc
    rw [scan_whole hdigits (.inr Nat.toDigits_ne_nil) 0 (by rwa [hvalue]), hvalue]
  unfold signedDigits
  split
  · rw [List.cons_append, readPlain?, hscan]
  · obtain ⟨c, more, hdigits, hc⟩ := Text.exists_toDigits_eq m.natAbs
    obtain ⟨hminus, hplus⟩ := Text.ne_sign_of_isDigit hc
    rw [hdigits, List.cons_append] at hscan ⊢
    unfold readPlain?
    split
    · next heq => exact absurd (List.cons.inj heq).1 hminus
    · next heq => exact absurd (List.cons.inj heq).1 hplus
    · rw [hscan]

theorem readPlain?_signedDigits (hm : m.natAbs < Nat.pow 2 96) :
    readPlain? (signedDigits m) = ofParts? m 0 := by
  have hread := readPlain?_signedDigits_append hm []
  have hsigned : (if m < 0 then -(m.natAbs : Int) else m.natAbs) = m := by
    split <;> omega
  rw [List.append_nil] at hread
  rw [hread, scan, if_pos rfl, Option.bind_some]
  simp only [hsigned]

/-- The plain reader leaves an exponent to the other one. -/
theorem readPlain?_scientificText (hm : m.natAbs < Nat.pow 2 96) :
    readPlain? (scientificText m k) = none := by
  rw [scientificText, readPlain?_signedDigits_append hm]
  rfl

theorem ofParts?_eq (hm : m.natAbs < Nat.pow 2 96) (hk : k ≤ 28) :
    ofParts? m k = some ⟨decide (m < 0), m.natAbs, k, hm, hk⟩ :=
  dif_pos ⟨hm, hk⟩

/-- An amount of a coefficient and a number of places has both, and zero has no sign. -/
theorem eq_of_ofParts? {d : Decimal} (h : ofParts? m k = some d) :
    d.coefficient = m ∧ d.scale = k ∧ d.canonical = d := by
  unfold ofParts? ofSigned? at h
  split at h
  · cases h
    refine ⟨?_, rfl, ?_⟩
    · simp only [coefficient, decide_eq_true_eq]
      split <;> omega
    · rw [canonical_eq_iff]
      rintro ⟨hnegative, hzero⟩
      simp only [decide_eq_true_eq, isZero, beq_iff_eq] at hnegative hzero
      omega
  · cases h

/-- An exponent of no less than minus 28 makes decimal places. -/
theorem readScientific?_scientificText (hm : m.natAbs < Nat.pow 2 96) (hk : k ≤ 28) :
    readScientific? (scientificText m k) = ofParts? m k := by
  have hmark : ∀ c ∈ signedDigits m, (!(c == 'e' || c == 'E')) = true := by
    intro c hc
    rcases mem_signedDigits hc with rfl | hdigit
    · decide
    · by_contra hmark
      simp only [Bool.not_eq_true, Bool.not_eq_false', Bool.or_eq_true, beq_iff_eq] at hmark
      rcases hmark with rfl | rfl <;> cases hdigit
  have hplain : readPlain? (signedDigits m) =
      some ⟨decide (m < 0), m.natAbs, 0, hm, by decide⟩ := by
    rw [readPlain?_signedDigits hm, ofParts?_eq hm]
  have hexponent : Text.readCount? (Nat.pow 2 32) (Nat.toDigits 10 k) = some k :=
    Text.readCount?_toDigits (lt_of_le_of_lt hk (by decide))
  have hplaces : 0 + k ≤ 28 := by omega
  unfold readScientific? scientificText
  dsimp only
  rw [List.dropWhile_append_of_pos hmark, List.takeWhile_append_of_pos hmark,
    List.dropWhile_cons_of_neg (by decide), List.takeWhile_cons_of_neg (by decide)]
  simp only [List.append_nil, hplain, Option.bind_some, hexponent]
  rw [scaleDown?, if_neg (by omega), if_pos hplaces, Nat.zero_add, ofParts?]

theorem read?_scientificText (hm : m.natAbs < Nat.pow 2 96) (hk : k ≤ 28) :
    read? (scientificText m k) = ofParts? m k := by
  rw [read?, readPlain?_scientificText hm, Option.none_or, readScientific?_scientificText hm hk]

theorem scientificText_ne_nil : scientificText m k ≠ [] :=
  List.append_ne_nil_of_right_ne_nil _ (List.cons_ne_nil _ _)

theorem not_blank_of_mem_scientificText {c : Char} (h : c ∈ scientificText m k) :
    Text.isBlank c = false := by
  rcases List.mem_append.mp h with hsigned | hrest
  · rcases mem_signedDigits hsigned with rfl | hdigit
    · decide
    · exact Text.isBlank_of_isDigit hdigit
  · rcases List.mem_cons.mp hrest with rfl | hrest
    · decide
    · rcases List.mem_cons.mp hrest with rfl | hdigit
      · decide
      · exact Text.isBlank_of_isDigit (isDigit_of_mem_toDigits hdigit)

/-- The lenient reader reads a text as what is left of it. -/
theorem readLenient?_of_decorates {text plain : List Char} (h : Text.Decorates text plain)
    (hne : plain ≠ []) (hplain : ∀ c ∈ plain, Text.isBlank c = false) :
    readLenient? text = read? plain := by
  unfold readLenient?
  rw [Text.filter_trim_of_decorates h hne hplain]
  split
  · exact absurd rfl hne
  · rfl

end Decimal

namespace Json

open Text (signedDigits isDigit_of_mem_toDigits digit?)

/-! ## Whole numbers in documents -/

/-- Digits go into a coefficient of 64 bits as long as it fits. -/
theorem readCoefficient_digits {digits : List Char} (hdigits : ∀ c ∈ digits, c.isDigit = true)
    {coefficient : Nat} (taken : Nat)
    (hfits : Nat.ofDigitChars 10 digits coefficient < Nat.pow 2 64) :
    readCoefficient coefficient taken digits =
      (Nat.ofDigitChars 10 digits coefficient, taken + digits.length, 0, []) := by
  induction digits generalizing coefficient taken with
  | nil => rfl
  | cons c others ih =>
    have hothers := fun d hd => hdigits d (List.mem_cons_of_mem c hd)
    have hdigit : digit? c = some (c.toNat - '0'.toNat) := if_pos (hdigits c List.mem_cons_self)
    have hlonger := Decimal.le_ofDigitChars others (10 * coefficient + (c.toNat - '0'.toNat))
    rw [Nat.ofDigitChars_cons] at hfits ⊢
    rw [readCoefficient]
    simp only [hdigit, Nat.mul_comm coefficient 10]
    rw [if_pos (by omega), ih hothers (taken + 1) hfits, List.length_cons, Nat.add_assoc,
      Nat.add_comm 1]

/-- A number of 64 bits is read as a whole one if it has 64 bits with its sign too. -/
theorem readMagnitude_toDigits {negative : Bool} {n : Nat} (hn : n < Nat.pow 2 64)
    (hnegative : negative = true → 0 < n ∧ n ≤ Nat.pow 2 63) :
    readMagnitude negative (Nat.toDigits 10 n) =
      some (ofInt (if negative then -(n : Int) else n), []) := by
  have hvalue : Nat.ofDigitChars 10 (Nat.toDigits 10 n) 0 = n := Nat.ofDigitChars_ten_toDigits
  have hread : readCoefficient 0 0 (Nat.toDigits 10 n) =
      (n, (Nat.toDigits 10 n).length, 0, []) := by
    rw [readCoefficient_digits (fun c hc => isDigit_of_mem_toDigits hc) 0 (by rwa [hvalue]), hvalue,
      Nat.zero_add]
  obtain ⟨c, rest, hdigits, hc⟩ := Text.exists_toDigits_eq n
  rcases Nat.eq_zero_or_pos n with rfl | hpos
  · cases negative with
    | false => rfl
    | true => exact absurd (hnegative rfl).1 (Nat.lt_irrefl 0)
  · have hzero : c ≠ '0' := by
      simpa [hdigits] using Text.head?_toDigits_ne hpos
    rw [hdigits] at hread ⊢
    cases negative with
    | false => simp [readMagnitude, hc, hzero, hread]
    | true =>
      -- only what is out of the range would be a floating-point number
      have hrange : ¬ (n = 0 ∨ Nat.pow 2 63 < n) := by
        obtain ⟨hpos, hle⟩ := hnegative rfl
        omega
      simp only [readMagnitude, hc, hzero, hread, if_neg hrange, Bool.not_true, Bool.false_eq_true,
        if_false, decide_false, Bool.false_and, List.length_cons, Nat.add_one_ne_zero, ne_eq,
        not_true_eq_false, if_true]

/-- A value that begins with a digit is a number. -/
theorem readValue_digit {c : Char} (hc : c.isDigit = true) (depth : Nat) (rest : List Char) :
    readValue depth (c :: rest) = readMagnitude false (c :: rest) := by
  have hne : ∀ mark : Char, mark.isDigit = false → c ≠ mark := by
    rintro mark hmark rfl
    rw [hc] at hmark
    cases hmark
  have hskip : skipBlanks (c :: rest) = c :: rest := by
    rw [skipBlanks, if_neg]
    rintro (h | h | h | h)
    all_goals exact hne _ (by decide) h
  unfold readValue
  rw [hskip]
  split
  case h_8 => rfl
  all_goals next heq => exact absurd (List.cons.inj heq).1 (hne _ (by decide))

/-- A document that is a whole number of 64 bits, with or without sign, holds that number. -/
theorem read?_signedDigits {m : Int} (hlow : -2 ^ 63 ≤ m) (hhigh : m < 2 ^ 64) :
    read? (String.ofList (signedDigits m)) = some (.number (.whole m)) := by
  have hvalue : readValue 127 (signedDigits m) = some (ofInt m, []) := by
    unfold signedDigits
    split
    · have hm : -(m.natAbs : Int) = m := by omega
      have hread : readMagnitude true (Nat.toDigits 10 m.natAbs) = some (ofInt m, []) := by
        rw [readMagnitude_toDigits (by norm_num; omega) (fun _ => by norm_num; omega), if_pos rfl,
          hm]
      exact hread
    · have hm : (m.natAbs : Int) = m := by omega
      have hread : readMagnitude false (Nat.toDigits 10 m.natAbs) = some (ofInt m, []) := by
        rw [readMagnitude_toDigits (by norm_num; omega) (by simp), if_neg (by decide), hm]
      obtain ⟨c, rest, hdigits, hc⟩ := Text.exists_toDigits_eq m.natAbs
      rw [hdigits] at hread ⊢
      rw [readValue_digit hc, hread]
  rw [read?, String.toList_ofList, hvalue]
  rfl

/-! ## Spellings and fields -/

section

variable {names : List String} {value : Json}

/-- The amount that is found is that of the first name that has one. -/
theorem firstAmount?_eq_some_iff {d : Decimal} :
    firstAmount? names value = some d ↔
      ∃ before name after given, names = before ++ name :: after ∧
        value.field? name = some given ∧ given.amount? = some d ∧
        ∀ other ∈ before, ∀ given, value.field? other = some given → given.amount? = none := by
  rw [firstAmount?, List.findSome?_eq_some_iff]
  constructor
  · rintro ⟨before, name, after, hnames, hamount, hbefore⟩
    obtain ⟨given, hgiven, hamount⟩ := Option.bind_eq_some_iff.mp hamount
    exact ⟨before, name, after, given, hnames, hgiven, hamount, fun other hother =>
      Option.bind_eq_none_iff.mp (hbefore other hother)⟩
  · rintro ⟨before, name, after, given, hnames, hgiven, hamount, hbefore⟩
    exact ⟨before, name, after, hnames, Option.bind_eq_some_iff.mpr ⟨given, hgiven, hamount⟩,
      fun other hother => Option.bind_eq_none_iff.mpr (hbefore other hother)⟩

theorem firstAmount?_eq_none_iff :
    firstAmount? names value = none ↔
      ∀ name ∈ names, ∀ given, value.field? name = some given → given.amount? = none := by
  simp only [firstAmount?, List.findSome?_eq_none_iff, Option.bind_eq_none_iff]

end

/--
Every whole number of 96 bits, taken to any number of places that an amount can have, is an amount
of exactly that value, and each of its spellings is read as that amount: its written form with all
its places and its digits with an exponent, both with blanks around and commas anywhere in them, and
the whole number itself where it has no places and fits 64 bits. Of several fields the first one
counts that is there and denotes an amount, and where there is none there is no amount.
-/
theorem spellings_read_exactly :
    (∀ (m : Int) (k : Nat), m.natAbs < 2 ^ 96 → k ≤ 28 →
      ∃ d, Decimal.ofParts? m k = some d ∧ d.toRat = m / 10 ^ k ∧ d.scale = k ∧
        (∀ text, Text.Decorates text d.toText →
          (Json.string (String.ofList text)).amount? = some d) ∧
        (∀ text, Text.Decorates text (Decimal.scientificText m k) →
          (Json.string (String.ofList text)).amount? = some d) ∧
        (k = 0 → -2 ^ 63 ≤ m → m < 2 ^ 64 →
          read? (String.ofList (signedDigits m)) = some (.number (.whole m)) ∧
            (Json.number (.whole m)).amount? = some d)) ∧
      (∀ names value d, firstAmount? names value = some d ↔
        ∃ before name after given, names = before ++ name :: after ∧
          value.field? name = some given ∧ given.amount? = some d ∧
          ∀ other ∈ before, ∀ given, value.field? other = some given → given.amount? = none) ∧
      ∀ names value, firstAmount? names value = none ↔
        ∀ name ∈ names, ∀ given, value.field? name = some given → given.amount? = none := by
  refine ⟨?_, fun _ _ _ => firstAmount?_eq_some_iff, fun _ _ => firstAmount?_eq_none_iff⟩
  intro m k hm hk
  have hparts := Decimal.ofParts?_eq hm hk
  obtain ⟨hcoefficient, hscale, hcanonical⟩ := Decimal.eq_of_ofParts? hparts
  refine ⟨_, hparts, ?_, hscale, ?_, ?_, ?_⟩
  · rw [Decimal.toRat, hcoefficient]
  · intro text htext
    have hread := Decimal.readLenient?_of_decorates htext (Decimal.toText_ne_nil _)
      fun c hc => (Decimal.not_skipped_of_mem_toText hc).1
    rw [amount?, String.toList_ofList, hread, Decimal.read?_toText, hcanonical]
  · intro text htext
    have hread := Decimal.readLenient?_of_decorates htext Decimal.scientificText_ne_nil
      fun c hc => Decimal.not_blank_of_mem_scientificText hc
    rw [amount?, String.toList_ofList, hread, Decimal.read?_scientificText hm hk, hparts]
  · rintro rfl hlow hhigh
    exact ⟨read?_signedDigits hlow hhigh, hparts⟩

/--
The lowest amount that has 28 places, with commas in it and blanks around it and with an exponent,
and the largest whole number of 64 bits.
-/
theorem spellings_of_extremes :
    (Json.string " -7,.9228162514264337,593543950335,\u3000\n").amount? =
        some (.literal (-79228162514264337593543950335) 28) ∧
      (Json.string "-79228162514264337593543950335e-28").amount? =
        some (.literal (-79228162514264337593543950335) 28) ∧
      (read? "18446744073709551615").bind amount? = some (.literal 18446744073709551615 0) := by
  obtain ⟨hread, -⟩ := spellings_read_exactly
  obtain ⟨d, hd, -, -, htext, hscientific, -⟩ := hread (-79228162514264337593543950335) 28
    (by decide) (by decide)
  obtain rfl : Decimal.literal (-79228162514264337593543950335) 28 = d := by
    rw [Decimal.literal, hd, Option.getD_some]
  obtain ⟨e, he, -, -, -, -, hwhole⟩ := hread 18446744073709551615 0 (by decide) (by decide)
  obtain rfl : Decimal.literal 18446744073709551615 0 = e := by
    rw [Decimal.literal, he, Option.getD_some]
  obtain ⟨hdocument, hamount⟩ := hwhole rfl (by decide) (by decide)
  have hdigits :
      "18446744073709551615" = String.ofList (signedDigits 18446744073709551615) := by
    decide +kernel
  refine ⟨?_, ?_, ?_⟩
  · exact htext _ ⟨[' '], "-7,.9228162514264337,593543950335,".toList, "\u3000\n".toList, rfl,
      List.all_eq_true.mp (by decide), List.all_eq_true.mp (by decide), by decide +kernel⟩
  · exact hscientific _ ⟨[], "-79228162514264337593543950335e-28".toList, [], rfl,
      List.all_eq_true.mp rfl, List.all_eq_true.mp rfl, by decide +kernel⟩
  · rw [hdigits, hdocument, Option.bind_some, hamount]

end Json

end HourlySnapshots
