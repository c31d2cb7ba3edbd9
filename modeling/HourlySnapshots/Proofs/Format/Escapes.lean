import HourlySnapshots.Proofs.Format.Digits
import HourlySnapshots.Text.Percent

/-!
# Escapes that are resolved again

The bytes of a text are read as the text, and so are its escapes. What is written for a text holds
no character with a meaning in an address, so that it can be found again between the marks of a
query.
-/

namespace HourlySnapshots.Text

/-! ## Bytes of characters -/

theorem toList_loop (bytes : ByteArray) (i : Nat) (acc : List UInt8) :
    ByteArray.toList.loop bytes i acc = acc.reverse ++ bytes.data.toList.drop i := by
  fun_induction ByteArray.toList.loop bytes i acc with
  | case1 i acc hlt ih =>
    have hi : i < bytes.data.toList.length := by simpa using hlt
    rw [ih, List.drop_eq_getElem_cons hi]
    simp [ByteArray.get!, hlt]
  | case2 i acc hge =>
    rw [List.drop_eq_nil_of_le (by simpa using hge)]
    simp

/-- A character has the bytes of its encoding. -/
theorem utf8_singleton (c : Char) : utf8 (String.singleton c) = String.utf8EncodeChar c := by
  show (String.singleton c).toByteArray.toList = String.utf8EncodeChar c
  rw [String.toByteArray_singleton, List.utf8Encode_singleton, ByteArray.toList, toList_loop,
    List.drop_zero, List.toList_data_toByteArray]
  rfl

/-- The number of a character is not that of a surrogate, and not too large. -/
theorem toNat_range (c : Char) :
    c.toNat < 0xD800 ∨ (0xDFFF < c.toNat ∧ c.toNat < 0x110000) := c.valid

/-- A byte that follows in a character brings in its six low bits. -/
theorem lossyFrom_more {missing bits low high n : Nat} (rest : List UInt8) (hn : n < 256)
    (hlow : low ≤ n) (hhigh : n ≤ high) :
    lossyFrom (some ⟨missing, bits, low, high⟩) (UInt8.ofNat n :: rest) =
      if missing ≤ 1 then Char.ofNat (bits * 64 + n % 64) :: lossyFrom none rest
      else lossyFrom (some ⟨missing - 1, bits * 64 + n % 64, 0x80, 0xBF⟩) rest := by
  have hbyte : (UInt8.ofNat n).toNat = n := by simp [Nat.mod_eq_of_lt hn]
  rw [lossyFrom]
  simp only [hbyte, if_pos (And.intro hlow hhigh)]

/-- The first byte of a longer character tells what is to follow. -/
theorem lossyFrom_lead {n missing bits low high : Nat} (rest : List UInt8) (hn : n < 256)
    (hlead : leadByte? n = some (missing, bits, low, high)) :
    lossyFrom none (UInt8.ofNat n :: rest) = lossyFrom (some ⟨missing, bits, low, high⟩) rest := by
  have hbyte : (UInt8.ofNat n).toNat = n := by simp [Nat.mod_eq_of_lt hn]
  have hlarge : ¬ n < 0x80 := by
    intro hsmall
    unfold leadByte? at hlead
    split_ifs at hlead <;> omega
  rw [lossyFrom]
  simp only [hbyte, if_neg hlarge, hlead]

theorem leadByte?_two {x : Nat} (hge : 2 ≤ x) (hlt : x < 32) :
    leadByte? (x + 192) = some (1, x, 0x80, 0xBF) := by
  unfold leadByte?
  rw [if_pos (by omega), Nat.add_sub_cancel]

/-- For a character of three bytes, the second one is in the range that the first one asks for. -/
theorem leadByte?_three {x y : Nat} (hx : x < 16) (hy : y < 64) (hlong : x = 0 → 32 ≤ y)
    (hsurrogate : x = 13 → y < 32) :
    ∃ low high, leadByte? (x + 224) = some (2, x, low, high) ∧ low ≤ y + 128 ∧ y + 128 ≤ high := by
  unfold leadByte?
  rw [if_neg (by omega)]
  by_cases hzero : x = 0
  · subst hzero
    exact ⟨0xA0, 0xBF, rfl, by omega, by omega⟩
  · rw [if_neg (by omega)]
    by_cases hthirteen : x = 13
    · subst hthirteen
      exact ⟨0x80, 0x9F, rfl, by omega, by omega⟩
    · rw [if_neg (by omega), if_pos (by omega), Nat.add_sub_cancel]
      exact ⟨0x80, 0xBF, rfl, by omega, by omega⟩

/-- For a character of four bytes, too. -/
theorem leadByte?_four {x y : Nat} (hx : x < 5) (hy : y < 64) (hlong : x = 0 → 16 ≤ y)
    (hlast : x = 4 → y < 16) :
    ∃ low high, leadByte? (x + 240) = some (3, x, low, high) ∧ low ≤ y + 128 ∧ y + 128 ≤ high := by
  unfold leadByte?
  rw [if_neg (by omega), if_neg (by omega), if_neg (by omega), if_neg (by omega)]
  by_cases hzero : x = 0
  · subst hzero
    exact ⟨0x90, 0xBF, rfl, by omega, by omega⟩
  · rw [if_neg (by omega)]
    by_cases hfour : x = 4
    · subst hfour
      exact ⟨0x80, 0x8F, rfl, by omega, by omega⟩
    · rw [if_pos (by omega), Nat.add_sub_cancel]
      exact ⟨0x80, 0xBF, rfl, by omega, by omega⟩

/-- The bytes of a character are read as the character. -/
theorem lossyFrom_utf8EncodeChar (c : Char) (rest : List UInt8) :
    lossyFrom none (String.utf8EncodeChar c ++ rest) = c :: lossyFrom none rest := by
  have hrange := toNat_range c
  have hback : Char.ofNat c.toNat = c := Char.ofNat_toNat c
  unfold String.utf8EncodeChar
  simp only [show c.val.toNat = c.toNat from rfl]
  generalize c.toNat = n at hrange hback ⊢
  split_ifs with hone htwo hthree
  · have hbyte : (UInt8.ofNat n).toNat = n := by
      rw [UInt8.toNat_ofNat']
      omega
    show lossyFrom none (UInt8.ofNat n :: rest) = c :: lossyFrom none rest
    rw [lossyFrom]
    simp only [hbyte, if_pos (show n < 0x80 by omega), hback]
  · have hlead := leadByte?_two (x := n / 64 % 32) (by omega) (by omega)
    have hbits : n / 64 % 32 * 64 + (n % 64 + 128) % 64 = n := by omega
    show lossyFrom none (UInt8.ofNat (n / 64 % 32 + 192) :: UInt8.ofNat (n % 64 + 128) :: rest) = _
    rw [lossyFrom_lead _ (by omega) hlead, lossyFrom_more _ (by omega) (by omega) (by omega),
      if_pos (by omega), hbits, hback]
  · obtain ⟨low, high, hlead, hlow, hhigh⟩ := leadByte?_three (x := n / 4096 % 16)
      (y := n / 64 % 64) (by omega) (by omega) (by omega) (by omega)
    have hbits :
        (n / 4096 % 16 * 64 + (n / 64 % 64 + 128) % 64) * 64 + (n % 64 + 128) % 64 = n := by
      omega
    show lossyFrom none (UInt8.ofNat (n / 4096 % 16 + 224) ::
      UInt8.ofNat (n / 64 % 64 + 128) :: UInt8.ofNat (n % 64 + 128) :: rest) = _
    rw [lossyFrom_lead _ (by omega) hlead, lossyFrom_more _ (by omega) hlow hhigh,
      if_neg (by omega), lossyFrom_more _ (by omega) (by omega) (by omega), if_pos (by omega),
      hbits, hback]
  · obtain ⟨low, high, hlead, hlow, hhigh⟩ := leadByte?_four (x := n / 262144 % 8)
      (y := n / 4096 % 64) (by omega) (by omega) (by omega) (by omega)
    have hbits : ((n / 262144 % 8 * 64 + (n / 4096 % 64 + 128) % 64) * 64 +
        (n / 64 % 64 + 128) % 64) * 64 + (n % 64 + 128) % 64 = n := by
      omega
    show lossyFrom none (UInt8.ofNat (n / 262144 % 8 + 240) :: UInt8.ofNat (n / 4096 % 64 + 128) ::
      UInt8.ofNat (n / 64 % 64 + 128) :: UInt8.ofNat (n % 64 + 128) :: rest) = _
    rw [lossyFrom_lead _ (by omega) hlead, lossyFrom_more _ (by omega) hlow hhigh,
      if_neg (by omega), lossyFrom_more _ (by omega) (by omega) (by omega), if_neg (by omega),
      lossyFrom_more _ (by omega) (by omega) (by omega), if_pos (by omega), hbits, hback]

/-- The bytes of a text are read as the text. -/
theorem lossy_flatMap_utf8 (cs : List Char) :
    lossy (cs.flatMap fun c => utf8 (String.singleton c)) = cs := by
  unfold lossy
  induction cs with
  | nil => rfl
  | cons c rest ih =>
    rw [List.flatMap_cons, utf8_singleton, lossyFrom_utf8EncodeChar, ih]

namespace Percent

/-! ## Escapes of bytes -/

theorem hexValue?_toUpper_digitChar :
    ∀ d < 16, hexValue? (Nat.digitChar d).toUpper = some d := by decide

theorem isAlphanum_toUpper_digitChar :
    ∀ d < 16, (Nat.digitChar d).toUpper.isAlphanum = true := by decide

theorem escape_eq (b : UInt8) :
    escape b =
      ['%', (Nat.digitChar (b.toNat / 16 % 16)).toUpper, (Nat.digitChar (b.toNat % 16)).toUpper] :=
  rfl

/-- The escape of a byte is resolved to the byte. -/
theorem decodeBytes_escape (b : UInt8) (rest : List Char) :
    decodeBytes (escape b ++ rest) = b :: decodeBytes rest := by
  have hlt : b.toNat < 256 := b.toNat_lt
  have hvalue : b.toNat / 16 % 16 * 16 + b.toNat % 16 = b.toNat := by omega
  rw [escape_eq]
  simp only [List.cons_append, List.nil_append, decodeBytes,
    hexValue?_toUpper_digitChar _ (Nat.mod_lt (b.toNat / 16) (by decide)),
    hexValue?_toUpper_digitChar _ (Nat.mod_lt b.toNat (by decide)), hvalue, UInt8.ofNat_toNat]

theorem decodeBytes_flatMap_escape (bytes : List UInt8) (rest : List Char) :
    decodeBytes (bytes.flatMap escape ++ rest) = bytes ++ decodeBytes rest := by
  induction bytes with
  | nil => rfl
  | cons b bytes ih =>
    rw [List.flatMap_cons, List.append_assoc, decodeBytes_escape, ih, List.cons_append]

/-- A character that is no percent sign is left as it is. -/
theorem decodeBytes_cons {c : Char} (hc : c ≠ '%') (rest : List Char) :
    decodeBytes (c :: rest) = utf8 (String.singleton c) ++ decodeBytes rest := by
  rw [decodeBytes]
  exact fun a b rest' hpercent _ => hc hpercent

/-! ## Escapes of texts -/

variable {keep : Char → Bool} {c : Char} {cs : List Char}

theorem decodeBytes_encodeWith (hkeep : keep '%' = false) (cs : List Char) :
    decodeBytes (encodeWith keep cs) = cs.flatMap fun c => utf8 (String.singleton c) := by
  unfold encodeWith
  induction cs with
  | nil => rfl
  | cons c rest ih =>
    rw [List.flatMap_cons, List.flatMap_cons]
    by_cases hplain : keep c = true
    · have hc : c ≠ '%' := by
        rintro rfl
        rw [hkeep] at hplain
        cases hplain
      rw [if_pos hplain, List.singleton_append, decodeBytes_cons hc, ih]
    · rw [if_neg hplain, decodeBytes_flatMap_escape, ih]

/-- What is written for a text is resolved to the text. -/
theorem decode_encode (cs : List Char) : decode (encode cs) = cs := by
  rw [decode, encode, decodeBytes_encodeWith (by decide), lossy_flatMap_utf8]

/-- A text of characters that are to be left as they are is written as it is. -/
theorem encodeWith_eq_self (h : ∀ c ∈ cs, keep c = true) : encodeWith keep cs = cs := by
  unfold encodeWith
  induction cs with
  | nil => rfl
  | cons c rest ih =>
    rw [List.flatMap_cons, if_pos (h c List.mem_cons_self),
      ih fun other hother => h other (List.mem_cons_of_mem c hother)]
    rfl

/-- What is written for a text is made of percent signs and characters without a meaning. -/
theorem of_mem_encode (h : c ∈ encode cs) : isUnreserved c = true ∨ c = '%' := by
  obtain ⟨original, -, hmem⟩ := List.mem_flatMap.mp h
  split at hmem
  · next hplain =>
    rw [List.mem_singleton.mp hmem]
    exact .inl hplain
  · obtain ⟨b, -, hescape⟩ := List.mem_flatMap.mp hmem
    have hdigit (d : Nat) (hd : d < 16) : isUnreserved (Nat.digitChar d).toUpper = true := by
      simp [isUnreserved, isAlphanum_toUpper_digitChar d hd]
    rw [escape_eq] at hescape
    simp only [List.mem_cons, List.not_mem_nil, or_false] at hescape
    rcases hescape with rfl | rfl | rfl
    · exact .inr rfl
    · exact .inl (hdigit _ (Nat.mod_lt _ (by decide)))
    · exact .inl (hdigit _ (Nat.mod_lt _ (by decide)))

/-- Letters and digits are among the first 128 characters. -/
theorem toNat_lt_of_isAlphanum (h : c.isAlphanum = true) : c.toNat < 128 := by
  have hsmall (last : Char) (hlast : last.toNat < 128) (hle : c.val ≤ last.val) : c.toNat < 128 :=
    Nat.lt_of_le_of_lt (UInt32.le_iff_toNat_le.mp hle) hlast
  rcases Bool.or_eq_true_iff.mp h with hletter | hdigit
  · rcases Bool.or_eq_true_iff.mp hletter with hupper | hlower
    · exact hsmall 'Z' (by decide) (of_decide_eq_true hupper).2
    · exact hsmall 'z' (by decide) (of_decide_eq_true (Bool.and_eq_true_iff.mp hlower).2)
  · exact hsmall '9' (by decide) (of_decide_eq_true (Bool.and_eq_true_iff.mp hdigit).2)

/-- The characters without a meaning are among the first 128. -/
theorem toNat_lt_of_isUnreserved (h : isUnreserved c = true) : c.toNat < 128 := by
  simp only [isUnreserved, Bool.or_eq_true, beq_iff_eq] at h
  rcases h with (((hplain | rfl) | rfl) | rfl) | rfl
  · exact toNat_lt_of_isAlphanum hplain
  · decide
  · decide
  · decide
  · decide

/-- A mark with a meaning does not stand in what is written for a text. -/
theorem not_mem_encode (mark : Char) (hmark : isUnreserved mark = false) (hne : mark ≠ '%')
    (cs : List Char) : mark ∉ encode cs := by
  intro hmem
  rcases of_mem_encode hmem with hplain | heq
  · rw [hmark] at hplain
    cases hplain
  · exact hne heq

/-! ## Queries -/

/-- The names and values in a query, without their escapes. -/
def parameters (query : List Char) : List (List Char × List Char) :=
  (query.splitOn '&').map fun part =>
    let (name, value) := splitAtFirst '=' part
    (decode name, decode value)

theorem takeWhile_ne_append {mark : Char} {before : List Char} (h : mark ∉ before)
    (after : List Char) :
    (before ++ mark :: after).takeWhile (fun c => decide (c ≠ mark)) = before := by
  have hplain : ∀ c ∈ before, decide (c ≠ mark) = true := by
    intro c hc
    exact decide_eq_true fun heq => h (heq ▸ hc)
  rw [List.takeWhile_append_of_pos hplain, List.takeWhile_cons_of_neg (by simp), List.append_nil]

theorem dropWhile_ne_append {mark : Char} {before : List Char} (h : mark ∉ before)
    (after : List Char) :
    (before ++ mark :: after).dropWhile (fun c => decide (c ≠ mark)) = mark :: after := by
  have hplain : ∀ c ∈ before, decide (c ≠ mark) = true := by
    intro c hc
    exact decide_eq_true fun heq => h (heq ▸ hc)
  rw [List.dropWhile_append_of_pos hplain, List.dropWhile_cons_of_neg (by simp)]

theorem splitAtFirst_append {mark : Char} {before : List Char} (h : mark ∉ before)
    (after : List Char) : splitAtFirst mark (before ++ mark :: after) = (before, after) := by
  rw [splitAtFirst, takeWhile_ne_append h, dropWhile_ne_append h]
  rfl

/-- How parameters are written in a query. -/
def query (parameters : List (List Char × List Char)) : List Char :=
  ['&'].intercalate (parameters.map fun (name, value) => encode name ++ '=' :: encode value)

theorem query_singleton (name value : List Char) :
    query [(name, value)] = encode name ++ '=' :: encode value := by
  simp [query, List.intercalate]

theorem query_cons_cons (name value : List Char) (next : List Char × List Char)
    (rest : List (List Char × List Char)) :
    query ((name, value) :: next :: rest) =
      encode name ++ '=' :: (encode value ++ '&' :: query (next :: rest)) := by
  simp [query, List.intercalate]

/-- The parameters that are written are the ones that are read. -/
theorem parameters_query {written : List (List Char × List Char)} (h : written ≠ []) :
    parameters (query written) = written := by
  have hamp : ∀ part ∈ written.map (fun (name, value) => encode name ++ '=' :: encode value),
      '&' ∉ part := by
    intro part hpart
    obtain ⟨⟨name, value⟩, -, rfl⟩ := List.mem_map.mp hpart
    have hname := not_mem_encode '&' (by decide) (by decide) name
    have hvalue := not_mem_encode '&' (by decide) (by decide) value
    simp [hname, hvalue]
  unfold parameters query
  rw [List.splitOn_intercalate '&' hamp (by simpa using h), List.map_map]
  apply List.map_id''
  rintro ⟨name, value⟩
  have hequals := not_mem_encode '=' (by decide) (by decide) name
  simp only [Function.comp_apply, splitAtFirst_append hequals, decode_encode]

theorem of_mem_intercalate {mark : Char} {parts : List (List Char)}
    (h : c ∈ [mark].intercalate parts) : c = mark ∨ ∃ part ∈ parts, c ∈ part := by
  induction parts with
  | nil => simp [List.intercalate] at h
  | cons part rest ih =>
    cases rest with
    | nil => exact .inr ⟨part, List.mem_cons_self, by simpa [List.intercalate] using h⟩
    | cons next rest =>
      have hsplit : c ∈ part ∨ c = mark ∨ c ∈ [mark].intercalate (next :: rest) := by
        simpa [List.intercalate] using h
      rcases hsplit with hpart | hmark | hrest
      · exact .inr ⟨part, List.mem_cons_self, hpart⟩
      · exact .inl hmark
      · rcases ih hrest with hmark | ⟨other, hother, hmem⟩
        · exact .inl hmark
        · exact .inr ⟨other, List.mem_cons_of_mem part hother, hmem⟩

/-- Escapes, and the marks of parameters, are all that a query adds to plain characters. -/
theorem of_mem_query {written : List (List Char × List Char)} (h : c ∈ query written) :
    isUnreserved c = true ∨ c = '%' ∨ c = '=' ∨ c = '&' := by
  rcases of_mem_intercalate h with hamp | ⟨part, hpart, hmem⟩
  · exact .inr (.inr (.inr hamp))
  · obtain ⟨⟨name, value⟩, -, rfl⟩ := List.mem_map.mp hpart
    rcases List.mem_append.mp hmem with hname | hvalue
    · rcases of_mem_encode hname with hplain | hpercent
      · exact .inl hplain
      · exact .inr (.inl hpercent)
    · rcases List.mem_cons.mp hvalue with hequals | hvalue
      · exact .inr (.inr (.inl hequals))
      · rcases of_mem_encode hvalue with hplain | hpercent
        · exact .inl hplain
        · exact .inr (.inl hpercent)

end Percent

end HourlySnapshots.Text
