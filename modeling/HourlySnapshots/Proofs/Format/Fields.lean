import HourlySnapshots.Json.Decode
import HourlySnapshots.Proofs.Format.Decimals
import HourlySnapshots.Proofs.Format.Instants
import HourlySnapshots.Proofs.Format.OrderedFields

/-!
# Fields that are found again

An object holds the fields that it is made of, and a field decodes to the value that was encoded.
-/

namespace HourlySnapshots

namespace Json

/-- A field that is put into an object is found there, and so are all others. -/
theorem lookup_insertField (name other : String) (value : Json)
    (fields : List (String × Json)) :
    (insertField name value fields).lookup other =
      if other = name then some value else fields.lookup other := by
  induction fields with
  | nil => rw [insertField, lookup_cons_ite]
  | cons field rest ih =>
    obtain ⟨held, kept⟩ := field
    unfold insertField
    split
    · rw [lookup_cons_ite]
    · split
      · next hheld =>
        rw [lookup_cons_ite, lookup_cons_ite, hheld]
        by_cases hother : other = held <;> simp [hother]
      · next hheld =>
        rw [lookup_cons_ite, lookup_cons_ite, ih]
        by_cases hother : other = held
        · rw [if_pos hother, if_pos hother, if_neg (hother ▸ Ne.symm hheld)]
        · rw [if_neg hother, if_neg hother]

/-- Putting fields of other names into an object makes no difference. -/
theorem lookup_foldl_of_not_mem {fields : List (String × Json)} {name : String}
    (h : name ∉ fields.map Prod.fst) (kept : List (String × Json)) :
    (fields.foldl (fun kept (name, value) => insertField name value kept) kept).lookup name =
      kept.lookup name := by
  induction fields generalizing kept with
  | nil => rfl
  | cons field rest ih =>
    obtain ⟨hne, hrest⟩ := not_or.mp (mt List.mem_cons.mpr h)
    rw [List.foldl_cons, ih hrest, lookup_insertField, if_neg hne]

/-- A field is found under its name when no other one has that name. -/
theorem lookup_foldl_of_mem {fields : List (String × Json)}
    (hdistinct : (fields.map Prod.fst).Nodup) (kept : List (String × Json))
    {field : String × Json} (h : field ∈ fields) :
    (fields.foldl (fun kept (name, value) => insertField name value kept) kept).lookup field.1 =
      some field.2 := by
  induction fields generalizing kept with
  | nil => cases h
  | cons first rest ih =>
    obtain ⟨hnew, hrest⟩ := List.nodup_cons.mp hdistinct
    rcases List.mem_cons.mp h with rfl | hmem
    · rw [List.foldl_cons, lookup_foldl_of_not_mem hnew, lookup_insertField, if_pos rfl]
    · exact ih hrest _ hmem

/-- A record gives each of some fields. -/
def Record.Gives (r : Record) : List (String × Json) → Prop
  | [] => True
  | (name, value) :: rest => r.get? name = some value ∧ r.Gives rest

theorem Record.gives_of_forall {r : Record} {fields : List (String × Json)}
    (h : ∀ field ∈ fields, r.get? field.1 = some field.2) : r.Gives fields := by
  induction fields with
  | nil => trivial
  | cons field rest ih =>
    obtain ⟨hfirst, hrest⟩ := List.forall_mem_cons.mp h
    exact ⟨hfirst, ih hrest⟩

/-- An object that is made of fields with different names is a record that gives each of them. -/
theorem asRecord_ofFields {α : Type} {fields : List (String × Json)}
    (hdistinct : (fields.map Prod.fst).Nodup) {names : List String}
    {decode : Record → Decoded α} {value : α}
    (h : ∀ r : Record, r.complete = .ok () → r.Gives fields → decode r = .ok value) :
    (ofFields fields).asRecord names >>= decode = .ok value := by
  have hgives : (Record.named _).Gives fields :=
    Record.gives_of_forall fun field hfield => lookup_foldl_of_mem hdistinct [] hfield
  exact h _ rfl hgives

/-- A field that is there is decoded, whatever would stand in for it. -/
theorem Record.defaulted_eq {α : Type} {r : Record} {name : String} {value : Json} {default : α}
    {decode : Json → Decoded α} (hget : r.get? name = some value) :
    r.defaulted name default decode = decode value := by
  rw [defaulted, hget]

/-! ## Values -/

/-- What is encoded decodes again, up to what `kept` leaves of it, and is never `null`. -/
structure Decodes {α : Type} (encode : α → Json) (decode : Json → Decoded α) (kept : α → α) :
    Prop where
  ne_null : ∀ a, encode a ≠ .null
  decode_encode : ∀ a, decode (encode a) = .ok (kept a)

namespace Decodes

variable {α : Type} {encode : α → Json} {decode : Json → Decoded α} {kept : α → α} {r : Record}
  {name : String}

/-- A field that must be there is read back. -/
theorem required (h : Decodes encode decode kept) {a : α} (hget : r.get? name = some (encode a)) :
    r.required name decode = .ok (kept a) := by
  rw [Record.required, hget]
  exact h.decode_encode a

/-- A value that may be missing is read back, as is that it is missing. -/
theorem decodeOption (h : Decodes encode decode kept) (a : Option α) :
    decodeOption decode (ofOption encode a) = .ok (a.map kept) := by
  cases a with
  | none => rfl
  | some a =>
    have hvalue := h.decode_encode a
    have hne := h.ne_null a
    show Json.decodeOption decode (encode a) = _
    unfold Json.decodeOption
    split
    · next heq => exact absurd heq hne
    · rw [hvalue]
      rfl

/-- A field that may be missing is read back. -/
theorem optional (h : Decodes encode decode kept) {a : Option α}
    (hget : r.get? name = some (ofOption encode a)) :
    r.optional name decode = .ok (a.map kept) := by
  rw [← h.decodeOption a]
  unfold Record.optional Json.decodeOption
  rw [hget]
  cases ofOption encode a <;> rfl

theorem defaulted (h : Decodes encode decode kept) {a : Option α}
    (hget : r.get? name = some (ofOption encode a)) :
    r.defaulted name none (Json.decodeOption decode) = .ok (a.map kept) := by
  rw [Record.defaulted_eq hget, h.decodeOption a]

end Decodes

theorem decodes_text : Decodes .string decodeText id :=
  ⟨fun _ => nofun, fun _ => rfl⟩

theorem decodes_textOrNumber : Decodes .string decodeTextOrNumber id :=
  ⟨fun _ => nofun, fun _ => rfl⟩

theorem decodes_decimal : Decodes ofDecimal decodeDecimal Decimal.canonical := by
  refine ⟨fun _ => nofun, fun d => ?_⟩
  rw [ofDecimal, decodeDecimal, String.toList_ofList, Decimal.read?_toText]

/-- An instant is read back to the nanosecond. -/
theorem decodes_instant : Decodes ofInstant decodeInstant id := by
  refine ⟨fun _ => nofun, fun t => ?_⟩
  rw [ofInstant, decodeInstant, String.toList_ofList, Rfc3339.readLenient?_toText]
  rfl

/-- Where an amount that cannot be read counts as absent, every encoded amount is there. -/
theorem defaulted_amount {r : Record} {name : String} {a : Option Decimal}
    (hget : r.get? name = some (ofOption ofDecimal a)) :
    (r.defaulted name none fun value => .ok value.amount?) = .ok (a.map Decimal.canonical) := by
  rw [Record.defaulted_eq hget]
  cases a with
  | none => rfl
  | some d =>
    show Except.ok (Decimal.readLenient? (String.ofList d.toText).toList) = _
    rw [String.toList_ofList, Decimal.readLenient?_toText]
    rfl

end Json

end HourlySnapshots
