import HourlySnapshots.Json.Reader
import Mathlib.Data.String.Basic

/-!
# Fields in order

A document that has been read holds the fields of every object in ascending order of their names,
each name once. What is said under a name is therefore said in one place only.
-/

namespace HourlySnapshots

/-- A name is looked up in the first entry of a list, and else in those behind it. -/
theorem lookup_cons_ite {α : Type} (other held : String) (kept : α) (rest : List (String × α)) :
    List.lookup other ((held, kept) :: rest) =
      if other = held then some kept else rest.lookup other := by
  rw [List.lookup_cons]
  by_cases hother : other = held
  · simp [hother]
  · rw [if_neg hother, beq_eq_false_iff_ne.mpr hother]

/-- Where values are changed and names are not, the changed value is found under its name. -/
theorem lookup_map_value {α β : Type} (f : String → α → β) (name : String)
    (entries : List (String × α)) :
    (entries.map fun (other, kept) => (other, f other kept)).lookup name =
      (entries.lookup name).map (f name) := by
  induction entries with
  | nil => rfl
  | cons entry rest ih =>
    obtain ⟨other, kept⟩ := entry
    simp only [List.map_cons, lookup_cons_ite, ih]
    split
    · next h => rw [h]; rfl
    · rfl

namespace Json

/-- The fields of every object in a value are in ascending order of their names. -/
inductive Ordered : Json → Prop where
  | null : Ordered .null
  | bool (b : Bool) : Ordered (.bool b)
  | number (n : JsonNumber) : Ordered (.number n)
  | string (s : String) : Ordered (.string s)
  | array {items : List Json} (h : ∀ item ∈ items, Ordered item) : Ordered (.array items)
  | object {fields : List (String × Json)} (hnames : (fields.map Prod.fst).Pairwise (· < ·))
      (h : ∀ field ∈ fields, Ordered field.2) : Ordered (.object fields)

/-! ## Objects -/

/-- A field of the result is the one put in or was there before. -/
theorem mem_insertField {name : String} {value : Json} {fields : List (String × Json)}
    {field : String × Json} (h : field ∈ insertField name value fields) :
    field = (name, value) ∨ field ∈ fields := by
  induction fields with
  | nil => exact .inl (List.mem_singleton.mp h)
  | cons first rest ih =>
    obtain ⟨other, kept⟩ := first
    unfold insertField at h
    split at h
    · exact List.mem_cons.mp h
    · split at h
      · exact (List.mem_cons.mp h).imp_right (List.mem_cons_of_mem _)
      · rcases List.mem_cons.mp h with rfl | hrest
        · exact .inr List.mem_cons_self
        · exact (ih hrest).imp_right (List.mem_cons_of_mem _)

/-- Names in ascending order stay so when a field is put in. -/
theorem pairwise_insertField (name : String) (value : Json) {fields : List (String × Json)}
    (h : (fields.map Prod.fst).Pairwise (· < ·)) :
    ((insertField name value fields).map Prod.fst).Pairwise (· < ·) := by
  induction fields with
  | nil => simp [insertField]
  | cons first rest ih =>
    obtain ⟨other, kept⟩ := first
    obtain ⟨hfirst, hrest⟩ := List.pairwise_cons.mp h
    unfold insertField
    split
    · next hless =>
      refine List.pairwise_cons.mpr ⟨fun later hlater => ?_, h⟩
      rcases List.mem_cons.mp hlater with rfl | hlater
      · exact hless
      · exact hless.trans (hfirst later hlater)
    · next hnotless =>
      split
      · next heq => exact List.pairwise_cons.mpr ⟨heq ▸ hfirst, hrest⟩
      · next hne =>
        refine List.pairwise_cons.mpr ⟨fun later hlater => ?_, ih hrest⟩
        obtain ⟨field, hfield, rfl⟩ := List.mem_map.mp hlater
        rcases mem_insertField hfield with rfl | hfield
        · exact lt_of_le_of_ne (not_lt.mp hnotless) (Ne.symm hne)
        · exact hfirst _ (List.mem_map_of_mem hfield)

/-- An object that is made of fields is ordered, whatever their order and their names. -/
theorem ordered_ofFields {fields : List (String × Json)} (h : ∀ field ∈ fields, field.2.Ordered) :
    (ofFields fields).Ordered := by
  have hfold : ∀ kept : List (String × Json), (kept.map Prod.fst).Pairwise (· < ·) →
      (∀ field ∈ kept, field.2.Ordered) →
      (object
        (fields.foldl (fun kept field => insertField field.1 field.2 kept) kept)).Ordered := by
    induction fields with
    | nil => exact fun kept hnames hkept => .object hnames hkept
    | cons first rest ih =>
      obtain ⟨hfirst, hrest⟩ := List.forall_mem_cons.mp h
      intro kept hnames hkept
      refine ih hrest _ (pairwise_insertField _ _ hnames) fun field hfield => ?_
      rcases mem_insertField hfield with rfl | hfield
      · exact hfirst
      · exact hkept field hfield
  exact hfold [] .nil (by simp)

/-- In an ordered object, what is made of a value is found under the name of the value. -/
theorem lookup_filterMap {β : Type} {fields : List (String × Json)}
    (h : (fields.map Prod.fst).Pairwise (· < ·)) (f : Json → Option β) (name : String) :
    (fields.filterMap fun (other, value) => (f value).map fun b => (other, b)).lookup name =
      (fields.lookup name).bind f := by
  induction fields with
  | nil => rfl
  | cons first rest ih =>
    obtain ⟨other, value⟩ := first
    obtain ⟨hfirst, hrest⟩ := List.pairwise_cons.mp h
    by_cases hname : name = other
    · subst hname
      -- no later field has the same name
      have hlater : rest.lookup name = none := by
        refine List.lookup_eq_none_iff.mpr fun field hfield => ?_
        have hless := hfirst field.1 (List.mem_map_of_mem hfield)
        simpa using hless.ne
      cases hmade : f value with
      | none => simp [hmade, ih hrest, hlater]
      | some b => simp [hmade]
    · cases hmade : f value with
      | none => simp [hmade, ih hrest, lookup_cons_ite, hname]
      | some b => simp [hmade, ih hrest, lookup_cons_ite, hname]

/-- An object that is held under a name has its names in order as well. -/
theorem Ordered.pairwise_of_field? {document : Json} (h : document.Ordered) {name : String}
    {fields : List (String × Json)} (hfield : document.field? name = some (.object fields)) :
    (fields.map Prod.fst).Pairwise (· < ·) := by
  cases h with
  | object _ hvalues =>
    obtain ⟨before, after, rfl, -⟩ := List.lookup_eq_some_iff.mp hfield
    have hordered := hvalues (name, .object fields) (by simp)
    cases hordered with
    | object hnames _ => exact hnames
  | _ => cases hfield

/-! ## Reading -/

/-- Whatever a reader yields has a property. -/
def OnlyReads {α : Type} (P : α → Prop) (r : Rest α) : Prop := ∀ a left, r = some (a, left) → P a

namespace OnlyReads

variable {α β : Type} {P : α → Prop} {Q : β → Prop} {r : Rest α}

theorem none : OnlyReads P Option.none := by
  intro a left h
  cases h

theorem some {a : α} {left : List Char} (h : P a) : OnlyReads P (Option.some (a, left)) := by
  intro other left' hother
  obtain ⟨rfl, -⟩ := Prod.mk.inj (Option.some.inj hother)
  exact h

/-- What is read in two steps has its property by the second one. -/
theorem bind {f : α × List Char → Rest β} (h : OnlyReads P r)
    (hf : ∀ a left, P a → OnlyReads Q (f (a, left))) : OnlyReads Q (r.bind f) := by
  intro b left hb
  obtain ⟨⟨a, rest⟩, ha, hb⟩ := Option.bind_eq_some_iff.mp hb
  exact hf a rest (h a rest ha) b left hb

/-- What is made of a value that is read has its property if the value had its own. -/
theorem map {f : α × List Char → β × List Char} (h : OnlyReads P r)
    (hf : ∀ a left, P a → Q (f (a, left)).1) : OnlyReads Q (r.map f) := by
  intro b left hb
  obtain ⟨⟨a, rest⟩, ha, hb⟩ := Option.map_eq_some_iff.mp hb
  have hq := hf a rest (h a rest ha)
  rwa [hb] at hq

end OnlyReads

/-- What is read as a float is a number, which has no fields. -/
theorem onlyReads_floatOf? (negative : Bool) (coefficient : Nat) (power : Int)
    (left : List Char) :
    OnlyReads Ordered ((floatOf? negative coefficient power).map fun v => (v, left)) := by
  intro v rest h
  obtain ⟨w, hw, hv⟩ := Option.map_eq_some_iff.mp h
  obtain ⟨x, -, hx⟩ := Option.bind_eq_some_iff.mp hw
  obtain ⟨y, -, rfl⟩ := Option.map_eq_some_iff.mp hx
  obtain ⟨rfl, -⟩ := Prod.mk.inj hv
  exact .number _

/-- What is read with an exponent is a number. -/
theorem onlyReads_readExponent (negative : Bool) (coefficient : Nat) (power : Int)
    (cs : List Char) : OnlyReads Ordered (readExponent negative coefficient power cs) := by
  unfold readExponent
  split
  simp only
  split
  · exact .none
  · split
    · split
      · exact .none
      · exact .some (.number _)
    · exact onlyReads_floatOf? _ _ _ _

theorem onlyReads_readPlaces (negative : Bool) (coefficient : Nat) (power : Int)
    (cs : List Char) : OnlyReads Ordered (readPlaces negative coefficient power cs) := by
  unfold readPlaces readFloatTail
  simp only
  split
  · exact .none
  · split
    · exact onlyReads_readExponent _ _ _ _
    · exact onlyReads_readExponent _ _ _ _
    · exact onlyReads_floatOf? _ _ _ _

/-- Whether it is whole, has places or an exponent, what is read is a number. -/
theorem onlyReads_readMagnitude (negative : Bool) (cs : List Char) :
    OnlyReads Ordered (readMagnitude negative cs) := by
  unfold readMagnitude
  split
  · exact .none
  · split
    · exact .none
    · split
      split
      · exact .none
      · split
        · exact onlyReads_readPlaces _ _ _ _
        · exact onlyReads_readExponent _ _ _ _
        · exact onlyReads_readExponent _ _ _ _
        · split
          · exact onlyReads_floatOf? _ _ _ _
          · split
            · exact .none
            · split
              · exact .some (.number _)
              · split
                · exact onlyReads_floatOf? _ _ _ _
                · exact .some (.number _)

section

variable {item : List Char → Rest Json} (hitem : ∀ cs, OnlyReads Ordered (item cs))

include hitem

/-- If items are read ordered, so are all items of a list. -/
theorem onlyReads_readItems (fuel : Nat) (cs : List Char) :
    OnlyReads (fun items => ∀ value ∈ items, Ordered value) (readItems item fuel cs) := by
  induction fuel generalizing cs with
  | zero => exact .none
  | succ fuel ih =>
    refine (hitem cs).bind fun value left hvalue => ?_
    simp only
    split
    · next rest heq =>
      refine (ih rest).map fun more left hmore => ?_
      exact List.forall_mem_cons.mpr ⟨hvalue, hmore⟩
    · exact .some (by simpa using hvalue)
    · exact .none

/-- If items are read ordered, so are the values of all fields. -/
theorem onlyReads_readFields (fuel : Nat) (cs : List Char) :
    OnlyReads (fun fields => ∀ field ∈ fields, Ordered field.2) (readFields item fuel cs) := by
  induction fuel generalizing cs with
  | zero => exact .none
  | succ fuel ih =>
    unfold readFields
    split
    · next rest heq =>
      have hname : OnlyReads (fun _ => True) (readString rest) := fun _ _ _ => trivial
      refine hname.bind fun name left _ => ?_
      simp only
      split
      · next rest heq =>
        refine (hitem rest).bind fun value left hvalue => ?_
        simp only
        split
        · next rest heq =>
          refine (ih rest).map fun more left hmore => ?_
          exact List.forall_mem_cons.mpr ⟨hvalue, hmore⟩
        · exact .some (by simpa using hvalue)
        · exact .none
      · exact .none
    · exact .none

end

/-- Lists and objects within each other are ordered at every depth. -/
theorem onlyReads_readValue (depth : Nat) (cs : List Char) :
    OnlyReads Ordered (readValue depth cs) := by
  have hword (word rest : List Char) (value : Json) (h : value.Ordered) :
      OnlyReads Ordered ((skipWord? word rest).map fun left => (value, left)) := by
    intro v left hv
    obtain ⟨_, -, hv⟩ := Option.map_eq_some_iff.mp hv
    obtain ⟨rfl, -⟩ := Prod.mk.inj hv
    exact h
  induction depth using Nat.strong_induction_on generalizing cs with
  | h depth ih =>
    unfold readValue
    split
    · exact hword _ _ _ .null
    · exact hword _ _ _ (.bool true)
    · exact hword _ _ _ (.bool false)
    · next rest heq =>
      have htext : OnlyReads (fun _ => True) (readString rest) := fun _ _ _ => trivial
      exact htext.map fun s _ _ => .string s
    · exact onlyReads_readMagnitude _ _
    · split
      · exact .none
      · next shallower =>
        have hitem := ih shallower (Nat.lt_succ_self _)
        split
        · exact .some (.array (by simp))
        · exact (onlyReads_readItems hitem _ _).map fun items _ hitems => .array hitems
    · split
      · exact .none
      · next shallower =>
        have hitem := ih shallower (Nat.lt_succ_self _)
        split
        · exact .some (.object .nil (by simp))
        · exact (onlyReads_readFields hitem _ _).map
            fun fields _ hfields => ordered_ofFields hfields
    · exact onlyReads_readMagnitude _ _

/-- Every document that is read is ordered. -/
theorem ordered_of_read? {text : String} {document : Json} (h : read? text = some document) :
    document.Ordered := by
  obtain ⟨⟨value, left⟩, hvalue, hrest⟩ := Option.bind_eq_some_iff.mp h
  have hordered := onlyReads_readValue 127 text.toList value left hvalue
  simp only at hrest
  split at hrest
  · exact Option.some.inj hrest ▸ hordered
  · cases hrest

end Json

end HourlySnapshots
