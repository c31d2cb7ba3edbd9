import HourlySnapshots.Proofs.Format.OrderedFields
import HourlySnapshots.Services.FiatRates
import Mathlib.Data.List.Nodup
import Mathlib.Data.String.Basic

/-!
# Rates by key, and names in order

A map of rates holds each key once, and of all the rates that are put in under a key the last one
is found again. The names that a service is asked about are in ascending order, each of them once.
-/

namespace HourlySnapshots

/-! ## Entries by name -/

section

variable {α : Type}

/-- Entries that are left out for their names are not found, and all others are. -/
theorem lookup_filter_name (keep : String → Bool) (entries : List (String × α)) (name : String) :
    List.lookup name (entries.filter fun entry => keep entry.1) =
      if keep name then entries.lookup name else none := by
  induction entries with
  | nil => simp
  | cons entry rest ih =>
    obtain ⟨held, kept⟩ := entry
    rw [List.filter_cons, lookup_cons_ite]
    by_cases hheld : name = held
    · subst hheld
      cases hkeep : keep name <;> simp [hkeep, ih]
    · cases keep held <;> simp [hheld, ih, lookup_cons_ite]

/-- An entry that takes the place of all those of its name is found under it. -/
theorem lookup_replace (entries : List (String × α)) (name : String) (value : α) (other : String) :
    List.lookup other ((entries.filter fun entry => entry.1 ≠ name) ++ [(name, value)]) =
      if other = name then some value else entries.lookup other := by
  have hkept : List.lookup other (entries.filter fun entry => entry.1 ≠ name) =
      if decide (other ≠ name) then entries.lookup other else none :=
    lookup_filter_name (fun held => held ≠ name) entries other
  rw [List.lookup_append, hkept, lookup_cons_ite]
  by_cases hother : other = name <;> simp [hother]

end

/-! ## Rates by key -/

namespace RateMap

variable {rates : RateMap} {more : List (String × Decimal)} {key : String} {rate : Decimal}

/-- Keys are those under which a rate is found. -/
theorem mem_keys_iff : key ∈ rates.map Prod.fst ↔ ∃ rate, rates.lookup key = some rate := by
  induction rates with
  | nil => simp
  | cons entry rest ih =>
    obtain ⟨held, kept⟩ := entry
    rw [List.map_cons, List.mem_cons, ih, lookup_cons_ite]
    by_cases hkey : key = held <;> simp [hkey]

/-- A rate that is put in is found under its key, and others are found as before. -/
theorem lookup_insert (rates : RateMap) (key : String) (rate : Decimal) (other : String) :
    List.lookup other (insert rates key rate) =
      if other = key then some rate else rates.lookup other :=
  lookup_replace rates key rate other

/-- A rate that is put in takes the place of the one that had its key. -/
theorem nodup_insert (h : (rates.map Prod.fst).Nodup) (key : String) (rate : Decimal) :
    ((insert rates key rate).map Prod.fst).Nodup := by
  unfold insert
  rw [List.map_append]
  refine List.Nodup.append (h.sublist (List.filter_sublist.map _)) (List.nodup_singleton _) ?_
  simp

/-- Of the rates that are given for a key, the last one is found. -/
theorem lookup_insertAll (rates : RateMap) (more : List (String × Decimal)) (key : String) :
    List.lookup key (insertAll rates more) = (more.reverse.lookup key).or (rates.lookup key) := by
  induction more generalizing rates with
  | nil => rfl
  | cons entry rest ih =>
    obtain ⟨other, rate⟩ := entry
    show List.lookup key (insertAll (insert rates other rate) rest) = _
    rw [ih, lookup_insert, List.reverse_cons, List.lookup_append, Option.or_assoc]
    by_cases hkey : key = other <;> simp [hkey, lookup_cons_ite]

theorem mem_keys_insertAll : key ∈ (insertAll [] more).map Prod.fst ↔ key ∈ more.map Prod.fst := by
  rw [mem_keys_iff, lookup_insertAll, List.lookup_nil, Option.or_none, ← mem_keys_iff,
    List.map_reverse, List.mem_reverse]

/-- However many rates are put in, each key is there once. -/
theorem nodup_insertAll (h : (rates.map Prod.fst).Nodup) (more : List (String × Decimal)) :
    ((insertAll rates more).map Prod.fst).Nodup := by
  induction more generalizing rates with
  | nil => exact h
  | cons entry rest ih => exact ih (nodup_insert h entry.1 entry.2)

theorem insertAll_append (rates : RateMap) (first second : List (String × Decimal)) :
    insertAll rates (first ++ second) = insertAll (insertAll rates first) second :=
  List.foldl_append

/-- A rate is found just when it is given for its key and no other one is given later. -/
theorem lookup_insertAll_iff :
    List.lookup key (insertAll [] more) = some rate ↔
      ∃ before after, more = before ++ (key, rate) :: after ∧ ∀ entry ∈ after, entry.1 ≠ key := by
  rw [lookup_insertAll, List.lookup_nil, Option.or_none, List.lookup_eq_some_iff]
  constructor
  · rintro ⟨after, before, hmore, hafter⟩
    refine ⟨before.reverse, after.reverse, ?_, fun entry hentry => ?_⟩
    · rw [← List.reverse_reverse more, hmore]
      simp
    · have hne := hafter entry (List.mem_reverse.mp hentry)
      simpa using Ne.symm (by simpa using hne)
  · rintro ⟨before, after, rfl, hafter⟩
    refine ⟨after.reverse, before.reverse, by simp, fun entry hentry => ?_⟩
    have hne := hafter entry (List.mem_reverse.mp hentry)
    simpa using hne.symm

/-- Of the entries that give a rate for a key, the last one counts. -/
theorem lookup_insertAll_filterMap {α : Type} {entries : List α}
    {f : α → Option (String × Decimal)} {key : String} {rate : Decimal} :
    List.lookup key (insertAll [] (entries.filterMap f)) = some rate ↔
      ∃ before a after, entries = before ++ a :: after ∧ f a = some (key, rate) ∧
        ∀ b ∈ after, ∀ entry, f b = some entry → entry.1 ≠ key := by
  rw [lookup_insertAll_iff]
  constructor
  · rintro ⟨before, after, hsplit, hafter⟩
    obtain ⟨early, late, rfl, -, hlate⟩ := List.filterMap_eq_append_iff.mp hsplit
    obtain ⟨skipped, a, rest, rfl, -, ha, rfl⟩ := List.filterMap_eq_cons_iff.mp hlate
    refine ⟨early ++ skipped, a, rest, by simp, ha, fun b hb entry hentry => ?_⟩
    exact hafter entry (List.mem_filterMap.mpr ⟨b, hb, hentry⟩)
  · rintro ⟨before, a, after, rfl, ha, hafter⟩
    refine ⟨before.filterMap f, after.filterMap f, ?_, fun entry hentry => ?_⟩
    · rw [List.filterMap_append, List.filterMap_cons_some ha]
    · obtain ⟨b, hb, hgiven⟩ := List.mem_filterMap.mp hentry
      exact hafter b hb entry hgiven

/-- Where nothing else is given for a key, its rate is found just when it is given. -/
theorem lookup_insertAll_of_same (hsame : ∀ other other', (key, other) ∈ more →
    (key, other') ∈ more → other = other') :
    List.lookup key (insertAll [] more) = some rate ↔ (key, rate) ∈ more := by
  constructor
  · intro h
    obtain ⟨before, after, rfl, -⟩ := lookup_insertAll_iff.mp h
    exact List.mem_append_right _ List.mem_cons_self
  · intro h
    cases hfound : List.lookup key (insertAll [] more) with
    | none =>
      rw [lookup_insertAll, List.lookup_nil, Option.or_none] at hfound
      have hne := List.lookup_eq_none_iff.mp hfound _ (List.mem_reverse.mpr h)
      simp at hne
    | some other =>
      obtain ⟨before, after, rfl, -⟩ := lookup_insertAll_iff.mp hfound
      rw [hsame other rate (List.mem_append_right _ List.mem_cons_self) h]

end RateMap

/-! ## Names in order -/

namespace FiatRates

variable {name other : String} {names : List String}

theorem mem_insertDistinct : other ∈ insertDistinct name names ↔ other = name ∨ other ∈ names := by
  induction names with
  | nil => simp [insertDistinct]
  | cons first rest ih =>
    unfold insertDistinct
    split
    · exact List.mem_cons
    · split
      · next heq => simp [heq]
      · simp only [List.mem_cons, ih]
        exact or_left_comm

/-- Names in ascending order stay so when one is put in. -/
theorem pairwise_insertDistinct (h : names.Pairwise (· < ·)) :
    (insertDistinct name names).Pairwise (· < ·) := by
  induction names with
  | nil => simp [insertDistinct]
  | cons first rest ih =>
    obtain ⟨hfirst, hrest⟩ := List.pairwise_cons.mp h
    unfold insertDistinct
    split
    · next hless =>
      refine List.pairwise_cons.mpr ⟨fun later hlater => ?_, h⟩
      rcases List.mem_cons.mp hlater with rfl | hlater
      · exact hless
      · exact hless.trans (hfirst later hlater)
    · next hnotless =>
      split
      · exact h
      · next hne =>
        refine List.pairwise_cons.mpr ⟨fun later hlater => ?_, ih hrest⟩
        rcases mem_insertDistinct.mp hlater with rfl | hlater
        · exact lt_of_le_of_ne (not_lt.mp hnotless) (Ne.symm hne)
        · exact hfirst later hlater

/-- The names are those that were given, each once and in ascending order. -/
theorem ascending_spec (names : List String) :
    (ascending names).Pairwise (· < ·) ∧ ∀ name, name ∈ ascending names ↔ name ∈ names := by
  have hfold : ∀ kept : List String, kept.Pairwise (· < ·) →
      (names.foldl (fun kept name => insertDistinct name kept) kept).Pairwise (· < ·) ∧
        ∀ name, name ∈ names.foldl (fun kept name => insertDistinct name kept) kept ↔
          name ∈ kept ∨ name ∈ names := by
    induction names with
    | nil => exact fun kept h => ⟨h, by simp⟩
    | cons first rest ih =>
      intro kept h
      obtain ⟨hpairwise, hmem⟩ := ih (insertDistinct first kept) (pairwise_insertDistinct h)
      refine ⟨hpairwise, fun name => (hmem name).trans ?_⟩
      simp only [mem_insertDistinct, List.mem_cons]
      tauto
  obtain ⟨hpairwise, hmem⟩ := hfold [] .nil
  exact ⟨hpairwise, fun name => (hmem name).trans (by simp)⟩

end FiatRates

end HourlySnapshots
