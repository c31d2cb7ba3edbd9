import HourlySnapshots.Proofs.Collection.Runs

/-!
# What a run saves

A run saves once at most, and then all that there is nothing wrong with of what it has collected.
The calls are seen by a collector that does the same over a state in which they are noted.
-/

namespace HourlySnapshots

variable {σ α : Type}

/-! ## Items that are kept and items that are dropped -/

namespace CollectionResult

variable (r : CollectionResult α) (check : α → Option ValidationError)

/-- Dropping items does not turn a collection into one that has failed. -/
theorem success_filterValid : (r.filterValid check).1.success = r.success := by
  unfold filterValid success
  cases r.outcome <;> rfl

/-- Every item is either kept or reported. -/
theorem length_filterValid :
    (r.filterValid check).1.items.length + (r.filterValid check).2.length = r.items.length := by
  have hreported : (r.filterValid check).2.length =
      r.items.countP fun item => ¬ (check item).isNone := by
    refine List.length_filterMap_eq_countP.trans (List.countP_congr fun item _ => ?_)
    cases check item <;> simp
  rw [items_filterValid, ← List.countP_eq_length_filter, hreported]
  exact (List.length_eq_countP_add_countP _).symm

end CollectionResult

/-! ## Calls of the last stage -/

/-- Whether an answer of the store tells of rows. -/
def tellsOfRows : Except StoreError Nat → Bool
  | .ok rows => decide (0 < rows)
  | .error _ => false

theorem tellsOfRows_iff {answer : Except StoreError Nat} :
    tellsOfRows answer = true ↔ ∃ rows, answer = .ok rows ∧ 0 < rows := by
  cases answer <;> simp [tellsOfRows]

namespace Collector

/-- The same collector over a state in which each call of its last stage is noted. -/
def noting (c : Collector σ α) : Collector (σ × List (CollectionResult α)) α where
  info := c.info
  collect time x := ((c.collect time x.1).1, (c.collect time x.1).2, x.2)
  validate := c.validate
  save result x := ((c.save result x.1).1, (c.save result x.1).2, x.2 ++ [result])

variable (c : Collector σ α) (time : Instant) (x : σ)

/-- A run with nothing to save is good if nothing was collected; the store decides the others. -/
theorem run_eq : c.run time x =
    if (c.gathered time x).items = [] then
      ((c.collect time x).1.success && (c.collect time x).1.items.isEmpty, (c.collect time x).2)
    else
      let answer := c.save (c.gathered time x) (c.collect time x).2
      (tellsOfRows answer.1, answer.2) := by
  have hran := c.ran time x
  generalize c.run time x = answer at hran ⊢
  cases hran with
  | failed houtcome =>
    have hitems : (c.collect time x).1.items = [] := by simp [CollectionResult.items, houtcome]
    rw [if_pos (by rw [items_gathered, hitems, List.filter_nil])]
    simp [CollectionResult.success, houtcome]
  | nothing houtcome =>
    have hitems : (c.collect time x).1.items = [] := by simp [CollectionResult.items, houtcome]
    rw [if_pos (by rw [items_gathered, hitems, List.filter_nil]), hitems]
    simp [CollectionResult.success, houtcome]
  | invalid hitems hnone => simp [hitems, hnone]
  | saved hsome hsave =>
    rw [if_neg hsome, hsave]
    rfl
  | unsaved hsome hsave =>
    rw [if_neg hsome, hsave]
    rfl

/-- The calls of the last stage in a run. -/
def saves : List (CollectionResult α) :=
  if (c.gathered time x).items = [] then [] else [c.gathered time x]

/-- Taking note of the calls changes nothing else. -/
theorem run_noting (noted : List (CollectionResult α)) :
    c.noting.run time (x, noted) =
      ((c.run time x).1, (c.run time x).2, noted ++ c.saves time x) := by
  have hgathered : c.noting.gathered time (x, noted) = c.gathered time x := rfl
  rw [run_eq, run_eq, hgathered, saves]
  split
  · simp [noting]
  · rfl

variable {c time x}

theorem gathered_items_ne_nil :
    (c.gathered time x).items ≠ [] ↔
      ∃ item ∈ (c.collect time x).1.items, c.validate item = none := by
  simp only [← mem_gathered]
  exact ⟨List.exists_mem_of_ne_nil _, fun ⟨_, hitem⟩ => List.ne_nil_of_mem hitem⟩

/-- Only a collection that has succeeded leaves something to save. -/
theorem success_of_gathered (h : (c.gathered time x).items ≠ []) :
    (c.collect time x).1.success = true := by
  obtain ⟨item, hitem, -⟩ := gathered_items_ne_nil.mp h
  rw [CollectionResult.success, CollectionResult.outcome_of_mem hitem]

theorem saves_ne_nil : c.saves time x ≠ [] ↔ (c.gathered time x).items ≠ [] := by
  unfold saves
  split <;> simp_all

theorem run_eq_true_iff :
    (c.run time x).1 = true ↔
      (c.collect time x).1.success = true ∧ ((c.collect time x).1.items = [] ∨
        (c.gathered time x).items ≠ [] ∧
          ∃ rows, (c.save (c.gathered time x) (c.collect time x).2).1 = .ok rows ∧ 0 < rows) := by
  rw [run_eq]
  by_cases hnone : (c.gathered time x).items = []
  · simp [hnone]
  · have hsuccess := success_of_gathered hnone
    have hitems : (c.collect time x).1.items ≠ [] := by
      obtain ⟨item, hitem, -⟩ := gathered_items_ne_nil.mp hnone
      exact List.ne_nil_of_mem hitem
    simp [hnone, hsuccess, hitems, tellsOfRows_iff]

/--
A run is good just when its collection has succeeded and either nothing was collected, or some item
is valid and the store tells of rows. It saves once at most, which it does just when the collection
has succeeded and some item is valid: then it saves all valid items in their order, with the instant
and the success of the collection. As many items are kept and reported as were collected.
-/
theorem run_by_stages (c : Collector σ α) (time : Instant) (x : σ) :
    let collected := (c.collect time x).1
    let kept := (collected.filterValid c.validate).1
    let reported := (collected.filterValid c.validate).2
    ((c.run time x).1 = true ↔
      collected.success = true ∧ (collected.items = [] ∨
        (∃ item ∈ collected.items, c.validate item = none) ∧
          ∃ rows, (c.save kept (c.collect time x).2).1 = .ok rows ∧ 0 < rows)) ∧
    (∃ calls,
      (∀ noted, c.noting.run time (x, noted) =
        ((c.run time x).1, (c.run time x).2, noted ++ calls)) ∧
      calls.length ≤ 1 ∧
      (calls ≠ [] ↔ collected.success = true ∧
        ∃ item ∈ collected.items, c.validate item = none) ∧
      ∀ call ∈ calls, call = kept) ∧
    kept.items = collected.items.filter (fun item => (c.validate item).isNone) ∧
    kept.collectedAt = collected.collectedAt ∧ kept.success = collected.success ∧
    reported = collected.items.filterMap c.validate ∧
    kept.items.length + reported.length = collected.items.length := by
  intro collected kept reported
  have hvalid : kept.items ≠ [] ↔ ∃ item ∈ collected.items, c.validate item = none :=
    gathered_items_ne_nil
  have hcalls : ∀ call ∈ c.saves time x, call = kept := by
    intro call hcall
    unfold saves at hcall
    split at hcall
    · cases hcall
    · exact List.mem_singleton.mp hcall
  refine ⟨?_, ⟨c.saves time x, c.run_noting time x, ?_, ?_, hcalls⟩,
    CollectionResult.items_filterValid _ _, rfl, CollectionResult.success_filterValid _ _, rfl,
    CollectionResult.length_filterValid _ _⟩
  · rw [← hvalid]
    exact run_eq_true_iff
  · unfold saves
    split <;> simp
  · rw [saves_ne_nil, ← hvalid]
    exact ⟨fun hsome => ⟨success_of_gathered hsome, hsome⟩, And.right⟩

/-- The reading below zero is dropped; the others are saved with one call. -/
example :
    let c : Collector Unit Int :=
      { info := ⟨"scripted", "ScriptedCollector", "test double"⟩
        collect := fun time x => (⟨.ok [1, -1, 3], time⟩, x)
        validate := fun n => if n < 0 then some (.missingField "reading") else none
        save := fun result x => (.ok result.items.length, x) }
    (c.noting.run .epoch ((), [])).1 = true ∧
      (c.noting.run .epoch ((), [])).2.2.map CollectionResult.items = [[1, 3]] := by
  decide

end Collector

end HourlySnapshots
