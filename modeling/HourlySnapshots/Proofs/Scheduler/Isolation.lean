import HourlySnapshots.Proofs.Scheduler.Entries
import HourlySnapshots.Rehearsal.Stores

/-!
# Collectors that share nothing but the store

Each collector works on something of its own, and all of them append to the same stores. Then none
notices another: what a call answers and what it appends is what it would have answered and appended
when the fan-out began, whoever has acted since. So the entries of a fan-out and the records that it
leaves do not depend on the order of its calls.
-/

namespace HourlySnapshots

variable {σ : Type}

/-- A record without the stamp of the batch that wrote it. -/
def SnapshotRecord.content (r : SnapshotRecord) : SnapshotRecord :=
  { r with batchId := default, createdAt := default }

/-- How a world is divided: what the collector of a name works on alone, and what all write to. -/
structure Sharing (σ : Type) where
  Own : Type
  own : String → σ → Own
  stores : σ → Stores

namespace Sharing

variable (S : Sharing σ)

/-- The stored records in the order they were written, without ids and stamps. -/
def contents (x : σ) : List SnapshotRecord :=
  (S.stores x).store.records.map SnapshotRecord.content

/-- Whether the store refuses writes, and whether the directory does. -/
def refused (x : σ) : Bool × Bool :=
  ((S.stores x).store.failWrites, (S.stores x).directoryStore.failWrites)

/-- Two worlds that the collector of a name cannot tell apart. -/
structure Alike (name : String) (x y : σ) : Prop where
  own : S.own name y = S.own name x
  refused : S.refused y = S.refused x

/--
A collector that shares nothing with others but stores that it appends to: it answers and appends
the same in worlds that it cannot tell apart, and leaves alone what others work on.
-/
structure Separate (c : Registered σ) : Prop where
  answer : ∀ time x y, S.Alike c.name x y → (c.act time y).1 = (c.act time x).1
  append : ∀ time x y, S.Alike c.name x y → ∃ batch,
    S.contents (c.act time x).2 = S.contents x ++ batch ∧
      S.contents (c.act time y).2 = S.contents y ++ batch
  others : ∀ time x name, name ≠ c.name → S.own name (c.act time x).2 = S.own name x
  refused : ∀ time x, S.refused (c.act time x).2 = S.refused x

/-- What a collector appends when it runs in a world. -/
def written (time : Instant) (x : σ) (c : Registered σ) : List SnapshotRecord :=
  (S.contents (c.act time x).2).drop (S.contents x).length

/-- Nobody's own and no record has changed, nor whether writes are refused. -/
structure Untouched (x y : σ) : Prop where
  own : ∀ name, S.own name y = S.own name x
  refused : S.refused y = S.refused x
  contents : S.contents y = S.contents x

end Sharing

/-- The entry that a call of a collector makes in a world; one that breaks off has failed. -/
def Registered.entry (time : Instant) (x : σ) (c : Registered σ) : String × Bool :=
  (c.name, (c.act time x).1.getD false)

namespace Sharing

variable {S : Sharing σ} {c : Registered σ} {time : Instant} {x y : σ}

theorem Alike.refl (name : String) (x : σ) : S.Alike name x x := ⟨rfl, rfl⟩

theorem Untouched.refl (x : σ) : S.Untouched x x := ⟨fun _ => rfl, rfl, rfl⟩

theorem Separate.entry_eq (h : S.Separate c) (halike : S.Alike c.name x y) :
    c.entry time y = c.entry time x := by
  rw [Registered.entry, Registered.entry, h.answer time x y halike]

/-- A call appends what it would have appended in any world that it cannot tell apart. -/
theorem Separate.contents_act (h : S.Separate c) (halike : S.Alike c.name x y) :
    S.contents (c.act time y).2 = S.contents y ++ S.written time x c := by
  obtain ⟨batch, hx, hy⟩ := h.append time x y halike
  rw [hy, written, hx, List.drop_left]

theorem Separate.written_eq (h : S.Separate c) (halike : S.Alike c.name x y) :
    S.written time y c = S.written time x c := by
  rw [written, h.contents_act halike, List.drop_left]

/-! ## A fan-out among undisturbed worlds -/

/-- How far a fan-out over some collectors has come that began in a world. -/
structure Progress (S : Sharing σ) (registry : Registry σ) (start : σ) (r : Round σ) (x : σ) :
    Prop where
  refused : S.refused x = S.refused start
  /-- Those whose calls are not over find their own as it was. -/
  own : ∀ c ∈ r.remaining, S.own c.name x = S.own c.name start
  /-- The others have made the entries and appended the records that they would have at first. -/
  done : ∃ done : List (Registered σ), (done ++ r.remaining).Perm registry ∧
    r.outcomes = done.map (Registered.entry r.time start) ∧
    S.contents x = S.contents start ++ done.flatMap (S.written r.time start)

namespace Progress

variable {registry : Registry σ} {start : σ} {r r' : Round σ}

theorem of_fresh (h : r.Fresh registry) (start : σ) : S.Progress registry start r start where
  refused := rfl
  own _ _ := rfl
  done := ⟨[], by simp [Round.remaining, h.queued, h.atWork], by simp [h.outcomes], by simp⟩

theorem untouched (h : S.Progress registry start r x) (hxy : S.Untouched x y) :
    S.Progress registry start r y where
  refused := hxy.refused.trans h.refused
  own c hc := (hxy.own c.name).trans (h.own c hc)
  done := by
    rw [hxy.contents]
    exact h.done

/-- The collectors that are left are among those that the fan-out is over. -/
theorem mem_registry (h : S.Progress registry start r x) (hc : c ∈ r.remaining) : c ∈ registry := by
  obtain ⟨done, hperm, -⟩ := h.done
  exact hperm.mem_iff.mp (List.mem_append_right _ hc)

/-- Those whose calls are not over have the names of no others. -/
theorem names_nodup (h : S.Progress registry start r x) (hnames : registry.names.Nodup) :
    (r.remaining.map Registered.name).Nodup := by
  obtain ⟨done, hperm, -⟩ := h.done
  have hall : ((done ++ r.remaining).map Registered.name).Nodup :=
    (hperm.map Registered.name).nodup_iff.mpr hnames
  rw [List.map_append] at hall
  exact (List.nodup_append.mp hall).2.1

/-- A fan-out that goes on over collectors that share nothing comes as far as it would alone. -/
theorem goes (h : S.Progress registry start r x) (hnames : registry.names.Nodup)
    (hseparate : ∀ c ∈ registry, S.Separate c) {now order : Nat} (hr : r.UnderWay order)
    (hgoes : r.Goes now x r' y) : S.Progress registry start r' y := by
  have htime : r'.time = r.time := congrArg RoundInfo.time hgoes.info
  rcases hgoes.calls hr with ⟨hremaining, houtcomes, rfl⟩ | ⟨c, hremaining, houtcomes, rfl⟩
  · -- nobody has acted
    obtain ⟨done, hperm, hentries, hcontents⟩ := h.done
    refine ⟨h.refused, fun c hc => h.own c (hremaining.mem_iff.mpr hc), done, ?_, ?_, ?_⟩
    · exact (hremaining.symm.append_left done).trans hperm
    · rw [houtcomes, htime, hentries]
    · rw [htime, hcontents]
  · -- the one who has acted could not tell the world from the first one
    have hc : c ∈ r.remaining := hremaining.mem_iff.mpr List.mem_cons_self
    have hsep := hseparate c (h.mem_registry hc)
    have halike : S.Alike c.name start x := ⟨h.own c hc, h.refused⟩
    obtain ⟨done, hperm, hentries, hcontents⟩ := h.done
    refine ⟨(hsep.refused _ _).trans h.refused, fun other hother => ?_, done ++ [c], ?_, ?_, ?_⟩
    · have hne : other.name ≠ c.name := by
        have hnodup := (hremaining.map Registered.name).nodup_iff.mp (h.names_nodup hnames)
        intro heq
        exact (List.nodup_cons.mp hnodup).1 (heq ▸ List.mem_map_of_mem hother)
      rw [hsep.others _ _ _ hne]
      exact h.own other (hremaining.mem_iff.mpr (List.mem_cons_of_mem _ hother))
    · rw [List.append_assoc]
      exact (hremaining.symm.append_left done).trans hperm
    · rw [houtcomes, htime, hentries, List.map_append]
      exact congrArg (done.map _ ++ [·]) (hsep.entry_eq halike)
    · rw [hsep.contents_act halike, hcontents, htime]
      simp

/-- In the end there is an entry for each collector, and the records of each are appended. -/
theorem complete (h : S.Progress registry start r x) (hqueued : r.queued = [])
    (hnone : r.atWork = []) :
    r.outcomes.Perm (registry.map (Registered.entry r.time start)) ∧
      (S.contents x).Perm
        (S.contents start ++ registry.flatMap (S.written r.time start)) := by
  obtain ⟨done, hperm, hentries, hcontents⟩ := h.done
  have hdone : done.Perm registry := by simpa [Round.remaining, hqueued, hnone] using hperm
  rw [hentries, hcontents]
  exact ⟨hdone.map _, (hdone.flatMap_right _).append_left _⟩

end Progress

end Sharing

end HourlySnapshots
