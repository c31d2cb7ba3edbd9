import HourlySnapshots.Proofs.Scheduler.Pace
import HourlySnapshots.Proofs.Scheduler.RunAll
import HourlySnapshots.Rehearsal.Script

/-!
# Cycles without their callers

A cycle that was triggered by hand goes on when its caller goes away, whenever that is. What lapsing
time brings about does not depend on where anybody stops to look at it: of two machines that come
from the same one, each by letting time lapse, the later one comes from the earlier one as well, and
they are the same as soon as all that is due by the same time has acted.
-/

namespace HourlySnapshots

namespace Machine

variable {σ : Type} {m a b e : Machine σ}

/-! ## Lapsing time -/

theorem Lapses.now_le (h : a.Lapses b) (ha : a.Reachable) : a.now ≤ b.now :=
  (h.passes ha).now_le ha

/-- A rest before a wait is over makes no difference to what is done when it is over. -/
theorem perform_after_rest {limit : Nat} {wake : Wake} (hle : limit ≤ wake.due) (job : Job) :
    ({ a with now := max a.now limit } : Machine σ).perform wake job = a.perform wake job := by
  have hnow : max (max a.now limit) wake.due = max a.now wake.due := by omega
  simp only [perform, hnow]

/-- Where all that is due by some time has acted, so has what was first of all. -/
theorem Lapses.of_act (h : a.Lapses e) (hsettled : e.Settled) {wake : Wake} {job : Job}
    (hnext : a.nextWait? = some (wake, job)) (hdue : wake.due ≤ e.now) :
    (a.perform wake job).Lapses e := by
  induction h with
  | refl a => exact absurd hdue (Nat.not_le.mpr (hsettled _ (nextWait?_eq_some hnext).1))
  | act hnext' hrest =>
    obtain ⟨rfl, rfl⟩ := Prod.mk.inj (Option.some.inj (hnext.symm.trans hnext'))
    exact hrest
  | rest hlate _ ih =>
    have hfirst := hlate _ (nextWait?_eq_some hnext).1
    rw [← perform_after_rest hfirst]
    exact ih hsettled hnext hdue

/-- A rest up to some time may be taken at once. -/
theorem Lapses.of_rest (h : a.Lapses e) {limit : Nat} (hlate : ∀ w ∈ a.waits, limit ≤ w.1.due)
    (hle : limit ≤ e.now) : ({ a with now := max a.now limit } : Machine σ).Lapses e := by
  induction h with
  | refl a =>
    rw [Nat.max_eq_left hle]
    exact .refl a
  | act hnext hrest =>
    refine .act hnext ?_
    rw [perform_after_rest (hlate _ (nextWait?_eq_some hnext).1)]
    exact hrest
  | @rest a e limit' hlate' _ ih =>
    have hlater := ih hlate hle
    refine .rest hlate' ?_
    rw [Nat.max_right_comm]
    exact hlater

/-- What time brings about is brought about from every point on the way. -/
theorem Lapses.of_settled (hb : a.Lapses b) (h : a.Lapses e) (ha : a.Reachable)
    (hsettled : e.Settled) (hle : b.now ≤ e.now) : b.Lapses e := by
  induction hb with
  | refl => exact h
  | @act a b wake job hnext hrest ih =>
    have hperformed := (passes_perform ha hnext).reachable ha
    have hdue : wake.due ≤ e.now := by
      have hnow := hrest.now_le hperformed
      rw [now_perform ha hnext] at hnow
      omega
    exact ih (h.of_act hsettled hnext hdue) hperformed hle
  | @rest a b limit hlate hrest ih =>
    have hrested := (passes_elapse hlate).reachable ha
    have hlimit : limit ≤ e.now := by
      have hnow : max a.now limit ≤ b.now := hrest.now_le hrested
      omega
    exact ih (h.of_rest hlate hlimit) hrested hle

/-- Without any time, nothing happens once all that is due has acted. -/
theorem Lapses.eq_of_settled (h : a.Lapses e) (ha : a.Reachable) (hsettled : a.Settled)
    (hle : e.now ≤ a.now) : e = a := by
  induction h with
  | refl => rfl
  | @act a e wake job hnext hrest ih =>
    have hlate : a.now < wake.due := hsettled _ (nextWait?_eq_some hnext).1
    have hnow := hrest.now_le ((passes_perform ha hnext).reachable ha)
    rw [now_perform ha hnext] at hnow
    omega
  | @rest a e limit hlate hrest ih =>
    have hrested := (passes_elapse hlate).reachable ha
    have hnow : max a.now limit ≤ e.now := hrest.now_le hrested
    have hsame : max a.now limit = a.now := by omega
    rw [hsame] at ih hrested
    exact ih hrested hsettled hle

/-- Time brings about the same by whatever steps it comes. -/
theorem Lapses.unique {e' : Machine σ} (h : a.Lapses e) (h' : a.Lapses e') (ha : a.Reachable)
    (hsettled : e.Settled) (hsettled' : e'.Settled) (hnow : e.now = e'.now) : e = e' := by
  have hrest : e.Lapses e' := h.of_settled h' ha hsettled' hnow.le
  exact (hrest.eq_of_settled (h.reachable ha) hsettled hnow.ge).symm

/-! ## Leaving a cycle alone -/

/-- Triggers a cycle by hand for a caller who goes away after some milliseconds. -/
def triggerBriefly (m : Machine σ) (time : Option Instant) (patience : Nat) : Machine σ :=
  match m.trigger time with
  | (.error _, m) => m
  | (.ok round, m) =>
    if patience = 0 then m else m.await (fun m => m.roundOver round) (m.now + patience)

/-- What lapses once a fan-out is over changes nothing in its results. -/
theorem Lapses.over (h : a.Lapses b) (hb : b.Lapses e) (ha : a.Reachable) {r : Round σ}
    (hr : r ∈ a.rounds) (hover : b.roundOver r.id = true) :
    e.roundOver r.id = true ∧ e.resultsOf? r.id = b.resultsOf? r.id := by
  have hreachable := h.reachable ha
  obtain ⟨first, -, -, rfl⟩ := h.passes ha
  obtain ⟨later, -, -, rfl⟩ := hb.passes hreachable
  obtain ⟨entries, hgone⟩ := ha.gone_of_over hr hover
  exact ⟨roundOver_eq_true.mpr (hreachable.gone_afterAll hgone later).gone,
    hreachable.resultsOf?_afterAll hgone later⟩

end Machine

end HourlySnapshots
