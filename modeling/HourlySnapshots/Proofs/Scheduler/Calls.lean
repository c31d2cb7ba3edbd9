import HourlySnapshots.Proofs.Scheduler.FanOut
import Mathlib.Algebra.GroupWithZero.Nat
import Mathlib.Algebra.Order.BigOperators.Group.List
import Mathlib.Algebra.Order.Group.Nat

/-!
# Calls and what is left of them

The calls of a fan-out are numbered apart, so that each acts once, and a fan-out under way has
always something to wait for. Whatever it does makes what is left of it less, until it is over.
-/

namespace HourlySnapshots

variable {σ : Type}

/-- What holds of a fan-out under way; all its calls have numbers below `order`. -/
structure Round.UnderWay (r : Round σ) (order : Nat) : Prop where
  orders : (r.atWork.map fun call => call.wake.order).Nodup
  orders_lt : ∀ call ∈ r.atWork, call.wake.order < order
  /-- It waits for its turn, or for a call. -/
  waits : r.turn.isSome ∨ r.atWork ≠ []

/-- How much is left of a call: to begin it, to end it, and the turn after it. -/
def Call.left (call : Call σ) : Nat := if call.begun then 2 else 3

/-- How much is left of a fan-out. -/
def Round.left (r : Round σ) : Nat :=
  3 * r.queued.length + (r.atWork.map Call.left).sum + if r.turn.isSome then 1 else 0

namespace Round.UnderWay

variable {r : Round σ} {order order' : Nat}

theorem mono (h : r.UnderWay order) (horder : order ≤ order') : r.UnderWay order' :=
  ⟨h.orders, fun call hcall => Nat.lt_of_lt_of_le (h.orders_lt call hcall) horder, h.waits⟩

theorem map_order_callsOf (now order : Nat) (calls : List (Registered σ)) :
    ((Fans.callsOf now order calls).map fun call => call.wake.order) =
      List.range' order calls.length := by
  induction calls generalizing order with
  | nil => rfl
  | cons c rest ih => simp [Fans.callsOf, ih, List.range'_succ]

/-- New calls take the numbers that follow. -/
theorem turned {f : Fans σ} (h : r.UnderWay f.nextOrder) (now : Nat)
    (hmore : (f.turned now r).atWork ≠ []) :
    (f.turned now r).UnderWay (f.nextOrder + (Machine.nextCalls r).length) := by
  have hnew : ∀ call ∈ Fans.callsOf now f.nextOrder (Machine.nextCalls r),
      f.nextOrder ≤ call.wake.order ∧
        call.wake.order < f.nextOrder + (Machine.nextCalls r).length := by
    intro call hcall
    have hmem : call.wake.order ∈ List.range' f.nextOrder (Machine.nextCalls r).length := by
      rw [← map_order_callsOf now]
      exact List.mem_map_of_mem hcall
    simpa using hmem
  refine ⟨?_, fun call hcall => ?_, .inr hmore⟩
  · show ((r.atWork ++ _).map _).Nodup
    rw [List.map_append, map_order_callsOf, List.nodup_append]
    refine ⟨h.orders, List.nodup_range', fun a ha b hb => ?_⟩
    -- the numbers of the calls before are all below the new ones
    obtain ⟨call, hcall, rfl⟩ := List.mem_map.mp ha
    have hlt := h.orders_lt call hcall
    have hge := (List.mem_range'_1.mp hb).1
    omega
  · rcases List.mem_append.mp hcall with hcall | hcall
    · exact Nat.lt_of_lt_of_le (h.orders_lt call hcall) (Nat.le_add_right _ _)
    · exact (hnew call hcall).2

theorem nodup_without (h : r.UnderWay order) (call : Call σ) :
    ((Fans.without r call).atWork.map fun other => other.wake.order).Nodup :=
  (List.filter_sublist.map _).nodup h.orders

theorem lt_without (h : r.UnderWay order) (call : Call σ) :
    ∀ other ∈ (Fans.without r call).atWork, other.wake.order < order :=
  fun other hother => h.orders_lt other (List.mem_of_mem_filter hother)

/-- A call has acted, and the fan-out waits for its turn. -/
theorem acted (h : r.UnderWay order) (call : Call σ) (turn : Wake)
    (outcomes : List (String × Bool)) :
    ({ Fans.without r call with outcomes := outcomes, turn := some turn } : Round σ).UnderWay
      order :=
  ⟨h.nodup_without call, h.lt_without call, .inl rfl⟩

/-- A call has begun, and waits under the next number. -/
theorem called (h : r.UnderWay order) (call : Call σ) (due : Nat) :
    ({ Fans.without r call with
      atWork := (Fans.without r call).atWork ++
        [⟨call.collector, true, ⟨due, false, order⟩⟩] } : Round σ).UnderWay (order + 1) := by
  refine ⟨?_, fun other hother => ?_, .inr (by simp)⟩
  · rw [List.map_append, List.nodup_append]
    refine ⟨h.nodup_without call, by simp, ?_⟩
    simpa using fun other hother => Nat.ne_of_lt (h.lt_without call other hother)
  · rcases List.mem_append.mp hother with hother | hother
    · exact Nat.lt_succ_of_lt (h.lt_without call other hother)
    · rw [List.mem_singleton.mp hother]
      exact Nat.lt_succ_self order

/-- A call is the only one with its number. -/
theorem eq_of_order (h : r.UnderWay order) {call other : Call σ} (hcall : call ∈ r.atWork)
    (hother : other ∈ r.atWork) (hsame : other.wake.order = call.wake.order) : other = call :=
  List.inj_on_of_nodup_map h.orders hother hcall hsame

end Round.UnderWay

namespace Fans

/-- What holds of the fan-outs of every reachable machine. -/
structure WellFormed (f : Fans σ) : Prop where
  ids : (f.rounds.map Round.id).Nodup
  ids_lt : ∀ r ∈ f.rounds, r.id < f.nextId
  underWay : ∀ r ∈ f.rounds, r.UnderWay f.nextOrder

/-- How much is left of all fan-outs. -/
def left (f : Fans σ) : Nat := (f.rounds.map Round.left).sum

namespace WellFormed

variable {f f' : Fans σ}

theorem congr (h : WellFormed f) (hrounds : f'.rounds = f.rounds) (hid : f.nextId ≤ f'.nextId)
    (horder : f.nextOrder ≤ f'.nextOrder) : WellFormed f' where
  ids := hrounds ▸ h.ids
  ids_lt r hr := Nat.lt_of_lt_of_le (h.ids_lt r (hrounds ▸ hr)) hid
  underWay r hr := (h.underWay r (hrounds ▸ hr)).mono horder

/-- A fan-out under way is replaced by what has become of it. -/
theorem put (h : WellFormed f) {r r' : Round σ} {order : Nat} (hr : r ∈ f.rounds)
    (hunder : r'.UnderWay order) (hid : r'.id = r.id) (horder : f.nextOrder ≤ order) :
    WellFormed ((f.put r').later order f.nextId) where
  ids := by
    have hsame : (f.put r').rounds.map Round.id = f.rounds.map Round.id := by
      rw [put_rounds, List.map_map]
      refine List.map_congr_left fun other _ => ?_
      simp only [Function.comp]
      split
      · next heq => exact heq.symm
      · rfl
    rw [later_rounds, hsame]
    exact h.ids
  ids_lt other hother := by
    rcases mem_put hother with rfl | hother
    · rw [hid]
      exact h.ids_lt r hr
    · exact h.ids_lt other hother
  underWay other hother := by
    rcases mem_put hother with rfl | hother
    · exact hunder
    · exact (h.underWay other hother).mono horder

theorem acted (h : WellFormed f) {r : Round σ} (hr : r ∈ f.rounds) (call : Call σ) (turn : Wake)
    {order : Nat} (horder : f.nextOrder ≤ order) : WellFormed (f.acted r call turn order) := by
  have hunder := ((h.underWay r hr).mono horder).acted call turn
    (r.outcomes ++ [(call.collector.name, (call.collector.act r.time f.world).1.getD false)])
  exact (h.put hr hunder rfl horder).congr rfl (Nat.le_refl _) (Nat.le_refl _)

/-- A fan-out has the id that is next. -/
theorem begin (h : WellFormed f) (purpose : Purpose) (time : Instant) (released : Option Instant)
    (turn : Wake) {order : Nat} (horder : f.nextOrder ≤ order) :
    WellFormed (f.begin purpose time released turn order) where
  ids := by
    rw [begin_rounds, List.map_append, List.nodup_append]
    refine ⟨h.ids, by simp, ?_⟩
    simpa using fun r hr => Nat.ne_of_lt (h.ids_lt r hr)
  ids_lt r hr := by
    rcases List.mem_append.mp hr with hr | hr
    · exact Nat.lt_succ_of_lt (h.ids_lt r hr)
    · rw [List.mem_singleton.mp hr]
      exact Nat.lt_succ_self f.nextId
  underWay r hr := by
    rcases List.mem_append.mp hr with hr | hr
    · exact (h.underWay r hr).mono horder
    · rw [List.mem_singleton.mp hr]
      exact ⟨by simp, by simp, .inl rfl⟩

end WellFormed

theorem Turn.wellFormed {f f' : Fans σ} (hturn : Turn f f') (h : WellFormed f) :
    WellFormed f' := by
  cases hturn with
  | turned now hr hturn hmore =>
    exact h.put hr ((h.underWay _ hr).turned now hmore) rfl (Nat.le_add_right _ _)
  | ended hr hturn hqueued hnone =>
    exact ⟨(List.filter_sublist.map _).nodup h.ids,
      fun other hother => h.ids_lt other (List.mem_of_mem_filter hother),
      fun other hother => h.underWay other (List.mem_of_mem_filter hother)⟩
  | acted hr hcall hbegun turn horder => exact h.acted hr _ turn horder
  | calledAtOnce hr hcall hbegun turn horder =>
    have hnoted (happening : Happening) : WellFormed (f.note happening) :=
      h.congr rfl (Nat.le_refl _) (Nat.le_refl _)
    exact (hnoted _).acted hr _ turn horder
  | @called r hr call hcall hbegun due =>
    have hput := h.put hr ((h.underWay r hr).called call due) rfl (Nat.le_succ _)
    exact hput.congr rfl (Nat.le_refl _) (Nat.le_refl _)

theorem Step.wellFormed {move : Move σ} {f f' : Fans σ} (step : Step f move f')
    (h : WellFormed f) : WellFormed f' := by
  cases step with
  | later horder hid => exact h.congr rfl hid horder
  | changed | ranAlone | registered | built | failed =>
    exact h.congr rfl (Nat.le_refl _) (Nat.le_refl _)
  | begun purpose time released turn horder => exact h.begin purpose time released turn horder
  | fanned hturn => exact hturn.wellFormed h

theorem Steps.wellFormed {move : Move σ} {f f' : Fans σ} (steps : Steps move f f')
    (h : WellFormed f) : WellFormed f' := by
  induction steps with
  | refl => exact h
  | tail _ step ih => exact step.wellFormed ih

/-! ## What is left -/

/-- What is left becomes less when a fan-out is replaced by one with less left. -/
theorem left_put_lt {f : Fans σ} (h : WellFormed f) {r r' : Round σ} (hr : r ∈ f.rounds)
    (hid : r'.id = r.id) (hlt : r'.left < r.left) : (f.put r').left < f.left := by
  unfold left
  rw [put_rounds, List.map_map]
  -- no other fan-out is replaced
  have hsame : ∀ other ∈ f.rounds, other.id = r'.id → other = r := fun other hother heq =>
    List.inj_on_of_nodup_map h.ids hother hr (heq.trans hid)
  refine List.sum_lt_sum _ _ (fun other hother => ?_) ⟨r, hr, ?_⟩
  · simp only [Function.comp]
    split
    · next heq =>
      rw [hsame other hother heq]
      exact Nat.le_of_lt hlt
    · exact Nat.le_refl _
  · simpa [hid] using hlt

/-- What is taken out of a list is missing from its sum. -/
theorem sum_filter_add_le {α : Type} (weight : α → Nat) (p : α → Bool) {xs : List α} {x : α}
    (hx : x ∈ xs) (hp : p x = false) :
    ((xs.filter p).map weight).sum + weight x ≤ (xs.map weight).sum := by
  induction xs with
  | nil => cases hx
  | cons y rest ih =>
    have hrest : ((rest.filter p).map weight).sum ≤ (rest.map weight).sum :=
      (List.filter_sublist.map _).sum_le_sum fun _ _ => Nat.zero_le _
    rcases List.mem_cons.mp hx with rfl | hx
    · rw [List.filter_cons_of_neg (by simp [hp]), List.map_cons, List.sum_cons]
      omega
    · have hless := ih hx
      cases hy : p y with
      | true =>
        rw [List.filter_cons_of_pos hy, List.map_cons, List.map_cons, List.sum_cons, List.sum_cons]
        omega
      | false =>
        rw [List.filter_cons_of_neg (by simp [hy]), List.map_cons, List.sum_cons]
        omega

/-- A call taken away leaves less to do. -/
theorem left_without {r : Round σ} {call : Call σ} (hcall : call ∈ r.atWork) :
    ((without r call).atWork.map Call.left).sum + call.left ≤ (r.atWork.map Call.left).sum :=
  sum_filter_add_le Call.left _ hcall (by simp)

theorem sum_left_callsOf (now order : Nat) (calls : List (Registered σ)) :
    ((callsOf now order calls).map Call.left).sum = 3 * calls.length := by
  induction calls generalizing order with
  | nil => rfl
  | cons c rest ih =>
    simp only [callsOf, List.map_cons, List.sum_cons, ih, List.length_cons]
    simp only [Call.left, Bool.false_eq_true, if_false]
    omega

/-- Making calls takes them out of the queue, and uses up the turn. -/
theorem left_turned_lt {f : Fans σ} {r : Round σ} (now : Nat) (hturn : r.turn.isSome) :
    (f.turned now r).left < r.left := by
  have hqueued := congrArg List.length (nextCalls_append_drop r)
  rw [List.length_append] at hqueued
  simp only [Round.left, turned, List.map_append, List.sum_append, hturn, if_true,
    Option.isSome_none, Bool.false_eq_true, if_false]
  have hcalls := sum_left_callsOf now f.nextOrder (Machine.nextCalls r)
  omega

/-- A call that acts had two things left at least, and the turn that it asks for is one. -/
theorem left_settled_lt {r : Round σ} {call : Call σ} (hcall : call ∈ r.atWork) (turn : Wake)
    (outcomes : List (String × Bool)) :
    ({ without r call with outcomes := outcomes, turn := some turn } : Round σ).left < r.left := by
  have hless := left_without hcall
  have htwo : 2 ≤ call.left := by
    unfold Call.left
    split <;> decide
  show 3 * r.queued.length + ((without r call).atWork.map Call.left).sum + 1 < r.left
  simp only [Round.left]
  omega

/-- A call had three things left, and has two once it has begun. -/
theorem left_held_lt {r : Round σ} {call : Call σ} (hcall : call ∈ r.atWork)
    (hbegun : call.begun = false) (wake : Wake) :
    ({ without r call with
      atWork := (without r call).atWork ++ [⟨call.collector, true, wake⟩] } : Round σ).left <
        r.left := by
  have hless := left_without hcall
  have hthree : call.left = 3 := by simp [Call.left, hbegun]
  have hsum : (((without r call).atWork ++
      [Call.mk call.collector true wake]).map Call.left).sum =
        ((without r call).atWork.map Call.left).sum + 2 := by
    simp [Call.left]
  show 3 * r.queued.length + (((without r call).atWork ++
    [Call.mk call.collector true wake]).map Call.left).sum +
      (if r.turn.isSome then 1 else 0) < r.left
  rw [hsum]
  unfold Round.left
  omega

/-- Whatever a fan-out does leaves less to do. -/
theorem Turn.left_lt {f f' : Fans σ} (hturn : Turn f f') (h : WellFormed f) :
    f'.left < f.left := by
  cases hturn with
  | turned now hr hturn hmore => exact left_put_lt h hr rfl (left_turned_lt now hturn)
  | @ended r hr hturn hqueued hnone =>
    have hless := sum_filter_add_le Round.left (fun other => other.id ≠ r.id) hr (by simp)
    have hpos : 0 < r.left := by simp [Round.left, hturn]
    show ((f.rounds.filter _).map Round.left).sum < (f.rounds.map Round.left).sum
    omega
  | acted hr hcall hbegun turn horder => exact left_put_lt h hr rfl (left_settled_lt hcall turn _)
  | calledAtOnce hr hcall hbegun turn horder =>
    exact left_put_lt (f := f) h hr rfl (left_settled_lt hcall turn _)
  | called hr hcall hbegun due => exact left_put_lt (f := f) h hr rfl (left_held_lt hcall hbegun _)

end Fans

namespace Machine

variable {m : Machine σ}

/-! ## Reachable fan-outs -/

/-- The fan-outs of every reachable machine are well formed. -/
theorem Reachable.wellFormed (h : m.Reachable) : m.fans.WellFormed := by
  refine h.induction (P := fun m => m.fans.WellFormed) (fun config fanOut factory clock world => ?_)
    fun {m move} _ hm => ?_
  · exact ⟨by simp [init, fans], by simp [init, fans], by simp [init, fans]⟩
  · exact (fans_after m hm.ids move).wellFormed hm

/-- Whether a job belongs to the fan-out with an id. -/
def Job.isOf (id : Nat) : Job → Bool
  | .loop _ => false
  | .turn round | .call round _ => round == id

theorem Job.isFanned_of_isOf {id : Nat} {job : Job} (h : job.isOf id = true) :
    job.isFanned = true := by
  cases job with
  | loop => cases h
  | turn | call => rfl

/-- A fan-out under way has something to wait for. -/
theorem exists_pending {r : Round σ} (hm : m.fans.WellFormed) (hr : r ∈ m.rounds) :
    ∃ job : Job, job.isOf r.id = true ∧ m.pending job = true := by
  rcases (hm.underWay r hr).waits with hturn | hcalls
  · obtain ⟨wake, hwake⟩ := Option.isSome_iff_exists.mp hturn
    exact ⟨.turn r.id, beq_self_eq_true _,
      pending_iff.mpr ⟨wake, mem_waits_turn.mpr ⟨r, hr, hwake, rfl⟩⟩⟩
  · obtain ⟨call, hcall⟩ := List.exists_mem_of_ne_nil _ hcalls
    exact ⟨.call r.id call.wake.order, beq_self_eq_true _,
      pending_iff.mpr ⟨call.wake, mem_waits_call.mpr ⟨r, hr, rfl, call, hcall, rfl, rfl⟩⟩⟩

/-- A job of a fan-out leaves less to do. -/
theorem left_work_lt (hm : m.fans.WellFormed) {job : Job} (hjob : job.isFanned = true)
    (hpending : m.pending job = true) : (m.work job).fans.left < m.fans.left := by
  obtain ⟨f', hturn, order, horder, hfans⟩ := turn_work m hm.ids hjob hpending
  have hlt := hturn.left_lt hm
  rw [hfans]
  exact hlt

end Machine

end HourlySnapshots
