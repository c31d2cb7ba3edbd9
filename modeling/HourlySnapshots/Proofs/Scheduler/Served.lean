import HourlySnapshots.Proofs.Scheduler.Calls
import HourlySnapshots.Proofs.Scheduler.HourOrder

/-!
# Who has been called

Every call carries the time that its fan-out began for, and a fan-out is not over before it has
called every collector that was registered when it began: each of them has been called, or is still
in the queue or among the calls that are made and have not begun.
-/

namespace HourlySnapshots

variable {σ : Type}

/-- The collectors that a fan-out has yet to call. -/
def Round.awaited (r : Round σ) : List (Registered σ) :=
  r.queued ++ (r.atWork.filter fun call => !call.begun).map Call.collector

theorem Round.mem_awaited {r : Round σ} {c : Registered σ} :
    c ∈ r.awaited ↔
      c ∈ r.queued ∨ ∃ call ∈ r.atWork, call.begun = false ∧ call.collector = c := by
  simp [awaited, and_assoc]

/-- Whether a fan-out with this id began for this time. -/
def Begun (history : List Happening) (id : Nat) (time : Instant) : Prop :=
  ∃ purpose released, .roundStarted id purpose time released ∈ history

/-- Calls are no beginnings. -/
theorem begun_append_calls {news history : List Happening} (hnews : ∀ h ∈ news, h.isCall = true)
    (id : Nat) (time : Instant) : Begun (news ++ history) id time ↔ Begun history id time := by
  have hcall (purpose : Purpose) (released : Option Instant) :
      .roundStarted id purpose time released ∉ news := fun hmem => by
    have hfalse := hnews _ hmem
    simp [Happening.isCall] at hfalse
  simp [Begun, hcall]

theorem cycleStarts_append_calls {news history : List Happening}
    (hnews : ∀ h ∈ news, h.isCall = true) :
    cycleStarts (news ++ history) = cycleStarts history := by
  have hnone : cycleStarts news = [] := by
    refine List.filterMap_eq_nil_iff.mpr fun h hmem => ?_
    have hcall := hnews h hmem
    cases h <;> simp [Happening.isCall] at hcall ⊢
  have hsplit : cycleStarts (news ++ history) = cycleStarts news ++ cycleStarts history :=
    List.filterMap_append
  rw [hsplit, hnone, List.nil_append]

namespace Fans

/-- What was called, and what for, since the fan-out with the id `first`. -/
structure Served (base : Registry σ) (first : Nat) (before : List (Nat × Instant)) (f : Fans σ) :
    Prop where
  registered : ∀ c ∈ base, c ∈ f.registry
  first_le : first ≤ f.nextId
  begun_lt : ∀ id time, Begun f.history id time → id < f.nextId
  begun_once : ∀ id time time', Begun f.history id time → Begun f.history id time' → time = time'
  rounds_begun : ∀ r ∈ f.rounds, Begun f.history r.id r.time
  called_begun : ∀ id name time, .called id name time ∈ f.history → Begun f.history id time
  /-- Later cycles have later ids. -/
  cycles : ∃ fresh, cycleStarts f.history = fresh ++ before ∧
    ∀ cycle ∈ fresh, first ≤ cycle.1 ∧ Begun f.history cycle.1 cycle.2
  /-- Every collector has been called by each fan-out, or is going to be. -/
  served : ∀ id time, Begun f.history id time → first ≤ id → ∀ c ∈ base,
    .called id c.name time ∈ f.history ∨ ∃ r ∈ f.rounds, r.id = id ∧ c ∈ r.awaited

namespace Served

variable {base : Registry σ} {first : Nat} {before : List (Nat × Instant)} {f f' : Fans σ}

/-- More collectors, another world and later numbers leave what was called as it was. -/
theorem congr (h : f.Served base first before) (hregistry : ∀ c ∈ f.registry, c ∈ f'.registry)
    (hid : f.nextId ≤ f'.nextId) (hrounds : f'.rounds = f.rounds)
    (hhistory : f'.history = f.history) : f'.Served base first before where
  registered c hc := hregistry c (h.registered c hc)
  first_le := Nat.le_trans h.first_le hid
  begun_lt id time hbegun := Nat.lt_of_lt_of_le (h.begun_lt id time (hhistory ▸ hbegun)) hid
  begun_once := hhistory ▸ h.begun_once
  rounds_begun := by
    rw [hrounds, hhistory]
    exact h.rounds_begun
  called_begun := hhistory ▸ h.called_begun
  cycles := hhistory ▸ h.cycles
  served := by
    rw [hrounds, hhistory]
    exact h.served

/-- Calls are added to the history, and the fan-outs that go on keep their times. -/
theorem calls (h : f.Served base first before) (news : List Happening)
    (hnews : ∀ h ∈ news, h.isCall = true) (hhistory : f'.history = news ++ f.history)
    (hregistry : f'.registry = f.registry) (hid : f'.nextId = f.nextId)
    (hrounds : ∀ r' ∈ f'.rounds, ∃ r ∈ f.rounds, r'.id = r.id ∧ r'.time = r.time)
    (hcalled : ∀ id name time, .called id name time ∈ news → Begun f.history id time)
    (hserved : ∀ r ∈ f.rounds, ∀ c ∈ r.awaited, .called r.id c.name r.time ∈ news ∨
      ∃ r' ∈ f'.rounds, r'.id = r.id ∧ c ∈ r'.awaited) : f'.Served base first before where
  registered := hregistry ▸ h.registered
  first_le := hid ▸ h.first_le
  begun_lt id time hbegun := by
    rw [hhistory, begun_append_calls hnews] at hbegun
    exact hid ▸ h.begun_lt id time hbegun
  begun_once id time time' hbegun hbegun' := by
    rw [hhistory, begun_append_calls hnews] at hbegun hbegun'
    exact h.begun_once id time time' hbegun hbegun'
  rounds_begun r' hr' := by
    obtain ⟨r, hr, hsame, htime⟩ := hrounds r' hr'
    rw [hhistory, begun_append_calls hnews, hsame, htime]
    exact h.rounds_begun r hr
  called_begun id name time hmem := by
    rw [hhistory] at hmem ⊢
    rw [begun_append_calls hnews]
    rcases List.mem_append.mp hmem with hnew | hold
    · exact hcalled id name time hnew
    · exact h.called_begun id name time hold
  cycles := by
    obtain ⟨fresh, hsplit, hfresh⟩ := h.cycles
    refine ⟨fresh, ?_, fun cycle hcycle => ?_⟩
    · rw [hhistory, cycleStarts_append_calls hnews, hsplit]
    · rw [hhistory, begun_append_calls hnews]
      exact hfresh cycle hcycle
  served id time hbegun hfirst c hc := by
    rw [hhistory, begun_append_calls hnews] at hbegun
    rw [hhistory]
    rcases h.served id time hbegun hfirst c hc with hold | ⟨r, hr, rfl, hawaited⟩
    · exact .inl (List.mem_append_right _ hold)
    · rcases hserved r hr c hawaited with hnew | hstill
      · -- the time of the fan-out is the one it began for
        rw [h.begun_once r.id r.time time (h.rounds_begun r hr) hbegun] at hnew
        exact .inl (List.mem_append_left _ hnew)
      · exact .inr hstill

/-- A fan-out is replaced by what has become of it. -/
theorem put (h : f.Served base first before) (hf : f.WellFormed) (news : List Happening)
    {r r' : Round σ} (hr : r ∈ f.rounds) (hrounds : f'.rounds = (f.put r').rounds)
    (hid : r'.id = r.id) (htime : r'.time = r.time)
    (hnews : ∀ h ∈ news, h.isCall = true)
    (hcalled : ∀ id name time, .called id name time ∈ news → id = r.id ∧ time = r.time)
    (hserved : ∀ c ∈ r.awaited, .called r.id c.name r.time ∈ news ∨ c ∈ r'.awaited)
    (hhistory : f'.history = news ++ f.history) (hregistry : f'.registry = f.registry)
    (hnext : f'.nextId = f.nextId) : f'.Served base first before := by
  refine h.calls news hnews hhistory hregistry hnext (fun other hother => ?_)
    (fun id name time hmem => ?_) (fun other hother c hc => ?_)
  · rw [hrounds] at hother
    rcases mem_put hother with rfl | hother
    · exact ⟨r, hr, hid, htime⟩
    · exact ⟨other, hother, rfl, rfl⟩
  · obtain ⟨rfl, rfl⟩ := hcalled id name time hmem
    exact h.rounds_begun r hr
  · rw [hrounds]
    by_cases hsame : other.id = r'.id
    · obtain rfl := List.inj_on_of_nodup_map hf.ids hother hr (hsame.trans hid)
      refine (hserved c hc).imp_right fun hstill => ⟨r', ?_, hid, hstill⟩
      exact List.mem_map.mpr ⟨other, hother, if_pos hsame⟩
    · exact .inr ⟨other, List.mem_map.mpr ⟨other, hother, if_neg hsame⟩, rfl, hc⟩

end Served

/-- Without one of its calls, a fan-out has the same collectors to call, but for that call's. -/
theorem mem_awaited_without {r : Round σ} {order : Nat} (hr : r.UnderWay order) {call : Call σ}
    (hcall : call ∈ r.atWork) {c : Registered σ} (hc : c ∈ r.awaited) :
    c ∈ (without r call).awaited ∨ call.begun = false ∧ call.collector = c := by
  rcases Round.mem_awaited.mp hc with hqueued | ⟨other, hother, hbegun, rfl⟩
  · exact .inl (Round.mem_awaited.mpr (.inl hqueued))
  · by_cases hsame : other.wake.order = call.wake.order
    · obtain rfl := hr.eq_of_order hcall hother hsame
      exact .inr ⟨hbegun, rfl⟩
    · refine .inl (Round.mem_awaited.mpr (.inr ⟨other, ?_, hbegun, rfl⟩))
      exact List.mem_filter.mpr ⟨hother, by simpa using hsame⟩

/-- The calls that a fan-out makes are those of its next collectors, and have not begun. -/
theorem awaited_turned {f : Fans σ} (now : Nat) {r : Round σ} {c : Registered σ}
    (hc : c ∈ r.awaited) : c ∈ (f.turned now r).awaited := by
  have hcalls (order : Nat) (calls : List (Registered σ)) (hmem : c ∈ calls) :
      ∃ call ∈ callsOf now order calls, call.begun = false ∧ call.collector = c := by
    induction calls generalizing order with
    | nil => cases hmem
    | cons c' rest ih =>
      rcases List.mem_cons.mp hmem with rfl | hrest
      · exact ⟨_, List.mem_cons_self, rfl, rfl⟩
      · obtain ⟨call, hcall, hboth⟩ := ih (order + 1) hrest
        exact ⟨call, List.mem_cons_of_mem _ hcall, hboth⟩
  rcases Round.mem_awaited.mp hc with hqueued | ⟨call, hcall, hboth⟩
  · rw [← nextCalls_append_drop r] at hqueued
    rcases List.mem_append.mp hqueued with hnext | hlater
    · obtain ⟨call, hcall, hboth⟩ := hcalls f.nextOrder (Machine.nextCalls r) hnext
      exact Round.mem_awaited.mpr (.inr ⟨call, List.mem_append_right _ hcall, hboth⟩)
    · exact Round.mem_awaited.mpr (.inl hlater)
  · exact Round.mem_awaited.mpr (.inr ⟨call, List.mem_append_left _ hcall, hboth⟩)

variable {base : Registry σ} {first : Nat} {before : List (Nat × Instant)} {f f' : Fans σ}

theorem Turn.served (hturn : Turn f f') (hf : f.WellFormed) (h : f.Served base first before) :
    f'.Served base first before := by
  have hwithout {r : Round σ} (hr : r ∈ f.rounds) {call : Call σ} (hcall : call ∈ r.atWork)
      {c : Registered σ} (hc : c ∈ r.awaited) :
      c ∈ (without r call).awaited ∨ call.begun = false ∧ call.collector = c :=
    mem_awaited_without (hf.underWay r hr) hcall hc
  cases hturn with
  | turned now hr hturn hmore =>
    exact h.put hf [] hr rfl rfl rfl (by simp) (by simp)
      (fun c hc => .inr (awaited_turned now hc)) rfl rfl rfl
  | @ended r hr hturn hqueued hnone =>
    refine h.calls [] (by simp) rfl rfl rfl
      (fun other hother => ⟨other, List.mem_of_mem_filter hother, rfl, rfl⟩) (by simp) ?_
    intro other hother c hc
    by_cases hsame : other.id = r.id
    · -- the fan-out that is over has called everyone
      obtain rfl := List.inj_on_of_nodup_map hf.ids hother hr hsame
      simp [Round.awaited, hqueued, hnone] at hc
    · exact .inr ⟨other, List.mem_filter.mpr ⟨hother, by simpa using hsame⟩, rfl, hc⟩
  | @acted r hr call hcall hbegun turn order horder =>
    refine h.put hf [.settled r.id call.collector.name _] hr rfl rfl rfl
      (by simp [Happening.isCall]) (by simp) (fun c hc => ?_) rfl rfl rfl
    -- a call that had begun was awaited no more
    rcases hwithout hr hcall hc with hstill | ⟨hnot, -⟩
    · exact .inr hstill
    · simp [hbegun] at hnot
  | @calledAtOnce r hr call hcall hbegun turn order horder =>
    refine h.put hf [.settled r.id call.collector.name _,
      .called r.id call.collector.name r.time] hr rfl rfl rfl (by simp [Happening.isCall])
      (by simp +contextual) (fun c hc => ?_) rfl rfl rfl
    rcases hwithout hr hcall hc with hstill | ⟨-, rfl⟩
    · exact .inr hstill
    · exact .inl (by simp)
  | @called r hr call hcall hbegun due =>
    refine h.put hf [.called r.id call.collector.name r.time] hr rfl rfl rfl
      (by simp [Happening.isCall]) (by simp +contextual) (fun c hc => ?_) rfl rfl rfl
    rcases hwithout hr hcall hc with hstill | ⟨-, rfl⟩
    · refine .inr (Round.mem_awaited.mpr ?_)
      rcases Round.mem_awaited.mp hstill with hqueued | ⟨other, hother, hboth⟩
      · exact .inl hqueued
      · exact .inr ⟨other, List.mem_append_left _ hother, hboth⟩
    · exact .inl (by simp)

/-- Only the new fan-out has begun since. -/
theorem begun_begin (f : Fans σ) (purpose : Purpose) (time : Instant) (released : Option Instant)
    (turn : Wake) (order id : Nat) (t : Instant) :
    Begun (f.begin purpose time released turn order).history id t ↔
      (id = f.nextId ∧ t = time) ∨ Begun f.history id t := by
  simp only [Begun, begin_history, List.mem_cons, Happening.roundStarted.injEq]
  constructor
  · rintro ⟨p, rel, ⟨rfl, -, rfl, -⟩ | hold⟩
    · exact .inl ⟨rfl, rfl⟩
    · exact .inr ⟨p, rel, hold⟩
  · rintro (⟨rfl, rfl⟩ | ⟨p, rel, hold⟩)
    · exact ⟨purpose, released, .inl ⟨rfl, rfl, rfl, rfl⟩⟩
    · exact ⟨p, rel, .inr hold⟩

/-- A fan-out that begins has everyone in its queue. -/
theorem Served.begin (h : f.Served base first before) (purpose : Purpose) (time : Instant)
    (released : Option Instant) (turn : Wake) (order : Nat) :
    (f.begin purpose time released turn order).Served base first before := by
  have hbegun := begun_begin f purpose time released turn order
  constructor
  · exact h.registered
  · exact Nat.le_succ_of_le h.first_le
  · intro id t hmem
    rcases (hbegun id t).mp hmem with ⟨rfl, -⟩ | hold
    · exact Nat.lt_succ_self _
    · exact Nat.lt_succ_of_lt (h.begun_lt id t hold)
  · intro id t t' hmem hmem'
    rcases (hbegun id t).mp hmem with ⟨rfl, rfl⟩ | hold
    · rcases (hbegun _ t').mp hmem' with ⟨-, rfl⟩ | hold'
      · rfl
      · exact absurd (h.begun_lt _ _ hold') (Nat.lt_irrefl _)
    · rcases (hbegun id t').mp hmem' with ⟨rfl, -⟩ | hold'
      · exact absurd (h.begun_lt _ _ hold) (Nat.lt_irrefl _)
      · exact h.begun_once id t t' hold hold'
  · intro r hr
    rw [hbegun]
    rcases List.mem_append.mp hr with hr | hr
    · exact .inr (h.rounds_begun r hr)
    · rw [List.mem_singleton.mp hr]
      exact .inl ⟨rfl, rfl⟩
  · intro id name t hmem
    rw [hbegun]
    exact .inr (h.called_begun id name t (by simpa using hmem))
  · -- only an automatic fan-out is a cycle
    obtain ⟨fresh, hsplit, hfresh⟩ := h.cycles
    have hold : ∀ cycle ∈ fresh, first ≤ cycle.1 ∧
        Begun (f.begin purpose time released turn order).history cycle.1 cycle.2 :=
      fun cycle hcycle => ⟨(hfresh cycle hcycle).1, (hbegun _ _).mpr (.inr (hfresh cycle hcycle).2)⟩
    cases purpose with
    | automatic loop =>
      refine ⟨(f.nextId, time) :: fresh, by simp [hsplit], fun cycle hcycle => ?_⟩
      rcases List.mem_cons.mp hcycle with rfl | hcycle
      · exact ⟨h.first_le, (hbegun _ _).mpr (.inl ⟨rfl, rfl⟩)⟩
      · exact hold cycle hcycle
    | manual => exact ⟨fresh, by simp [hsplit], hold⟩
    | direct => exact ⟨fresh, by simp [hsplit], hold⟩
  · intro id t hmem hfirst c hc
    rcases (hbegun id t).mp hmem with ⟨rfl, rfl⟩ | hold
    · -- the new fan-out has called nobody, but queues everyone
      refine .inr ⟨_, List.mem_append_right _ (List.mem_singleton_self _), rfl, ?_⟩
      exact Round.mem_awaited.mpr (.inl (h.registered c hc))
    · rcases h.served id t hold hfirst c hc with hcalled | ⟨r, hr, hid, hawaited⟩
      · exact .inl (List.mem_cons_of_mem _ hcalled)
      · exact .inr ⟨r, List.mem_append_left _ hr, hid, hawaited⟩

theorem Step.served {move : Move σ} (step : Step f move f') (hf : f.WellFormed)
    (h : f.Served base first before) : f'.Served base first before := by
  cases step with
  | later horder hid => exact h.congr (fun _ hc => hc) hid rfl rfl
  | changed | ranAlone | failed => exact h.congr (fun _ hc => hc) (Nat.le_refl _) rfl rfl
  | registered | built =>
    exact h.congr (fun _ hc => List.mem_append_left _ hc) (Nat.le_refl _) rfl rfl
  | begun purpose time released turn horder => exact h.begin purpose time released turn _
  | fanned hturn => exact hturn.served hf h

theorem Steps.served {move : Move σ} (steps : Steps move f f') (hf : f.WellFormed)
    (h : f.Served base first before) : f'.Served base first before := by
  induction steps with
  | refl => exact h
  | tail hsteps step ih => exact step.served (Steps.wellFormed hsteps hf) ih

end Fans

end HourlySnapshots
