import HourlySnapshots.Proofs.Scheduler.Calls

/-!
# Building the collectors

Initializing, starting and triggering all build the collectors unless that has been done. Whoever
comes first registers all that the factory gives, or nothing at all when the factory fails or a
name would come twice; then the scheduler is as it was, and the next one tries again. Once that has
succeeded, the factory is never asked again.
-/

namespace HourlySnapshots

variable {σ : Type}

/-! ## Names -/

namespace Registry

/-- A batch can be registered when its names are distinct and new. -/
def Fits (r : Registry σ) (batch : List (Registered σ)) : Prop :=
  (names batch).Nodup ∧ ∀ name ∈ names batch, name ∉ names r

instance (r : Registry σ) (batch : List (Registered σ)) : Decidable (r.Fits batch) :=
  inferInstanceAs (Decidable (_ ∧ _))

/-- Nothing is repeated just when the names are distinct and new. -/
theorem firstRepeated_eq_none {taken names : List String} :
    firstRepeated taken names = none ↔ names.Nodup ∧ ∀ name ∈ names, name ∉ taken := by
  induction names generalizing taken with
  | nil => simp [firstRepeated]
  | cons name rest ih =>
    unfold firstRepeated
    split
    · next htaken => simp_all
    · next hnew =>
      have hnot : name ∉ taken := by simpa using hnew
      rw [ih, List.nodup_cons]
      constructor
      · rintro ⟨hnodup, hrest⟩
        refine ⟨⟨fun hmem => hrest name hmem List.mem_cons_self, hnodup⟩, fun other hother => ?_⟩
        rcases List.mem_cons.mp hother with rfl | hother
        · exact hnot
        · exact fun hmem => hrest other hother (List.mem_cons_of_mem _ hmem)
      · rintro ⟨⟨hfirst, hnodup⟩, hall⟩
        refine ⟨hnodup, fun other hother hmem => ?_⟩
        rcases List.mem_cons.mp hmem with rfl | hmem
        · exact hfirst hother
        · exact hall other (List.mem_cons_of_mem _ hother) hmem

/-- The repeated name that is found is taken already or comes before, and nothing before repeats. -/
theorem firstRepeated_eq_some {taken names : List String} {name : String} :
    firstRepeated taken names = some name ↔
      ∃ before after, names = before ++ name :: after ∧ (name ∈ taken ∨ name ∈ before) ∧
        firstRepeated taken before = none := by
  constructor
  · intro h
    induction names generalizing taken with
    | nil => cases h
    | cons first rest ih =>
      unfold firstRepeated at h
      split at h
      · next htaken =>
        obtain rfl := Option.some.inj h
        exact ⟨[], rest, rfl, .inl (by simpa using htaken), rfl⟩
      · next hnew =>
        obtain ⟨before, after, rfl, hmem, hnone⟩ := ih h
        refine ⟨first :: before, after, rfl, ?_, ?_⟩
        · simp only [List.mem_cons] at hmem ⊢
          tauto
        · unfold firstRepeated
          rw [if_neg hnew, hnone]
  · rintro ⟨before, after, rfl, hmem, hnone⟩
    induction before generalizing taken with
    | nil =>
      have htaken : name ∈ taken := by simpa using hmem
      simp [firstRepeated, htaken]
    | cons first rest ih =>
      rw [firstRepeated] at hnone
      split at hnone
      · cases hnone
      · next hnew =>
        rw [List.cons_append, firstRepeated, if_neg hnew]
        refine ih ?_ hnone
        simp only [List.mem_cons] at hmem ⊢
        tauto

/-- A name is the first of a batch that is registered already or comes earlier in the batch. -/
def Repeats (r : Registry σ) (batch : List (Registered σ)) (name : String) : Prop :=
  ∃ before after, names batch = before ++ name :: after ∧ (name ∈ names r ∨ name ∈ before) ∧
    before.Nodup ∧ ∀ other ∈ before, other ∉ names r

theorem repeats_iff {r : Registry σ} {batch : List (Registered σ)} {name : String} :
    r.Repeats batch name ↔ firstRepeated r.names (names batch) = some name := by
  rw [firstRepeated_eq_some]
  simp only [firstRepeated_eq_none]
  rfl

theorem fits_iff {r : Registry σ} {batch : List (Registered σ)} :
    r.Fits batch ↔ firstRepeated r.names (names batch) = none := firstRepeated_eq_none.symm

/-- What is registered has distinct names. -/
theorem nodup_of_registerAll {r r' : Registry σ} {batch : List (Registered σ)}
    (hr : r.names.Nodup) (h : registerAll r batch = .ok r') : r'.names.Nodup := by
  obtain rfl := eq_of_registerAll h
  unfold registerAll at h
  split at h
  · cases h
  · next hnone =>
    obtain ⟨hnodup, hnew⟩ := firstRepeated_eq_none.mp hnone
    unfold names
    rw [List.map_append, List.nodup_append]
    exact ⟨hr, hnodup, fun name hold other hmem heq => hnew other hmem (heq ▸ hold)⟩

end Registry

/-- Whatever is registered, or built, has a name of its own. -/
theorem Fans.Step.names_nodup {move : Move σ} {f f' : Fans σ} (step : Step f move f')
    (h : f.registry.names.Nodup) : f'.registry.names.Nodup := by
  cases step with
  | registered c hmove hnew => exact Registry.nodup_of_registerAll h hnew
  | built hbatch hnew => exact Registry.nodup_of_registerAll h hnew
  | fanned hturn =>
    rw [hturn.registry_eq]
    exact h
  | _ => exact h

/-- Registered collectors have distinct names. -/
theorem Machine.Reachable.names_nodup {m : Machine σ} (hm : m.Reachable) :
    m.registry.names.Nodup := by
  refine hm.induction (P := fun m => m.registry.names.Nodup) (fun _ _ _ _ _ => List.nodup_nil)
    fun {m move} hm h => ?_
  have hkeeps : ∀ f : Fans σ, Fans.Steps move m.fans f → f.registry.names.Nodup := by
    intro f hsteps
    induction hsteps with
    | refl => exact h
    | tail _ step ih => exact step.names_nodup ih
  exact hkeeps _ (fans_after m hm.wellFormed.ids move)

namespace Machine

variable (m : Machine σ)

/-!
## What is built

Of all that a machine does, only asking the factory touches whether the collectors are built and how
often that was tried. There is one lemma for each operation, up to the job as a whole.
-/

/-- How often the factory was asked. -/
def factoryCalls : Nat := m.history.count .factoryCalled

/-- Whether the collectors are built, and how often that was tried. -/
def setup : Bool × Nat := (m.initialized, m.factoryCalls)

section

variable {m}

theorem setup_note {h : Happening} (hne : h ≠ .factoryCalled) : (m.note h).setup = m.setup := by
  unfold setup factoryCalls
  rw [show (m.note h).history = h :: m.history from rfl, List.count_cons_of_ne hne]
  rfl

end

@[simp] theorem setup_setState (state : SchedulerState) : (m.setState state).setup = m.setup :=
  setup_note (by simp)

@[simp] theorem setup_readClock : m.readClock.2.setup = m.setup :=
  setup_note (m := { m with readings := m.readings + 1 }) (by simp)

@[simp] theorem setup_beginWait (ms : Nat) : (m.beginWait ms).2.setup = m.setup := rfl

@[simp] theorem setup_setPhase (loop : Nat) (phase : LoopPhase) :
    (m.setPhase loop phase).setup = m.setup := rfl

@[simp] theorem setup_endLoop (loop : Nat) : (m.endLoop loop).setup = m.setup :=
  setup_note (m := m.setPhase loop .ended) (by simp)

@[simp] theorem setup_backOff (loop : Nat) : (m.backOff loop).setup = m.setup := by
  unfold backOff
  split
  · exact setup_endLoop m loop
  · rfl

@[simp] theorem setup_announce (loop : Nat) (turn : Wake) (target : Instant) :
    (m.announce loop turn target).setup = m.setup :=
  setup_note (by simp)

@[simp] theorem setup_beginTurn (r : Round σ) : (m.beginTurn r).2.setup = m.setup := by
  unfold beginTurn
  split <;> rfl

@[simp] theorem setup_act (r : Round σ) (c : Registered σ) : (m.act r c).2.setup = m.setup := by
  unfold act
  rw [setup_beginTurn, setup_note (by simp)]
  rfl

@[simp] theorem setup_beginCall (r : Round σ) (c : Registered σ) :
    (m.beginCall r c).2.setup = m.setup := by
  have hcalled : (m.note (.called r.id c.name r.time)).setup = m.setup := setup_note (by simp)
  rw [beginCall_eq]
  split
  · rw [setup_act, hcalled]
  · exact hcalled

@[simp] theorem setup_makeCalls (r : Round σ) (calls : List (Registered σ)) :
    (m.makeCalls r calls).2.setup = m.setup := by
  induction calls generalizing m r with
  | nil => rfl
  | cons c rest ih =>
    rw [makeCalls, ih]
    rfl

@[simp] theorem setup_count (time : Instant) (results : CycleResults) :
    (m.count time results).2.setup = m.setup := by
  simp only [count, readClock]
  cases m.clock m.now m.readings <;> simp [setup, factoryCalls, note]

theorem setup_finish (r : Round σ) : (m.finish r).setup = m.setup := by
  unfold finish
  have hdropped (kept : List (Round σ)) : ({ m with rounds := kept } : Machine σ).setup = m.setup :=
    rfl
  cases r.purpose with
  | direct => exact setup_note (by simp)
  | manual =>
    simp only
    rw [setup_note (by simp), setup_count, hdropped]
  | automatic loop =>
    simp only
    split
    · rw [setup_setPhase, setup_beginWait, setup_note (by simp), setup_count, hdropped]
    · rw [setup_backOff, setup_note (by simp), setup_count, hdropped]

theorem setup_takeTurn (round : Nat) : (m.takeTurn round).setup = m.setup := by
  unfold takeTurn
  split
  · rfl
  · simp only
    split
    · rw [setup_finish, setup_makeCalls]
    · exact setup_makeCalls m _ _

@[simp] theorem setup_startRound (purpose : Purpose) (time : Instant)
    (collectors : List (Registered σ)) (released : Option Instant) :
    (m.startRound purpose time collectors released).2.setup = m.setup := by
  unfold startRound
  simp only
  exact (setup_beginTurn _ _).trans (setup_note (by simp))

theorem setup_resume (round order : Nat) : (m.resume round order).setup = m.setup := by
  unfold resume
  split
  · rfl
  · split
    · rfl
    · simp only
      split
      · exact setup_act m _ _
      · exact setup_beginCall m _ _

theorem setup_beginWaiting (loop : Nat) (turn : Wake) :
    (m.beginWaiting loop turn).setup = m.setup := by
  have hread := setup_readClock m
  unfold beginWaiting
  rcases hclock : m.readClock with ⟨_ | now, next⟩
  · rw [hclock] at hread
    rw [setup_endLoop, hread]
  · rw [hclock] at hread
    simp only
    split
    · rw [setup_announce, hread]
    · rw [setup_backOff, hread]

theorem setup_checkBoundary (loop : Nat) (turn : Wake) (target : Instant) :
    (m.checkBoundary loop turn target).setup = m.setup := by
  have hread := setup_readClock m
  unfold checkBoundary
  rcases hclock : m.readClock with ⟨_ | now, next⟩
  · rw [hclock] at hread
    rw [setup_endLoop, hread]
  · rw [hclock] at hread
    simp only
    split
    · rw [setup_note (by simp), setup_setPhase, setup_beginWait, hread]
    · split
      · rw [setup_startRound, setup_setPhase, hread]
      · split
        · rw [setup_announce, hread]
        · rw [setup_backOff, hread]

theorem setup_wakeLoop (l : Loop) : (m.wakeLoop l).setup = m.setup := by
  unfold wakeLoop
  split
  · exact setup_beginWaiting m _ _
  · split
    · exact setup_endLoop m _
    · exact setup_checkBoundary m _ _ _
  · split
    · exact setup_endLoop m _
    · rfl
  · rfl
  · rfl

/-- What waits never builds collectors when it acts. -/
theorem setup_work (job : Job) : (m.work job).setup = m.setup := by
  cases job with
  | loop id =>
    rw [work_loop]
    split
    · exact setup_wakeLoop m _
    · rfl
  | turn round =>
    rw [work_turn]
    exact setup_takeTurn m round
  | call round order =>
    rw [work_call]
    exact setup_resume m round order

/-! ## Asking the factory -/

/-- The machine when the factory has answered. -/
def asked : Machine σ := ({ m with world := (m.factory m.world).2 } : Machine σ).note .factoryCalled

/-- Why the collectors cannot be built at present. -/
inductive Hindered : SchedulerError → Prop where
  | failed (causes : List String) (hbuilt : (m.factory m.world).1 = .error causes) :
      Hindered (.ofCauses causes)
  /-- The error names the first name that comes twice. -/
  | repeated {batch : List (Registered σ)} {name : String}
      (hbuilt : (m.factory m.world).1 = .ok batch)
      (hname : Registry.firstRepeated m.registry.names (Registry.names batch) = some name) :
      Hindered (.registry (.duplicateName name))

/-- What comes of building the collectors: all of them are registered, or nothing is changed. -/
inductive Builds : Except SchedulerError InitializeReport × Machine σ → Prop where
  | built (batch : List (Registered σ)) (hbuilt : (m.factory m.world).1 = .ok batch)
      (hfits : m.registry.Fits batch) :
      Builds (.ok ⟨false, (m.registry ++ batch).length⟩,
        { m.asked with registry := m.registry ++ batch, initialized := true })
  | hindered {e : SchedulerError} (h : m.Hindered e) : Builds (.error e, m.asked)

theorem factoryCalls_asked : m.asked.factoryCalls = m.factoryCalls + 1 := by
  show (Happening.factoryCalled :: m.history).count .factoryCalled = _
  rw [List.count_cons_self]
  rfl

section

variable {m}

/-- Collectors that are built are not built again. -/
theorem ensureInitialized_again (h : m.initialized = true) :
    m.ensureInitialized = (.ok ⟨true, m.registry.length⟩, m) := by
  unfold ensureInitialized
  rw [if_pos h]

/-- Collectors that are not built yet are built as a whole or not at all. -/
theorem ensureInitialized_builds (h : m.initialized = false) : m.Builds m.ensureInitialized := by
  unfold ensureInitialized
  rw [if_neg (by simp [h])]
  rcases hasked : m.factory m.world with ⟨built, world⟩
  have hworld : ({ m with world := world } : Machine σ).note .factoryCalled = m.asked := by
    rw [asked, hasked]
  have hbuilt : (m.factory m.world).1 = built := congrArg Prod.fst hasked
  simp only [hworld]
  cases built with
  | error causes => exact .hindered (.failed causes hbuilt)
  | ok batch =>
    have hregistry : (({ m with world := world } : Machine σ).note .factoryCalled).registry =
        m.registry := rfl
    rw [hworld] at hregistry
    simp only [hregistry, Registry.registerAll]
    cases hname : Registry.firstRepeated m.registry.names (Registry.names batch) with
    | some name => exact .hindered (.repeated hbuilt hname)
    | none => exact .built batch hbuilt (Registry.fits_iff.mpr hname)

/-- What hinders is that the factory fails, or that its batch does not fit. -/
theorem exists_hindered : (∃ e, m.Hindered e) ↔
    (∃ causes, (m.factory m.world).1 = .error causes) ∨
      ∃ batch, (m.factory m.world).1 = .ok batch ∧ ¬ m.registry.Fits batch := by
  constructor
  · rintro ⟨e, hhindered⟩
    cases hhindered with
    | failed causes hbuilt => exact .inl ⟨causes, hbuilt⟩
    | repeated hbuilt hname =>
      refine .inr ⟨_, hbuilt, fun hfits => ?_⟩
      rw [Registry.fits_iff.mp hfits] at hname
      cases hname
  · rintro (⟨causes, hbuilt⟩ | ⟨batch, hbuilt, hnot⟩)
    · exact ⟨_, .failed causes hbuilt⟩
    · obtain ⟨name, hname⟩ := Option.ne_none_iff_exists'.mp (mt Registry.fits_iff.mpr hnot)
      exact ⟨_, .repeated hbuilt hname⟩

end

/-! ## Initializing, starting and triggering -/

/-- What makes sure that the collectors are built. -/
inductive Entry where
  | prepare
  | start
  | trigger (time : Option Instant)

/-- The call as a move of the scheduler. -/
def Entry.move : Entry → Move σ
  | .prepare => .prepare
  | .start => .start
  | .trigger time => .trigger time

/-- What the caller is told. -/
def answer : Entry → Except SchedulerError Unit
  | .prepare => m.ensureInitialized.1.map fun _ => ()
  | .start => m.start.1
  | .trigger time => (m.trigger time).1.map fun _ => ()

/-- The caller is told that the collectors cannot be built; a clock that breaks off is no reason. -/
def Fails (entry : Entry) : Prop := ∃ e, m.answer entry = .error e ∧ e ≠ .cycleAborted

/-- A batch has been registered in its order. -/
structure BuiltBy (batch : List (Registered σ)) (m' : Machine σ) : Prop where
  registry : m'.registry = m.registry ++ batch
  initialized : m'.initialized = true
  factoryCalls : m'.factoryCalls = m.factoryCalls + 1

/-- The factory was asked in vain, and the rest is as it was. -/
structure SparedBy (m' : Machine σ) : Prop where
  registry : m'.registry = m.registry
  initialized : m'.initialized = m.initialized
  stats : m'.stats = m.stats
  state : m'.state = m.state
  factoryCalls : m'.factoryCalls = m.factoryCalls + 1

theorem registry_startRound (purpose : Purpose) (time : Instant)
    (collectors : List (Registered σ)) (released : Option Instant) :
    (m.startRound purpose time collectors released).2.registry = m.registry := by
  unfold startRound beginTurn
  rfl

section

variable {m}

/-- A name is complained about just when it is the first of the batch that comes twice. -/
theorem hindered_duplicateName_iff {name : String} :
    m.Hindered (.registry (.duplicateName name)) ↔
      ∃ batch, (m.factory m.world).1 = .ok batch ∧ m.registry.Repeats batch name := by
  constructor
  · intro h
    cases h with
    | repeated hbuilt hname => exact ⟨_, hbuilt, Registry.repeats_iff.mpr hname⟩
  · rintro ⟨batch, hbuilt, hrepeats⟩
    exact .repeated hbuilt (Registry.repeats_iff.mp hrepeats)

/-- At most one thing hinders. -/
theorem Hindered.unique {e e' : SchedulerError} (h : m.Hindered e) (h' : m.Hindered e') :
    e = e' := by
  cases h with
  | failed causes hbuilt =>
    cases h' with
    | failed causes' hbuilt' =>
      obtain rfl := Except.error.inj (hbuilt.symm.trans hbuilt')
      rfl
    | repeated hbuilt' hname' => cases hbuilt.symm.trans hbuilt'
  | repeated hbuilt hname =>
    cases h' with
    | failed causes' hbuilt' => cases hbuilt.symm.trans hbuilt'
    | repeated hbuilt' hname' =>
      obtain rfl := Except.ok.inj (hbuilt.symm.trans hbuilt')
      obtain rfl := Option.some.inj (hname.symm.trans hname')
      rfl

theorem Hindered.ne_cycleAborted {e : SchedulerError} (h : m.Hindered e) : e ≠ .cycleAborted := by
  cases h <;> simp [SchedulerError.ofCauses]

theorem BuiltBy.congr {batch : List (Registered σ)} {m₁ m₂ : Machine σ} (h : m.BuiltBy batch m₁)
    (hregistry : m₂.registry = m₁.registry) (hsetup : m₂.setup = m₁.setup) :
    m.BuiltBy batch m₂ := by
  obtain ⟨hinitialized, hcalls⟩ := Prod.mk.inj hsetup
  exact ⟨hregistry.trans h.registry, hinitialized.trans h.initialized, hcalls.trans h.factoryCalls⟩

/-- Initializing builds the collectors, or tells what hinders it. -/
theorem prepare_cases (hnot : m.initialized = false) :
    (∃ batch report, (m.factory m.world).1 = .ok batch ∧ m.registry.Fits batch ∧
        m.ensureInitialized.1 = .ok report ∧ m.BuiltBy batch m.ensureInitialized.2) ∨
      ∃ e, m.Hindered e ∧ m.ensureInitialized.1 = .error e ∧ m.SparedBy m.ensureInitialized.2 := by
  have hasked := factoryCalls_asked m
  have hbuilds := ensureInitialized_builds hnot
  rcases hresult : m.ensureInitialized with ⟨result, m'⟩
  rw [hresult] at hbuilds
  cases hbuilds with
  | built batch hbuilt hfits => exact .inl ⟨batch, _, hbuilt, hfits, rfl, rfl, rfl, hasked⟩
  | hindered h => exact .inr ⟨_, h, rfl, rfl, rfl, rfl, rfl, hasked⟩

/-- What hinders building the collectors has nothing to do with the state. -/
theorem Hindered.of_setState {state : SchedulerState} {e : SchedulerError}
    (h : (m.setState state).Hindered e) : m.Hindered e := by
  cases h with
  | failed causes hbuilt => exact .failed causes hbuilt
  | repeated hbuilt hname => exact .repeated hbuilt hname

/-- A start builds the collectors, or goes back to being stopped. -/
theorem start_cases (hnot : m.initialized = false) (hstate : m.state = .stopped)
    (hworker : m.worker = none) :
    (∃ batch, (m.factory m.world).1 = .ok batch ∧ m.registry.Fits batch ∧
        m.start.1 = .ok () ∧ m.BuiltBy batch m.start.2) ∨
      ∃ e, m.Hindered e ∧ m.start.1 = .error e ∧ m.SparedBy m.start.2 := by
  have hcalls : (m.setState .starting).factoryCalls = m.factoryCalls :=
    congrArg Prod.snd (setup_setState m .starting)
  have hcases := prepare_cases (m := m.setState .starting) hnot
  unfold start
  rw [hworker]
  rcases hready : (m.setState .starting).ensureInitialized with ⟨answer, ready⟩
  rw [hready] at hcases
  rcases hcases with ⟨batch, report, hbuilt, hfits, rfl, hready⟩ | ⟨e, hhindered, rfl, hsame⟩
  · have hbuiltBy : m.BuiltBy batch ready :=
      ⟨hready.registry, hready.initialized, hready.factoryCalls.trans (congrArg (· + 1) hcalls)⟩
    refine .inl ⟨batch, hbuilt, hfits, rfl, hbuiltBy.congr rfl ?_⟩
    rw [setup_setState, setup_note (by simp)]
    rfl
  · have hafter := setup_setState ready .stopped
    obtain ⟨hinitialized, hcalls'⟩ := Prod.mk.inj hafter
    exact .inr ⟨e, hhindered.of_setState, rfl, hsame.registry, hinitialized.trans hsame.initialized,
      hsame.stats, hstate.symm,
      hcalls'.trans (hsame.factoryCalls.trans (congrArg (· + 1) hcalls))⟩

/-- Triggering builds the collectors before it reads the clock and begins a cycle. -/
theorem trigger_cases (hnot : m.initialized = false) (time : Option Instant) :
    (∃ batch, (m.factory m.world).1 = .ok batch ∧ m.registry.Fits batch ∧
        (∀ e, (m.trigger time).1 = .error e → e = .cycleAborted) ∧
        m.BuiltBy batch (m.trigger time).2) ∨
      ∃ e, m.Hindered e ∧ (m.trigger time).1 = .error e ∧ m.SparedBy (m.trigger time).2 := by
  have hcases := prepare_cases hnot
  unfold trigger
  rcases hready : m.ensureInitialized with ⟨answer, ready⟩
  rw [hready] at hcases
  rcases hcases with ⟨batch, report, hbuilt, hfits, rfl, hready⟩ | ⟨e, hhindered, rfl, hsame⟩
  · refine .inl ⟨batch, hbuilt, hfits, ?_⟩
    cases time with
    | some time =>
      exact ⟨fun e he => (by cases he),
        hready.congr (registry_startRound ready _ _ _ _) (setup_startRound ready _ _ _ _)⟩
    | none =>
      have hread : m.BuiltBy batch ready.readClock.2 := hready.congr rfl (setup_readClock ready)
      rcases hclock : ready.readClock with ⟨_ | now, next⟩
      · rw [hclock] at hread
        simp only [hclock]
        exact ⟨fun e he => (Except.error.inj he).symm, hread⟩
      · rw [hclock] at hread
        simp only [hclock]
        exact ⟨fun e he => (by cases he),
          hread.congr (registry_startRound next _ _ _ _) (setup_startRound next _ _ _ _)⟩
  · exact .inr ⟨e, hhindered, rfl, hsame⟩

/-- Whoever asks for the collectors first gets them all built, or is told what hinders it. -/
theorem enter_cases (hnot : m.initialized = false) (hstate : m.state = .stopped)
    (hworker : m.worker = none) (entry : Entry) :
    (∃ batch, (m.factory m.world).1 = .ok batch ∧ m.registry.Fits batch ∧ ¬ m.Fails entry ∧
        m.BuiltBy batch (m.after entry.move)) ∨
      ∃ e, m.Hindered e ∧ m.answer entry = .error e ∧ m.SparedBy (m.after entry.move) := by
  cases entry with
  | prepare =>
    rcases prepare_cases hnot with ⟨batch, report, hbuilt, hfits, hanswer, hafter⟩ |
      ⟨e, hhindered, hanswer, hafter⟩
    · refine .inl ⟨batch, hbuilt, hfits, ?_, hafter⟩
      rintro ⟨e, he, -⟩
      rw [answer, hanswer] at he
      cases he
    · exact .inr ⟨e, hhindered, by rw [answer, hanswer]; rfl, hafter⟩
  | start =>
    have hstart : m.after .start = m.start.2 := by
      rw [after_start, if_neg (by simp [hstate])]
    rcases start_cases hnot hstate hworker with ⟨batch, hbuilt, hfits, hanswer, hafter⟩ |
      ⟨e, hhindered, hanswer, hafter⟩
    · refine .inl ⟨batch, hbuilt, hfits, ?_, hstart ▸ hafter⟩
      rintro ⟨e, he, -⟩
      rw [answer, hanswer] at he
      cases he
    · exact .inr ⟨e, hhindered, hanswer, hstart ▸ hafter⟩
  | trigger time =>
    rcases trigger_cases hnot time with ⟨batch, hbuilt, hfits, hanswer, hafter⟩ |
      ⟨e, hhindered, hanswer, hafter⟩
    · refine .inl ⟨batch, hbuilt, hfits, ?_, hafter⟩
      rintro ⟨e, he, hne⟩
      rw [answer] at he
      rcases htrigger : (m.trigger time).1 with e' | round
      · rw [htrigger] at he
        obtain rfl := Except.error.inj he
        exact hne (hanswer _ htrigger)
      · rw [htrigger] at he
        cases he
    · exact .inr ⟨e, hhindered, by rw [answer, hanswer]; rfl, hafter⟩

/-! ## Every move -/

/-- Starting builds nothing again. -/
theorem setup_start (h : m.initialized = true) : m.start.2.setup = m.setup := by
  have hagain := ensureInitialized_again (m := m.setState .starting) h
  unfold start
  cases m.worker with
  | some loop => rfl
  | none =>
    simp only [hagain]
    rw [setup_setState, setup_note (by simp)]
    exact setup_setState m .starting

/-- Triggering builds nothing again. -/
theorem setup_trigger (h : m.initialized = true) (time : Option Instant) :
    (m.trigger time).2.setup = m.setup := by
  unfold trigger
  rw [ensureInitialized_again h]
  cases time with
  | some time => exact setup_startRound m _ _ _ _
  | none =>
    have hread := setup_readClock m
    rcases hclock : m.readClock with ⟨_ | now, next⟩
    · rw [hclock] at hread
      simpa only [hclock] using hread
    · rw [hclock] at hread
      simp only [hclock]
      rw [setup_startRound, hread]

theorem setup_requestStop : m.requestStop.2.setup = m.setup := by
  unfold requestStop
  split
  · rfl
  · have hsent (told : Machine σ) (loop : Nat) : (told.sendShutdown loop).setup = told.setup := by
      unfold sendShutdown
      simp only
      split
      · rw [setup_endLoop, setup_note (by simp)]
        rfl
      · rw [setup_endLoop, setup_note (by simp)]
        rfl
      · rw [setup_note (by simp)]
        rfl
    rw [hsent, setup_setState]
    rfl

/-- Collectors are built by nothing else, and by nothing once they are built. -/
theorem setup_after (m : Machine σ) (move : Move σ) :
    (m.after move).setup = m.setup ∨
      m.initialized = false ∧ ∃ entry : Entry, move = entry.move := by
  have hentry (entry : Entry) (hbuilt : m.initialized = true →
      (m.after entry.move).setup = m.setup) : (m.after entry.move).setup = m.setup ∨
        m.initialized = false ∧ ∃ other : Entry, (entry.move : Move σ) = other.move := by
    cases hcases : m.initialized with
    | true => exact .inl (hbuilt hcases)
    | false => exact .inr ⟨rfl, entry, rfl⟩
  cases move with
  | elapse | setClock | change | runAlone => exact .inl rfl
  | work job =>
    left
    rw [after_work]
    split
    · exact setup_work m job
    · rfl
  | prepare =>
    refine hentry .prepare fun hbuilt => ?_
    show m.ensureInitialized.2.setup = m.setup
    rw [ensureInitialized_again hbuilt]
  | register c =>
    left
    show (m.register c).2.setup = m.setup
    unfold register
    split <;> rfl
  | start =>
    refine hentry .start fun hbuilt => ?_
    show (m.after .start).setup = m.setup
    rw [after_start]
    split
    · rfl
    · exact setup_start hbuilt
  | requestStop =>
    left
    rw [after_requestStop]
    split
    · rfl
    · exact setup_requestStop
  | finishStop =>
    left
    rw [after_finishStop]
    split
    · exact setup_setState _ _
    · rfl
  | trigger time => exact hentry (.trigger time) fun hbuilt => setup_trigger hbuilt time
  | runAll time => exact .inl (setup_startRound m _ _ _ _)

theorem initialized_of_after {move : Move σ} (h : (m.after move).initialized = false) :
    m.initialized = false := by
  rcases setup_after m move with hsame | ⟨hnot, -⟩
  · exact (congrArg Prod.fst hsame).symm.trans h
  · exact hnot

/-- Before the collectors are built, the scheduler has not been started. -/
theorem Reachable.stopped_of_not_initialized (hm : m.Reachable) (hnot : m.initialized = false) :
    m.control.state = .stopped := by
  refine hm.induction (P := fun m => m.initialized = false → m.control.state = .stopped)
    (fun config fanOut factory clock world _ => rfl) (fun {x move} hx h hafter => ?_) hnot
  have hbefore := initialized_of_after hafter
  have hstate := h hbefore
  have hworker := hx.coherent.worker_eq_none (by simp [hstate])
  by_cases hmove : move = .start
  · -- a start that has not built the collectors was in vain
    subst hmove
    rcases enter_cases hbefore hstate hworker .start with
      ⟨batch, -, -, -, hbuilt⟩ | ⟨e, -, -, hspared⟩
    · exact absurd (hafter.symm.trans hbuilt.initialized) (by decide)
    · exact hspared.state.trans hstate
  · refine (hx.step move).stays_stopped ?_ hx.coherent hstate
    cases move <;> simp [Move.cause] at hmove ⊢

/-- Once the collectors are built, nothing asks the factory again. -/
theorem setup_afterAll (h : m.initialized = true) (moves : List (Move σ)) :
    (m.afterAll moves).setup = m.setup := by
  refine afterAll_induction (P := fun x => x.setup = m.setup) (Q := fun _ => True)
    (fun _ _ => trivial) rfl fun x move _ hx => ?_
  rcases setup_after x move with hsame | ⟨hnot, -⟩
  · exact hsame.trans hx
  · rw [show x.initialized = true from (congrArg Prod.fst hx).trans h] at hnot
    cases hnot

/--
Whatever is asked for in whatever order, and whatever the factory gives each time: names are never
registered twice; until the collectors are built, each call that needs them asks the factory once,
and fails exactly when the factory fails or gives a name that comes twice or is registered already;
then it leaves everything as it was, and else it registers all that the factory gave, in that order.
A name that it complains about is the first one that comes twice. Once the collectors are built, the
factory is never asked again.
-/
theorem builds_all_or_nothing (hm : m.Reachable) :
    m.registry.names.Nodup ∧
    (m.initialized = false → m.state = .stopped ∧ ∀ entry : Entry,
      (m.after entry.move).factoryCalls = m.factoryCalls + 1 ∧
      (m.Fails entry ↔ (∃ causes, (m.factory m.world).1 = .error causes) ∨
        ∃ batch, (m.factory m.world).1 = .ok batch ∧ ¬ m.registry.Fits batch) ∧
      (¬ m.Fails entry → ∃ batch, (m.factory m.world).1 = .ok batch ∧
        (m.after entry.move).registry = m.registry ++ batch ∧
        (m.after entry.move).initialized = true) ∧
      (m.Fails entry → (m.after entry.move).registry = m.registry ∧
        (m.after entry.move).initialized = false ∧ (m.after entry.move).stats = m.stats ∧
        (m.after entry.move).state = m.state) ∧
      ∀ name, m.answer entry = .error (.registry (.duplicateName name)) ↔
        ∃ batch, (m.factory m.world).1 = .ok batch ∧ m.registry.Repeats batch name) ∧
    (m.initialized = true → ∀ moves : List (Move σ),
      (m.afterAll moves).factoryCalls = m.factoryCalls ∧
      (m.afterAll moves).ensureInitialized =
        (.ok ⟨true, (m.afterAll moves).registry.length⟩, m.afterAll moves)) := by
  refine ⟨hm.names_nodup, fun hnot => ?_, fun hbuilt moves => ?_⟩
  · have hstate := hm.stopped_of_not_initialized hnot
    have hworker := hm.coherent.worker_eq_none (by simp [hstate])
    refine ⟨hstate, fun entry => ?_⟩
    rw [← exists_hindered]
    simp only [← hindered_duplicateName_iff]
    rcases enter_cases hnot hstate hworker entry with
      ⟨batch, hbuilt, hfits, hgood, hafter⟩ | ⟨e, hhindered, hanswer, hspared⟩
    · have hfree : ¬ ∃ e, m.Hindered e := by
        rw [exists_hindered, hbuilt]
        rintro (⟨causes, hfailed⟩ | ⟨other, hother, hunfit⟩)
        · cases hfailed
        · exact hunfit (Except.ok.inj hother ▸ hfits)
      refine ⟨hafter.factoryCalls, iff_of_false hgood hfree,
        fun _ => ⟨batch, hbuilt, hafter.registry, hafter.initialized⟩,
        fun hfails => absurd hfails hgood, fun name => iff_of_false ?_ ?_⟩
      · intro hanswer
        exact hgood ⟨_, hanswer, by simp⟩
      · intro hhindered
        exact hfree ⟨_, hhindered⟩
    · have hfails : m.Fails entry := ⟨e, hanswer, hhindered.ne_cycleAborted⟩
      refine ⟨hspared.factoryCalls, iff_of_true hfails ⟨e, hhindered⟩,
        fun hgood => absurd hfails hgood,
        fun _ => ⟨hspared.registry, hspared.initialized.trans hnot, hspared.stats, hspared.state⟩,
        fun name => ⟨fun hnamed => ?_, fun hnamed => ?_⟩⟩
      · exact Except.error.inj (hanswer.symm.trans hnamed) ▸ hhindered
      · exact hnamed.unique hhindered ▸ hanswer
  · obtain ⟨hinitialized, hcalls⟩ := Prod.mk.inj (setup_afterAll hbuilt moves)
    exact ⟨hcalls, ensureInitialized_again (hinitialized.trans hbuilt)⟩

/--
A factory fails at first, then gives a name twice to a start and one that is registered already to a
trigger; the fourth to ask gets its collectors, behind the one that was registered from outside, and
is the last.
-/
theorem builds_at_fourth_attempt :
    let named (name : String) : Registered Nat :=
      ⟨⟨name, "", ""⟩, fun _ => 0, fun _ n => (some true, n)⟩
    let build (attempts : Nat) : Except (List String) (List (Registered Nat)) × Nat :=
      (match attempts with
        | 0 => .error ["no collectors yet"]
        | 1 => .ok [named "rates", named "rates"]
        | 2 => .ok [named "rates", named "kept"]
        | _ => .ok [named "rates", named "wallets"], attempts + 1)
    let m := (init .default .parallel build (fun _ _ => none) 0).afterAll
      [.register (named "kept"), .prepare]
    let last := m.afterAll [.start, .trigger (some .epoch)]
    m.answer .start = .error (.registry (.duplicateName "rates")) ∧
      m.Fails .start ∧ (m.after .start).registry.names = ["kept"] ∧
      (m.after .start).state = .stopped ∧ ¬ last.Fails .prepare ∧
      (last.after .prepare).registry.names = ["kept", "rates", "wallets"] ∧
      ∀ moves, ((last.after .prepare).afterAll moves).factoryCalls = 4 := by
  intro named build m last
  have hm : m.Reachable := ⟨_, _, _, _, _, _, rfl⟩
  have hlast : last.Reachable := hm.afterAll _
  obtain ⟨-, hstart, -⟩ := builds_all_or_nothing hm
  obtain ⟨-, hfails, -, hspared, hnamed⟩ := (hstart (by decide +kernel)).2 .start
  have htwice : ¬ (Registry.names [named "rates", named "rates"]).Nodup := by decide +kernel
  have hrefused : m.Fails .start := hfails.mpr (.inr ⟨_, rfl, fun hfits => htwice hfits.1⟩)
  have hrepeats : m.registry.Repeats [named "rates", named "rates"] "rates" :=
    ⟨["rates"], [], rfl, .inr (by decide), by decide, by decide +kernel⟩
  obtain ⟨hregistry, -, -, hstate⟩ := hspared hrefused
  obtain ⟨-, hprepare, -⟩ := builds_all_or_nothing hlast
  obtain ⟨-, hfails', hbuilds, -, -⟩ := (hprepare (by decide +kernel)).2 .prepare
  have hfits : last.registry.Fits [named "rates", named "wallets"] := by decide +kernel
  have hworld : last.world = 3 := by decide +kernel
  have hfactory : last.factory = build := rfl
  have hbuilt : (last.factory last.world).1 = .ok [named "rates", named "wallets"] := by
    rw [hfactory, hworld]
    rfl
  have hgranted : ¬ last.Fails .prepare := by
    rw [hfails', hbuilt]
    rintro (⟨causes, hfailed⟩ | ⟨batch, hbatch, hunfit⟩)
    · cases hfailed
    · exact hunfit (Except.ok.inj hbatch ▸ hfits)
  obtain ⟨batch, hbatch, hregistry', hinitialized⟩ := hbuilds hgranted
  obtain rfl := Except.ok.inj (hbuilt.symm.trans hbatch)
  refine ⟨(hnamed "rates").mpr ⟨_, rfl, hrepeats⟩, hrefused, ?_, ?_, hgranted, ?_,
    fun moves => ?_⟩
  · exact (congrArg Registry.names hregistry).trans (by decide +kernel)
  · exact hstate.trans (by decide +kernel)
  · exact (congrArg Registry.names hregistry').trans (by decide +kernel)
  · obtain ⟨-, -, hdone⟩ := builds_all_or_nothing (hlast.after .prepare)
    have hfour : (last.after .prepare).factoryCalls = 4 := by decide +kernel
    exact (hdone hinitialized moves).1.trans hfour

end

end Machine

end HourlySnapshots
