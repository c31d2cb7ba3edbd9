import HourlySnapshots.Proofs.Scheduler.Ledger
import HourlySnapshots.Proofs.Calendar.Boundary

/-!
# What a sleeping loop waits for

A loop chooses its boundary at one reading of the clock and sleeps in slices, each after another
reading. It chooses again only when it finds that it has missed the boundary by an hour. So what it
waits for is the first boundary after the reading it chose at, and still the first one after a later
reading unless the clock has gone back behind another boundary in between.
-/

namespace HourlySnapshots

/-! ## Choices -/

/-- A boundary that a loop has published, with the reading of the clock that it was found at. -/
structure Choice where
  loop : Nat
  boundary : Instant
  reading : Option Instant
deriving DecidableEq

/-- The choices of all loops, the latest first. -/
def choices : List Happening → List Choice
  | [] => []
  | .announced loop target :: older => ⟨loop, target, lastReading older⟩ :: choices older
  | _ :: older => choices older

/-- The latest choice of a loop. -/
def latestChoice (loop : Nat) (history : List Happening) : Option Choice :=
  (choices history).find? fun choice => choice.loop == loop

/-- Whether something that happened is that a loop chose a boundary, or went to sleep for one. -/
def Happening.isAim : Happening → Bool
  | .announced .. | .slept .. => true
  | _ => false

theorem choices_cons {h : Happening} (hquiet : h.isAim = false) (older : List Happening) :
    choices (h :: older) = choices older := by
  cases h with
  | announced | slept => cases hquiet
  | _ => rfl

/-- What was chosen stays so. -/
theorem choices_suffix {older history : List Happening} (h : older <:+ history) :
    choices older <:+ choices history := by
  induction history with
  | nil => exact List.suffix_nil.mp h ▸ List.suffix_refl _
  | cons happening rest ih =>
    rcases List.suffix_cons_iff.mp h with rfl | hrest
    · exact List.suffix_refl _
    · refine (ih hrest).trans ?_
      cases happening with
      | announced loop target => exact List.suffix_cons _ _
      | _ => exact List.suffix_refl _

/-- Calls choose nothing. -/
theorem choices_filter (history : List Happening) :
    choices (history.filter fun h => !h.isCall) = choices history := by
  induction history with
  | nil => rfl
  | cons h older ih =>
    cases h with
    | called | settled | factoryCalled => exact ih
    | announced loop target =>
      show (⟨loop, target, lastReading (older.filter fun h => !h.isCall)⟩ : Choice) ::
        choices (older.filter fun h => !h.isCall) = _
      rw [ih, lastReading_filter]
      rfl
    | _ => exact ih

theorem latestChoice_filter (loop : Nat) (history : List Happening) :
    latestChoice loop (history.filter fun h => !h.isCall) = latestChoice loop history := by
  rw [latestChoice, choices_filter, latestChoice]

theorem latestChoice_announced (loop id : Nat) (target : Instant) (older : List Happening) :
    latestChoice id (.announced loop target :: older) =
      if id = loop then some ⟨loop, target, lastReading older⟩ else latestChoice id older := by
  by_cases hid : id = loop
  · simp [latestChoice, choices, hid]
  · simp [latestChoice, choices, hid, Ne.symm hid]

namespace Control

variable {c c' : Control}

/-- Every loop that waits, waits for the boundary that it chose last. -/
structure Aimed (c : Control) : Prop where
  waiting : ∀ id l target wake, c.loop? id = some l → l.phase = .waiting target wake →
    ∃ reading, latestChoice id c.history = some ⟨id, target, reading⟩
  /-- While the worker's loop waits, what was chosen last is announced. -/
  announced : ∀ id l target wake, c.loop? id = some l → l.phase = .waiting target wake →
    l.shutdown = false → c.stats.nextRunAt = (choices c.history).head?.map Choice.boundary
  /-- A choice is the next boundary after its reading. -/
  next : ∀ choice ∈ choices c.history, ∃ reading, choice.reading = some reading ∧
    nextBoundary reading c.config.offset = .ok choice.boundary
  slept : ∀ id target now older, .slept id target now :: older <:+ c.history →
    lastReading older = some now ∧ now < target ∧
      ∃ reading, latestChoice id older = some ⟨id, target, reading⟩
  /-- What is announced when a loop goes to sleep. -/
  told : ∀ id target now older, c.history = .slept id target now :: older →
    c.stats.nextRunAt = (choices older).head?.map Choice.boundary

namespace Aimed

/-- Being aimed is a matter of the loops, the offset, the next run and the history. -/
theorem congr (h : Aimed c) (hloops : c'.loops = c.loops) (hconfig : c'.config = c.config)
    (hnext : c'.stats.nextRunAt = c.stats.nextRunAt) (hhistory : c'.history = c.history) :
    Aimed c' := by
  have hloop : ∀ id, c'.loop? id = c.loop? id := fun id => by rw [loop?, loop?, hloops]
  constructor
  · simp only [hloop, hhistory]
    exact h.waiting
  · simp only [hloop, hhistory, hnext]
    exact h.announced
  · rw [hconfig, hhistory]
    exact h.next
  · rw [hhistory]
    exact h.slept
  · rw [hhistory, hnext]
    exact h.told

theorem note (h : Aimed c) {happening : Happening} (hquiet : happening.isAim = false) :
    Aimed (c.note happening) := by
  have hsame : choices (c.note happening).history = choices c.history := choices_cons hquiet _
  constructor
  · simp only [latestChoice, hsame]
    exact h.waiting
  · rw [hsame]
    exact h.announced
  · rw [hsame]
    exact h.next
  · intro id target now older hsuffix
    rcases List.suffix_cons_iff.mp hsuffix with hhead | hbefore
    · obtain ⟨rfl, -⟩ := List.cons.inj hhead
      cases hquiet
    · exact h.slept id target now older hbefore
  · intro id target now older hhead
    obtain ⟨rfl, -⟩ := List.cons.inj hhead
    cases hquiet

theorem read (h : Aimed c) : Aimed c.read := by
  have hcounted : Aimed { c with readings := c.readings + 1 } := h.congr rfl rfl rfl rfl
  exact hcounted.note rfl

/-- A loop may do anything but wait for what it did not wait for. -/
theorem setPhase (h : Aimed c) (loop : Nat) {phase : LoopPhase}
    (hphase : ∀ target wake, phase = .waiting target wake →
      ∃ l wake', c.loop? loop = some l ∧ l.phase = .waiting target wake') :
    Aimed (c.setPhase loop phase) := by
  -- a loop that waits now has waited for the same boundary before
  have hbefore {id : Nat} {l : Loop} {target : Instant} {wake : Wake}
      (hl : (c.setPhase loop phase).loop? id = some l) (hwaits : l.phase = .waiting target wake) :
      ∃ l₀ wake', c.loop? id = some l₀ ∧ l.shutdown = l₀.shutdown ∧
        l₀.phase = .waiting target wake' := by
    obtain ⟨l₀, hl₀, hflag, hl_phase⟩ := exists_of_loop?_setPhase hl
    split at hl_phase
    · next hid =>
      obtain ⟨l₁, wake', hl₁, hwaits₁⟩ := hphase target wake (hl_phase.symm.trans hwaits)
      obtain rfl : l₀ = l₁ := Option.some.inj (hl₀.symm.trans (hid ▸ hl₁))
      exact ⟨l₀, wake', hl₀, hflag, hwaits₁⟩
    · exact ⟨l₀, wake, hl₀, hflag, hl_phase.symm.trans hwaits⟩
  constructor
  · intro id l target wake hl hwaits
    obtain ⟨l₀, wake', hl₀, -, hwaits₀⟩ := hbefore hl hwaits
    exact h.waiting id l₀ target wake' hl₀ hwaits₀
  · intro id l target wake hl hwaits hrunning
    obtain ⟨l₀, wake', hl₀, hflag, hwaits₀⟩ := hbefore hl hwaits
    exact h.announced id l₀ target wake' hl₀ hwaits₀ (hflag ▸ hrunning)
  · exact h.next
  · exact h.slept
  · exact h.told

theorem endLoop (h : Aimed c) (loop : Nat) : Aimed (c.endLoop loop) :=
  (h.setPhase loop (by simp)).note rfl

theorem backOff (h : Aimed c) (loop order : Nat) : Aimed (c.backOff loop order) :=
  backOff_cases (fun _ => h.endLoop loop) (fun _ => h.setPhase loop (by simp))

/-- A loop chooses the next boundary after the reading that it has just made. -/
theorem announce (h : Aimed c) {now target : Instant} (hreading : c.reading = some now)
    (hnext : nextBoundary now c.config.offset = .ok target) (loop : Nat) (turn : Wake) :
    Aimed (c.read.announce loop turn target) := by
  have hlast : lastReading c.read.history = some now := by
    simp [lastReading, hreading]
  constructor
  · intro id l target' wake hl hwaits
    show ∃ reading, latestChoice id (.announced loop target :: c.read.history) = _
    rw [latestChoice_announced]
    obtain ⟨l₀, hl₀, -, hl_phase⟩ := exists_of_loop?_setPhase hl
    by_cases hid : id = loop
    · rw [if_pos hid] at hl_phase ⊢
      obtain ⟨rfl, -⟩ := LoopPhase.waiting.inj (hl_phase.symm.trans hwaits)
      exact ⟨_, by rw [hid]⟩
    · rw [if_neg hid] at hl_phase ⊢
      exact h.read.waiting id l₀ target' wake hl₀ (hl_phase.symm.trans hwaits)
  · intro id l target' wake hl hwaits hrunning
    rfl
  · intro choice hchoice
    rcases List.mem_cons.mp hchoice with rfl | holder
    · exact ⟨now, hlast, hnext⟩
    · exact h.read.next choice holder
  · intro id target' now' older hsuffix
    rcases List.suffix_cons_iff.mp hsuffix with hhead | hbefore
    · cases (List.cons.inj hhead).1
    · exact h.read.slept id target' now' older hbefore
  · intro id target' now' older hhead
    cases (List.cons.inj hhead).1

/-- A loop that has read the clock before its boundary sleeps on. -/
theorem sleep (h : Aimed c) {l : Loop} {turn : Wake} {now target : Instant}
    (hl : c.loop? l.id = some l) (hphase : l.phase = .waiting target turn)
    (hrunning : l.shutdown = false) (hreading : c.reading = some now) (hearly : now < target)
    (wake : Wake) :
    Aimed ((c.read.setPhase l.id (.waiting target wake)).note (.slept l.id target now)) := by
  have hwaits : Aimed (c.read.setPhase l.id (.waiting target wake)) := by
    refine h.read.setPhase l.id ?_
    rintro target' wake' ⟨rfl, -⟩
    exact ⟨l, turn, hl, hphase⟩
  constructor
  · exact hwaits.waiting
  · exact hwaits.announced
  · exact hwaits.next
  · intro id target' now' older hsuffix
    rcases List.suffix_cons_iff.mp hsuffix with hhead | hbefore
    · obtain ⟨hsame, rfl⟩ := List.cons.inj hhead
      obtain ⟨rfl, rfl, rfl⟩ := Happening.slept.inj hsame
      refine ⟨?_, hearly, h.read.waiting l.id l target' turn hl hphase⟩
      simp [lastReading, hreading]
    · exact hwaits.slept id target' now' older hbefore
  · intro id target' now' older hhead
    obtain ⟨-, rfl⟩ := List.cons.inj hhead
    exact h.read.announced l.id l target turn hl hphase hrunning

theorem startRound (h : Aimed c) (purpose : Purpose) (time : Instant) (released : Option Instant) :
    Aimed (c.startRound purpose time released) := by
  have hbegun : Aimed { c with
      nextId := c.nextId + 1, rounds := c.rounds ++ [RoundInfo.mk c.nextId purpose time] } :=
    h.congr rfl rfl rfl rfl
  exact hbegun.note rfl

theorem endRound (h : Aimed c) (r : RoundInfo) (results : Option CycleResults) :
    Aimed (c.endRound r results) := by
  have hover : Aimed { c with rounds := c.rounds.filter fun other => other.id ≠ r.id } :=
    h.congr rfl rfl rfl rfl
  exact hover.note rfl

theorem count (h : Aimed c) (time : Instant) (results : CycleResults) :
    Aimed (c.count time results) :=
  h.read.congr rfl rfl (by cases hreading : c.reading <;> simp [RunStats.afterCycle, hreading]) rfl

theorem setState (h : Aimed c) (state : SchedulerState) : Aimed (c.setState state) := by
  have hset : Aimed { c with state := state } := h.congr rfl rfl rfl rfl
  exact hset.note rfl

/-- A loop that is started has yet to choose its boundary. -/
theorem start (h : Aimed c) (hcoherent : c.Coherent) (order : Nat) :
    Aimed ((c.setState .starting).startLoop order) := by
  have hstarting : Aimed (((c.setState .starting).note (.loopStarted c.nextId)).setState .running) :=
    ((h.setState _).note rfl).setState _
  -- the loops that wait are the ones from before
  have hbefore {id : Nat} {l : Loop} {target : Instant} {wake : Wake}
      (hl : ((c.setState .starting).startLoop order).loop? id = some l)
      (hwaits : l.phase = .waiting target wake) : c.loop? id = some l := by
    rw [hcoherent.loop?_start] at hl
    split at hl
    · obtain rfl := Option.some.inj hl
      cases hwaits
    · exact hl
  constructor
  · exact fun id l target wake hl hwaits =>
      hstarting.waiting id l target wake (hbefore hl hwaits) hwaits
  · exact fun id l target wake hl hwaits =>
      hstarting.announced id l target wake (hbefore hl hwaits) hwaits
  · exact hstarting.next
  · exact hstarting.slept
  · exact hstarting.told

theorem dismiss (h : Aimed c) (loop : Nat) : Aimed (c.dismiss loop) := by
  have htold : Aimed ((c.setState .stopping).note (.shutdownSent loop)) := (h.setState _).note rfl
  constructor
  · intro id l target wake hl hwaits
    obtain ⟨l₀, hl₀, hsame, -⟩ := exists_of_loop?_dismiss hl
    exact htold.waiting id l₀ target wake hl₀ (hsame ▸ hwaits)
  · intro id l target wake hl hwaits hrunning
    obtain ⟨l₀, hl₀, hsame, hflag⟩ := exists_of_loop?_dismiss hl
    exact htold.announced id l₀ target wake hl₀ (hsame ▸ hwaits) (hflag hrunning)
  · exact htold.next
  · exact htold.slept
  · exact htold.told

/-- When the scheduler has been stopped, no loop waits but those told to shut down. -/
theorem finishStop (h : Aimed c) (hcoherent : c.Coherent) (hstate : c.state = .stopping) :
    Aimed (({ c with stats := { c.stats with nextRunAt := none } } : Control).setState
      .stopped) := by
  have hstopped : Aimed (c.setState .stopped) := h.setState _
  have hworker : c.worker = none := hcoherent.worker_eq_none (by simp [hstate])
  constructor
  · exact hstopped.waiting
  · intro id l target wake hl hwaits hrunning
    rw [hcoherent.shutdown_of_none hworker hl] at hrunning
    cases hrunning
  · exact hstopped.next
  · exact hstopped.slept
  · intro id target now older hhead
    cases (List.cons.inj hhead).1

end Aimed

/-- Every step keeps the loops aimed, whatever the clock shows. -/
theorem Step.aimed {cause : Cause} (step : Step c cause c') (hcoherent : c.Coherent)
    (h : Aimed c) : Aimed c' := by
  cases step with
  | idle => exact h
  | elapsed | clockSet => exact h.congr rfl rfl rfl rfl
  | lost => exact h.read.endLoop _
  | found hl hphase hreading hnext => exact h.announce hreading hnext _ _
  | unbounded order | missedLast order => exact h.read.backOff _ order
  | slept order hl hphase hrunning hreading hearly =>
    exact h.sleep hl hphase hrunning hreading hearly _
  | released => exact (h.read.setPhase _ (by simp)).startRound _ _ _
  | missed hl hphase hrunning hreading hdue hlate hnext => exact h.announce hreading hnext _ _
  | closed => exact h.endLoop _
  | resumed => exact h.setPhase _ (by simp)
  | triggered | allRun => exact h.startRound _ _ _
  | triggeredNow => exact h.read.startRound _ _ _
  | triggerLost => exact h.read
  | directEnded => exact h.endRound _ _
  | manualEnded => exact (h.count _ _).endRound _ _
  | automaticEnded => exact ((h.count _ _).endRound _ _).setPhase _ (by simp)
  | automaticAborted results order => exact ((h.count _ _).endRound _ _).backOff _ order
  | started order => exact h.start hcoherent order
  | startFailed => exact (h.setState _).setState _
  | dismissed => exact h.dismiss _
  | stoppedAsleep => exact (h.dismiss _).endLoop _
  | stopFinished hstate => exact h.finishStop hcoherent hstate

end Control

namespace Machine

variable {σ : Type} {m : Machine σ}

theorem Reachable.aimed (hm : m.Reachable) : m.control.Aimed := by
  refine hm.induction (P := fun m => m.control.Aimed)
    (fun config fanOut factory clock world => ?_)
    fun {m move} hm h => (hm.step move).aimed hm.coherent h
  constructor
  · intro id l target wake hl
    cases hl
  · intro id l target wake hl
    cases hl
  · intro choice hchoice
    cases hchoice
  · intro id target now older hsuffix
    cases List.suffix_nil.mp hsuffix
  · intro id target now older hhead
    cases hhead

/-- Whatever was chosen is the first boundary after the reading it was chosen at. -/
theorem isFirstAfter_of_mem_choices (hm : m.Reachable) {choice : Choice}
    (h : choice ∈ choices m.history) :
    ∃ reading, choice.reading = some reading ∧
      IsFirstAfter m.config.offset reading choice.boundary := by
  have hchoice : choice ∈ choices m.control.history := (choices_filter m.history).symm ▸ h
  obtain ⟨reading, hreading, hnext⟩ := hm.aimed.next choice hchoice
  exact ⟨reading, hreading, isFirstAfter_of_nextBoundary hnext⟩

/-- A loop goes to sleep before the boundary that it chose last. -/
theorem slept_of_history (hm : m.Reachable) {loop : Nat} {target now : Instant}
    {older : List Happening} (hslept : .slept loop target now :: older <:+ m.history) :
    lastReading older = some now ∧ now < target ∧
      ∃ reading, latestChoice loop older = some ⟨loop, target, reading⟩ := by
  have hsuffix := hslept.filter fun h => !h.isCall
  obtain ⟨hlast, hearly, reading, hchoice⟩ := hm.aimed.slept loop target now _ hsuffix
  rw [lastReading_filter] at hlast
  rw [latestChoice_filter] at hchoice
  exact ⟨hlast, hearly, reading, hchoice⟩

/-- When a loop goes to sleep, the boundary that was chosen last is announced. -/
theorem announced_of_history (hm : m.Reachable) {loop : Nat} {target now : Instant}
    {older : List Happening} (hslept : m.history = .slept loop target now :: older) :
    m.stats.nextRunAt = (choices older).head?.map Choice.boundary := by
  have hhead : m.control.history =
      .slept loop target now :: older.filter fun h => !h.isCall := by
    simp [control, hslept, Happening.isCall]
  have htold := hm.aimed.told loop target now _ hhead
  rwa [choices_filter] at htold

/--
Whatever the clock shows, each time a loop goes to sleep: it waits for the boundary that it chose
last, the first one after the reading of that time. This is the first boundary after the present
reading as well, and so no more than an hour away, just when the clock has not gone back behind
another boundary since; otherwise it is more than an hour away. What is announced is the boundary
that any loop chose last.
-/
theorem sleeps_before_chosen_boundary (hm : m.Reachable) {loop : Nat} {target now : Instant}
    {older : List Happening} (hslept : .slept loop target now :: older <:+ m.history) :
    lastReading older = some now ∧ now < target ∧ IsBoundary m.config.offset target ∧
    (∃ chosen, latestChoice loop older = some ⟨loop, target, some chosen⟩ ∧
      IsFirstAfter m.config.offset chosen target ∧
      (IsFirstAfter m.config.offset now target ↔
        ∀ other, IsBoundary m.config.offset other → now < other → chosen < other)) ∧
    (IsFirstAfter m.config.offset now target → target.position ≤ now.position + hour) ∧
    (now.Plain → (IsFirstAfter m.config.offset now target ↔ target.since now ≤ hour)) ∧
    (m.history = .slept loop target now :: older →
      ∃ last reading, (choices older).head? = some last ∧ last.reading = some reading ∧
        IsFirstAfter m.config.offset reading last.boundary ∧
        m.stats.nextRunAt = some last.boundary) := by
  obtain ⟨hlast, hearly, reading, hchoice⟩ := slept_of_history hm hslept
  -- all that was chosen before the sleep is still among the choices
  have hmem : ∀ choice ∈ choices older, choice ∈ choices m.history := fun choice h =>
    (choices_suffix ((List.suffix_cons _ _).trans hslept)).subset h
  have hfound : (⟨loop, target, reading⟩ : Choice) ∈ choices older :=
    List.mem_of_find?_eq_some hchoice
  obtain ⟨chosen, rfl, hfirst⟩ := isFirstAfter_of_mem_choices hm (hmem _ hfound)
  refine ⟨hlast, hearly, hfirst.boundary, ⟨chosen, hchoice, hfirst, hfirst.iff_none_between hearly⟩,
    IsFirstAfter.position_le, IsFirstAfter.iff_since_le hfirst.boundary hearly, fun hhead => ?_⟩
  have hnext := announced_of_history hm hhead
  cases hchoices : choices older with
  | nil => simp [hchoices] at hfound
  | cons last rest =>
    have hchosen : last ∈ choices older := by simp [hchoices]
    obtain ⟨reading, hreading, hfirst'⟩ := isFirstAfter_of_mem_choices hm (hmem last hchosen)
    refine ⟨last, reading, rfl, hreading, hfirst', ?_⟩
    rw [hnext, hchoices]
    rfl

/--
A loop that has chosen five past ten at ten keeps it when the clock goes back to half past nine,
where it is the first boundary still.
-/
theorem sleeps_on_after_small_step_back :
    let ten : Instant := ⟨1719828000, 0, by decide, by decide, by decide, by decide⟩
    let back : Instant := ⟨1719826200, 0, by decide, by decide, by decide, by decide⟩
    let five : Instant := ⟨1719828300, 0, by decide, by decide, by decide, by decide⟩
    let m := (init .default .sequential (fun w => (.ok [], w)) (fun _ _ => some ten) ()).afterAll
      [.start, .work (.loop 0), .work (.loop 0), .setClock fun _ _ => some back, .work (.loop 0)]
    m.history = .slept 0 five back :: m.history.tail ∧
      IsFirstAfter m.config.offset back five ∧ m.stats.nextRunAt = some five := by
  intro ten back five m
  have hm : m.Reachable := ⟨_, _, _, _, _, _, rfl⟩
  have hslept : m.history = .slept 0 five back :: m.history.tail := by decide +kernel
  obtain ⟨-, -, -, -, -, hsoon, hannounced⟩ :=
    sleeps_before_chosen_boundary hm ⟨[], hslept.symm⟩
  obtain ⟨last, reading, hhead, -, -, hnext⟩ := hannounced hslept
  have hlast : (choices m.history.tail).head? = some ⟨0, five, some ten⟩ := by decide +kernel
  obtain rfl := Option.some.inj (hlast.symm.trans hhead)
  exact ⟨hslept, (hsoon (by decide)).mpr (by decide), hnext⟩

/--
When the clock goes back from ten to seven, a loop sleeps on before five past ten, and this is what
stays announced, although five past seven is a boundary as well.
-/
theorem sleeps_past_boundary_after_step_back :
    let ten : Instant := ⟨1719828000, 0, by decide, by decide, by decide, by decide⟩
    let back : Instant := ⟨1719817260, 0, by decide, by decide, by decide, by decide⟩
    let five : Instant := ⟨1719828300, 0, by decide, by decide, by decide, by decide⟩
    let m := (init .default .sequential (fun w => (.ok [], w)) (fun _ _ => some ten) ()).afterAll
      [.start, .work (.loop 0), .work (.loop 0), .setClock fun _ _ => some back, .work (.loop 0)]
    m.history = .slept 0 five back :: m.history.tail ∧ m.stats.nextRunAt = some five ∧
      ¬ IsFirstAfter m.config.offset back five ∧ hour < five.since back := by
  intro ten back five m
  have hfar : hour < five.since back := by decide
  refine ⟨by decide +kernel, by decide +kernel, fun hfirst => ?_, hfar⟩
  have hsoon := (IsFirstAfter.iff_since_le hfirst.boundary hfirst.after (by decide)).mp hfirst
  omega

end Machine

end HourlySnapshots
