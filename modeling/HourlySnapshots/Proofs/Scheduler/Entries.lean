import HourlySnapshots.Proofs.Scheduler.OneFanOut

/-!
# The entries of a fan-out

The history holds how each call of a fan-out ended. What a fan-out has gathered is what the history
holds for it; nothing is added once it is over, and by then there is one entry for each collector
that was registered when it began, whatever became of the calls.
-/

namespace HourlySnapshots

variable {σ : Type}

/-- How the calls of a fan-out ended, in that order. -/
def entriesOf (id : Nat) (history : List Happening) : List (String × Bool) :=
  (history.filterMap fun
    | .settled round name ok => if round = id then some (name, ok) else none
    | _ => none).reverse

/-- A call that settles adds its entry to those of its own fan-out, behind the others. -/
theorem entriesOf_settled (id round : Nat) (name : String) (ok : Bool) (history : List Happening) :
    entriesOf id (.settled round name ok :: history) =
      entriesOf id history ++ if round = id then [(name, ok)] else [] := by
  by_cases hid : round = id <;> simp [entriesOf, hid]

theorem entriesOf_fans (id : Nat) (m : Machine σ) :
    entriesOf id m.fans.history = entriesOf id m.history := by
  refine congrArg List.reverse (filterMap_filter_happenings (fun h hfanned => ?_) m.history)
  cases h <;> simp [Happening.isFanned] at hfanned ⊢

namespace Fans

variable {f f' : Fans σ}

/-- The outcomes that a fan-out has gathered are those of its calls in the history. -/
structure Noted (f : Fans σ) : Prop where
  outcomes : ∀ r ∈ f.rounds, r.outcomes = entriesOf r.id f.history
  /-- Nothing is noted for a fan-out that has not begun. -/
  fresh : ∀ id, f.nextId ≤ id → entriesOf id f.history = []

namespace Noted

theorem congr (h : f.Noted) (hrounds : f'.rounds = f.rounds) (hhistory : f'.history = f.history)
    (hid : f.nextId ≤ f'.nextId) : f'.Noted where
  outcomes := by
    rw [hrounds, hhistory]
    exact h.outcomes
  fresh id hle := by
    rw [hhistory]
    exact h.fresh id (Nat.le_trans hid hle)

/-- A fan-out that makes calls, or begins one, keeps its outcomes. -/
theorem put (h : f.Noted) {r : Round σ} (r' : Round σ) (hr : r ∈ f.rounds) (hid : r'.id = r.id)
    (houtcomes : r'.outcomes = r.outcomes) : (f.put r').Noted where
  outcomes other hother := by
    rcases mem_put hother with rfl | hother
    · rw [houtcomes, hid]
      exact h.outcomes r hr
    · exact h.outcomes other hother
  fresh := h.fresh

/-- The outcome of a call that has acted is noted for its fan-out and for no other. -/
theorem acted (h : f.Noted) (hf : f.WellFormed) {r : Round σ} (hr : r ∈ f.rounds) (call : Call σ)
    (turn : Wake) (order : Nat) : (f.acted r call turn order).Noted where
  outcomes other hother := by
    rcases mem_put_cases hother with rfl | ⟨hother, hne⟩
    · show r.outcomes ++ _ = entriesOf r.id (.settled r.id call.collector.name _ :: f.history)
      rw [entriesOf_settled, if_pos rfl, h.outcomes r hr]
    · show other.outcomes = entriesOf other.id (.settled r.id call.collector.name _ :: f.history)
      have hne : other.id ≠ r.id := hne
      rw [entriesOf_settled, if_neg hne.symm, List.append_nil]
      exact h.outcomes other hother
  fresh id hle := by
    show entriesOf id (.settled r.id call.collector.name _ :: f.history) = []
    have hlt : r.id < id := Nat.lt_of_lt_of_le (hf.ids_lt r hr) hle
    rw [entriesOf_settled, h.fresh id hle, if_neg (Nat.ne_of_lt hlt), List.append_nil]

theorem note_called (h : f.Noted) (round : Nat) (name : String) (time : Instant) :
    (f.note (.called round name time)).Noted :=
  ⟨h.outcomes, h.fresh⟩

/-- A fan-out that begins has gathered nothing yet. -/
theorem begin (h : f.Noted) (purpose : Purpose) (time : Instant) (released : Option Instant)
    (turn : Wake) (order : Nat) : (f.begin purpose time released turn order).Noted where
  outcomes r hr := by
    rcases List.mem_append.mp hr with hr | hr
    · exact h.outcomes r hr
    · rw [List.mem_singleton.mp hr]
      exact (h.fresh f.nextId (Nat.le_refl _)).symm
  fresh id hle := h.fresh id (Nat.le_of_succ_le hle)

end Noted

/-- A turn notes each call that settles. -/
theorem Turn.noted (hturn : Turn f f') (hf : f.WellFormed) (h : f.Noted) : f'.Noted := by
  cases hturn with
  | turned now hr hturn hmore =>
    exact (h.put (f.turned now _) hr rfl rfl).congr rfl rfl (Nat.le_refl _)
  | ended hr hturn hqueued hnone =>
    exact ⟨fun other hother => h.outcomes other (List.mem_of_mem_filter hother), h.fresh⟩
  | acted hr hcall hbegun turn horder => exact h.acted hf hr _ turn _
  | @calledAtOnce r hr call hcall hbegun turn order horder =>
    have hnoted := h.note_called r.id call.collector.name r.time
    exact hnoted.acted (hf.congr rfl (Nat.le_refl _) (Nat.le_refl _)) hr call turn order
  | @called r hr call hcall hbegun due =>
    have hnoted := h.note_called r.id call.collector.name r.time
    exact (hnoted.put (r.holding call due f.nextOrder) hr rfl rfl).congr rfl rfl
      (Nat.le_refl _)

/-- Whatever a fan-out does next, its outcomes are those that were noted. -/
theorem Step.noted {move : Move σ} (step : Step f move f') (hf : f.WellFormed) (h : f.Noted) :
    f'.Noted := by
  cases step with
  | later horder hid => exact h.congr rfl rfl hid
  | changed | ranAlone | registered | built | failed => exact h.congr rfl rfl (Nat.le_refl _)
  | begun purpose time released turn horder => exact h.begin purpose time released turn _
  | fanned hturn => exact hturn.noted hf h

theorem Steps.noted {move : Move σ} (steps : Steps move f f') (hf : f.WellFormed) (h : f.Noted) :
    f'.Noted := by
  induction steps with
  | refl => exact h
  | tail hsteps step ih => exact step.noted (Steps.wellFormed hsteps hf) ih

/-- A fan-out is over, with these entries. -/
structure Gone (f : Fans σ) (id : Nat) (entries : List (String × Bool)) : Prop where
  entries_eq : entriesOf id f.history = entries
  gone : ∀ r ∈ f.rounds, r.id ≠ id
  id_lt : id < f.nextId

namespace Gone

variable {id : Nat} {entries : List (String × Bool)}

theorem congr (h : f.Gone id entries) (hrounds : f'.rounds = f.rounds)
    (hhistory : f'.history = f.history) (hid : f.nextId ≤ f'.nextId) : f'.Gone id entries where
  entries_eq := by
    rw [hhistory]
    exact h.entries_eq
  gone := by
    rw [hrounds]
    exact h.gone
  id_lt := Nat.lt_of_lt_of_le h.id_lt hid

theorem put (h : f.Gone id entries) {r : Round σ} (r' : Round σ) (hr : r ∈ f.rounds)
    (hid : r'.id = r.id) : (f.put r').Gone id entries where
  entries_eq := h.entries_eq
  gone other hother := by
    rcases mem_put_cases hother with rfl | ⟨hother, -⟩
    · rw [hid]
      exact h.gone r hr
    · exact h.gone other hother
  id_lt := h.id_lt

/-- Only calls of fan-outs under way are noted. -/
theorem acted (h : f.Gone id entries) {r : Round σ} (hr : r ∈ f.rounds) (call : Call σ)
    (turn : Wake) (order : Nat) : (f.acted r call turn order).Gone id entries where
  entries_eq := by
    show entriesOf id (.settled r.id call.collector.name _ :: f.history) = entries
    rw [entriesOf_settled, if_neg (h.gone r hr), List.append_nil, h.entries_eq]
  gone := (h.put (r.settling call f.world turn) hr rfl).gone
  id_lt := h.id_lt

end Gone

variable {id : Nat} {entries : List (String × Bool)}

/-- A fan-out that is gone is not taken up again by a turn. -/
theorem Turn.gone (hturn : Turn f f') (h : f.Gone id entries) : f'.Gone id entries := by
  cases hturn with
  | turned now hr hturn hmore =>
    exact (h.put (f.turned now _) hr rfl).congr rfl rfl (Nat.le_refl _)
  | ended hr hturn hqueued hnone =>
    exact ⟨h.entries_eq, fun other hother => h.gone other (List.mem_of_mem_filter hother), h.id_lt⟩
  | acted hr hcall hbegun turn horder => exact h.acted hr _ turn _
  | @calledAtOnce r hr call hcall hbegun turn order horder =>
    have hnoted : (f.note (.called r.id call.collector.name r.time)).Gone id entries :=
      ⟨h.entries_eq, h.gone, h.id_lt⟩
    exact hnoted.acted hr call turn order
  | @called r hr call hcall hbegun due =>
    have hnoted : (f.note (.called r.id call.collector.name r.time)).Gone id entries :=
      ⟨h.entries_eq, h.gone, h.id_lt⟩
    exact (hnoted.put (r.holding call due f.nextOrder) hr rfl).congr rfl rfl
      (Nat.le_refl _)

/-- No new fan-out has the id of one that is gone. -/
theorem Step.gone {move : Move σ} (step : Step f move f') (h : f.Gone id entries) :
    f'.Gone id entries := by
  cases step with
  | later horder hid => exact h.congr rfl rfl hid
  | changed | ranAlone | registered | built | failed => exact h.congr rfl rfl (Nat.le_refl _)
  | begun purpose time released turn horder =>
    refine ⟨h.entries_eq, fun r hr => ?_, Nat.lt_succ_of_lt h.id_lt⟩
    rcases List.mem_append.mp hr with hr | hr
    · exact h.gone r hr
    · rw [List.mem_singleton.mp hr]
      exact Nat.ne_of_gt h.id_lt
  | fanned hturn => exact hturn.gone h

theorem Steps.gone {move : Move σ} (steps : Steps move f f') (h : f.Gone id entries) :
    f'.Gone id entries := by
  induction steps with
  | refl => exact h
  | tail _ step ih => exact step.gone ih

end Fans

/-- The names of the collectors of a fan-out: those whose calls have ended, and all others. -/
def Round.names (r : Round σ) : List String :=
  r.outcomes.map Prod.fst ++ r.remaining.map Registered.name

/-- Names only move from the queue to the calls and from there to the outcomes. -/
theorem Round.Goes.names {r r' : Round σ} {now order : Nat} {world world' : σ}
    (hr : r.UnderWay order) (h : r.Goes now world r' world') : r'.names.Perm r.names := by
  rcases h.calls hr with ⟨hremaining, houtcomes, -⟩ | ⟨c, hremaining, houtcomes, -⟩
  · rw [Round.names, houtcomes]
    exact (hremaining.symm.map _).append_left _
  · rw [Round.names, houtcomes, List.map_append, List.append_assoc]
    exact (hremaining.symm.map Registered.name).append_left _

theorem Round.Fresh.names {r : Round σ} {registry : Registry σ} (h : r.Fresh registry) :
    r.names = registry.names := by
  simp [Round.names, Round.remaining, h.outcomes, h.atWork, h.queued, Registry.names]

namespace Machine

variable {m : Machine σ}

theorem resultsOf_perm (entries : List (String × Bool)) : (resultsOf entries).Perm entries :=
  List.mergeSort_perm entries _

theorem mem_resultsOf {entries : List (String × Bool)} {entry : String × Bool} :
    entry ∈ resultsOf entries ↔ entry ∈ entries := (resultsOf_perm entries).mem_iff

theorem roundOver_eq_false {id : Nat} : m.roundOver id = false ↔ ∃ r ∈ m.rounds, r.id = id := by
  simp [roundOver]

theorem roundOver_eq_true {id : Nat} : m.roundOver id = true ↔ ∀ r ∈ m.rounds, r.id ≠ id := by
  simp [roundOver]

theorem Reachable.noted (hm : m.Reachable) : m.fans.Noted := by
  refine hm.induction (P := fun m => m.fans.Noted) (fun config fanOut factory clock world => ?_)
    fun {m move} hm h => ?_
  · exact ⟨by simp [init, fans], fun _ _ => rfl⟩
  · exact (fans_after m hm.wellFormed.ids move).noted hm.wellFormed h

/-- The outcomes of a fan-out are the entries that its calls have left in the history. -/
theorem Reachable.outcomes_eq (hm : m.Reachable) {r : Round σ} (hr : r ∈ m.rounds) :
    r.outcomes = entriesOf r.id m.history := by
  rw [hm.noted.outcomes r hr, entriesOf_fans]

theorem Reachable.gone_after (hm : m.Reachable) {id : Nat} {entries : List (String × Bool)}
    (h : m.fans.Gone id entries) (move : Move σ) : (m.after move).fans.Gone id entries :=
  (fans_after m hm.wellFormed.ids move).gone h

/-- The end of a fan-out leaves it with the outcomes that it has gathered. -/
theorem Reachable.gone_finish (hm : m.Reachable) {r : Round σ} (hr : r ∈ m.rounds) :
    (m.finish { r with turn := none }).fans.Gone r.id r.outcomes := by
  obtain ⟨order, -, hfans⟩ := fans_finish m { r with turn := none }
  rw [hfans]
  exact ⟨(hm.noted.outcomes r hr).symm,
    fun other hother => by simpa using (List.mem_filter.mp hother).2,
    hm.wellFormed.ids_lt r hr⟩

/-- Nothing is noted of the calls of a fan-out when it ends. -/
theorem Reachable.entries_finish (hm : m.Reachable) {r : Round σ} (hr : r ∈ m.rounds) :
    entriesOf r.id (m.finish { r with turn := none }).history = entriesOf r.id m.history := by
  rw [← entriesOf_fans, (hm.gone_finish hr).entries_eq, hm.outcomes_eq hr]

/-- A fan-out that is gone stays gone, with the same entries. -/
theorem Reachable.gone_afterAll (hm : m.Reachable) {id : Nat} {entries : List (String × Bool)}
    (h : m.fans.Gone id entries) (moves : List (Move σ)) :
    (m.afterAll moves).fans.Gone id entries :=
  hm.afterAll_induction (P := fun x => x.fans.Gone id entries) (Q := fun _ => True)
    (fun _ _ => trivial) h fun {_ move} hx _ hgone => hx.gone_after hgone move

/-! ## Following a fan-out -/

/--
What a fan-out under way keeps in a run of certain moves, whether it goes on or is left as it is.
-/
structure Keeps (info : RoundInfo) (Q : Machine σ → Move σ → Prop)
    (P : Round σ → Machine σ → Prop) : Prop where
  still : ∀ {x : Machine σ} {r : Round σ} {move : Move σ}, x.Reachable → r.info = info →
    Q x move → x.goesOn r.id move = false → P r x → P r (x.after move)
  goes : ∀ {x : Machine σ} {r r' : Round σ} {move : Move σ}, x.Reachable → r ∈ x.rounds →
    r.info = info → r.Goes x.now x.world r' (x.after move).world → P r x →
    P r' (x.after move)

/-- A run, with certain moves at the last, in which a fan-out has found nothing left to do. -/
structure EndedIn (e : Machine σ) (info : RoundInfo) (Q : Machine σ → Move σ → Prop)
    (x : Machine σ) (r : Round σ) : Prop where
  reachable : x.Reachable
  mem : r ∈ x.rounds
  info : r.info = info
  queued : r.queued = []
  atWork : r.atWork = []
  finished : x.after (.work (.turn r.id)) = x.finish { r with turn := none }
  since : ∃ moves, (x.finish { r with turn := none }).Along Q moves ∧
    e = (x.finish { r with turn := none }).afterAll moves

/-- What a fan-out keeps it has as long as it is under way, and still when it ends. -/
theorem Reachable.follow {info : RoundInfo} {Q : Machine σ → Move σ → Prop}
    {P : Round σ → Machine σ → Prop} (hm : m.Reachable) (hkeeps : Keeps info Q P) {r : Round σ}
    (hr : r ∈ m.rounds) (hinfo : r.info = info) (hfirst : P r m) {moves : List (Move σ)}
    (halong : m.Along Q moves) :
    (∃ r' ∈ (m.afterAll moves).rounds, r'.info = info ∧ P r' (m.afterAll moves)) ∨
      ∃ x r', (m.afterAll moves).EndedIn info Q x r' ∧ P r' x := by
  induction moves generalizing m r with
  | nil => exact .inl ⟨r, hr, hinfo, hfirst⟩
  | cons move rest ih =>
    -- whatever the fan-out has become, the rest of the run goes on from there
    rcases round_after hm.wellFormed hr move with
      ⟨hstill, hnot⟩ | ⟨r', hr', hgoes⟩ | ⟨hqueued, hnone, rfl, hfinished⟩
    · exact ih (hm.after move) hstill hinfo (hkeeps.still hm hinfo halong.1 hnot hfirst) halong.2
    · exact ih (hm.after move) hr' (hgoes.info.trans hinfo) (hkeeps.goes hm hr hinfo hgoes hfirst)
        halong.2
    · refine .inr ⟨m, r, ⟨hm, hr, hinfo, hqueued, hnone, hfinished, rest, ?_, ?_⟩, hfirst⟩
      · exact hfinished ▸ halong.2
      · rw [afterAll_cons, hfinished]

namespace EndedIn

variable {e x : Machine σ} {info : RoundInfo} {Q : Machine σ → Move σ → Prop} {r : Round σ}

theorem reachable_finish (h : e.EndedIn info Q x r) :
    (x.finish { r with turn := none }).Reachable := h.finished ▸ h.reachable.after _

theorem gone_finish (h : e.EndedIn info Q x r) :
    (x.finish { r with turn := none }).fans.Gone info.id r.outcomes := by
  rw [← h.info]
  exact h.reachable.gone_finish h.mem

/-- A fan-out that has ended in a run is over, with the outcomes that it had in the end. -/
theorem gone (h : e.EndedIn info Q x r) : e.fans.Gone info.id r.outcomes := by
  obtain ⟨moves, -, rfl⟩ := h.since
  exact h.reachable_finish.gone_afterAll h.gone_finish moves

end EndedIn

/-- A fan-out that is over in the end is over for good. -/
theorem Reachable.gone_of_over (hm : m.Reachable) {r : Round σ} (hr : r ∈ m.rounds)
    {moves : List (Move σ)} (hover : (m.afterAll moves).roundOver r.id = true) :
    ∃ entries, (m.afterAll moves).fans.Gone r.id entries := by
  have hkeeps : Keeps r.info (fun (_ : Machine σ) _ => True) fun _ _ => True :=
    ⟨fun _ _ _ _ _ => trivial, fun _ _ _ _ _ => trivial⟩
  rcases hm.follow hkeeps hr rfl trivial (along_true m moves) with
    ⟨r', hr', hinfo, -⟩ | ⟨x, r', hended, -⟩
  · exact absurd (congrArg RoundInfo.id hinfo) (roundOver_eq_true.mp hover r' hr')
  · exact ⟨_, hended.gone⟩

/-- A fan-out under way keeps its collectors, whatever happens. -/
theorem keeps_names (r : Round σ) :
    Keeps r.info (fun (_ : Machine σ) _ => True) fun r' _ => r'.names.Perm r.names :=
  ⟨fun _ _ _ _ h => h, fun hx hr' _ hgoes h =>
    (hgoes.names (hx.wellFormed.underWay _ hr')).trans h⟩

/-- A fan-out keeps its collectors, and in the end has an entry for each. -/
theorem Reachable.names_afterAll (hm : m.Reachable) {r : Round σ} (hr : r ∈ m.rounds)
    (moves : List (Move σ)) (hover : (m.afterAll moves).roundOver r.id = true) :
    ((entriesOf r.id (m.afterAll moves).history).map Prod.fst).Perm r.names := by
  rcases hm.follow (keeps_names r) hr rfl (.refl _) (along_true m moves) with
    ⟨r', hr', hinfo, -⟩ | ⟨x, r', hended, hnames⟩
  · exact absurd (congrArg RoundInfo.id hinfo) (roundOver_eq_true.mp hover r' hr')
  · -- with nobody left, all that it has gathered is all there is
    have hentries : entriesOf r.id (m.afterAll moves).fans.history = r'.outcomes :=
      hended.gone.entries_eq
    rw [← entriesOf_fans, hentries]
    simpa [Round.names, Round.remaining, hended.queued, hended.atWork] using hnames

/--
Once a fan-out that a move has begun is over, its entries are one for each of the collectors that
were registered then.
-/
theorem Reachable.entries_of_begun (hm : m.Reachable) {move : Move σ} {id : Nat}
    (hnew : m.roundOver id = true) (hbegun : (m.after move).roundOver id = false)
    {moves : List (Move σ)} (hover : ((m.after move).afterAll moves).roundOver id = true) :
    ((entriesOf id ((m.after move).afterAll moves).history).map Prod.fst).Perm
      (m.after move).registry.names := by
  obtain ⟨r, hr, rfl⟩ := roundOver_eq_false.mp hbegun
  -- it was not there before, so it has just begun
  have hfresh := (fresh_after hm.wellFormed hr).resolve_left fun ⟨r₀, hr₀, hid⟩ =>
    roundOver_eq_true.mp hnew r₀ hr₀ hid
  rw [← hfresh.names]
  exact (hm.after move).names_afterAll hr moves hover

end Machine

end HourlySnapshots
