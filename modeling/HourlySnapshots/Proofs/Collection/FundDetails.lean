import HourlySnapshots.Proofs.Collection.Asking
import HourlySnapshots.Proofs.Collection.Runs

/-!
# Funds and their details

A collection of portfolios asks for the detail of each listed fund that has a name, in the order of
the list. Details that are missing cost their own points and nothing else, unless there is no point
at all; rejected credentials cost them all.
-/

namespace HourlySnapshots

namespace PortfolioCollector

open Exchange (errors)

variable {σ : Type}

/-- Asks for the detail of a listed fund. -/
def askDetail (api : PortfolioApi σ) (summary : PortfolioSummary) (x : σ) :
    Except ServiceError Json × σ :=
  api.detail summary.fundName x

/-- The listed funds that have a name. -/
def named (summaries : List PortfolioSummary) : List PortfolioSummary :=
  summaries.filter fun summary => !Text.allBlank summary.fundName

/-- The point that comes of asking for a detail, if there is an answer. -/
def pointOf? (time : Instant) (exchange : Exchange PortfolioSummary Json) :
    Option PortfolioPoint :=
  exchange.reply.toOption.map fun detail => .ofDetail exchange.entry detail time

/-- The points that come of asking for details, in order. -/
def pointsOf (time : Instant) (talk : List (Exchange PortfolioSummary Json)) :
    List PortfolioPoint :=
  talk.filterMap (pointOf? time)

theorem pointsOf_cons_error (time : Instant) (summary : PortfolioSummary) (e : ServiceError)
    (talk : List (Exchange PortfolioSummary Json)) :
    pointsOf time (⟨summary, .error e⟩ :: talk) = pointsOf time talk := rfl

/-- How asking for the details of a list of funds goes on, and what it brings in. -/
theorem exists_asks (api : PortfolioApi σ) (time : Instant) (summaries : List PortfolioSummary)
    (x : σ) :
    ∃ talk z, Asks (askDetail api) talk x z ∧
      (AsksAll (named summaries) talk ∧ askDetails api time summaries x =
          (.ok (pointsOf time talk, (errors talk).getLast?), z) ∨
        ∃ e, AsksUntil (named summaries) talk e ∧
          askDetails api time summaries x = (.error e, z)) := by
  induction summaries generalizing x with
  | nil => exact ⟨[], x, .done, .inl ⟨.nil, rfl⟩⟩
  | cons summary rest ih =>
    unfold askDetails
    cases hblank : Text.allBlank summary.fundName with
    | true =>
      have hnamed : named (summary :: rest) = named rest := by simp [named, hblank]
      rw [hnamed, if_pos rfl]
      exact ih x
    | false =>
      have hnamed : named (summary :: rest) = summary :: named rest := by simp [named, hblank]
      rw [hnamed, if_neg Bool.false_ne_true]
      rcases hanswer : api.detail summary.fundName x with ⟨e | detail, y⟩
      · cases hauth : e.isAuth with
        | true =>
          exact ⟨_, y, .next hanswer .done, .inr ⟨e, .first hauth summary _, if_pos hauth⟩⟩
        | false =>
          have haccepted := Exchange.accepted_error (β := Json) summary hauth
          obtain ⟨talk, z, hasks, hends⟩ := ih y
          refine ⟨_, z, .next hanswer hasks, ?_⟩
          simp only [hauth, Bool.false_eq_true, if_false]
          rcases hends with ⟨hall, hrest⟩ | ⟨last, huntil, hrest⟩
          · refine .inl ⟨hall.cons haccepted, ?_⟩
            rw [hrest, pointsOf_cons_error, Exchange.getLast?_errors_cons]
            rfl
          · refine .inr ⟨last, huntil.cons haccepted, ?_⟩
            rw [hrest]
            rfl
      · have haccepted := Exchange.accepted_ok summary detail
        obtain ⟨talk, z, hasks, hends⟩ := ih y
        refine ⟨_, z, .next hanswer hasks, ?_⟩
        rcases hends with ⟨hall, hrest⟩ | ⟨last, huntil, hrest⟩
        · refine .inl ⟨hall.cons haccepted, ?_⟩
          simp only [hrest]
          rfl
        · refine .inr ⟨last, huntil.cons haccepted, ?_⟩
          simp only [hrest]
          rfl

/-- A harvest is brought in unless it is empty and an error was met. -/
theorem yields_settle (talk : List (Exchange PortfolioSummary Json))
    (points : List PortfolioPoint) :
    Yields talk points (points = [] ∧ errors talk ≠ [])
      (settle (points, (errors talk).getLast?)) := by
  cases points with
  | cons point rest =>
    unfold settle
    exact .of_not fun ⟨hnil, _⟩ => by cases hnil
  | nil =>
    cases hlast : (errors talk).getLast? with
    | none =>
      have hnone : errors talk = [] := List.getLast?_eq_none_iff.mp hlast
      exact .of_not fun ⟨_, hne⟩ => hne hnone
    | some e =>
      have hsome : errors talk ≠ [] := List.ne_nil_of_mem (List.mem_of_getLast? hlast)
      exact .of_last ⟨rfl, hsome⟩ hlast

/-- A point that is brought in is made of a detail that was answered for the name of its fund. -/
theorem exists_detail_of_mem {c : PortfolioCollector σ} {time : Instant} {x : σ}
    {points : List PortfolioPoint} (h : (c.collect time x).1.outcome = .ok points) :
    ∀ point ∈ points, ∃ summary detail y z,
      c.api.detail summary.fundName y = (.ok detail, z) ∧ point = .ofDetail summary detail time := by
  unfold collect at h
  rcases hlist : c.api.list x with ⟨e | summaries, y⟩
  · simp only [hlist] at h
    cases h
  · obtain ⟨talk, z, hasks, ⟨-, hharvest⟩ | ⟨e, -, hharvest⟩⟩ := exists_asks c.api time summaries y
    · simp only [hlist, hharvest] at h
      obtain rfl := (yields_settle talk (pointsOf time talk)).items_eq points h
      intro point hmem
      obtain ⟨⟨summary, reply⟩, htalk, hpoint⟩ := List.mem_filterMap.mp hmem
      obtain ⟨y, y', hreply⟩ := hasks.exists_of_mem _ htalk
      cases reply with
      | error e => cases hpoint
      | ok detail => exact ⟨summary, detail, y, y', hreply, (Option.some.inj hpoint).symm⟩
    · simp only [hlist, hharvest] at h
      cases h

/--
What a collection comes to. It fails with the error of the list, if there is one. Otherwise the
details are asked for in the order of the list, for the funds that have a name; it fails as soon as
the credentials are rejected. If they never are, there is a point for each detail that was answered,
made of its summary, its detail and the time; and it fails, with the error met last, just when there
is no point and some detail was not answered.
-/
theorem collect_by_details (c : PortfolioCollector σ) (time : Instant) (x : σ) :
    (c.collect time x).1.collectedAt = time ∧
    match c.api.list x with
    | (.error e, y) => (c.collect time x).1.outcome = .error e ∧ (c.collect time x).2 = y
    | (.ok summaries, y) =>
      ∃ talk, Asks (askDetail c.api) talk y (c.collect time x).2 ∧
        ((∃ e, AsksUntil (named summaries) talk e ∧
            (c.collect time x).1.outcome = .error e) ∨
          AsksAll (named summaries) talk ∧
            Yields talk (pointsOf time talk) (pointsOf time talk = [] ∧ errors talk ≠ [])
              (c.collect time x).1.outcome) := by
  unfold collect
  rcases c.api.list x with ⟨e | summaries, y⟩
  · exact ⟨rfl, rfl, rfl⟩
  · refine ⟨rfl, ?_⟩
    obtain ⟨talk, z, hasks, hends⟩ := exists_asks c.api time summaries y
    refine ⟨talk, ?_⟩
    rcases hends with ⟨hall, hharvest⟩ | ⟨e, huntil, hharvest⟩
    · simp only [hharvest]
      exact ⟨hasks, .inr ⟨hall, yields_settle _ _⟩⟩
    · simp only [hharvest]
      exact ⟨hasks, .inl ⟨e, huntil, rfl⟩⟩

/--
Of five funds, one without a name is not asked about, and none that comes behind the one whose
detail is refused for the credentials.
-/
theorem details_asked_until_rejected :
    let fund (name : String) : PortfolioSummary := ⟨name, none, none⟩
    let summaries := [fund "Alpha", fund "  ", fund "Beta", fund "Gamma", fund "Delta"]
    let api : PortfolioApi (List String) :=
      { list := fun asked => (.ok summaries, asked)
        detail := fun name asked =>
          (if name = "Beta" then .error (.timeout "late")
            else if name = "Gamma" then .error (.auth "key")
            else .ok (.ofFields [("pnl", .number (.whole 7))]), asked ++ [name]) }
    let storage : Storage (List String) :=
      ⟨fun _ asked => (.ok [], asked), fun _ asked => (.ok false, asked),
        fun asked => (default, asked)⟩
    let c : PortfolioCollector (List String) := ⟨"portfolio", api, storage, "1token"⟩
    (c.collect .epoch []).2 = ["Alpha", "Beta", "Gamma"] ∧
      ∃ talk, Asks (askDetail api) talk [] ["Alpha", "Beta", "Gamma"] ∧
        AsksUntil (named summaries) talk (.auth "key") := by
  intro fund summaries api storage c
  have houtcome : (c.collect .epoch []).1.outcome = .error (.auth "key") :=
    CollectionResult.error?_eq_some.mp (by decide +kernel)
  have hasked : (c.collect .epoch []).2 = ["Alpha", "Beta", "Gamma"] := by decide +kernel
  obtain ⟨-, talk, hasks, hends⟩ := collect_by_details c .epoch []
  rw [houtcome] at hends
  refine ⟨hasked, talk, hasked ▸ hasks, ?_⟩
  rcases hends with ⟨e, huntil, he⟩ | ⟨hall, hyields⟩
  · rwa [Except.error.inj he]
  · have hrefused := hall.isAuth_of_mem (List.mem_of_getLast? (hyields.last _ rfl))
    cases hrefused

end PortfolioCollector

end HourlySnapshots
