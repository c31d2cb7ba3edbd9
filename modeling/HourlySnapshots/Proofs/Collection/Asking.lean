import HourlySnapshots.Collection.Result
import Mathlib.Tactic.Common

/-!
# Asking one after the other

Services are asked about a list of entries in order. An error costs the answer about one entry, but
rejected credentials end the asking: then the entries behind are never asked about. What was asked
and answered is all that the outcome may depend on.
-/

namespace HourlySnapshots

/-- An entry that a service was asked about, and what it answered. -/
structure Exchange (α β : Type) where
  entry : α
  reply : Except ServiceError β

variable {σ α β : Type}

namespace Exchange

/-- The credentials were not rejected. -/
def Accepted (exchange : Exchange α β) : Prop := ∀ e, exchange.reply = .error e → e.isAuth = false

/-- The error that an exchange has ended with, if it has. -/
def error? (exchange : Exchange α β) : Option ServiceError :=
  match exchange.reply with
  | .ok _ => none
  | .error e => some e

theorem error?_eq_some {exchange : Exchange α β} {e : ServiceError} :
    exchange.error? = some e ↔ exchange.reply = .error e := by
  unfold error?
  cases exchange.reply <;> simp

/-- The errors of some exchanges, in order. -/
def errors (talk : List (Exchange α β)) : List ServiceError := talk.filterMap error?

@[simp] theorem errors_cons_error (entry : α) (e : ServiceError) (talk : List (Exchange α β)) :
    errors (⟨entry, .error e⟩ :: talk) = e :: errors talk := rfl

/-- There are as many errors as exchanges just when every exchange has failed. -/
theorem length_errors_eq_iff (talk : List (Exchange α β)) :
    (errors talk).length = talk.length ↔ ∀ exchange ∈ talk, ∃ e, exchange.reply = .error e := by
  have hle : (errors talk).length ≤ talk.length := List.length_filterMap_le _ _
  have hlt : (errors talk).length < talk.length ↔ ∃ exchange ∈ talk, exchange.error? = none := by
    unfold errors
    rw [List.length_filterMap_lt_length_iff_exists]
    simp
  have heq : (errors talk).length = talk.length ↔ ¬ (errors talk).length < talk.length := by omega
  rw [heq, hlt]
  push Not
  simp only [Option.ne_none_iff_exists', error?_eq_some]

/-- The error met last, told from the first exchange on. -/
theorem getLast?_errors_cons (entry : α) (e : ServiceError) (talk : List (Exchange α β)) :
    (errors (⟨entry, .error e⟩ :: talk)).getLast? = (errors talk).getLast?.or (some e) := by
  rw [errors_cons_error, List.getLast?_cons]
  cases (errors talk).getLast? <;> rfl

theorem accepted_ok (entry : α) (answer : β) : Accepted ⟨entry, .ok answer⟩ := by
  intro e h
  cases h

theorem accepted_error {e : ServiceError} (entry : α) (h : e.isAuth = false) :
    (⟨entry, .error e⟩ : Exchange α β).Accepted := by
  intro other hother
  rwa [← Except.error.inj hother]

end Exchange

open Exchange (errors)

/-- A collection whose error is known has failed with it. -/
theorem CollectionResult.error?_eq_some {result : CollectionResult α} {e : ServiceError} :
    result.error? = some e ↔ result.outcome = .error e := by
  unfold error?
  cases result.outcome <;> simp

/--
Exchanges in order, from one state to another: every reply is what asking about the entry gives in
the state that the exchange before has left behind.
-/
inductive Asks (ask : α → σ → Except ServiceError β × σ) :
    List (Exchange α β) → σ → σ → Prop where
  | done {x : σ} : Asks ask [] x x
  | next {entry : α} {reply : Except ServiceError β} {talk : List (Exchange α β)} {x y z : σ}
      (h : ask entry x = (reply, y)) (hrest : Asks ask talk y z) :
      Asks ask (⟨entry, reply⟩ :: talk) x z

/-- Every reply is what asking about its entry has given in some state. -/
theorem Asks.exists_of_mem {ask : α → σ → Except ServiceError β × σ}
    {talk : List (Exchange α β)} {x z : σ} (h : Asks ask talk x z) :
    ∀ exchange ∈ talk, ∃ y y', ask exchange.entry y = (exchange.reply, y') := by
  induction h with
  | done => simp
  | next hfirst _ ih => exact List.forall_mem_cons.mpr ⟨⟨_, _, hfirst⟩, ih⟩

/-- What holds of all that may be answered holds of what was answered. -/
theorem Asks.reply_of_mem {ask : α → σ → Except ServiceError β × σ}
    {talk : List (Exchange α β)} {x z : σ} {P : Except ServiceError β → Prop}
    (h : Asks ask talk x z) (hask : ∀ entry x, P (ask entry x).1) :
    ∀ exchange ∈ talk, P exchange.reply := by
  intro exchange hmem
  obtain ⟨y, y', hreply⟩ := h.exists_of_mem exchange hmem
  have hholds := hask exchange.entry y
  rwa [hreply] at hholds

/-- All entries were asked about in order, and the credentials were never rejected. -/
structure AsksAll (entries : List α) (talk : List (Exchange α β)) : Prop where
  entries_eq : talk.map Exchange.entry = entries
  accepted : ∀ exchange ∈ talk, exchange.Accepted

/--
Entries were asked about in order until the credentials were rejected for the first time, and none
of those behind.
-/
structure AsksUntil (entries : List α) (talk : List (Exchange α β)) (e : ServiceError) : Prop where
  entries_prefix : talk.map Exchange.entry <+: entries
  rejected : ∃ before entry, talk = before ++ [⟨entry, .error e⟩] ∧ e.isAuth = true ∧
    ∀ exchange ∈ before, exchange.Accepted

/--
What asking comes to that was not ended by rejected credentials: it yields its items, unless it
fails for a given reason; then it fails with the error met last.
-/
structure Yields {γ : Type} (talk : List (Exchange α β)) (items : List γ) (reason : Prop)
    (outcome : Except ServiceError (List γ)) : Prop where
  items_eq : ∀ found, outcome = .ok found → found = items
  fails_iff : (∃ e, outcome = .error e) ↔ reason
  last : ∀ e, outcome = .error e → (errors talk).getLast? = some e

namespace Yields

variable {γ : Type} {talk : List (Exchange α β)} {items : List γ} {reason : Prop}

/-- Without a reason to fail, the items are given. -/
theorem of_not (h : ¬ reason) : Yields talk items reason (.ok items) where
  items_eq _ hfound := (Except.ok.inj hfound).symm
  fails_iff := iff_of_false (fun ⟨_, herror⟩ => by cases herror) h
  last _ herror := by cases herror

/-- With a reason to fail, the last error is given. -/
theorem of_last {e : ServiceError} (h : reason) (hlast : (errors talk).getLast? = some e) :
    Yields talk items reason (.error e) where
  items_eq _ hfound := by cases hfound
  fails_iff := iff_of_true ⟨e, rfl⟩ h
  last _ herror := by rw [← Except.error.inj herror, hlast]

end Yields

section

variable {entries : List α} {talk : List (Exchange α β)} {exchange : Exchange α β}
  {e : ServiceError}

theorem AsksAll.nil : AsksAll ([] : List α) ([] : List (Exchange α β)) :=
  ⟨rfl, fun _ h => by cases h⟩

/-- An exchange that is accepted lets the next entry be asked. -/
theorem AsksAll.cons (hfirst : exchange.Accepted) (h : AsksAll entries talk) :
    AsksAll (exchange.entry :: entries) (exchange :: talk) :=
  ⟨by rw [List.map_cons, h.entries_eq], List.forall_mem_cons.mpr ⟨hfirst, h.accepted⟩⟩

/-- Where all entries were asked, no error has rejected the credentials. -/
theorem AsksAll.isAuth_of_mem (h : AsksAll entries talk) (he : e ∈ errors talk) :
    e.isAuth = false := by
  obtain ⟨exchange, hmem, herror⟩ := List.mem_filterMap.mp he
  exact h.accepted exchange hmem e (Exchange.error?_eq_some.mp herror)

/-- Rejected credentials end the asking at once. -/
theorem AsksUntil.first (he : e.isAuth = true) (entry : α) (entries : List α) :
    AsksUntil (entry :: entries) ([⟨entry, .error e⟩] : List (Exchange α β)) e :=
  ⟨by simp, [], entry, rfl, he, fun _ h => by cases h⟩

/-- An exchange that is accepted does not end the asking. -/
theorem AsksUntil.cons (hfirst : exchange.Accepted) (h : AsksUntil entries talk e) :
    AsksUntil (exchange.entry :: entries) (exchange :: talk) e := by
  obtain ⟨before, entry, rfl, he, hbefore⟩ := h.rejected
  exact ⟨List.cons_prefix_cons.mpr ⟨rfl, h.entries_prefix⟩, exchange :: before, entry, rfl, he,
    List.forall_mem_cons.mpr ⟨hfirst, hbefore⟩⟩

end

end HourlySnapshots
