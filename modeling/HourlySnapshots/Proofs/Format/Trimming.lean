import HourlySnapshots.Text.Blank
import Mathlib.Data.List.DropRight

/-!
# Blanks around a text

Trimming takes the blanks before and behind a text away and leaves all between them as it is.
-/

namespace HourlySnapshots.Text

/-! ## What is left -/

theorem all_dropWhile_isBlank (cs : List Char) :
    (cs.dropWhile isBlank).all isBlank = cs.all isBlank := by
  induction cs with
  | nil => rfl
  | cons c rest ih =>
    cases hblank : isBlank c with
    | true => simp [hblank, ih]
    | false => simp [hblank]

/-- Trimming takes blanks away and nothing else. -/
theorem all_trim_isBlank (cs : List Char) : (trim cs).all isBlank = cs.all isBlank := by
  simp only [trim, trimEnd, trimStart, List.all_reverse, all_dropWhile_isBlank]

theorem trim_ne_nil {cs : List Char} (h : cs.all isBlank = false) : trim cs ≠ [] := by
  intro hnil
  rw [← all_trim_isBlank, hnil] at h
  cases h

/-- Of blanks alone nothing is left. -/
theorem trim_eq_nil {cs : List Char} (h : cs.all isBlank = true) : trim cs = [] := by
  rw [trim, trimStart, List.dropWhile_eq_nil_iff.mpr (List.all_eq_true.mp h)]
  rfl

theorem mem_of_mem_trim {c : Char} {cs : List Char} (h : c ∈ trim cs) : c ∈ cs := by
  have hstart : c ∈ (trimStart cs).reverse :=
    (List.dropWhile_sublist _).subset (List.mem_reverse.mp h)
  exact (List.dropWhile_sublist _).subset (List.mem_reverse.mp hstart)

/-- What is taken away at the start may as well be taken away before. -/
theorem trim_trimStart (cs : List Char) : trim (trimStart cs) = trim cs := by
  rw [trim, trim, trimStart, trimStart, List.dropWhile_idempotent]

/-! ## What is taken away -/

theorem exists_trim_between (cs : List Char) :
    ∃ before after, cs = before ++ trim cs ++ after ∧ (∀ c ∈ before, isBlank c = true) ∧
      ∀ c ∈ after, isBlank c = true := by
  have hstart : cs = cs.takeWhile isBlank ++ trimStart cs := List.takeWhile_append_dropWhile.symm
  have hend : trimStart cs =
      trim cs ++ ((trimStart cs).reverse.takeWhile isBlank).reverse := by
    rw [trim, trimEnd, ← List.reverse_append, List.takeWhile_append_dropWhile, List.reverse_reverse]
  refine ⟨cs.takeWhile isBlank, ((trimStart cs).reverse.takeWhile isBlank).reverse, ?_, ?_, ?_⟩
  · rw [List.append_assoc, ← hend, ← hstart]
  · intro c hc
    exact List.all_eq_true.mp List.all_takeWhile c hc
  · intro c hc
    exact List.all_eq_true.mp List.all_takeWhile c (List.mem_reverse.mp hc)

/-- Blanks around a name that holds none are all that is trimmed. -/
theorem trim_between {before name after : List Char} (hbefore : ∀ c ∈ before, isBlank c = true)
    (hname : ∀ c ∈ name, isBlank c = false) (hne : name ≠ [])
    (hafter : ∀ c ∈ after, isBlank c = true) : trim (before ++ name ++ after) = name := by
  -- a text that begins with a character of the name loses nothing at its start
  have hkept (cs rest : List Char) (hcs : cs ≠ []) (h : ∀ c ∈ cs, isBlank c = false) :
      (cs ++ rest).dropWhile isBlank = cs ++ rest := by
    obtain ⟨c, more, rfl⟩ := List.exists_cons_of_ne_nil hcs
    exact List.dropWhile_cons_of_neg (by simp [h c List.mem_cons_self])
  have hstart : trimStart (before ++ name ++ after) = name ++ after := by
    rw [trimStart, List.append_assoc, List.dropWhile_append_of_pos hbefore, hkept name _ hne hname]
  have hreverse : ∀ c ∈ name.reverse, isBlank c = false := by
    intro c hc
    exact hname c (List.mem_reverse.mp hc)
  have hend := hkept name.reverse [] (by simpa using hne) hreverse
  rw [List.append_nil] at hend
  rw [trim, hstart, trimEnd, List.reverse_append,
    List.dropWhile_append_of_pos (fun c hc => hafter c (List.mem_reverse.mp hc)), hend,
    List.reverse_reverse]

/-- At the start nothing is taken away behind what is no blank. -/
theorem trimStart_append_cons {mark : Char} (h : isBlank mark = false) (before rest : List Char) :
    trimStart (before ++ mark :: rest) = trimStart before ++ mark :: rest := by
  induction before with
  | nil => exact List.dropWhile_cons_of_neg (by simp [h])
  | cons c more ih =>
    unfold trimStart at ih ⊢
    rw [List.cons_append]
    cases hblank : isBlank c with
    | true => rw [List.dropWhile_cons_of_pos hblank, List.dropWhile_cons_of_pos hblank, ih]
    | false => rw [List.dropWhile_cons_of_neg (by simp [hblank]),
        List.dropWhile_cons_of_neg (by simp [hblank]), List.cons_append]

/-- At the end nothing is taken away of a text that ends with what is no blank. -/
theorem trimEnd_append {ending : List Char} (hne : ending ≠ [])
    (h : ∀ c ∈ ending, isBlank c = false) (before : List Char) :
    trimEnd (before ++ ending) = before ++ ending := by
  obtain ⟨c, rest, hreverse⟩ := List.exists_cons_of_ne_nil (mt List.reverse_eq_nil_iff.mp hne)
  have hc : isBlank c = false := h c (List.mem_reverse.mp (hreverse ▸ List.mem_cons_self))
  rw [trimEnd, List.reverse_append, hreverse, List.cons_append,
    List.dropWhile_cons_of_neg (by simp [hc]), ← List.cons_append, ← hreverse,
    ← List.reverse_append, List.reverse_reverse]

end HourlySnapshots.Text
