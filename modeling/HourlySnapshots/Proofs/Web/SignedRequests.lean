import HourlySnapshots.Proofs.Collection.FundDetails
import HourlySnapshots.Proofs.Format.Escapes
import HourlySnapshots.Services.CustodyService
import HourlySnapshots.Services.PortfolioService
import Mathlib.Data.List.TakeWhile

/-!
# Requests that are signed

What a request asks for is signed before it is sent. Names that come from outside stand in what is
asked for, escaped, so that they are the value of one parameter whatever they hold; and the path and
the query are read again as they were written, so that what is sent is what was signed.
-/

namespace HourlySnapshots

namespace Url

open Text (Percent.encodeWith)

/-! ## A path behind an authority -/

section Behind

variable {named more : List Char}

/-- No character of a text ends an authority. -/
def NamesHost (named : List Char) : Prop := ∀ c ∈ named, endsAuthority .web c = false

instance (named : List Char) : Decidable (NamesHost named) :=
  decidable_of_iff (named.all (fun c => endsAuthority .web c == false) = true)
    (by simp only [List.all_eq_true, beq_iff_eq, NamesHost])

theorem takeWhile_authority (h : NamesHost named) (more : List Char) :
    (named ++ '/' :: more).takeWhile (fun c => !endsAuthority .web c) = named := by
  rw [List.takeWhile_append_of_pos fun c hc => by simp [h c hc],
    List.takeWhile_cons_of_neg (by decide), List.append_nil]

theorem splitUser_append (h : NamesHost named) (more : List Char) :
    splitUser .web (named ++ '/' :: more) =
      ((splitUser .web named).1, (splitUser .web named).2 ++ '/' :: more) := by
  have halone : named.takeWhile (fun c => !endsAuthority .web c) = named :=
    List.takeWhile_eq_self_iff.mpr fun c hc => by simp [h c hc]
  unfold splitUser
  rw [takeWhile_authority h, halone]
  dsimp only
  split
  · rw [List.drop_append_of_le_length (Nat.sub_le _ _)]
  · rfl

/-- What follows the login is part of the authority. -/
theorem NamesHost.splitUser (h : NamesHost named) : NamesHost (splitUser .web named).2 := by
  unfold Url.splitUser
  dsimp only
  split
  · exact fun c hc => h c (List.mem_of_mem_drop hc)
  · exact h

theorem splitHost_append (h : NamesHost named) (more : List Char) (bracketed : Bool) :
    splitHost .web bracketed (named ++ '/' :: more) =
      ((splitHost .web bracketed named).1,
        (splitHost .web bracketed named).2 ++ '/' :: more) := by
  induction named generalizing bracketed with
  | nil => simp [splitHost, endsAuthority, isSlash]
  | cons c rest ih =>
    have hrest : NamesHost rest := fun d hd => h d (List.mem_cons_of_mem c hd)
    rw [List.cons_append, splitHost, splitHost]
    split
    · rfl
    · simp only [ih hrest]

/-- What follows the host is part of the authority. -/
theorem NamesHost.splitHost (h : NamesHost named) (bracketed : Bool) :
    NamesHost (splitHost .web bracketed named).2 := by
  induction named generalizing bracketed with
  | nil => exact h
  | cons c rest ih =>
    rw [Url.splitHost]
    split
    · exact h
    · exact ih (fun d hd => h d (List.mem_cons_of_mem c hd)) _

theorem takeWhile_isDigit_append (cs more : List Char) :
    (cs ++ '/' :: more).takeWhile Char.isDigit = cs.takeWhile Char.isDigit := by
  rw [List.takeWhile_append, List.takeWhile_cons_of_neg (by decide), List.append_nil]
  split
  · next hlength => exact ((List.takeWhile_prefix _).eq_of_length hlength).symm
  · rfl

theorem dropWhile_isDigit_append (cs more : List Char) :
    (cs ++ '/' :: more).dropWhile Char.isDigit = cs.dropWhile Char.isDigit ++ '/' :: more := by
  rw [List.dropWhile_append, List.dropWhile_cons_of_neg (by decide)]
  split
  · next hempty => rw [List.isEmpty_iff.mp hempty, List.nil_append]
  · rfl

/-- The number after a host is read in front of a slash as it is at the end. -/
theorem readPortNumber_append (named more : List Char) :
    readPortNumber (named ++ '/' :: more) =
      (readPortNumber named).map fun (number, rest) => (number, rest ++ '/' :: more) := by
  have hnone {cs : List Char} (hcs : cs.head? ≠ some ':') : readPortNumber cs = .ok (none, cs) := by
    unfold readPortNumber
    split
    · exact absurd rfl hcs
    · rfl
  cases named with
  | nil => rfl
  | cons c rest =>
    by_cases hc : c = ':'
    · subst hc
      have hends : (rest.dropWhile Char.isDigit ++ '/' :: more).head?.all (endsAuthority .web) =
          (rest.dropWhile Char.isDigit).head?.all (endsAuthority .web) := by
        cases rest.dropWhile Char.isDigit <;> rfl
      simp only [readPortNumber, List.cons_append, takeWhile_isDigit_append,
        dropWhile_isDigit_append, hends]
      split <;> rfl
    · rw [hnone (by simpa using hc), hnone (by simpa using hc)]
      rfl

/-- An authority is read in front of a slash as it is at the end. -/
theorem readAuthority_append (h : NamesHost named) (more : List Char) :
    readAuthority .web (named ++ '/' :: more) =
      (readAuthority .web named).map fun (authority, rest) => (authority, rest ++ '/' :: more) := by
  have hhosted := h.splitUser
  unfold readAuthority
  rw [splitUser_append h]
  generalize splitUser .web named = split at hhosted ⊢
  obtain ⟨login, hosted⟩ := split
  simp only [splitHost_append hhosted, bind, Except.bind, pure, Except.pure]
  generalize hsplit : splitHost .web false hosted = parts
  obtain ⟨hostText, after⟩ := parts
  dsimp only
  by_cases hempty : hostText.isEmpty = true
  · -- without a host both fail, whichever check it is that finds out
    simp only [hempty, and_self, if_true]
    split_ifs <;> rfl
  · have hhead : (hosted ++ '/' :: more).head?.any (endsAuthority .web) = false ∧
        hosted.head?.any (endsAuthority .web) = false := by
      cases hosted with
      | nil =>
        obtain ⟨rfl, -⟩ := Prod.mk.inj hsplit
        exact absurd rfl hempty
      | cons c rest =>
        have hc := hhosted c List.mem_cons_self
        exact ⟨hc, hc⟩
    have hcolon : (after ++ '/' :: more).head? = some ':' ↔ after.head? = some ':' := by
      cases after <;> simp
    simp only [hhead.1, hhead.2, hempty, hcolon, readPortNumber_append, Bool.false_eq_true,
      and_false, if_false]
    cases readHost .web hostText with
    | error fault => rfl
    | ok host =>
      cases readPortNumber after with
      | error fault => dsimp only [Except.map]; split_ifs <;> rfl
      | ok number => dsimp only [Except.map]; split_ifs <;> rfl

/-- The host text ends at the end of the authority or at a colon. -/
theorem splitHost_snd (h : NamesHost named) (bracketed : Bool) :
    (splitHost .web bracketed named).2 = [] ∨
      ∃ digits, (splitHost .web bracketed named).2 = ':' :: digits := by
  induction named generalizing bracketed with
  | nil => exact .inl rfl
  | cons c rest ih =>
    have hc := h c List.mem_cons_self
    rw [splitHost, hc, Bool.or_false]
    split
    · next hcolon =>
      obtain ⟨heq, -⟩ := Bool.and_eq_true_iff.mp hcolon
      exact .inr ⟨rest, by rw [beq_iff_eq.mp heq]⟩
    · exact ih (fun d hd => h d (List.mem_cons_of_mem c hd)) _

/-- Nothing of an authority is left behind its number. -/
theorem NamesHost.readPortNumber (h : NamesHost named)
    (hstart : named = [] ∨ ∃ digits, named = ':' :: digits) {number : Option Nat} {rest : List Char}
    (hread : Url.readPortNumber named = .ok (number, rest)) : rest = [] := by
  rcases hstart with rfl | ⟨digits, rfl⟩
  · exact (Prod.mk.inj (Except.ok.inj hread)).2.symm
  · simp only [Url.readPortNumber] at hread
    split at hread
    · next hnumber =>
      obtain ⟨-, rfl⟩ := Prod.mk.inj (Except.ok.inj hread)
      -- what ended the digits would have to end the authority, which nothing does
      rcases hleft : digits.dropWhile Char.isDigit with _ | ⟨c, rest⟩
      · rfl
      · have hmem : c ∈ digits.dropWhile Char.isDigit := hleft ▸ List.mem_cons_self
        have hc := h c (List.mem_cons_of_mem _ ((List.dropWhile_sublist _).mem hmem))
        rw [hleft, List.head?_cons, Option.all_some, hc] at hnumber
        exact absurd hnumber.2 Bool.false_ne_true
    · cases hread

theorem NamesHost.readAuthority (h : NamesHost named) {authority : Authority} {rest : List Char}
    (hread : Url.readAuthority .web named = .ok (authority, rest)) : rest = [] := by
  have hhosted := h.splitUser
  unfold Url.readAuthority at hread
  generalize Url.splitUser .web named = split at hhosted hread
  obtain ⟨login, hosted⟩ := split
  have hafter := hhosted.splitHost false
  have hstart := splitHost_snd hhosted false
  simp only [bind, Except.bind, pure, Except.pure] at hread
  generalize Url.splitHost .web false hosted = parts at hafter hstart hread
  obtain ⟨hostText, after⟩ := parts
  dsimp only at hread hafter hstart
  split_ifs at hread
  cases hhost : readHost .web hostText with
  | error fault => simp [hhost] at hread
  | ok host =>
    cases hnumber : Url.readPortNumber after with
    | error fault =>
      simp only [hhost, hnumber] at hread
      split_ifs at hread
    | ok number =>
      simp only [hhost, hnumber] at hread
      split_ifs at hread
      obtain ⟨-, rfl⟩ := Prod.mk.inj (Except.ok.inj hread)
      exact hafter.readPortNumber hstart hnumber

end Behind

/-! ## Addresses that end with their host -/

/-- A text whose first characters of a kind are followed by another one goes on behind that one. -/
theorem while_append {keep : Char → Bool} {cs rest : List Char} {c : Char}
    (h : cs.dropWhile keep = c :: rest) (more : List Char) :
    (cs ++ more).dropWhile keep = c :: (rest ++ more) ∧
      (cs ++ more).takeWhile keep = cs.takeWhile keep := by
  constructor
  · rw [List.dropWhile_append, h]
    rfl
  · have hsplit := congrArg List.length (List.takeWhile_append_dropWhile (p := keep) (l := cs))
    rw [h, List.length_append, List.length_cons] at hsplit
    rw [List.takeWhile_append, if_neg (by omega)]

theorem readScheme?_append {cs rest : List Char} {scheme : String}
    (h : readScheme? cs = some (scheme, rest)) (more : List Char) :
    readScheme? (cs ++ more) = some (scheme, rest ++ more) := by
  unfold readScheme? at h
  split at h
  · next first others named hcolon =>
    obtain ⟨hdrop, htake⟩ := while_append hcolon more
    unfold readScheme?
    simp only [List.cons_append] at hdrop htake ⊢
    rw [hdrop, htake]
    split at h
    · next halpha =>
      obtain ⟨rfl, rfl⟩ := Prod.mk.inj (Option.some.inj h)
      simp only [if_pos halpha]
    · cases h
  · cases h

/-- Whether a character is left out at the ends of an address. -/
def isEdge (c : Char) : Bool := decide (c.toNat ≤ 0x20)

/-- Whether a character is kept within an address. -/
def isKept (c : Char) : Bool := c != '\t' && c != '\n' && c != '\r'

theorem cleaned_eq (cs : List Char) :
    cleaned cs = (((cs.dropWhile isEdge).reverse.dropWhile isEdge).reverse).filter isKept := rfl

/-- What is put behind a text is kept, with no more than blanks and controls in between. -/
theorem exists_cleaned_append {cs path : List Char} (hcs : cleaned cs ≠ [])
    (hpath : ∀ c ∈ path, isEdge c = false ∧ isKept c = true) (hne : path ≠ []) :
    ∃ blanks, (∀ c ∈ blanks, isEdge c = true) ∧
      cleaned (cs ++ path) = cleaned cs ++ (blanks ++ path) ∧
      (cs.getLast?.any isEdge = false → blanks = []) := by
  set inner := cs.dropWhile isEdge with hinner
  have hsome : inner ≠ [] := by
    intro hnil
    rw [cleaned_eq, ← hinner, hnil] at hcs
    exact hcs rfl
  obtain ⟨first, rest, hfirst⟩ := List.exists_cons_of_ne_nil hsome
  have hfront : (cs ++ path).dropWhile isEdge = inner ++ path := by
    rw [(while_append (hinner ▸ hfirst) path).1, hfirst, List.cons_append]
  have hback : ((inner ++ path).reverse.dropWhile isEdge).reverse = inner ++ path := by
    obtain ⟨last, before, hlast⟩ := List.exists_cons_of_ne_nil (List.reverse_ne_nil_iff.mpr hne)
    have hmem : last ∈ path := List.mem_reverse.mp (hlast ▸ List.mem_cons_self)
    rw [List.reverse_append, hlast, List.cons_append,
      List.dropWhile_cons_of_neg (by rw [(hpath last hmem).1]; exact Bool.false_ne_true),
      ← List.cons_append, ← hlast, ← List.reverse_append, List.reverse_reverse]
  -- what was cut off at the end of the text alone now stands before the path
  have hsplit : inner = (inner.reverse.dropWhile isEdge).reverse ++
      (inner.reverse.takeWhile isEdge).reverse := by
    rw [← List.reverse_append, List.takeWhile_append_dropWhile, List.reverse_reverse]
  have hkept : path.filter isKept = path := List.filter_eq_self.mpr fun c hc => (hpath c hc).2
  refine ⟨((inner.reverse.takeWhile isEdge).reverse).filter isKept, ?_, ?_, ?_⟩
  · intro c hc
    exact List.mem_takeWhile_imp (List.mem_reverse.mp (List.mem_filter.mp hc).1)
  · rw [cleaned_eq, hfront, hback, List.filter_append, hkept, cleaned_eq, ← hinner,
      ← List.append_assoc, ← List.filter_append, ← hsplit]
  · intro hend
    obtain ⟨last, before, hlast⟩ := List.exists_cons_of_ne_nil (List.reverse_ne_nil_iff.mpr hsome)
    have hend' : cs.getLast? = some last := by
      rw [← List.takeWhile_append_dropWhile (p := isEdge) (l := cs), ← hinner,
        List.getLast?_append, ← List.head?_reverse, hlast]
      rfl
    rw [hend', Option.any_some] at hend
    rw [hlast, List.takeWhile_cons_of_neg (by rw [hend]; exact Bool.false_ne_true)]
    rfl

/--
An address ends with its host: behind the slashes that follow its scheme there is no slash, no
question mark and no number sign, so that it has no path and nothing that could follow one.
-/
def EndsWithHost (base : String) : Prop :=
  ∃ scheme rest, readScheme? (cleaned base.toList) = some (scheme, rest) ∧
    rest.dropWhile (isSlash .web) ≠ [] ∧ NamesHost (rest.dropWhile (isSlash .web))

/-- A path and a query of which every character is sent as it is written. -/
structure SentAsWritten (route query : List Char) : Prop where
  slash : route.head? = some '/'
  route_plain : ∀ c ∈ route, isPathPlain c = true
  route_kept : normalPath .web route = route
  query_plain : ∀ c ∈ query, isQueryPlain .web c = true

section Sent

variable {route query : List Char} {base scheme text : String} {rest : List Char} {u : Url}

theorem of_printable {c : Char} (h : 0x20 < c.toNat) : isEdge c = false ∧ isKept c = true := by
  constructor
  · exact decide_eq_false (Nat.not_le.mpr h)
  · have hne (other : Char) (hother : other.toNat ≤ 0x20) : (c != other) = true := by
      apply bne_iff_ne.mpr
      rintro rfl
      exact absurd h (Nat.not_lt.mpr hother)
    simp only [isKept, hne '\t' (by decide), hne '\n' (by decide), hne '\r' (by decide),
      Bool.and_self]

theorem of_isPathPlain {c : Char} (h : isPathPlain c = true) :
    0x20 < c.toNat ∧ c ≠ '#' ∧ c ≠ '?' := by
  simp only [isPathPlain, Bool.and_eq_true, decide_eq_true_eq] at h
  refine ⟨h.1.1, ?_, ?_⟩
  · rintro rfl
    exact absurd h.2 (by decide)
  · rintro rfl
    exact absurd h.2 (by decide)

theorem of_isQueryPlain {c : Char} (h : isQueryPlain .web c = true) :
    0x20 < c.toNat ∧ c ≠ '#' := by
  simp only [isQueryPlain, Bool.and_eq_true, decide_eq_true_eq] at h
  refine ⟨h.1.1.1, ?_⟩
  rintro rfl
  exact absurd h.1.2 (by decide)

/-- A path and a query hold no character that is cut off or left out. -/
theorem SentAsWritten.printable (h : SentAsWritten route query) :
    ∀ c ∈ route ++ '?' :: query, 0x20 < c.toNat := by
  intro c hc
  rcases List.mem_append.mp hc with hroute | hquery
  · exact (of_isPathPlain (h.route_plain c hroute)).1
  · rcases List.mem_cons.mp hquery with rfl | hquery
    · decide
    · exact (of_isQueryPlain (h.query_plain c hquery)).1

theorem SentAsWritten.no_fragment (h : SentAsWritten route query) :
    ∀ c ∈ route ++ '?' :: query, c ≠ '#' := by
  intro c hc
  rcases List.mem_append.mp hc with hroute | hquery
  · exact (of_isPathPlain (h.route_plain c hroute)).2.1
  · rcases List.mem_cons.mp hquery with rfl | hquery
    · decide
    · exact (of_isQueryPlain (h.query_plain c hquery)).2

theorem SentAsWritten.exists_tail (h : SentAsWritten route query) :
    ∃ tail, route ++ '?' :: query = '/' :: tail := by
  obtain ⟨tail, rfl⟩ := List.head?_eq_some_iff.mp h.slash
  exact ⟨tail ++ '?' :: query, rfl⟩

/-- Behind an authority, the path and the query are what is asked of the host. -/
theorem target_complete (hweb : kindOf scheme = .web) (authority : Authority)
    (h : SentAsWritten route query) :
    (complete scheme authority (route ++ '?' :: query)).target =
      String.ofList (route ++ '?' :: query) := by
  have hhash : (route ++ '?' :: query).takeWhile (fun c => decide (c ≠ '#')) =
      route ++ '?' :: query :=
    List.takeWhile_eq_self_iff.mpr fun c hc => decide_eq_true (h.no_fragment c hc)
  have hmark : '?' ∉ route := fun hmem => (of_isPathPlain (h.route_plain '?' hmem)).2.2 rfl
  have hother : (UrlKind.web == UrlKind.other) = false := rfl
  simp only [complete, target, hweb, hhash, Text.Percent.takeWhile_ne_append hmark,
    Text.Percent.dropWhile_ne_append hmark, hother, Bool.false_and, Bool.false_eq_true, if_false,
    h.route_kept, Text.Percent.encodeWith_eq_self h.query_plain, Option.elim_some]
  rw [← String.toList_inj]
  simp

theorem read_web (h : readScheme? (cleaned text.toList) = some (scheme, rest))
    (hweb : kindOf scheme = .web) :
    read text = (readAuthority .web (rest.dropWhile (isSlash .web))).map
      fun (authority, after) => complete scheme authority after := by
  unfold read
  simp only [h, hweb, bind, Except.bind, pure, Except.pure]
  cases readAuthority .web (rest.dropWhile (isSlash .web)) <;> rfl

/-- An address has the scheme that it begins with. -/
theorem scheme_of_read (h : readScheme? (cleaned text.toList) = some (scheme, rest))
    (hread : read text = .ok u) : u.scheme = scheme := by
  have hcomplete (named : Except UrlFault (Authority × List Char))
      (hu : (named.bind fun (authority, after) => .ok (complete scheme authority after)) = .ok u) :
      u.scheme = scheme := by
    cases named with
    | error fault => cases hu
    | ok parts =>
      obtain rfl := Except.ok.inj hu
      rfl
  unfold read at hread
  simp only [h, bind, pure, Except.pure] at hread
  split at hread
  · exact hcomplete _ hread
  · exact hcomplete _ hread
  · exact hcomplete _ hread
  · exact hcomplete (.ok (.none, _)) hread

theorem endsAuthority_of_isEdge {c : Char} (h : isEdge c = true) :
    endsAuthority .web c = false := by
  have hne (mark : Char) (hmark : 0x20 < mark.toNat) : (c == mark) = false := by
    apply beq_eq_false_iff_ne.mpr
    rintro rfl
    exact absurd (of_decide_eq_true h) (Nat.not_le.mpr hmark)
  simp only [endsAuthority, isSlash, hne '/' (by decide), hne '\\' (by decide),
    hne '?' (by decide), hne '#' (by decide), Bool.and_false, Bool.or_self]

/-- How an address with a path and a query behind its host falls into parts. -/
theorem exists_parts (hbase : EndsWithHost base) (h : SentAsWritten route query) :
    ∃ scheme rest hosted more, readScheme? (cleaned base.toList) = some (scheme, rest) ∧
      readScheme? (cleaned (base ++ String.ofList (route ++ '?' :: query)).toList) =
        some (scheme, more) ∧
      more.dropWhile (isSlash .web) = hosted ++ (route ++ '?' :: query) ∧ NamesHost hosted ∧
      (base.toList.getLast?.any isEdge = false → hosted = rest.dropWhile (isSlash .web)) := by
  obtain ⟨scheme, rest, hscheme, hsome, hnames⟩ := hbase
  have hcleaned : cleaned base.toList ≠ [] := by
    intro hnil
    rw [hnil] at hscheme
    cases hscheme
  obtain ⟨blanks, hblanks, heq, hnone⟩ := exists_cleaned_append hcleaned
    (fun c hc => of_printable (h.printable c hc))
    (List.append_ne_nil_of_right_ne_nil route (by simp))
  obtain ⟨first, others, hfirst⟩ := List.exists_cons_of_ne_nil hsome
  refine ⟨scheme, rest, rest.dropWhile (isSlash .web) ++ blanks,
    rest ++ (blanks ++ (route ++ '?' :: query)), hscheme, ?_, ?_, ?_, ?_⟩
  · rw [String.toList_append, String.toList_ofList, heq]
    exact readScheme?_append hscheme _
  · rw [(while_append hfirst _).1, hfirst, List.cons_append, List.cons_append, List.append_assoc]
  · intro c hc
    rcases List.mem_append.mp hc with hnamed | hblank
    · exact hnames c hnamed
    · exact endsAuthority_of_isEdge (hblanks c hblank)
  · intro hend
    rw [hnone hend, List.append_nil]

/-- What is asked of the host is the path and the query that were put behind an address. -/
theorem target_of_read (hbase : EndsWithHost base) (h : SentAsWritten route query)
    (hread : read (base ++ String.ofList (route ++ '?' :: query)) = .ok u)
    (hweb : kindOf u.scheme = .web) : u.target = String.ofList (route ++ '?' :: query) := by
  obtain ⟨scheme, rest, hosted, more, -, hscheme, hmore, hnames, -⟩ := exists_parts hbase h
  rw [scheme_of_read hscheme hread] at hweb
  obtain ⟨tail, hslash⟩ := h.exists_tail
  rw [read_web hscheme hweb, hmore, hslash, readAuthority_append hnames] at hread
  cases hnamed : readAuthority .web hosted with
  | error fault =>
    rw [hnamed] at hread
    cases hread
  | ok parts =>
    obtain ⟨authority, left⟩ := parts
    obtain rfl := hnames.readAuthority hnamed
    rw [hnamed] at hread
    obtain rfl := Except.ok.inj hread
    show (complete scheme authority ('/' :: tail)).target = String.ofList (route ++ '?' :: query)
    rw [← hslash]
    exact target_complete hweb authority h

/-- With a path and a query behind it, an address is read as before up to its host. -/
theorem exists_read_append {b : Url} (hbase : EndsWithHost base) (h : SentAsWritten route query)
    (hread : read base = .ok b) (hweb : kindOf b.scheme = .web)
    (hend : base.toList.getLast?.any isEdge = false) :
    ∃ u, read (base ++ String.ofList (route ++ '?' :: query)) = .ok u ∧
      u = { b with path := u.path, query := u.query } := by
  obtain ⟨scheme, rest, hosted, more, halone, hscheme, hmore, hnames, hsame⟩ :=
    exists_parts hbase h
  rw [scheme_of_read halone hread] at hweb
  obtain ⟨tail, hslash⟩ := h.exists_tail
  rw [read_web halone hweb, ← hsame hend] at hread
  rw [read_web hscheme hweb, hmore, hslash, readAuthority_append hnames]
  cases hnamed : readAuthority .web hosted with
  | error fault =>
    rw [hnamed] at hread
    cases hread
  | ok parts =>
    obtain ⟨authority, left⟩ := parts
    rw [hnamed] at hread
    obtain rfl := Except.ok.inj hread
    exact ⟨_, rfl, rfl⟩

end Sent

/-- A query keeps the characters that are written for its parameters. -/
theorem isQueryPlain_of_mem_query {written : List (List Char × List Char)} {c : Char}
    (h : c ∈ Text.Percent.query written) : isQueryPlain .web c = true := by
  have hsmall : ∀ n < 128, Text.Percent.isUnreserved (Char.ofNat n) = true →
      isQueryPlain .web (Char.ofNat n) = true := by decide
  rcases Text.Percent.of_mem_query h with hplain | rfl | rfl | rfl
  · have hcode := hsmall c.toNat (Text.Percent.toNat_lt_of_isUnreserved hplain)
    rw [Char.ofNat_toNat] at hcode
    exact hcode hplain
  · decide
  · decide
  · decide

end Url

namespace Url

/-! ## Paths with a query -/

/-- A text is a path and a query that are sent as they are written. -/
def Verbatim (text : String) : Prop :=
  ∃ route query, text = String.ofList (route ++ '?' :: query) ∧ SentAsWritten route query

/-- The parameters behind the first question mark of a text, without their escapes. -/
def parametersOf (text : String) : List (List Char × List Char) :=
  Text.Percent.parameters (Text.Percent.splitAtFirst '?' text.toList).2

/-- A path with parameters has these parameters, and it is sent as it is written. -/
theorem verbatim_and_parametersOf {route : List Char} {written : List (List Char × List Char)}
    (h : SentAsWritten route (Text.Percent.query written)) (hne : written ≠ []) :
    let text := String.ofList (route ++ '?' :: Text.Percent.query written)
    Verbatim text ∧ parametersOf text = written := by
  have hmark : '?' ∉ route := fun hmem => (of_isPathPlain (h.route_plain '?' hmem)).2.2 rfl
  refine ⟨⟨route, _, rfl, h⟩, ?_⟩
  rw [parametersOf, String.toList_ofList, Text.Percent.splitAtFirst_append hmark]
  exact Text.Percent.parameters_query hne

/-- An address of the web that ends with its host is read, and no blank stands at its end. -/
structure IsHost (base : String) (b : Url) : Prop where
  read_eq : read base = .ok b
  http : b.scheme = "http" ∨ b.scheme = "https"
  ends : EndsWithHost base
  no_blank : base.toList.getLast?.any isEdge = false

end Url

namespace Network

variable {σ : Type} {n : Network σ} {base path : String} {b : Url}

/-! ## What is sent for a document -/

/-- The outcome of sending a request. -/
def answer (n : Network σ) (url : Url) (headers : Headers) (x : σ) :
    Except ServiceError Json × σ :=
  ((n.get url headers x).1.document, (n.get url headers x).2)

/-- What comes of asking for a document: an error at once, or the answer to one request. -/
inductive AsksOnce (n : Network σ) (Sent : Url → Headers → Prop) (x : σ) :
    Except ServiceError Json × σ → Prop where
  | unsent (e : ServiceError) : AsksOnce n Sent x (.error e, x)
  | sent {url : Url} {headers : Headers} (h : Sent url headers) :
      AsksOnce n Sent x (n.answer url headers x)

theorem AsksOnce.mono {Sent Other : Url → Headers → Prop} {x : σ}
    {outcome : Except ServiceError Json × σ} (h : n.AsksOnce Sent x outcome)
    (hall : ∀ url headers, Sent url headers → Other url headers) : n.AsksOnce Other x outcome := by
  cases h with
  | unsent e => exact .unsent e
  | sent hsent => exact .sent (hall _ _ hsent)

theorem kindOf_of_http {scheme : String} (h : scheme = "http" ∨ scheme = "https") :
    Url.kindOf scheme = .web := by
  rcases h with rfl | rfl
  · decide
  · decide

/-- Behind an address that ends with its host, a path is what is asked of the host. -/
theorem asksOnce_getJson (hbase : Url.EndsWithHost base) (h : Url.Verbatim path)
    (headers : Headers) (x : σ) :
    n.AsksOnce (fun url sent => url.target = path ∧ sent = headers) x
      (n.getJson (base ++ path) headers x) := by
  obtain ⟨route, query, rfl, hsent⟩ := h
  unfold getJson
  cases hread : Url.read (base ++ String.ofList (route ++ '?' :: query)) with
  | error fault => exact .unsent _
  | ok url =>
    dsimp only
    split_ifs with hcan
    · have htarget := Url.target_of_read hbase hsent hread (kindOf_of_http hcan.1)
      exact .sent ⟨htarget, rfl⟩
    · exact .unsent _

/-- A request to the host of an address is sent, unless a header cannot be. -/
theorem getJson_eq_answer (hbase : Url.IsHost base b) (h : Url.Verbatim path) (headers : Headers)
    (hheaders : headers.all (fun (_, v) => isHeaderText v) = true) (x : σ) :
    ∃ url, url = { b with path := url.path, query := url.query } ∧ url.target = path ∧
      n.getJson (base ++ path) headers x = n.answer url headers x := by
  obtain ⟨route, query, rfl, hsent⟩ := h
  have hweb := kindOf_of_http hbase.http
  obtain ⟨url, hread, hsame⟩ :=
    Url.exists_read_append hbase.ends hsent hbase.read_eq hweb hbase.no_blank
  have hscheme : url.scheme = b.scheme := by rw [hsame]
  refine ⟨url, hsame, ?_, ?_⟩
  · exact Url.target_of_read hbase.ends hsent hread (hscheme ▸ hweb)
  · have hcan : (url.scheme = "http" ∨ url.scheme = "https") ∧
        headers.all (fun (_, v) => isHeaderText v) = true := ⟨hscheme ▸ hbase.http, hheaders⟩
    unfold getJson
    simp only [hread, if_pos hcan]
    rfl

end Network

/-! ## Signatures as headers -/

theorem isHeaderText_ofList {cs : List Char} (h : ∀ c ∈ cs, 0x20 ≤ c.toNat ∧ c.toNat < 0x7F) :
    isHeaderText (String.ofList cs) = true := by
  unfold isHeaderText
  rw [String.toList_ofList, List.all_eq_true]
  intro c hc
  obtain ⟨hge, hlt⟩ := h c hc
  simp [hge, Nat.ne_of_lt hlt]

theorem isHeaderText_timeText (time : Int) : isHeaderText (Signature.timeText time) = true := by
  have hdigits : ∀ c ∈ Nat.toDigits 10 time.natAbs, 0x20 ≤ c.toNat ∧ c.toNat < 0x7F := by
    intro c hc
    have hdigit := Nat.isDigit_of_mem_toDigits (by decide) (by decide) hc
    simp only [Char.isDigit, Bool.and_eq_true, decide_eq_true_eq, ge_iff_le,
      UInt32.le_iff_toNat_le] at hdigit
    exact ⟨Nat.le_trans (by decide) hdigit.1, Nat.lt_of_le_of_lt hdigit.2 (by decide)⟩
  apply isHeaderText_ofList
  unfold Text.signedDigits
  split
  · exact List.forall_mem_cons.mpr ⟨by decide, hdigits⟩
  · exact hdigits

theorem isHeaderText_hexOfBytes (bytes : List UInt8) :
    isHeaderText (String.ofList (Text.hexOfBytes bytes)) = true := by
  have hdigit : ∀ d < 16, 0x20 ≤ (Nat.digitChar d).toNat ∧ (Nat.digitChar d).toNat < 0x7F := by
    decide
  apply isHeaderText_ofList
  intro c hc
  obtain ⟨b, -, hmem⟩ := List.mem_flatMap.mp hc
  simp only [Text.hexDigits, List.nil_append, List.singleton_append, List.mem_cons,
    List.not_mem_nil, or_false] at hmem
  rcases hmem with rfl | rfl
  · exact hdigit _ (Nat.mod_lt _ (by decide))
  · exact hdigit _ (Nat.mod_lt _ (by decide))

theorem isHeaderText_base64 (bytes : List UInt8) :
    isHeaderText (String.ofList (Text.Base64.encode bytes)) = true := by
  have hsymbol (value : Nat) : 0x20 ≤ (Text.Base64.symbol value).toNat ∧
      (Text.Base64.symbol value).toNat < 0x7F := by
    have halphabet : Text.Base64.alphabet.all
        (fun c => decide (0x20 ≤ c.toNat ∧ c.toNat < 0x7F)) = true := by decide
    unfold Text.Base64.symbol
    rw [List.getD_eq_getElem?_getD]
    cases hvalue : Text.Base64.alphabet[value]? with
    | none => decide
    | some c =>
      have hmem := List.mem_of_getElem? hvalue
      exact of_decide_eq_true (List.all_eq_true.mp halphabet c hmem)
  apply isHeaderText_ofList
  fun_induction Text.Base64.encode bytes with
  | case1 a b c rest n ih => simp only [List.forall_mem_cons, hsymbol, true_and]; exact ih
  | case2 a b n => simp [hsymbol]
  | case3 a n => simp [hsymbol]
  | case4 => simp

/-! ## Requests of the services -/

namespace PortfolioService

/-- The path that details are asked for at. -/
def detailRoute : List Char := "/api/v1/fundv3/openapi/portfolio/get-portfolio-detail".toList

/-- The parameters of a request for a detail. -/
def detailParameters (fund : String) : List (List Char × List Char) :=
  [("fund_name".toList, Text.trim fund.toList)]

theorem detailPath_eq (fund : String) :
    detailPath fund =
      String.ofList (detailRoute ++ '?' :: Text.Percent.query (detailParameters fund)) := by
  have hname : Text.Percent.encode "fund_name".toList = "fund_name".toList := by decide
  have hroute : "/api/v1/fundv3/openapi/portfolio/get-portfolio-detail?fund_name=".toList =
      detailRoute ++ '?' :: ("fund_name".toList ++ ['=']) := by decide
  unfold detailPath detailParameters
  rw [Text.Percent.query_singleton, hname]
  generalize Text.Percent.encode (Text.trim fund.toList) = value
  rw [← String.toList_inj, String.toList_append, String.toList_ofList (l := value), hroute,
    String.toList_ofList (l := detailRoute ++ _)]
  simp only [List.append_assoc, List.cons_append, List.nil_append]

theorem sentAsWritten_detail (fund : String) :
    Url.SentAsWritten detailRoute (Text.Percent.query (detailParameters fund)) where
  slash := by decide
  route_plain := List.all_eq_true.mp (by decide)
  route_kept := by decide
  query_plain c hc := Url.isQueryPlain_of_mem_query hc

/-- A detail is asked for with the trimmed name of its fund as the only parameter. -/
theorem verbatim_detailPath (fund : String) :
    Url.Verbatim (detailPath fund) ∧
      Url.parametersOf (detailPath fund) = detailParameters fund := by
  rw [detailPath_eq]
  exact Url.verbatim_and_parametersOf (sentAsWritten_detail fund) (List.cons_ne_nil _ _)

variable {σ : Type}

/-- A request that asks for a path and is signed over just what it asks for. -/
def Signs (p : PortfolioService σ) (time : Int) (path : String) (url : Url) (headers : Headers) :
    Prop :=
  url.target = path ∧ ∃ signature,
    Signature.forPortfolios p.secret "GET" url.target time "" = .ok signature ∧
      headers = [("Api-Key", p.apiKey), ("Api-Signature", signature),
        ("Api-Timestamp", Signature.timeText time)]

/-- A service that can ask: its address ends with its host, and its credentials are well formed. -/
structure CanAsk (p : PortfolioService σ) (b : Url) : Prop where
  host : Url.IsHost (withoutTrailingSlashes p.address) b
  apiKey : isHeaderText p.apiKey = true
  secret : ∃ key, Text.Base64.decode (Text.utf8 (Text.trimmed p.secret)) = .ok key

theorem asksOnce_signedGet {p : PortfolioService σ} {path : String}
    (hbase : Url.EndsWithHost (withoutTrailingSlashes p.address)) (h : Url.Verbatim path) (x : σ) :
    p.network.AsksOnce (p.Signs (p.clock x).1.secs path) (p.clock x).2 (p.signedGet path x) := by
  unfold signedGet
  generalize p.clock x = now
  dsimp only
  cases hsigned : Signature.forPortfolios p.secret "GET" path now.1.secs "" with
  | error e => exact .unsent e
  | ok signature =>
    apply (Network.asksOnce_getJson hbase h _ now.2).mono
    rintro url headers ⟨htarget, rfl⟩
    exact ⟨htarget, signature, htarget.symm ▸ hsigned, rfl⟩

theorem exists_signedGet_eq_answer {p : PortfolioService σ} {b : Url} {path : String}
    (hp : p.CanAsk b) (h : Url.Verbatim path) (x : σ) :
    ∃ url headers, url = { b with path := url.path, query := url.query } ∧
      p.Signs (p.clock x).1.secs path url headers ∧
      p.signedGet path x = p.network.answer url headers (p.clock x).2 := by
  obtain ⟨key, hkey⟩ := hp.secret
  unfold signedGet
  generalize p.clock x = now
  have hsigned : ∃ bytes, Signature.forPortfolios p.secret "GET" path now.1.secs "" =
      .ok (String.ofList (Text.Base64.encode bytes)) := by
    unfold Signature.forPortfolios
    rw [hkey]
    exact ⟨_, rfl⟩
  obtain ⟨bytes, hsigned⟩ := hsigned
  obtain ⟨url, hsame, htarget, hanswer⟩ := Network.getJson_eq_answer hp.host h
    [("Api-Key", p.apiKey), ("Api-Signature", String.ofList (Text.Base64.encode bytes)),
      ("Api-Timestamp", Signature.timeText now.1.secs)]
    (by simp [hp.apiKey, isHeaderText_base64, isHeaderText_timeText]) now.2
  refine ⟨url, _, hsame, ⟨htarget, _, htarget.symm ▸ hsigned, rfl⟩, ?_⟩
  simp only [hsigned]
  exact hanswer

end PortfolioService

namespace CustodyService

/-- The path that the assets of a wallet are asked for at. -/
def assetRoute : List Char := "/open-api/v1/wallet/asset/list".toList

/-- The parameters of a request for the assets of a wallet. -/
def assetParameters (wallet : String) : List (List Char × List Char) :=
  [("walletId".toList, Text.trim wallet.toList), ("pageNo".toList, "1".toList),
    ("pageLimit".toList, "500".toList)]

theorem assetPath_eq (wallet : String) :
    assetPath wallet =
      String.ofList (assetRoute ++ '?' :: Text.Percent.query (assetParameters wallet)) := by
  have hplain : ∀ text ∈ ["walletId", "pageNo", "1", "pageLimit", "500"],
      Text.Percent.encode text.toList = text.toList := by decide
  have hroute : "/open-api/v1/wallet/asset/list?walletId=".toList =
      assetRoute ++ '?' :: ("walletId".toList ++ ['=']) := by decide
  have hpage : "&pageNo=1&pageLimit=500".toList = '&' :: ("pageNo".toList ++
      '=' :: ("1".toList ++ '&' :: ("pageLimit".toList ++ '=' :: "500".toList))) := by decide
  unfold assetPath assetParameters
  rw [Text.Percent.query_cons_cons, Text.Percent.query_cons_cons, Text.Percent.query_singleton,
    hplain "walletId" (by simp), hplain "pageNo" (by simp), hplain "1" (by simp),
    hplain "pageLimit" (by simp), hplain "500" (by simp)]
  generalize Text.Percent.encode (Text.trim wallet.toList) = value
  rw [← String.toList_inj, String.toList_append, String.toList_append,
    String.toList_ofList (l := value), hroute, hpage, String.toList_ofList (l := assetRoute ++ _)]
  simp only [List.append_assoc, List.cons_append, List.nil_append]

theorem sentAsWritten_assets (wallet : String) :
    Url.SentAsWritten assetRoute (Text.Percent.query (assetParameters wallet)) where
  slash := by decide
  route_plain := List.all_eq_true.mp (by decide)
  route_kept := by decide
  query_plain c hc := Url.isQueryPlain_of_mem_query hc

/-- Assets are asked for with the trimmed name of their wallet and the numbers of the page. -/
theorem verbatim_assetPath (wallet : String) :
    Url.Verbatim (assetPath wallet) ∧
      Url.parametersOf (assetPath wallet) = assetParameters wallet := by
  rw [assetPath_eq]
  exact Url.verbatim_and_parametersOf (sentAsWritten_assets wallet) (List.cons_ne_nil _ _)

variable {σ : Type}

/-- A request that asks for a path and is signed over just what it asks for. -/
def Signs (c : CustodyService σ) (time : Int) (path : String) (url : Url) (headers : Headers) :
    Prop :=
  url.target = path ∧
    headers = [("X-CEFFU-APIKEY", c.apiKey), ("X-CEFFU-TIMESTAMP", Signature.timeText time),
      ("X-CEFFU-SIGNATURE", Signature.forCustody c.secret time "GET" url.target "")]

/-- A service that can ask: its address ends with its host, and its key can be sent. -/
structure CanAsk (c : CustodyService σ) (b : Url) : Prop where
  host : Url.IsHost (withoutTrailingSlashes c.address) b
  apiKey : isHeaderText c.apiKey = true

theorem asksOnce_signedGet {c : CustodyService σ} {path : String}
    (hbase : Url.EndsWithHost (withoutTrailingSlashes c.address)) (h : Url.Verbatim path) (x : σ) :
    c.network.AsksOnce (c.Signs (milliseconds (c.clock x).1) path) (c.clock x).2
      (c.signedGet path x) := by
  unfold signedGet
  generalize c.clock x = now
  apply (Network.asksOnce_getJson hbase h _ now.2).mono
  rintro url headers ⟨htarget, rfl⟩
  exact ⟨htarget, by rw [htarget]⟩

theorem exists_signedGet_eq_answer {c : CustodyService σ} {b : Url} {path : String}
    (hc : c.CanAsk b) (h : Url.Verbatim path) (x : σ) :
    ∃ url headers, url = { b with path := url.path, query := url.query } ∧
      c.Signs (milliseconds (c.clock x).1) path url headers ∧
      c.signedGet path x = c.network.answer url headers (c.clock x).2 := by
  unfold signedGet
  generalize c.clock x = now
  obtain ⟨url, hsame, htarget, hanswer⟩ := Network.getJson_eq_answer hc.host h
    [("X-CEFFU-APIKEY", c.apiKey),
      ("X-CEFFU-TIMESTAMP", Signature.timeText (milliseconds now.1)),
      ("X-CEFFU-SIGNATURE", Signature.forCustody c.secret (milliseconds now.1) "GET" path "")]
    (by simp [hc.apiKey, Signature.forCustody, isHeaderText_hexOfBytes, isHeaderText_timeText])
    now.2
  exact ⟨url, _, hsame, ⟨htarget, by rw [htarget]⟩, hanswer⟩

end CustodyService

/-! ## Names in requests -/

/-- A point is recorded under the name that its detail was asked for. -/
theorem PortfolioPoint.fundName_ofDetail (summary : PortfolioSummary) (detail : Json)
    (time : Instant) :
    Url.parametersOf (PortfolioService.detailPath summary.fundName) =
      [("fund_name".toList, (ofDetail summary detail time).fundName.toList)] := by
  have hname : (ofDetail summary detail time).fundName.toList = Text.trim summary.fundName.toList :=
    String.toList_ofList
  rw [hname]
  exact (PortfolioService.verbatim_detailPath summary.fundName).2

/--
No name alters a signed request. Whatever a name holds, the request for the detail of a fund has
one parameter, the trimmed name, and the request for the assets of a wallet has it before the two
numbers of the page; both are sent as they are written. So where the address of a service ends with
its host, every request that is sent at all asks for what its signature is made over, and it is sent
if the credentials are well formed. The points of a collection are recorded under the names that
their details were asked for.
-/
theorem no_name_alters_request {σ : Type} (p : PortfolioService σ) (c : CustodyService σ) :
    (∀ fund, Url.Verbatim (PortfolioService.detailPath fund) ∧
      Url.parametersOf (PortfolioService.detailPath fund) =
        [("fund_name".toList, Text.trim fund.toList)]) ∧
    (∀ wallet, Url.Verbatim (CustodyService.assetPath wallet) ∧
      Url.parametersOf (CustodyService.assetPath wallet) =
        [("walletId".toList, Text.trim wallet.toList), ("pageNo".toList, "1".toList),
          ("pageLimit".toList, "500".toList)]) ∧
    (∀ fund x, let (now, y) := p.clock x
      (Url.EndsWithHost (withoutTrailingSlashes p.address) →
        p.network.AsksOnce (p.Signs now.secs (PortfolioService.detailPath fund)) y
          (p.detail fund x)) ∧
      ∀ b, p.CanAsk b → ∃ url headers, url = { b with path := url.path, query := url.query } ∧
        p.Signs now.secs (PortfolioService.detailPath fund) url headers ∧
        p.detail fund x = p.network.answer url headers y) ∧
    (∀ wallet x, let (now, y) := c.clock x
      (Url.EndsWithHost (withoutTrailingSlashes c.address) →
        c.network.AsksOnce
          (c.Signs (CustodyService.milliseconds now) (CustodyService.assetPath wallet)) y
          (c.signedGet (CustodyService.assetPath wallet) x)) ∧
      ∀ b, c.CanAsk b → ∃ url headers, url = { b with path := url.path, query := url.query } ∧
        c.Signs (CustodyService.milliseconds now) (CustodyService.assetPath wallet) url headers ∧
        c.signedGet (CustodyService.assetPath wallet) x = c.network.answer url headers y) ∧
    ∀ k : PortfolioCollector σ, k.api = p.api → ∀ time x points,
      (k.collect time x).1.outcome = .ok points → ∀ point ∈ points,
        ∃ summary detail y z,
          p.signedGet (PortfolioService.detailPath summary.fundName) y = (.ok detail, z) ∧
          point = .ofDetail summary detail time ∧
          Url.parametersOf (PortfolioService.detailPath summary.fundName) =
            [("fund_name".toList, point.fundName.toList)] ∧
          ∀ tag stamp record, point.toRecord? tag stamp = some record →
            record.subjectKey = point.fundName := by
  refine ⟨PortfolioService.verbatim_detailPath, CustodyService.verbatim_assetPath, ?_, ?_, ?_⟩
  · intro fund x
    have hpath := (PortfolioService.verbatim_detailPath fund).1
    constructor
    · intro hbase
      exact PortfolioService.asksOnce_signedGet hbase hpath x
    · intro b hp
      exact PortfolioService.exists_signedGet_eq_answer hp hpath x
  · intro wallet x
    have hpath := (CustodyService.verbatim_assetPath wallet).1
    constructor
    · intro hbase
      exact CustodyService.asksOnce_signedGet hbase hpath x
    · intro b hc
      exact CustodyService.exists_signedGet_eq_answer hc hpath x
  · intro k hk time x points houtcome point hmem
    obtain ⟨summary, detail, y, z, hdetail, rfl⟩ :=
      PortfolioCollector.exists_detail_of_mem houtcome point hmem
    rw [hk] at hdetail
    refine ⟨summary, detail, y, z, hdetail, rfl, PortfolioPoint.fundName_ofDetail _ _ _, ?_⟩
    intro tag stamp record hrecord
    obtain ⟨profit, -, rfl⟩ := Option.map_eq_some_iff.mp hrecord
    rfl

/--
A fund and a wallet with marks in their name, blanks around it and a letter of two bytes: one
request is sent for each, with the name as a value, and the point of the fund bears the name.
-/
theorem marked_names_requested :
    let name := "R&D=50%/\u00e9?"
    let network : Network (List String) :=
      ⟨fun url _ sent => (.answered 200 (Text.utf8 (if url.query.isSome then "\x7b\"pnl\": 7\x7d"
        else "\x7b\"data\": \x7b\"result\": [\x7b\"name\": \" R&D=50%/\u00e9? \"\x7d]\x7d\x7d")),
        sent ++ [url.target])⟩
    let p : PortfolioService (List String) :=
      ⟨network, fun sent => (.epoch, sent), "https://[::1]/", "key", "c2VjcmV0"⟩
    let c : CustodyService (List String) :=
      ⟨network, fun sent => (.epoch, sent), "http://[::1]:8443", "key", "secret"⟩
    let storage : Storage (List String) :=
      ⟨fun _ sent => (.ok [], sent), fun _ sent => (.ok false, sent), fun sent => (default, sent)⟩
    let k : PortfolioCollector (List String) := ⟨"portfolio", p.api, storage, "1token"⟩
    (p.detail (" " ++ name) []).2 = [PortfolioService.detailPath (" " ++ name)] ∧
      (c.signedGet (CustodyService.assetPath name) []).2 = [CustodyService.assetPath name] ∧
      Url.parametersOf (CustodyService.assetPath name) = [("walletId".toList, name.toList),
        ("pageNo".toList, "1".toList), ("pageLimit".toList, "500".toList)] ∧
      ∃ point, (k.collect .epoch []).1.outcome = .ok [point] ∧ point.fundName = name ∧
        ∃ (summary : PortfolioSummary) (detail : Json) (y z : List String),
          p.signedGet (PortfolioService.detailPath summary.fundName) y = (.ok detail, z) ∧
          Url.parametersOf (PortfolioService.detailPath summary.fundName) =
            [("fund_name".toList, name.toList)] := by
  intro name network p c storage k
  obtain ⟨-, hassets, hfunds, hcustody, hpoints⟩ := no_name_alters_request p c
  have hp : ∃ b, p.CanAsk b :=
    ⟨⟨"https", "", "", "[::1]", none, "/", none⟩,
      ⟨by decide +kernel, .inr rfl, ⟨"https", "//[::1]".toList, by decide +kernel,
        by decide +kernel, by decide +kernel⟩, by decide +kernel⟩,
      by decide, "secret".toUTF8.toList, by decide +kernel⟩
  have hc : ∃ b, c.CanAsk b :=
    ⟨⟨"http", "", "", "[::1]", some 8443, "/", none⟩,
      ⟨by decide +kernel, .inl rfl, ⟨"http", "//[::1]:8443".toList, by decide +kernel,
        by decide +kernel, by decide +kernel⟩, by decide +kernel⟩, by decide⟩
  obtain ⟨b, hb⟩ := hp
  obtain ⟨b', hb'⟩ := hc
  refine ⟨?_, ?_, ?_, ?_⟩
  · obtain ⟨url, headers, -, ⟨htarget, -⟩, hanswer⟩ := (hfunds (" " ++ name) []).2 b hb
    rw [hanswer, ← htarget]
    rfl
  · obtain ⟨url, headers, -, ⟨htarget, -⟩, hanswer⟩ := (hcustody name []).2 b' hb'
    rw [hanswer, ← htarget]
    rfl
  · rw [(hassets name).2]
    decide +kernel
  · have hnames : (k.collect .epoch []).1.outcome.toOption.map
        (fun points => points.map PortfolioPoint.fundName) = some [name] := by decide +kernel
    cases houtcome : (k.collect .epoch []).1.outcome with
    | error e =>
      rw [houtcome] at hnames
      cases hnames
    | ok points =>
      rw [houtcome] at hnames
      obtain ⟨point, rfl, hname⟩ := List.map_eq_singleton_iff.mp (Option.some.inj hnames)
      obtain ⟨summary, detail, y, z, hdetail, -, hasked, -⟩ :=
        hpoints k rfl .epoch [] [point] houtcome point List.mem_cons_self
      exact ⟨point, rfl, hname, summary, detail, y, z, hdetail, hname ▸ hasked⟩

end HourlySnapshots
