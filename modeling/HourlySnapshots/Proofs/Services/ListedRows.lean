import HourlySnapshots.Proofs.Format.OrderedFields
import HourlySnapshots.Services.CustodyService
import HourlySnapshots.Services.PortfolioService

/-!
# Rows that are read one by one

A list in a reply is read row by row. Whatever stands in the list of an accepted reply, rows that
follow others give what they give on their own, and the list as a whole is never refused for one of
its rows: only what stands around the list can make a reply fail.
-/

namespace HourlySnapshots

/-! ## Putting a value in its place -/

namespace Json

/-- Puts a value in the place at the end of a path; a document without the place stays as it is. -/
def put : Json → List String → Json → Json
  | _, [], value => value
  | .object fields, name :: rest, value =>
    .object (fields.map fun (other, kept) =>
      (other, if other = name then kept.put rest value else kept))
  | document, _ :: _, _ => document

variable {document value : Json} {name : String} {rest : List String}

theorem field?_put (other : String) :
    (document.put (name :: rest) value).field? other =
      (document.field? other).map fun kept =>
        if other = name then kept.put rest value else kept := by
  cases document with
  | object fields =>
    exact lookup_map_value (fun other kept => if other = name then kept.put rest value else kept)
      other fields
  | _ => rfl

/-- What has been put in a place is found there. -/
theorem path?_put {path : List String} (h : (document.path? path).isSome) :
    (document.put path value).path? path = some value := by
  induction path generalizing document with
  | nil => rfl
  | cons name rest ih =>
    obtain ⟨found, hfound⟩ := Option.isSome_iff_exists.mp h
    obtain ⟨kept, hkept, hrest⟩ := Option.bind_eq_some_iff.mp hfound
    show ((document.put (name :: rest) value).field? name).bind (path? rest) = some value
    rw [field?_put, hkept, Option.map_some, if_pos rfl, Option.bind_some]
    exact ih (by rw [hrest]; rfl)

/-- A place is left alone when its path parts from the one of the place that is filled. -/
theorem path?_put_of_ne (common : List String) {a b : String} (hne : a ≠ b)
    (rest rest' : List String) (document value : Json) :
    (document.put (common ++ a :: rest) value).path? (common ++ b :: rest') =
      document.path? (common ++ b :: rest') := by
  induction common generalizing document with
  | nil =>
    show ((document.put (a :: rest) value).field? b).bind (path? rest') =
      (document.field? b).bind (path? rest')
    rw [field?_put]
    simp only [if_neg (Ne.symm hne), Option.map_id']
  | cons name common ih =>
    show ((document.put (name :: (common ++ a :: rest)) value).field? name).bind
        (path? (common ++ b :: rest')) =
      (document.field? name).bind (path? (common ++ b :: rest'))
    rw [field?_put]
    cases hkept : document.field? name with
    | none => rfl
    | some kept => simpa using ih kept

end Json

/-! ## Readers of rows -/

/--
Whatever rows are put into the place of a document, a reader gives what each of them gives on its
own, in their order. So it gives for rows behind others what it gives for both.
-/
structure RowByRow {α : Type} (read : Json → Except ServiceError (List α)) (document : Json)
    (path : List String) (row? : Json → Option α) : Prop where
  each : ∀ rows, read (document.put path (.array rows)) = .ok (rows.filterMap row?)
  append : ∀ xs ys, ∃ forXs forYs,
    read (document.put path (.array xs)) = .ok forXs ∧
      read (document.put path (.array ys)) = .ok forYs ∧
        read (document.put path (.array (xs ++ ys))) = .ok (forXs ++ forYs)

theorem RowByRow.of_each {α : Type} {read : Json → Except ServiceError (List α)} {document : Json}
    {path : List String} {row? : Json → Option α}
    (each : ∀ rows, read (document.put path (.array rows)) = .ok (rows.filterMap row?)) :
    RowByRow read document path row? where
  each := each
  append xs ys := by
    refine ⟨xs.filterMap row?, ys.filterMap row?, each xs, each ys, ?_⟩
    rw [each, List.filterMap_append]

/-! ## Rows of the custody service -/

namespace CustodyService

variable {α : Type} {decode : Json → Decoded α} {required : String} {document : Json}

/-- Where a document has its rows. -/
def rowsPath : List String := ["data", "data"]

/-- What a row gives: nothing if it lacks the required field or cannot be read. -/
def rowOf? (decode : Json → Decoded α) (required : String) (row : Json) : Option α :=
  if hasField required row then (decode row).toOption else none

/-- The document has a code that tells of an error, or no list in the place of its rows. -/
def Refused (document : Json) : Prop :=
  (∃ code, (document.field? "code").bind Json.text? = some code ∧ code ≠ successCode) ∨
    ∀ rows, document.path? rowsPath ≠ some (.array rows)

theorem reported?_eq_none_iff :
    reported? document = none ↔
      ∀ code, (document.field? "code").bind Json.text? = some code → code = successCode := by
  unfold reported?
  cases (document.field? "code").bind Json.text? with
  | none => simp
  | some code => by_cases h : code = successCode <;> simp [h]

/-- The code of a document and its message are not where its rows are. -/
theorem reported?_put (rest : List String) (value : Json) :
    reported? (document.put ("data" :: rest) value) = reported? document := by
  have hother (name : String) (hne : "data" ≠ name) :
      (document.put ("data" :: rest) value).field? name = document.field? name := by
    rw [Json.field?_put]
    simp only [if_neg (Ne.symm hne), Option.map_id']
  unfold reported?
  rw [hother "code" (by decide), hother "message" (by decide)]

theorem rowsOf_of_path {rows : List Json} (hcode : reported? document = none)
    (hrows : document.path? rowsPath = some (.array rows)) :
    rowsOf decode required document = .ok (rows.filterMap (rowOf? decode required)) := by
  have hpath : document.path? ["data", "data"] = some (.array rows) := hrows
  simp only [rowsOf, hcode, hpath, List.filterMap_filter]
  rfl

theorem not_refused_iff :
    ¬ Refused document ↔
      reported? document = none ∧ ∃ rows, document.path? rowsPath = some (.array rows) := by
  rw [reported?_eq_none_iff]
  simp [Refused]

/-- Only what stands around the rows lets a document be refused. -/
theorem exists_error_iff :
    (∃ e, rowsOf decode required document = .error e) ↔ Refused document := by
  constructor
  · rintro ⟨e, he⟩
    by_contra haccepted
    obtain ⟨hcode, rows, hrows⟩ := not_refused_iff.mp haccepted
    rw [rowsOf_of_path hcode hrows] at he
    cases he
  · intro hrefused
    cases hread : rowsOf decode required document with
    | error e => exact ⟨e, rfl⟩
    | ok list =>
      refine absurd hrefused (not_refused_iff.mpr ?_)
      unfold rowsOf at hread
      split at hread
      · cases hread
      · next hcode =>
        split at hread
        · next rows hrows => exact ⟨hcode, rows, hrows⟩
        · cases hread

theorem rowByRow (decode : Json → Decoded α) (required : String) (haccepted : ¬ Refused document) :
    RowByRow (rowsOf decode required) document rowsPath (rowOf? decode required) := by
  obtain ⟨hcode, kept, hkept⟩ := not_refused_iff.mp haccepted
  apply RowByRow.of_each
  intro rows
  apply rowsOf_of_path
  · exact (reported?_put ["data"] (.array rows)).trans hcode
  · exact Json.path?_put (by rw [hkept]; rfl)

end CustodyService

/-! ## Entries of the portfolio service -/

namespace PortfolioSummary

variable {document : Json} {path : List String}

/-- Where a document has its list: the first place that has something. -/
def listPath? (document : Json) : Option (List String) :=
  listPaths.find? fun path => (document.path? path).isSome

/-- The document has nothing in any place of a list, or no list in the first that has. -/
def Refused (document : Json) : Prop :=
  ∀ path entries, listPath? document = some path → document.path? path ≠ some (.array entries)

theorem findSome?_listPaths :
    (listPaths.findSome? fun path => document.path? path) =
      (listPath? document).bind fun path => document.path? path := by
  unfold listPath?
  induction listPaths with
  | nil => rfl
  | cons path rest ih =>
    rw [List.findSome?_cons, List.find?_cons]
    cases hfound : document.path? path with
    | none => exact ih
    | some found => exact hfound.symm

/-- What is put in the place of one list leaves the places of the others alone. -/
theorem path?_put_of_mem {other : List String} (hpath : path ∈ listPaths)
    (hother : other ∈ listPaths) (hne : other ≠ path) (value : Json) :
    (document.put path value).path? other = document.path? other := by
  simp only [listPaths, List.mem_cons, List.not_mem_nil, or_false] at hpath hother
  rcases hpath with rfl | rfl | rfl <;> rcases hother with rfl | rfl | rfl
  · exact absurd rfl hne
  · exact Json.path?_put_of_ne [] (by decide) _ _ _ _
  · exact Json.path?_put_of_ne [] (by decide) _ _ _ _
  · exact Json.path?_put_of_ne [] (by decide) _ _ _ _
  · exact absurd rfl hne
  · exact Json.path?_put_of_ne ["data"] (by decide) [] [] _ _
  · exact Json.path?_put_of_ne [] (by decide) _ _ _ _
  · exact Json.path?_put_of_ne ["data"] (by decide) [] [] _ _
  · exact absurd rfl hne

/-- What is put where the list is leaves the list there. -/
theorem listPath?_put (h : listPath? document = some path) (value : Json) :
    listPath? (document.put path value) = some path := by
  obtain ⟨hsome, before, after, hpaths, hnone⟩ := List.find?_eq_some_iff_append.mp h
  refine List.find?_eq_some_iff_append.mpr ⟨?_, before, after, hpaths, ?_⟩
  · rw [Json.path?_put hsome]
    rfl
  · intro other hother
    have hnodup : (before ++ path :: after).Nodup := hpaths ▸ by decide
    have hne : other ≠ path :=
      (List.nodup_append.mp hnodup).2.2 other hother path List.mem_cons_self
    have hpath : path ∈ listPaths := List.mem_of_find?_eq_some h
    have hlisted : other ∈ listPaths := by
      rw [hpaths]
      exact List.mem_append_left _ hother
    rw [path?_put_of_mem hpath hlisted hne]
    exact hnone other hother

theorem listOf_of_path {entries : List Json} (hpath : listPath? document = some path)
    (hentries : document.path? path = some (.array entries)) :
    listOf document = .ok (entries.filterMap ofRow?) := by
  simp only [listOf, findSome?_listPaths, hpath, Option.bind_some, hentries]

/-- Only what stands around the list lets a document be refused. -/
theorem exists_listOf_error_iff : (∃ e, listOf document = .error e) ↔ Refused document := by
  constructor
  · rintro ⟨e, he⟩ path entries hpath hentries
    rw [listOf_of_path hpath hentries] at he
    cases he
  · intro hrefused
    unfold listOf
    rw [findSome?_listPaths]
    split
    · next entries hentries =>
      obtain ⟨path, hpath, hfound⟩ := Option.bind_eq_some_iff.mp hentries
      exact absurd hfound (hrefused path entries hpath)
    · exact ⟨_, rfl⟩

theorem rowByRow (haccepted : ¬ Refused document) :
    ∃ path, listPath? document = some path ∧ RowByRow listOf document path ofRow? := by
  unfold Refused at haccepted
  push Not at haccepted
  obtain ⟨path, kept, hpath, hkept⟩ := haccepted
  refine ⟨path, hpath, RowByRow.of_each fun entries => ?_⟩
  apply listOf_of_path (listPath?_put hpath _)
  exact Json.path?_put (by rw [hkept]; rfl)

end PortfolioSummary

/-! ## No row affects the others -/

/--
Every reply whose envelope is accepted is read row by row: wallets and assets whatever field is
required, and portfolios wherever the list is. A reply is refused only for its envelope.
-/
theorem no_row_affects_others (required : String) (document : Json) :
    ((∃ e, CustodyService.rowsOf CustodyWallet.decode required document = .error e) ↔
      CustodyService.Refused document) ∧
    ((∃ e, CustodyService.rowsOf CustodyAsset.decode required document = .error e) ↔
      CustodyService.Refused document) ∧
    ((∃ e, PortfolioSummary.listOf document = .error e) ↔ PortfolioSummary.Refused document) ∧
    (¬ CustodyService.Refused document →
      RowByRow (CustodyService.rowsOf CustodyWallet.decode required) document
          CustodyService.rowsPath (CustodyService.rowOf? CustodyWallet.decode required) ∧
        RowByRow (CustodyService.rowsOf CustodyAsset.decode required) document
          CustodyService.rowsPath (CustodyService.rowOf? CustodyAsset.decode required)) ∧
    (¬ PortfolioSummary.Refused document →
      ∃ path, PortfolioSummary.listPath? document = some path ∧
        RowByRow PortfolioSummary.listOf document path PortfolioSummary.ofRow?) :=
  ⟨CustodyService.exists_error_iff, CustodyService.exists_error_iff,
    PortfolioSummary.exists_listOf_error_iff,
    fun haccepted => ⟨CustodyService.rowByRow CustodyWallet.decode required haccepted,
      CustodyService.rowByRow CustodyAsset.decode required haccepted⟩,
    PortfolioSummary.rowByRow⟩

/-- Rows of other kinds stand between two wallets, and between two portfolios. -/
theorem bad_rows_between_wallets :
    let wallet (id : String) := Json.object [("walletId", .string id)]
    let fund (name : String) := Json.object [("fund_name", .string name)]
    let document := Json.object [("code", .string "000000"),
      ("data", .object [("data", .array []), ("result", .array [])])]
    ¬ CustodyService.Refused document ∧ ¬ PortfolioSummary.Refused document ∧
      CustodyService.rowsOf CustodyWallet.decode "walletId"
        (document.put CustodyService.rowsPath
          (.array ([wallet "first", .bool true] ++ [fund "alpha", wallet "last"]))) =
        .ok ([⟨"first", none⟩] ++ [⟨"last", none⟩]) ∧
      PortfolioSummary.listOf (document.put ["data", "result"]
        (.array ([fund "alpha", wallet "first"] ++ [.null, fund " beta "]))) =
        .ok ([⟨"alpha", none, none⟩] ++ [⟨"beta", none, none⟩]) := by
  intro wallet fund document
  obtain ⟨-, -, -, hwallets, hfunds⟩ := no_row_affects_others "walletId" document
  have haccepted : ¬ CustodyService.Refused document :=
    CustodyService.not_refused_iff.mpr ⟨by rfl, [], by rfl⟩
  have hlisted : ¬ PortfolioSummary.Refused document :=
    fun hrefused => hrefused ["data", "result"] [] (by rfl) (by rfl)
  obtain ⟨path, hpath, hrows⟩ := hfunds hlisted
  obtain rfl : ["data", "result"] = path := Option.some.inj hpath
  refine ⟨haccepted, hlisted, ?_, ?_⟩
  · rw [(hwallets haccepted).1.each]
    decide +kernel
  · rw [hrows.each]
    decide +kernel

end HourlySnapshots
