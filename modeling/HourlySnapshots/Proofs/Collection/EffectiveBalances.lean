import HourlySnapshots.Proofs.Collection.PricedBalances

/-!
# Effective balances

An asset is kept with its total with mirrored funds, and with the amount in custody where there is
none. A total that is there but cannot be read counts as none, so that the amount in custody takes
its place without a word. The total of a row goes first just when it can be read or there is no
amount in custody either.
-/

namespace HourlySnapshots

namespace CustodyAsset

variable {row : Json} {asset : CustodyAsset}

/-- The fields of an asset, in the order that an array has them in. -/
def fieldNames : List String :=
  ["coinSymbol", "network", "amount", "availableAmount", "totalAmountWithMirror"]

/-- What a row gives for a field: by its name in an object, and by its place in an array. -/
def given? (name : String) : Json → Option Json
  | .object fields => fields.lookup name
  | .array items => (fieldNames.zip items).lookup name
  | _ => none

/-- The amount that a row denotes by a field. -/
def denoted? (name : String) (row : Json) : Option Decimal := (given? name row).bind Json.amount?

/-- A row that has a total with mirrored funds gives an asset that balance or none. -/
def MirrorFirst (row : Json) (asset : CustodyAsset) : Prop :=
  ∀ total, given? "totalAmountWithMirror" row = some total → total.isNull = false →
    asset.effectiveBalance = total.amount? ∨ asset.effectiveBalance = none

theorem get?_of_asRecord {r : Json.Record} (h : row.asRecord fieldNames = .ok r) (name : String) :
    r.get? name = given? name row := by
  cases row with
  | object fields =>
    obtain rfl := Except.ok.inj h
    rfl
  | array items =>
    obtain rfl := Except.ok.inj h
    rfl
  | _ => cases h

theorem defaulted_amount?_eq (r : Json.Record) (name : String) :
    (r.defaulted name none fun value => .ok value.amount?) =
      .ok ((r.get? name).bind Json.amount?) := by
  unfold Json.Record.defaulted
  cases r.get? name <;> rfl

/-- The amounts of an asset are those that its row denotes. -/
theorem amounts_of_decode (h : decode row = .ok asset) :
    asset.amount = denoted? "amount" row ∧
      asset.totalAmountWithMirror = denoted? "totalAmountWithMirror" row := by
  unfold decode at h
  obtain ⟨r, hrecord, h⟩ := exists_of_bind_eq_ok h
  obtain ⟨coin, -, h⟩ := exists_of_bind_eq_ok h
  obtain ⟨network, -, h⟩ := exists_of_bind_eq_ok h
  simp only [defaulted_amount?_eq] at h
  obtain ⟨custody, hcustody, h⟩ := exists_of_bind_eq_ok h
  obtain ⟨available, -, h⟩ := exists_of_bind_eq_ok h
  obtain ⟨total, htotal, h⟩ := exists_of_bind_eq_ok h
  obtain ⟨-, -, h⟩ := exists_of_bind_eq_ok h
  obtain rfl := Except.ok.inj h
  obtain rfl := Except.ok.inj hcustody
  obtain rfl := Except.ok.inj htotal
  unfold denoted?
  rw [get?_of_asRecord hrecord, get?_of_asRecord hrecord]
  exact ⟨rfl, rfl⟩

theorem effectiveBalance_of_decode (h : decode row = .ok asset) :
    asset.effectiveBalance =
      (denoted? "totalAmountWithMirror" row).or (denoted? "amount" row) := by
  obtain ⟨hcustody, htotal⟩ := amounts_of_decode h
  rw [effectiveBalance, hcustody, htotal]

/-- The total goes first unless it cannot be read and there is an amount in custody. -/
theorem mirrorFirst_iff (h : decode row = .ok asset) :
    MirrorFirst row asset ↔
      ∀ total, given? "totalAmountWithMirror" row = some total → total.isNull = false →
        total.amount? = none → denoted? "amount" row = none := by
  unfold MirrorFirst
  rw [effectiveBalance_of_decode h]
  refine forall_congr' fun total => forall₂_congr fun hgiven _ => ?_
  have hdenoted : denoted? "totalAmountWithMirror" row = total.amount? := by
    rw [denoted?, hgiven, Option.bind_some]
  rw [hdenoted]
  cases total.amount? with
  | none => simp
  | some amount => simp

/-- A record has the effective balance as its value, and without one there is no record. -/
theorem map_value_toRecord? {σ : Type} (prices : PriceOracle σ) (wallet : CustodyWallet)
    (time : Instant) (asset : CustodyAsset) (x : σ) (sourceTag : String) (stamp : Stamp) :
    ((WalletAssetPoint.ofAsset prices wallet time asset x).1.toRecord? sourceTag stamp).map
      SnapshotRecord.value = asset.effectiveBalance := by
  rw [WalletAssetPoint.toRecord?, Option.map_map, WalletAssetPoint.effectiveBalance_ofAsset]
  cases asset.effectiveBalance <;> rfl

/--
The effective balance of an asset, and the value that is recorded of it, is the total with mirrored
funds where its row gives one that can be read, and what the row denotes by the amount in custody
where it gives no total, or `null`, or one that cannot be read. So the amount in custody takes the
place of a total that is there just when that cannot be read and the amount can.
-/
theorem balance_of_row (h : decode row = .ok asset) :
    (∀ total amount, given? "totalAmountWithMirror" row = some total →
      total.amount? = some amount → asset.effectiveBalance = some amount) ∧
    ((∀ total, given? "totalAmountWithMirror" row = some total → total.amount? = none) →
      asset.effectiveBalance = denoted? "amount" row) ∧
    (MirrorFirst row asset ↔
      ∀ total, given? "totalAmountWithMirror" row = some total → total.isNull = false →
        total.amount? = none → denoted? "amount" row = none) ∧
    ∀ (σ : Type) (prices : PriceOracle σ) wallet time x sourceTag stamp,
      ((WalletAssetPoint.ofAsset prices wallet time asset x).1.toRecord? sourceTag stamp).map
        SnapshotRecord.value = asset.effectiveBalance := by
  have hbalance := effectiveBalance_of_decode h
  refine ⟨fun total amount hgiven hamount => ?_, fun hnone => ?_, mirrorFirst_iff h,
    fun σ prices wallet time x sourceTag stamp =>
      map_value_toRecord? prices wallet time asset x sourceTag stamp⟩
  · rw [hbalance, denoted?, hgiven, Option.bind_some, hamount, Option.some_or]
  · rw [hbalance, denoted?, Option.bind_eq_none_iff.mpr hnone, Option.none_or]

/-- A row may be an array. Its last item is read, with a comma in it, and goes first. -/
theorem balance_of_array_row :
    let row : Json := .array [.string "BTC", .null, .string "2", .null, .string "1,000.5"]
    let asset : CustodyAsset :=
      ⟨"BTC", none, some (.literal 2 0), none, some (.literal 10005 1)⟩
    decode row = .ok asset ∧ MirrorFirst row asset ∧
      asset.effectiveBalance = some (.literal 10005 1) := by
  intro row asset
  have hdecode : decode row = .ok asset := by rfl
  have hgiven : given? "totalAmountWithMirror" row = some (.string "1,000.5") := by rfl
  have hread : (Json.string "1,000.5").amount? = some (.literal 10005 1) := by decide +kernel
  obtain ⟨hfirst, -, hiff, -⟩ := balance_of_row hdecode
  refine ⟨hdecode, hiff.mpr fun total htotal _ hnone => ?_, hfirst _ _ hgiven hread⟩
  obtain rfl := Option.some.inj (htotal.symm.trans hgiven)
  rw [hread] at hnone
  cases hnone

/-- A total that cannot be read turns into the amount in custody. -/
theorem custody_in_place_of_unread_total :
    let row : Json := .ofFields [("coinSymbol", .string "BTC"), ("amount", .string "2"),
      ("totalAmountWithMirror", .string "n/a")]
    let asset : CustodyAsset := ⟨"BTC", none, some (.literal 2 0), none, none⟩
    decode row = .ok asset ∧ given? "totalAmountWithMirror" row = some (.string "n/a") ∧
      asset.effectiveBalance = some (.literal 2 0) ∧ ¬ MirrorFirst row asset := by
  intro row asset
  have hgiven : given? "totalAmountWithMirror" row = some (.string "n/a") := by rfl
  have hunread : (Json.string "n/a").amount? = none := by decide +kernel
  have hcustody : asset.effectiveBalance = some (.literal 2 0) := rfl
  refine ⟨by rfl, hgiven, hcustody, fun hfirst => ?_⟩
  rcases hfirst _ hgiven rfl with hread | hnone
  · rw [hunread, hcustody] at hread
    cases hread
  · rw [hcustody] at hnone
    cases hnone

end CustodyAsset

end HourlySnapshots
