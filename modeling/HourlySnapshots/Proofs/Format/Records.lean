import HourlySnapshots.Custody
import HourlySnapshots.ExchangeRate
import HourlySnapshots.Portfolio
import HourlySnapshots.Proofs.Format.Fields
import HourlySnapshots.Snapshot

/-!
# Records that are read again

Every record of the snapshot format decodes from what it encodes to, and is the same again but for
the signs of zeros.
-/

namespace HourlySnapshots

/-! ## Snapshots -/

theorem Uuid.decodes : Json.Decodes encode decode id := by
  refine ⟨fun _ => nofun, fun u => ?_⟩
  rw [encode, decode, String.toList_ofList, read?_toText]
  rfl

theorem SnapshotKind.decodes : Json.Decodes encode decode id := by
  refine ⟨fun _ => nofun, fun kind => ?_⟩
  rw [encode, decode, ofName?_name]
  rfl

/-- The same record with canonical amounts. -/
def SnapshotRecord.canonical (r : SnapshotRecord) : SnapshotRecord :=
  { r with
    value := r.value.canonical
    secondaryValue := r.secondaryValue.map Decimal.canonical
    usdValue := r.usdValue.map Decimal.canonical }

/-- A record is read back with all of its fields; only a zero with a sign loses the sign. -/
theorem SnapshotRecord.decode_encode (r : SnapshotRecord) :
    decode r.encode = .ok r.canonical := by
  unfold decode encode
  refine Json.asRecord_ofFields (by simp) fun given hcomplete hgives => ?_
  obtain ⟨hkind, hsubject, hvalue, hsecondary, husd, htag, hat, hbatch, hattributes, hcreated, -⟩ :=
    hgives
  rw [SnapshotKind.decodes.required hkind, Json.decodes_text.required hsubject,
    Json.decodes_decimal.required hvalue, Json.decodes_decimal.optional hsecondary,
    Json.decodes_decimal.optional husd, Json.decodes_text.required htag,
    Json.decodes_instant.required hat, Uuid.decodes.required hbatch,
    Json.Record.defaulted_eq hattributes, Json.decodes_instant.required hcreated, hcomplete]
  rfl

/-! ## Portfolios -/

/-- A master entry is read back, with or without its time. -/
theorem PortfolioMaster.decode_encode (m : PortfolioMaster) : decode m.encode = .ok m := by
  unfold decode encode
  refine Json.asRecord_ofFields (by simp) fun given hcomplete hgives => ?_
  obtain ⟨hname, halias, hsymbol, hstatus, htime, -⟩ := hgives
  rw [Json.decodes_text.required hname, Json.decodes_text.required halias,
    Json.decodes_text.required hsymbol, Json.decodes_text.required hstatus,
    Json.decodes_instant.optional htime, hcomplete, Option.map_id_fun]
  rfl

theorem PortfolioSummary.decode_encode (s : PortfolioSummary) : decode s.encode = .ok s := by
  unfold decode encode
  refine Json.asRecord_ofFields (by simp) fun given hcomplete hgives => ?_
  obtain ⟨hname, hsymbol, hstatus, -⟩ := hgives
  rw [Json.decodes_text.required hname, Json.decodes_text.optional hsymbol,
    Json.decodes_text.optional hstatus, hcomplete, Option.map_id_fun]
  rfl

/-- The same point with canonical amounts. -/
def PortfolioPoint.canonical (p : PortfolioPoint) : PortfolioPoint :=
  { p with accProfit := p.accProfit.map Decimal.canonical, nav := p.nav.map Decimal.canonical }

/-- A point of a portfolio is read back, also without a profit or a net asset value. -/
theorem PortfolioPoint.decode_encode (p : PortfolioPoint) :
    decode p.encode = .ok p.canonical := by
  unfold decode encode
  refine Json.asRecord_ofFields (by simp) fun given hcomplete hgives => ?_
  obtain ⟨hname, hsymbol, hprofit, hnav, hstatus, hquote, htime, hat, -⟩ := hgives
  rw [Json.decodes_text.required hname, Json.decodes_text.required hsymbol,
    Json.decodes_decimal.optional hprofit, Json.decodes_decimal.optional hnav,
    Json.decodes_text.required hstatus, Json.decodes_text.optional hquote,
    Json.decodes_instant.optional htime, Json.decodes_instant.required hat, hcomplete,
    Option.map_id_fun, Option.map_id_fun]
  rfl

/-! ## Custody wallets -/

theorem CustodyWallet.decode_encode (w : CustodyWallet) : decode w.encode = .ok w := by
  unfold decode encode
  refine Json.asRecord_ofFields (by simp) fun given hcomplete hgives => ?_
  obtain ⟨hid, hname, -⟩ := hgives
  rw [Json.decodes_textOrNumber.required hid, Json.decodes_text.defaulted hname, hcomplete,
    Option.map_id_fun]
  rfl

/-- The same asset with canonical amounts. -/
def CustodyAsset.canonical (a : CustodyAsset) : CustodyAsset :=
  { a with
    amount := a.amount.map Decimal.canonical
    availableAmount := a.availableAmount.map Decimal.canonical
    totalAmountWithMirror := a.totalAmountWithMirror.map Decimal.canonical }

theorem CustodyAsset.decode_encode (a : CustodyAsset) :
    decode a.encode = .ok a.canonical := by
  unfold decode encode
  refine Json.asRecord_ofFields (by simp) fun given hcomplete hgives => ?_
  obtain ⟨hsymbol, hnetwork, hamount, havailable, htotal, -⟩ := hgives
  dsimp only
  rw [Json.decodes_text.required hsymbol, Json.decodes_text.defaulted hnetwork,
    Json.defaulted_amount hamount, Json.defaulted_amount havailable, Json.defaulted_amount htotal,
    hcomplete, Option.map_id_fun]
  rfl

/-- The same point with canonical amounts. -/
def WalletAssetPoint.canonical (p : WalletAssetPoint) : WalletAssetPoint :=
  { p with
    effectiveBalance := p.effectiveBalance.map Decimal.canonical
    custodyBalance := p.custodyBalance.map Decimal.canonical
    availableBalance := p.availableBalance.map Decimal.canonical
    usdValue := p.usdValue.map Decimal.canonical }

/-- A balance is read back, also one that has no amount. -/
theorem WalletAssetPoint.decode_encode (p : WalletAssetPoint) :
    decode p.encode = .ok p.canonical := by
  unfold decode encode
  refine Json.asRecord_ofFields (by simp) fun given hcomplete hgives => ?_
  obtain ⟨hid, hname, hsymbol, hnetwork, heffective, hcustody, havailable, husd, hat, -⟩ := hgives
  rw [Json.decodes_text.required hid, Json.decodes_text.optional hname,
    Json.decodes_text.required hsymbol, Json.decodes_text.optional hnetwork,
    Json.decodes_decimal.optional heffective, Json.decodes_decimal.optional hcustody,
    Json.decodes_decimal.optional havailable, Json.decodes_decimal.optional husd,
    Json.decodes_instant.required hat, hcomplete, Option.map_id_fun]
  rfl

/-! ## Exchange rates -/

/-- The same pair with a canonical fallback. -/
def RatePair.canonical (p : RatePair) : RatePair := { p with fallback := p.fallback.canonical }

/-- A pair is read back, with its id where it has one. -/
theorem RatePair.decode_encode (p : RatePair) :
    decode p.encode = .ok p.canonical := by
  unfold decode encode
  refine Json.asRecord_ofFields (by simp) fun given hcomplete hgives => ?_
  obtain ⟨hbase, hquote, hid, hfallback, -⟩ := hgives
  rw [Json.decodes_text.required hbase, Json.decodes_text.required hquote,
    Json.decodes_text.optional hid, Json.decodes_decimal.required hfallback, hcomplete,
    Option.map_id_fun]
  rfl

/-- The same point with a canonical rate. -/
def RatePoint.canonical (p : RatePoint) : RatePoint := { p with rate := p.rate.canonical }

theorem RatePoint.decode_encode (p : RatePoint) :
    decode p.encode = .ok p.canonical := by
  unfold decode encode
  refine Json.asRecord_ofFields (by simp) fun given hcomplete hgives => ?_
  obtain ⟨hbase, hquote, hrate, htag, hat, -⟩ := hgives
  rw [Json.decodes_text.required hbase, Json.decodes_text.required hquote,
    Json.decodes_decimal.required hrate, Json.decodes_text.required htag,
    Json.decodes_instant.required hat, hcomplete]
  rfl

/-! ## The snapshot format -/

end HourlySnapshots
