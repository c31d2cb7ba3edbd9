import HourlySnapshots.Collection.WalletCollector
import Mathlib.Data.List.Basic

/-!
# Keys of assets

The key of an asset is its wallet, its symbol and its network, if there is one, with colons between
them. Wallets and symbols may hold colons of their own, so a key does not say where its parts end:
that takes the number of colons in the wallet and in the symbol, and nothing else.
-/

namespace HourlySnapshots

/-- A text is cut in one way only at a mark that has a given number of others before it. -/
theorem Text.append_mark_inj {mark : Char} {a b rest rest' : List Char}
    (hcount : a.count mark = b.count mark) (h : a ++ mark :: rest = b ++ mark :: rest') :
    a = b ∧ rest = rest' := by
  induction a generalizing b with
  | nil =>
    cases b with
    | nil => exact ⟨rfl, (List.cons.inj h).2⟩
    | cons d others =>
      obtain ⟨rfl, -⟩ := List.cons.inj h
      simp at hcount
  | cons c more ih =>
    cases b with
    | nil =>
      obtain ⟨rfl, -⟩ := List.cons.inj h
      simp at hcount
    | cons d others =>
      obtain ⟨rfl, hrest⟩ := List.cons.inj h
      rw [List.count_cons, List.count_cons, Nat.add_right_cancel_iff] at hcount
      obtain ⟨rfl, hrests⟩ := ih hcount hrest
      exact ⟨rfl, hrests⟩

namespace WalletAssetPoint

variable {p q : WalletAssetPoint}

/-- The network of an asset; an empty one counts as none. -/
def knownNetwork (p : WalletAssetPoint) : Option String :=
  p.network.filter fun name => !name.isEmpty

/-- Two points are about the same asset of the same wallet. -/
structure SameAsset (p q : WalletAssetPoint) : Prop where
  wallet : p.walletId = q.walletId
  symbol : p.symbol = q.symbol
  network : p.knownNetwork = q.knownNetwork

/-! ## Parts of a key -/

/-- What follows the symbol in a key. -/
def networkPart (p : WalletAssetPoint) : List Char :=
  p.knownNetwork.elim [] fun name => ':' :: name.toList

theorem toList_subjectKey (p : WalletAssetPoint) :
    p.subjectKey.toList = p.walletId.toList ++ ':' :: (p.symbol.toList ++ p.networkPart) := by
  unfold subjectKey networkPart knownNetwork
  cases p.network with
  | none => simp
  | some name => cases hempty : name.isEmpty <;> simp [Option.filter, hempty]

/-- Behind the wallet, a key is cut where the symbol ends. -/
theorem eq_of_symbol_append_eq (hcount : p.symbol.toList.count ':' = q.symbol.toList.count ':')
    (h : p.symbol.toList ++ p.networkPart = q.symbol.toList ++ q.networkPart) :
    p.symbol = q.symbol ∧ p.knownNetwork = q.knownNetwork := by
  rw [← String.toList_inj]
  -- a network brings a colon along, so that there is one on both sides or on none
  have hcolons := congrArg (List.count ':') h
  rw [List.count_append, List.count_append, hcount, Nat.add_left_cancel_iff] at hcolons
  unfold networkPart at h hcolons
  cases hp : p.knownNetwork with
  | none =>
    cases hq : q.knownNetwork with
    | none => simpa [hp, hq] using h
    | some name => simp [hp, hq] at hcolons
  | some name =>
    cases hq : q.knownNetwork with
    | none => simp [hp, hq] at hcolons
    | some other =>
      simp only [hp, hq, Option.elim_some] at h
      obtain ⟨hsymbol, hname⟩ := Text.append_mark_inj hcount h
      exact ⟨hsymbol, congrArg some (String.toList_inj.mp hname)⟩

theorem SameAsset.subjectKey_eq (h : p.SameAsset q) : p.subjectKey = q.subjectKey := by
  rw [← String.toList_inj, toList_subjectKey, toList_subjectKey, networkPart, networkPart,
    h.wallet, h.symbol, h.network]

theorem sameAsset_of_subjectKey_eq (h : p.subjectKey = q.subjectKey)
    (hwallet : p.walletId.toList.count ':' = q.walletId.toList.count ':')
    (hsymbol : p.symbol.toList.count ':' = q.symbol.toList.count ':') : p.SameAsset q := by
  have hkey := congrArg String.toList h
  rw [toList_subjectKey, toList_subjectKey] at hkey
  obtain ⟨hwallets, hrest⟩ := Text.append_mark_inj hwallet hkey
  obtain ⟨hsymbols, hnetworks⟩ := eq_of_symbol_append_eq hsymbol hrest
  exact ⟨String.toList_inj.mp hwallets, hsymbols, hnetworks⟩

/-! ## Keys and assets -/

/--
Two points are about the same asset just when they have the same key and there are as many colons
in the one wallet as in the other, and in the one symbol as in the other. What is stored of a point
is kept under its key.
-/
theorem sameAsset_iff_key (p q : WalletAssetPoint) :
    (p.SameAsset q ↔ p.subjectKey = q.subjectKey ∧
      p.walletId.toList.count ':' = q.walletId.toList.count ':' ∧
      p.symbol.toList.count ':' = q.symbol.toList.count ':') ∧
    ∀ sourceTag stamp r, p.toRecord? sourceTag stamp = some r → r.subjectKey = p.subjectKey := by
  refine ⟨⟨fun h => ?_, fun ⟨hkey, hwallet, hsymbol⟩ => ?_⟩, fun sourceTag stamp r hr => ?_⟩
  · exact ⟨h.subjectKey_eq, by rw [h.wallet], by rw [h.symbol]⟩
  · exact sameAsset_of_subjectKey_eq hkey hwallet hsymbol
  · obtain ⟨balance, -, rfl⟩ := Option.map_eq_some_iff.mp hr
    rfl

/-- A coin on two networks has two keys, also where its symbol and its wallet hold colons. -/
theorem keys_on_two_networks :
    let point (network : String) : WalletAssetPoint :=
      ⟨"desk:7", none, "LP:ETH", some network, some (.literal 5 1), none, none, none, default⟩
    (point "A:B").subjectKey ≠ (point "A").subjectKey ∧
      ∃ r, (point "A").toRecord? "custody" default = some r ∧
        r.subjectKey = (point "A").subjectKey := by
  intro point
  obtain ⟨hiff, -⟩ := sameAsset_iff_key (point "A:B") (point "A")
  obtain ⟨-, hkept⟩ := sameAsset_iff_key (point "A") (point "A")
  refine ⟨fun hkey => ?_, _, rfl, hkept "custody" default _ rfl⟩
  have hnetworks := (hiff.mpr ⟨hkey, rfl, rfl⟩).network
  exact absurd hnetworks (by decide)

/--
Two valid balances of one wallet share a key: a coin on a network, and another coin whose symbol is
written like the two together.
-/
theorem one_key_for_two_assets :
    let point (symbol : String) (network : Option String) : WalletAssetPoint :=
      ⟨"w1", none, symbol, network, some (.literal 1 0), none, none, none, default⟩
    let onNetwork := point "USDT" (some "ETH")
    let other := point "USDT:ETH" none
    onNetwork.validate = none ∧ other.validate = none ∧
      onNetwork.subjectKey = other.subjectKey ∧ ¬ onNetwork.SameAsset other := by
  intro point onNetwork other
  refine ⟨by decide, by decide, by decide, fun h => ?_⟩
  exact absurd h.symbol (by decide)

end WalletAssetPoint

end HourlySnapshots
