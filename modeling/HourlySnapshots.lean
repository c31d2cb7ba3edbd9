import HourlySnapshots.Json.Printer
import HourlySnapshots.Main
import HourlySnapshots.Proofs.Collection.ConfiguredRates
import HourlySnapshots.Proofs.Scheduler.LastCycle
import HourlySnapshots.Proofs.Scheduler.LeftAlone
import HourlySnapshots.Proofs.Scheduler.LifeCycle
import HourlySnapshots.Proofs.Scheduler.Pace
import HourlySnapshots.Proofs.Scheduler.Punctuality
import HourlySnapshots.Proofs.Scheduler.RunAll
import HourlySnapshots.Proofs.Scheduler.Stopping
import HourlySnapshots.Proofs.Scheduler.StoreHistory
import HourlySnapshots.Proofs.Scheduler.Unattended
import HourlySnapshots.Rehearsal.Script
import HourlySnapshots.Rehearsal.Site
import HourlySnapshots.Web.Endpoints
import HourlySnapshots.Proofs.Scheduler.Waiting
import HourlySnapshots.Proofs.Scheduler.CycleHour
import HourlySnapshots.Proofs.Web.TriggerTime
import HourlySnapshots.Proofs.Collection.FundMasters
import HourlySnapshots.Proofs.Collection.PricedBalances
import HourlySnapshots.Proofs.Collection.FundDetails
import HourlySnapshots.Proofs.Collection.WalletBalances
import HourlySnapshots.Proofs.Collection.BatchRows
import HourlySnapshots.Proofs.Format.Digits
import HourlySnapshots.Proofs.Calendar.CivilDate
import HourlySnapshots.Proofs.Calendar.DueTimes
import HourlySnapshots.Proofs.Format.Instants
import HourlySnapshots.Proofs.Format.Decimals
import HourlySnapshots.Proofs.Format.Fields
import HourlySnapshots.Proofs.Format.Records
import HourlySnapshots.Proofs.Collection.SavedItems
import HourlySnapshots.Proofs.Collection.SourcePoints
import HourlySnapshots.Proofs.Format.OrderedFields
import HourlySnapshots.Proofs.Services.RateMaps
import HourlySnapshots.Proofs.Services.RateTables
import HourlySnapshots.Proofs.Services.CoinQuotes
import HourlySnapshots.Proofs.Amounts.Products
import HourlySnapshots.Proofs.Collection.DollarValues
import HourlySnapshots.Proofs.Collection.NestedOracles
import HourlySnapshots.Proofs.Collection.EffectiveBalances
import HourlySnapshots.Proofs.Services.RememberedPrices
import HourlySnapshots.Proofs.Services.ListedRows
import HourlySnapshots.Proofs.Format.Escapes
import HourlySnapshots.Proofs.Web.SignedRequests
import HourlySnapshots.Proofs.Scheduler.StopTime
import HourlySnapshots.Proofs.Collection.AssetKeys
import HourlySnapshots.Proofs.Collection.SharedStore
import HourlySnapshots.Proofs.Format.WrittenLists
import HourlySnapshots.Proofs.Amounts.Spellings
import HourlySnapshots.Proofs.Calendar.HourStarts
