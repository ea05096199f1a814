import CloudMetrics.Main
import CloudMetrics.Proofs.ConfiguredZones
import CloudMetrics.Proofs.CouponDays
import CloudMetrics.Proofs.DailyTimes
import CloudMetrics.Proofs.FailureAccounts
import CloudMetrics.Proofs.Gauges
import CloudMetrics.Proofs.HealthRecords
import CloudMetrics.Proofs.IntegerIds
import CloudMetrics.Proofs.InterfaceSlots
import CloudMetrics.Proofs.Interleavings
import CloudMetrics.Proofs.Isolation
import CloudMetrics.Proofs.LatestBills
import CloudMetrics.Proofs.LenientRecords
import CloudMetrics.Proofs.LiveStatus
import CloudMetrics.Proofs.Memoization
import CloudMetrics.Proofs.MetricsPaths
import CloudMetrics.Proofs.MonitorLayouts
import CloudMetrics.Proofs.MonitorPoints
import CloudMetrics.Proofs.MonitorSeries
import CloudMetrics.Proofs.PageReading
import CloudMetrics.Proofs.Refreshes
import CloudMetrics.Proofs.RequestPlan
import CloudMetrics.Proofs.RequestTargets
import CloudMetrics.Proofs.ResourceTasks
import CloudMetrics.Proofs.RootUrls
import CloudMetrics.Proofs.Scrapes
import CloudMetrics.Proofs.SeriesJoins
import CloudMetrics.Proofs.SiteReports
import CloudMetrics.Proofs.Sweeping
import CloudMetrics.Proofs.TagLabels
import CloudMetrics.Proofs.ValidScrapes
import CloudMetrics.Proofs.VariableTexts
