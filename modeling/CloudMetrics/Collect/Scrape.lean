import CloudMetrics.Collect.Kind

/-!
# Scrapes

A scrape collects every enabled kind once. The kinds run at once and hand their batches to one queue,
so the batches of a scrape may come in any order, each of them whole.
-/
namespace CloudMetrics.Collect

open Cloud Metrics Time

/-- How one kind fared. -/
structure Report where
  kind : Kind
  failures : Nat
  faults : Faults
deriving DecidableEq, Repr

/-- What is collected, and for whom. -/
structure CollectorSet where
  kinds : List Kind
  zones : List String
  account : String
  /-- The instance named in log events. -/
  source : String := "sakuracloud-exporter"
deriving DecidableEq, Repr

namespace CollectorSet

/-- All kinds but the disabled ones. -/
def build (disabled zones : List String) (account : String) : CollectorSet := ⟨Kind.enabled disabled,zones,account,"sakuracloud-exporter"⟩

def names (s : CollectorSet) : List String := s.kinds.map Kind.name

end CollectorSet

/-- The orders of one scrape: within each kind, of the kinds, and of the batches in the queue. -/
structure ScrapeSchedule where
  within : Kind → Schedule := fun _ => {}
  kinds : Order := .asStarted
  queue : Order := .asStarted

instance : Inhabited ScrapeSchedule := ⟨{}⟩

structure ScrapeOutcome where
  samples : List Sample
  reports : List Report
  caches : Caches
  calls : List Call
  counted : List String
  events : List Event

/-- What all reports together say about the cloud. -/
def ScrapeOutcome.faults (o : ScrapeOutcome) : Faults := o.reports.foldl (fun f r => f.merge r.faults) {}

/-- The run of one kind within a scrape. -/
structure KindRun where
  kind : Kind
  run : Run Caches

def KindRun.report (r : KindRun) : Report := ⟨r.kind,r.run.journal.failures,r.run.journal.faults⟩

/-- The caches after all kinds have run: each of the two belongs to one kind. -/
def Caches.after (caches : Caches) (runs : List KindRun) : Caches :=
  runs.foldl (fun c r => match r.kind with
    | .bill => { c with bills := r.run.value.bills }
    | .coupon => { c with coupons := r.run.value.coupons }
    | _ => c) caches

namespace CollectorSet

variable (s : CollectorSet)

/-- What a kind of the set is given. -/
def setting (k : Kind) (now : Instant) (api : Api) : Setting :=
  ⟨{ Context.new k.name s.zones now with source := s.source },s.account,now,api⟩

/-- The runs of the enabled kinds. -/
def runs (schedule : ScrapeSchedule) (now : Instant) (api : Api) (caches : Caches) : List KindRun :=
  s.kinds.map fun k => ⟨k,k.collect (s.setting k now api) (schedule.within k) caches⟩

def scrape (schedule : ScrapeSchedule) (now : Instant) (api : Api) (caches : Caches) : ScrapeOutcome :=
  let runs := schedule.kinds.arrange (s.runs schedule now api caches)
  { samples := (schedule.queue.arrange (runs.flatMap fun r => r.run.journal.batches)).flatten
    reports := runs.map KindRun.report
    caches := caches.after runs
    calls := runs.flatMap fun r => r.run.journal.calls
    counted := runs.flatMap fun r => r.run.journal.counted
    events := runs.flatMap fun r => r.run.journal.events }

end CollectorSet

end CloudMetrics.Collect
