import CloudMetrics.Collect.Scrape
import CloudMetrics.Config.Listen
import CloudMetrics.Service.Counters
import CloudMetrics.Service.Health
import CloudMetrics.Service.Route

/-!
# The site

Each request to the metrics runs one scrape; only the caches of account data outlast it. The other
pages show what the last scrape left behind.
-/
namespace CloudMetrics.Service

open Collect Cloud Metrics Time

inductive Method where
  | get
  /-- Like `get`, and the body is left out. -/
  | head
  | other
deriving DecidableEq, Repr

structure Response where
  status : Nat
  contentType : Option String := none
  body : String := ""
deriving DecidableEq, Repr

namespace Response

def json (status : Nat) (j : Json) : Response := ⟨status,some "application/json",j.write⟩

def notFound : Response := { status := 404 }

def methodNotAllowed : Response := { status := 405 }

end Response

/-- What a request meets: the time, the cloud, and the orders in which tasks complete. -/
structure Moment where
  now : Instant
  api : Api
  schedule : ScrapeSchedule := {}

structure Site where
  collectors : CollectorSet
  /-- The path of the metrics, as it was configured. -/
  metricsPath : String
  /-- The pattern that this path writes. -/
  pattern : Pattern
  health : Health := {}
  counters : Counters := {}
  caches : Caches := {}

/-- A response, the site afterwards, and the scrape if there was one. -/
structure Exchange where
  response : Response
  site : Site
  scrape : Option ScrapeOutcome := none

namespace Site

/-- A site for some collectors; the path of the metrics must be a route. -/
def new (collectors : CollectorSet) (metricsPath : String) : Except RouteError Site :=
  (Pattern.read metricsPath).map fun pattern => { collectors, metricsPath, pattern }

/-- Takes up every collector: its errors count from zero, and it is healthy. -/
def registerCollectors (s : Site) (now : Instant) : Site :=
  { s with
    counters := s.collectors.names.foldl Counters.register s.counters
    health := s.collectors.names.foldl (fun h name => h.register name now) s.health }

/-- What a scrape leaves behind. -/
def afterScrape (s : Site) (o : ScrapeOutcome) (now : Instant) : Site :=
  { s with
    counters := (o.reports.map (·.kind.name)).foldl Counters.observe (s.counters.failAll o.counted)
    health := (o.reports.foldl (fun h r => h.recordCollection r.kind.name r.failures now)
      s.health).recordFaults o.faults now
    caches := o.caches }

/-- The exposition text of a scrape, with the site's own metrics as they are after it. -/
def metricsPage (s : Site) (samples : List Sample) : Response :=
  match expose samples s.counters.families with
  | .ok text => ⟨200,some "text/plain; version=0.0.4",text⟩
  | .error e => ⟨500,some "text/plain; charset=utf-8",e.message⟩

/-- A degraded service still answers. -/
def healthPage (s : Site) : Response :=
  .json (match s.health.overall with
    | .unhealthy => 503
    | _ => 200) s.health.toJson

def readinessPage (s : Site) : Response :=
  .json (if s.health.isReady then 200 else 503) s.health.readinessJson

def landingPage (s : Site) : Response :=
  ⟨200,some "text/html; charset=utf-8",
    "<html>\n<head><title>SAKURA Cloud Exporter</title></head>\n<body>\n<h1>SAKURA Cloud Exporter</h1>\n"
      ++ "<p><a href=\"" ++ s.metricsPath ++ "\">Metrics</a></p>\n</body>\n</html>\n"⟩

/-- Answers for a page. -/
def serve (s : Site) (m : Moment) : Page → Exchange
  | .landing => ⟨s.landingPage,s,none⟩
  | .health => ⟨s.healthPage,s,none⟩
  | .readiness => ⟨s.readinessPage,s,none⟩
  | .metrics =>
    let o := s.collectors.scrape m.schedule m.now m.api s.caches
    let after := s.afterScrape o m.now
    ⟨after.metricsPage o.samples,after,some o⟩

/-- Answers a request. -/
def answer (s : Site) (m : Moment) (method : Method) (target : String) : Exchange :=
  match pageAt? s.pattern target with
  | none => ⟨.notFound,s,none⟩
  | some page =>
    match method with
    | .other => ⟨.methodNotAllowed,s,none⟩
    | .get => s.serve m page
    | .head =>
      let e := s.serve m page
      { e with response := { e.response with body := "" } }

/-- A request and what it meets. -/
structure Visit where
  moment : Moment
  method : Method := .get
  target : String

/-- Answers requests one after the other. -/
def answers (s : Site) : List Visit → List Exchange
  | [] => []
  | v :: vs =>
    let e := s.answer v.moment v.method v.target
    e :: e.site.answers vs

end Site

/-- The error of an address that cannot be listened at. -/
structure BindError where
  address : String
deriving DecidableEq, Repr

def BindError.message (e : BindError) : String := "Failed to bind " ++ e.address

/-- Checks that a server can listen at an address. -/
def bind (address : String) : Except BindError Unit :=
  if Config.canListen address then .ok () else .error ⟨address⟩

end CloudMetrics.Service
