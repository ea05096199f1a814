import CloudMetrics.Collect.Context

/-!
# Internet connections

They have no power state, so their traffic is always asked for.
-/
namespace CloudMetrics.Collect.Internets

open Cloud Metrics Time

def identLabels : List String := ["id","name","zone"]

def info : Gauge :=
  ⟨"sakuracloud_internet_info","A metric with a constant '1' value labeled by internet information",
    identLabels ++ ["switch_id","bandwidth","nw_mask_len","tags","description"]⟩
def inbound : Gauge := ⟨"sakuracloud_internet_in","Internet's receive bytes (unit: Kbps)",identLabels⟩
def outbound : Gauge := ⟨"sakuracloud_internet_out","Internet's send bytes (unit: Kbps)",identLabels⟩

def ident (item : Zoned Internet) : List String := [item.resource.id,item.resource.name,item.zone]

/-- What the record says. -/
def rows (item : Zoned Internet) : Batch :=
  let r := item.resource
  [info.info (ident item ++
    [r.switch.id,r.bandWidthMbps,r.networkMaskLength,flattenTags r.tags,r.description])]

def trafficRows (item : Zoned Internet) (s : MonitorSample RouterTraffic) : Batch :=
  [(inbound.fill (s.value.inbound/1000) (ident item)).stamped s.time,
    (outbound.fill (s.value.outbound/1000) (ident item)).stamped s.time]

/-- The batch of one connection. -/
def batch (ctx : Context) (api : Api) (item : Zoned Internet) : Run Batch := do
  let id := item.resource.id
  let traffic ← ctx.settled "traffic" id (.call api (.internetTraffic item.zone id ctx.window))
  return rows item ++ rowsOf traffic (trafficRows item)

def collect (ctx : Context) (schedule : Schedule) (api : Api) : Run Unit :=
  ctx.collectEach schedule ctx.zones (fun z => .callZone api (.internets z)) (batch ctx api)

end CloudMetrics.Collect.Internets
