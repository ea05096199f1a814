import CloudMetrics.Collect.Kind
import CloudMetrics.Proofs.Recording

/-!
# The cycles of the listed kinds

Eight kinds share one cycle and differ in what they list, what they ask of a listed resource, and what
they make of the answers. A `Cycle` holds these differences together with the laws that the shared
part needs, and its runs are opened here once. In each kind's namespace stands the plan of calls for one
resource, as a function of the record alone.
-/
namespace CloudMetrics

open Cloud Metrics Time

/-- The calls that list resources; all others ask about one resource or the account. -/
def Cloud.Call.isListing : Call → Bool
  | .servers _ | .databases _ | .loadBalancers _ | .vpcRouters _ | .nfsAppliances _ | .internets _
  | .autoBackups _ | .proxyLbs _ => true
  | _ => false

namespace Collect

/-- What sets the cycle of one kind apart. -/
structure Cycle (ctx : Context) (api : Api) (α : Type) extends Listing api α where
  zones : List String
  /-- The calls that are made for one resource. -/
  plan : Zoned α → List Call
  batch : Zoned α → Run Batch
  isListing_call : ∀ z, (call z).isListing = true
  isListing_plan : ∀ r, ∀ c ∈ plan r, c.isListing = false
  batch_enquires : ∀ r, (batch r).Enquires ctx.collector api (plan r)
  batch_ne_nil : ∀ r, (batch r).value ≠ []

namespace Cycle

variable {ctx : Context} {api : Api} {α : Type} (c : Cycle ctx api α) (schedule : Schedule)

def run : Run Unit := ctx.collectEach schedule c.zones c.query c.batch

def deliver (r : Zoned α) : Run Unit := c.batch r >>= Run.emit

def listed : List (Zoned α) := c.resources c.zones

theorem forEach_batch (order : Order) (resources : List (Zoned α)) :
    (ctx.forEach order resources fun r => some <$> c.batch r).journal =
      (Run.sequence (order.arrange (resources.map c.deliver))).journal := by
  refine (Journal.append_empty _).trans ?_
  refine congrArg (fun task => (Run.sequence (order.arrange (resources.map task))).journal) ?_
  funext r
  change Run.mk _ ((some <$> c.batch r).journal ++ _) = _
  rw [Run.map_journal]
  rfl

theorem run_of_isComplete (h : c.isComplete c.zones = true) :
    ∃ deliveries : List (Run Unit), deliveries.Perm (c.listed.map c.deliver) ∧
      (c.run schedule).journal =
        { calls := c.zones.map c.call } ++ (Run.sequence deliveries).journal := by
  obtain ⟨resources,hp,hl⟩ := ctx.listIn_of_isComplete c.toListing schedule.zones h
  refine ⟨schedule.tasks.arrange (resources.map c.deliver),?_,?_⟩
  · exact (schedule.tasks.arrange_perm _).trans (hp.map c.deliver)
  · rw [run,Context.collectEach,hl,Run.bind_journal]
    exact congrArg (_ ++ ·) (c.forEach_batch schedule.tasks resources)

theorem run_of_not_isComplete (h : c.isComplete c.zones = false) :
    (c.run schedule).journal.calls = c.zones.map c.call ∧
      (c.run schedule).journal.Abandoned ctx.collector api := by
  obtain ⟨hv,hc,ha⟩ := ctx.listIn_of_not_isComplete c.toListing schedule.zones h
  have hr : (c.run schedule).journal = (ctx.listIn schedule.zones c.zones c.query).journal := by
    rw [run,Context.collectEach,Run.bind_journal,hv]
    exact Journal.append_empty _
  rw [hr]
  exact ⟨hc,ha⟩

theorem deliver_calls (r : Zoned α) : (c.deliver r).journal.calls = c.plan r := by
  rw [deliver,Run.bind_journal,Journal.append_calls,(c.batch_enquires r).calls_eq]
  exact List.append_nil _

theorem deliver_batches (r : Zoned α) : (c.deliver r).journal.batches = [(c.batch r).value] := by
  rw [deliver,Run.bind_journal,Journal.append_batches,(c.batch_enquires r).batches_eq,List.nil_append,
    Run.emit]
  simp [c.batch_ne_nil r]

theorem deliver_faithful (r : Zoned α) : (c.deliver r).journal.Faithful ctx.collector api := by
  rw [deliver,Run.bind_journal]
  exact (c.batch_enquires r).faithful.append ⟨⟨rfl,rfl⟩,rfl,rfl,rfl⟩

/-- A complete listing is followed by what the plan says of each listed resource. -/
theorem calls_perm (h : c.isComplete c.zones = true) :
    (c.run schedule).journal.calls.Perm (c.zones.map c.call ++ c.listed.flatMap c.plan) := by
  obtain ⟨deliveries,hp,hj⟩ := c.run_of_isComplete schedule h
  rw [hj,Journal.append_calls,Run.sequence_calls]
  refine List.Perm.append_left _ ((hp.flatMap_right _).trans ?_)
  rw [List.flatMap_map]
  exact .of_eq (congrArg c.listed.flatMap (funext c.deliver_calls))

/-- A complete listing is followed by one batch for each listed resource. -/
theorem batches_perm (h : c.isComplete c.zones = true) :
    (c.run schedule).journal.batches.Perm (c.listed.map fun r => (c.batch r).value) := by
  obtain ⟨deliveries,hp,hj⟩ := c.run_of_isComplete schedule h
  rw [hj,Journal.append_batches,Run.sequence_batches]
  refine (hp.flatMap_right _).trans ?_
  rw [List.flatMap_map,@List.map_eq_flatMap _ _ _ c.listed]
  exact .of_eq (congrArg c.listed.flatMap (funext c.deliver_batches))

theorem faithful_of_isComplete (h : c.isComplete c.zones = true) :
    (c.run schedule).journal.Faithful ctx.collector api := by
  obtain ⟨deliveries,hp,hj⟩ := c.run_of_isComplete schedule h
  rw [hj]
  refine Journal.Faithful.append (.of_calls ?_) ?_
  · intro d hd
    obtain ⟨z,hz,rfl⟩ := List.mem_map.mp hd
    simpa using List.all_eq_true.mp h z hz
  · refine Run.sequence_journal_induction .empty (fun _ _ ha hb => ha.append hb) _ ?_
    intro x hx
    obtain ⟨r,-,rfl⟩ := List.mem_map.mp (hp.mem_iff.mp hx)
    exact c.deliver_faithful r

end Cycle

end Collect

end CloudMetrics
