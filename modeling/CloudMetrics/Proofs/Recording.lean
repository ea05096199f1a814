import CloudMetrics.Proofs.Journals
import CloudMetrics.Proofs.ZoneQueries

/-!
# What is recorded of failed calls

A query that fails is recorded once: one failure, one increment, one event, and at most one fault of
the cloud. A listing that fails in some zones is recorded once as a whole, while every failed zone adds
its fault. Both are stated of journals, so that they carry over to whatever is built of queries.
-/
namespace CloudMetrics

open Cloud Metrics Time

namespace Cloud

def errorOf? {α : Type} : Except ApiError α → Option ApiError
  | .ok _ => none
  | .error e => some e

/-- The call is answered with status 401 or 403. -/
def ApiError.isRejection : ApiError → Bool
  | .status _ code _ => code == 401 || code == 403
  | _ => false

/-- The call gets no whole answer, or one with a status from 500 to 599. -/
def ApiError.isBreakdown : ApiError → Bool
  | .transport _ => true
  | .status _ code _ => decide (500 ≤ code) && decide (code ≤ 599)
  | _ => false

namespace ApiError

theorem isUnauthorized_eq_isRejection (e : ApiError) : e.isUnauthorized = e.isRejection := by
  cases e <;> simp [isUnauthorized,status?,isRejection,Bool.beq_eq_decide_eq]

theorem isUnavailable_eq_isBreakdown (e : ApiError) : e.isUnavailable = e.isBreakdown := by
  cases e <;> rfl

theorem not_isRejection_and_isBreakdown (e : ApiError) :
    (e.isRejection && e.isBreakdown) = false := by
  cases e with
  | status _ code _ =>
    simp only [isRejection,isBreakdown,Bool.and_eq_false_iff,Bool.or_eq_false_iff,beq_eq_false_iff_ne,
      decide_eq_false_iff_not]
    omega
  | _ => rfl

end ApiError

namespace Api

def error? (api : Api) (c : Call) : Option ApiError := errorOf? (api c)

def fails (api : Api) (c : Call) : Bool := (api.error? c).isSome

def rejects (api : Api) (c : Call) : Bool := (api.error? c).any ApiError.isRejection

def breaksDown (api : Api) (c : Call) : Bool := (api.error? c).any ApiError.isBreakdown

end Api

end Cloud

namespace Collect

variable {α V : Type}

theorem Faults.ofError_eq (e : ApiError) :
    Faults.ofError e = ⟨if e.isRejection then 1 else 0,if e.isBreakdown then 1 else 0⟩ := by
  have hx := e.not_isRejection_and_isBreakdown
  rw [ofError,e.isUnauthorized_eq_isRejection,e.isUnavailable_eq_isBreakdown]
  generalize e.isRejection = r at hx ⊢
  generalize e.isBreakdown = b at hx ⊢
  cases r with
  | true =>
    rw [Bool.true_and] at hx
    rw [hx]
    rfl
  | false => cases b <;> rfl

namespace Journal

/-- What a failed call says about the cloud is noted for each call. -/
structure NotesFaults (api : Api) (j : Journal) : Prop where
  rejected : j.faults.rejected = j.calls.countP api.rejects
  unavailable : j.faults.unavailable = j.calls.countP api.breaksDown

/-- Every failed call is recorded once, and nothing else is recorded. -/
structure Faithful (collector : String) (api : Api) (j : Journal) : Prop
    extends NotesFaults api j where
  failures : j.failures = j.calls.countP api.fails
  counted : j.counted = List.replicate j.failures collector
  events : j.events.length = j.failures

/-- One failure is recorded, however many calls have failed, and no batch is handed over. -/
structure Abandoned (collector : String) (api : Api) (j : Journal) : Prop
    extends NotesFaults api j where
  failures : j.failures = 1
  counted : j.counted = [collector]
  events : j.events.length = 1
  batches : j.batches = []

variable {collector : String} {api : Api}

theorem Faithful.empty : ({} : Journal).Faithful collector api := ⟨⟨rfl,rfl⟩,rfl,rfl,rfl⟩

theorem Faithful.append {a b : Journal} (ha : a.Faithful collector api)
    (hb : b.Faithful collector api) :
    (a++b).Faithful collector api := by
  refine ⟨⟨?_,?_⟩,?_,?_,?_⟩
  · simp only [append_faults,Faults.merge_rejected,append_calls,List.countP_append,ha.rejected,
      hb.rejected]
  · simp only [append_faults,Faults.merge_unavailable,append_calls,List.countP_append,ha.unavailable,
      hb.unavailable]
  · simp only [append_failures,append_calls,List.countP_append,ha.failures,hb.failures]
  · simp only [append_counted,append_failures,List.replicate_add,← ha.counted,← hb.counted]
  · simp only [append_events,append_failures,List.length_append,ha.events,hb.events]

/-- Calls that succeed leave nothing to be recorded. -/
theorem Faithful.of_calls {calls : List Call} (h : ∀ c ∈ calls, api.fails c = false) :
    ({ calls } : Journal).Faithful collector api := by
  have hn : ∀ c ∈ calls, api.error? c = none := by
    intro c hc
    simpa only [Api.fails,Option.isSome_eq_false_iff,Option.isNone_iff_eq_none] using h c hc
  refine ⟨⟨?_,?_⟩,?_,rfl,rfl⟩
  · exact (List.countP_eq_zero.mpr fun c hc => by simp [Api.rejects,hn c hc]).symm
  · exact (List.countP_eq_zero.mpr fun c hc => by simp [Api.breaksDown,hn c hc]).symm
  · exact (List.countP_eq_zero.mpr fun c hc => by simp [h c hc]).symm

end Journal

/-- A run that makes the given calls, records those that fail, and hands over nothing. -/
structure Run.Enquires (collector : String) (api : Api) (calls : List Call) (x : Run α) : Prop where
  calls_eq : x.journal.calls = calls
  batches_eq : x.journal.batches = []
  faithful : x.journal.Faithful collector api

namespace Run.Enquires

variable {β : Type} {collector : String} {api : Api} {cs ds : List Call}

theorem pure (a : α) : (Pure.pure a : Run α).Enquires collector api [] := ⟨rfl,rfl,.empty⟩

theorem bind {x : Run α} {f : α → Run β} (hx : x.Enquires collector api cs)
    (hf : ∀ a, (f a).Enquires collector api ds) : (x >>= f).Enquires collector api (cs++ds) := by
  refine ⟨?_,?_,?_⟩
  · rw [bind_journal,Journal.append_calls,hx.calls_eq,(hf x.value).calls_eq]
  · rw [bind_journal,Journal.append_batches,hx.batches_eq,(hf x.value).batches_eq,List.append_nil]
  · rw [bind_journal]
    exact hx.faithful.append (hf x.value).faithful

theorem bind_one {c : Call} {x : Run α} {f : α → Run β} (hx : x.Enquires collector api [c])
    (hf : ∀ a, (f a).Enquires collector api ds) : (x >>= f).Enquires collector api (c :: ds) :=
  hx.bind hf

/-- What is computed from the value of a run adds nothing to its journal. -/
theorem bind_pure {x : Run α} (f : α → β) (hx : x.Enquires collector api cs) :
    (x >>= fun a => Pure.pure (f a)).Enquires collector api cs := by
  simpa only [List.append_nil] using hx.bind fun a => pure (f a)

theorem sequence {ι : Type} (is : List ι) (f : ι → Run α) (plan : ι → List Call)
    (h : ∀ i, (f i).Enquires collector api (plan i)) :
    (Run.sequence (is.map f)).Enquires collector api (is.flatMap plan) := by
  refine ⟨?_,?_,?_⟩
  · rw [sequence_calls,List.flatMap_map]
    exact congrArg is.flatMap (funext fun i => (h i).calls_eq)
  · rw [sequence_batches,List.flatMap_map,List.flatMap_eq_nil_iff]
    exact fun i _ => (h i).batches_eq
  · refine sequence_journal_induction .empty (fun _ _ ha hb => ha.append hb) _ ?_
    intro x hx
    obtain ⟨i,-,rfl⟩ := List.mem_map.mp hx
    exact (h i).faithful

theorem sequence_one {ι : Type} (is : List ι) (f : ι → Run α) (call : ι → Call)
    (h : ∀ i, (f i).Enquires collector api [call i]) :
    (Run.sequence (is.map f)).Enquires collector api (is.map call) := by
  rw [@List.map_eq_flatMap _ _ call is]
  exact sequence is f (fun i => [call i]) h

end Run.Enquires

namespace Context

variable (ctx : Context) (api : Api) (c : Call) (stage subject : String)

theorem fetch_call_of_error {e : ApiError} (h : api c = .error e) :
    (ctx.fetch stage subject (.call api c)).journal =
      { calls := [c], failures := 1, faults := .ofError e, counted := [ctx.collector],
        events := [⟨ctx.source,ctx.collector,stage,subject,.ofApi e⟩] } := by
  have hv : (Run.call api c).value = .error (.ofApi e) := by rw [Run.call_value,h]; rfl
  rw [fetch,Run.bind_journal,hv,Run.call_journal]
  simp only [Run.bind_journal,Run.pure_journal,Journal.append_empty]
  simp only [record]
  change Journal.mk _ _ _ _ _ _ = _
  simp [Faults.merge,Faults.ofFailure,Failure.api?,Failure.ofApi]

theorem fetch_call_of_ok {a : c.Answer} (h : api c = .ok a) :
    (ctx.fetch stage subject (.call api c)).journal = { calls := [c] } := by
  have hv : (Run.call api c).value = .ok a := by rw [Run.call_value,h]; rfl
  rw [fetch,Run.bind_journal,hv,Run.call_journal]
  exact Journal.append_empty _

theorem fetch_enquires :
    (ctx.fetch stage subject (.call api c)).Enquires ctx.collector api [c] := by
  refine ⟨by simp,by simp,?_⟩
  cases h : api c with
  | ok a =>
    rw [ctx.fetch_call_of_ok api c stage subject h]
    refine .of_calls fun d hd => ?_
    rw [List.mem_singleton.mp hd,Api.fails,Api.error?,h]
    rfl
  | error e =>
    rw [ctx.fetch_call_of_error api c stage subject h]
    have he : api.error? c = some e := by simp [Api.error?,errorOf?,h]
    refine ⟨⟨?_,?_⟩,?_,rfl,rfl⟩
    · simp [Faults.ofError_eq,List.countP_singleton,Api.rejects,he]
    · simp [Faults.ofError_eq,List.countP_singleton,Api.breaksDown,he]
    · simp [Api.fails,he]

variable {ctx} {api} {c} {stage} {subject} in
theorem settled_enquires {query : Run (Except Failure (List (MonitorSample V)))}
    (h : (ctx.fetch stage subject query).Enquires ctx.collector api [c]) :
    (ctx.settled stage subject query).Enquires ctx.collector api [c] :=
  h.bind_pure _

end Context

/-- A listing by zone: the call that is made in a zone, and how it is answered. -/
structure Listing (api : Api) (α : Type) where
  call : String → Call
  answer : String → Except ApiError (List α)
  errorOf?_answer : ∀ z, errorOf? (answer z) = api.error? (call z)

namespace Listing

variable {api : Api} (l : Listing api α) (zones : List String)

def query (z : String) : Run (Outcome (List α)) :=
  ⟨.ofExcept (l.answer z),{ calls := [l.call z] }⟩

def task (z : String) : String × Outcome (List α) := (z,.ofExcept (l.answer z))

def isComplete : Bool := zones.all fun z => !api.fails (l.call z)

/-- The resources of the zones that can be listed, zone by zone. -/
def resources : List (Zoned α) :=
  zones.flatMap fun z => ((l.answer z).toOption.getD []).map (⟨z,·⟩)

theorem taskItems_task (z : String) :
    taskItems (l.task z) = ((l.answer z).toOption.getD []).map (⟨z,·⟩) := by
  unfold task
  cases l.answer z <;> rfl

theorem taskError?_task (z : String) :
    taskError? (l.task z) = (api.error? (l.call z)).map fun e => ⟨z,.ofApi e⟩ := by
  rw [← l.errorOf?_answer z,task]
  cases l.answer z <;> rfl

theorem sequence_query :
    Run.sequence (zones.map fun z => do
      let o ← l.query z
      pure (z,o)) = ⟨zones.map l.task,{ calls := zones.map l.call }⟩ := by
  induction zones with
  | nil => rfl
  | cons z zones ih =>
    have hq : (do
        let o ← l.query z
        pure (z,o)) = (⟨l.task z,{ calls := [l.call z] }⟩ : Run _) := rfl
    rw [List.map_cons,hq,Run.sequence,ih]
    change Run.mk _ (_ ++ (Journal.mk _ _ _ _ _ _ ++ {})) = _
    rw [Journal.append_empty]
    rfl

/-- In any order of completion the resources of all zones are found. -/
theorem queryZones_items_perm (order : Order) :
    (queryZones order (zones.map l.task)).items.Perm (l.resources zones) := by
  rw [queryZones_items]
  refine ((order.arrange_perm _).flatMap_right _).trans ?_
  rw [List.flatMap_map,resources]
  exact .of_eq (congrArg zones.flatMap (funext l.taskItems_task))

/-- The errors of the zones that cannot be listed, zone by zone. -/
def errors : List ZoneError :=
  zones.filterMap fun z => (api.error? (l.call z)).map fun e => ⟨z,.ofApi e⟩

theorem queryZones_errors_perm_errors (order : Order) :
    (queryZones order (zones.map l.task)).errors.Perm (l.errors zones) := by
  refine (queryZones_errors_perm order _).trans ?_
  rw [List.filterMap_map,errors]
  exact .of_eq (congrArg (List.filterMap · zones) (funext l.taskError?_task))

theorem errors_eq_nil_iff : l.errors zones = [] ↔ l.isComplete zones = true := by
  simp only [errors,isComplete,List.filterMap_eq_nil_iff,Option.map_eq_none_iff,List.all_eq_true,
    Api.fails,Bool.not_eq_true',Option.isSome_eq_false_iff,Option.isNone_iff_eq_none]

end Listing

def totalFaults (errors : List ZoneError) : Faults :=
  errors.foldr (fun e f => (Faults.ofFailure e.failure).merge f) {}

/-- It does not matter which zone failed first. -/
theorem totalFaults_perm {errors errors' : List ZoneError} (h : errors.Perm errors') :
    totalFaults errors = totalFaults errors' := by
  induction h with
  | nil => rfl
  | cons e _ ih => exact congrArg (Faults.merge _) ih
  | swap e e' errors =>
    simp only [totalFaults,List.foldr_cons,Faults.merge,Faults.mk.injEq]
    omega
  | trans _ _ ih₁ ih₂ => exact ih₁.trans ih₂

theorem Listing.totalFaults_errors {api : Api} (l : Listing api α) (zones : List String) :
    totalFaults (l.errors zones) =
      ⟨(zones.map l.call).countP api.rejects,(zones.map l.call).countP api.breaksDown⟩ := by
  induction zones with
  | nil => rfl
  | cons z zones ih =>
    rw [List.map_cons,List.countP_cons,List.countP_cons]
    cases h : api.error? (l.call z) with
    | none =>
      have hz : l.errors (z :: zones) = l.errors zones := by simp [errors,h]
      rw [hz,ih]
      simp [Api.rejects,Api.breaksDown,h]
    | some e =>
      have hz : l.errors (z :: zones) = ⟨z,.ofApi e⟩ :: l.errors zones := by simp [errors,h]
      rw [hz,totalFaults,List.foldr_cons]
      change (Faults.ofError e).merge (totalFaults (l.errors zones)) = _
      rw [ih,Faults.ofError_eq,Faults.merge]
      simp [Api.rejects,Api.breaksDown,h,Nat.add_comm]

namespace Context

variable (ctx : Context) {api : Api}

theorem sequence_note (errors : List ZoneError) :
    (Run.sequence (errors.map fun e => note e.failure)).journal = { faults := totalFaults errors } := by
  induction errors with
  | nil => rfl
  | cons e errors ih =>
    rw [List.map_cons,Run.sequence_cons_journal,ih]
    rfl

/-- An incomplete result is recorded once, and every error adds its fault. -/
theorem settleZones_of_errors {r : ZoneResults α} (h : r.errors ≠ []) :
    ∃ event, ctx.settleZones r =
      ⟨none,{ failures := 1, faults := totalFaults r.errors, counted := [ctx.collector],
              events := [event] }⟩ := by
  obtain ⟨first,others,he⟩ := List.exists_cons_of_ne_nil h
  refine ⟨⟨ctx.source,ctx.collector,"list",String.intercalate "," (r.errors.map (·.zone)),
    first.failure⟩,?_⟩
  rw [settleZones,he]
  change Run.mk none (_ ++ ((Run.sequence (others.map fun e => note e.failure)).journal ++ {})) = _
  rw [sequence_note,Journal.append_empty]
  rfl

/-- When every zone can be listed, the resources are passed on and nothing is recorded. -/
theorem listIn_of_isComplete (l : Listing api α) {zones : List String} (order : Order)
    (h : l.isComplete zones = true) :
    ∃ resources, resources.Perm (l.resources zones) ∧
      ctx.listIn order zones l.query = ⟨some resources,{ calls := zones.map l.call }⟩ := by
  have he : (queryZones order (zones.map l.task)).errors = [] := by
    have hp := l.queryZones_errors_perm_errors zones order
    rw [(l.errors_eq_nil_iff zones).mpr h] at hp
    exact hp.eq_nil
  refine ⟨_,l.queryZones_items_perm zones order,?_⟩
  rw [listIn,l.sequence_query]
  change Run.mk (ctx.settleZones _).value (_ ++ (ctx.settleZones _).journal) = _
  rw [settleZones,he,Run.pure_journal,Journal.append_empty]
  rfl

/-- When a zone cannot be listed, no resource is passed on and the listing is recorded as one failure. -/
theorem listIn_of_not_isComplete (l : Listing api α) {zones : List String} (order : Order)
    (h : l.isComplete zones = false) :
    (ctx.listIn order zones l.query).value = none ∧
      (ctx.listIn order zones l.query).journal.calls = zones.map l.call ∧
      (ctx.listIn order zones l.query).journal.Abandoned ctx.collector api := by
  have hp := l.queryZones_errors_perm_errors zones order
  have he : (queryZones order (zones.map l.task)).errors ≠ [] := by
    intro hn
    rw [hn] at hp
    have hc := (l.errors_eq_nil_iff zones).mp hp.nil_eq.symm
    rw [h] at hc
    exact Bool.false_ne_true hc
  obtain ⟨event,hs⟩ := ctx.settleZones_of_errors he
  have hr : ctx.listIn order zones l.query =
      ⟨none,⟨zones.map l.call,1,totalFaults (l.errors zones),[ctx.collector],[event],[]⟩⟩ := by
    rw [listIn,l.sequence_query,← totalFaults_perm hp]
    change Run.mk (ctx.settleZones _).value (_ ++ (ctx.settleZones _).journal) = _
    rw [hs]
    change Run.mk none (Journal.mk _ _ _ _ _ _) = _
    simp [Faults.merge]
  rw [hr,l.totalFaults_errors]
  exact ⟨rfl,rfl,⟨⟨rfl,rfl⟩,rfl,rfl,rfl,rfl⟩⟩

end Context

end Collect

end CloudMetrics
