import CloudMetrics.Proofs.Interleavings

/-!
# The tasks of resources are contained

What is done for a resource is any number of queries, each of which may fail, and then a batch, unless the
task breaks off. The tasks of all resources take turns, query by query, and write into one journal. However
they do, in the end each batch has been handed over once and whole, each failed query and each broken task
has been recorded once, and only failed queries have said something about the cloud.
-/
namespace CloudMetrics.Collect

open Cloud Metrics Time

/-- A query that has failed. -/
structure Mishap where
  stage : String
  subject : String
  failure : Failure

namespace Mishap

/-- The cloud has refused the credentials. -/
def isRejection (m : Mishap) : Bool := m.failure.api?.any ApiError.isRejection

/-- The cloud has not answered, or has failed itself. -/
def isBreakdown (m : Mishap) : Bool := m.failure.api?.any ApiError.isBreakdown

def event (ctx : Context) (m : Mishap) : Event := ⟨ctx.source,ctx.collector,m.stage,m.subject,m.failure⟩

end Mishap

/-- What is done for a resource. What comes after a query hangs on what it gave. -/
inductive Enrichment : Type 1 where
  | fetch {α : Type} (stage subject : String) (calls : List Call) (answer : Except Failure α)
      (next : Option α → Enrichment)
  | done (batch : Batch)
  | broken

namespace Enrichment

def run (ctx : Context) : Enrichment → Run (Option Batch)
  | fetch stage subject calls answer next => do
    run ctx (next (← ctx.fetch stage subject ⟨answer,{ calls }⟩))
  | done b => pure (some b)
  | broken => pure none

/-- The queries that fail, in their order. -/
def failed : Enrichment → List Mishap
  | fetch stage subject _ answer next =>
    (match answer with
      | .ok _ => []
      | .error f => [⟨stage,subject,f⟩]) ++ failed (next answer.toOption)
  | done _ => []
  | broken => []

/-- The batch in the end. -/
def batch? : Enrichment → Option Batch
  | fetch _ _ _ answer next => batch? (next answer.toOption)
  | done b => some b
  | broken => none

def isBroken (e : Enrichment) : Bool := e.batch?.isNone

/-- The task of a resource: its batch is handed over, or it is recorded that the task broke off. -/
def task (ctx : Context) (e : Enrichment) : Run Unit := do
  match ← e.run ctx with
  | some b => Run.emit b
  | none => ctx.record "enrich" "unknown" Context.brokenTask

end Enrichment

theorem Context.forEach_run {α : Type} (ctx : Context) (order : Order) (resources : List (Zoned α))
    (enrich : Zoned α → Enrichment) :
    (ctx.forEach order resources fun r => (enrich r).run ctx).journal =
      (Run.sequence (order.arrange (resources.map fun r => (enrich r).task ctx))).journal :=
  Journal.append_empty _

/-- The batches are those of the tasks that did not break off; every failed query and every broken task is
recorded once; and what is known of the cloud is known from the failed queries. -/
structure Contained (ctx : Context) (tasks : List Enrichment) (j : Journal) : Prop where
  batches : j.batches.Perm ((tasks.filterMap Enrichment.batch?).filter fun b => !b.isEmpty)
  failures : j.failures = (tasks.flatMap Enrichment.failed).length + tasks.countP Enrichment.isBroken
  counted : j.counted = List.replicate j.failures ctx.collector
  events : j.events.Perm ((tasks.flatMap Enrichment.failed).map (Mishap.event ctx) ++
    List.replicate (tasks.countP Enrichment.isBroken)
      ⟨ctx.source,ctx.collector,"enrich","unknown",Context.brokenTask⟩)
  rejected : j.faults.rejected = (tasks.flatMap Enrichment.failed).countP Mishap.isRejection
  unavailable : j.faults.unavailable = (tasks.flatMap Enrichment.failed).countP Mishap.isBreakdown

/-- What a journal yields, the increments of the error counter, and what was logged. -/
abbrev Account := Yield × Multiset String × Multiset Event

def Journal.account (j : Journal) : Account := (j.yield,j.counted,j.events)

@[simp] theorem Journal.account_append (a b : Journal) : (a++b).account = a.account+b.account := by
  simp [account,← Multiset.coe_add]

theorem Mishap.ofFailure_eq (m : Mishap) :
    Faults.ofFailure m.failure = ⟨if m.isRejection then 1 else 0,if m.isBreakdown then 1 else 0⟩ := by
  unfold Faults.ofFailure isRejection isBreakdown
  cases m.failure.api? with
  | none => rfl
  | some e => exact Faults.ofError_eq e

theorem Context.record_account (ctx : Context) (m : Mishap) :
    (ctx.record m.stage m.subject m.failure).journal.account =
      ((0,1,if m.isRejection then 1 else 0,if m.isBreakdown then 1 else 0),{ctx.collector},{m.event ctx}) := by
  simp only [record,Journal.account,Journal.yield,m.ofFailure_eq]
  rfl

theorem Context.fetch_account (ctx : Context) {α : Type} (stage subject : String) (calls : List Call)
    (answer : Except Failure α) : (ctx.fetch stage subject ⟨answer,{ calls }⟩).journal.account =
      match answer with
      | .ok _ => 0
      | .error f => (ctx.record stage subject f).journal.account := by
  cases answer with
  | ok a => rfl
  | error f =>
    simp only [fetch,Run.bind_journal,Run.pure_journal,Journal.append_empty,Journal.account_append]
    exact zero_add _

/-- What the tasks have still to do. -/
def owed (ctx : Context) (tasks : List Enrichment) : Account :=
  let failed := tasks.flatMap Enrichment.failed
  let broken := tasks.countP Enrichment.isBroken
  ((((tasks.filterMap Enrichment.batch?).filter fun b => !b.isEmpty : List Batch),failed.length + broken,
      failed.countP Mishap.isRejection,failed.countP Mishap.isBreakdown),
    (List.replicate (failed.length + broken) ctx.collector : List String),
    (failed.map (Mishap.event ctx) ++
      List.replicate broken ⟨ctx.source,ctx.collector,"enrich","unknown",Context.brokenTask⟩ : List Event))

theorem owed_append (ctx : Context) (a b : List Enrichment) : owed ctx (a++b) = owed ctx a + owed ctx b := by
  simp only [owed,List.flatMap_append,List.countP_append,List.filterMap_append,List.filter_append,List.map_append,
    List.length_append,List.replicate_add,← Multiset.coe_add,Prod.mk_add_mk]
  refine Prod.ext (Prod.ext rfl (Prod.ext ?_ rfl)) (Prod.ext ?_ ?_) <;> dsimp only
  · omega
  · abel
  · abel

theorem owed_done (ctx : Context) (b : Batch) : owed ctx [.done b] = (Run.emit b).journal.account := by
  unfold owed Run.emit
  cases b with
  | nil => rfl
  | cons s b => rfl

theorem owed_broken (ctx : Context) :
    owed ctx [.broken] = (ctx.record "enrich" "unknown" Context.brokenTask).journal.account :=
  (ctx.record_account ⟨"enrich","unknown",Context.brokenTask⟩).symm

/-- One failed query more, and all else the same. -/
theorem owed_of_failed (ctx : Context) {e rest : Enrichment} {m : Mishap} (hf : e.failed = m :: rest.failed)
    (hb : e.batch? = rest.batch?) :
    owed ctx [e] = (ctx.record m.stage m.subject m.failure).journal.account + owed ctx [rest] := by
  have hbroken : e.isBroken = rest.isBroken := congrArg Option.isNone hb
  simp only [owed,ctx.record_account,List.flatMap_cons,List.flatMap_nil,List.append_nil,hf,List.filterMap_cons,hb,
    List.countP_cons,hbroken,List.length_cons,List.map_cons,Prod.mk_add_mk,zero_add]
  refine Prod.ext (Prod.ext rfl (Prod.ext ?_ (Prod.ext ?_ ?_))) (Prod.ext ?_ ?_) <;> dsimp only
  · omega
  · omega
  · omega
  · rw [Nat.add_right_comm]
    rfl
  · rfl

theorem owed_fetch (ctx : Context) {α : Type} (stage subject : String) (calls : List Call)
    (answer : Except Failure α) (next : Option α → Enrichment) :
    owed ctx [.fetch stage subject calls answer next] =
      (ctx.fetch stage subject ⟨answer,{ calls }⟩).journal.account + owed ctx [next answer.toOption] := by
  rw [ctx.fetch_account]
  cases answer with
  | ok a => exact (zero_add _).symm
  | error f => exact owed_of_failed ctx (m := ⟨stage,subject,f⟩) rfl rfl

/-- The tasks that are still running, and what has been written so far. -/
structure Pool where
  running : List Enrichment
  journal : Journal := {}

namespace Pool

variable (ctx : Context)

/-- Any of the running tasks makes its next query, hands over its batch, or breaks off. -/
inductive Step : Pool → Pool → Prop
  | fetch (before : List Enrichment) {after : List Enrichment} {α : Type} {stage subject : String}
      {calls : List Call} {answer : Except Failure α} {next : Option α → Enrichment} {j : Journal} :
      Step ⟨before ++ .fetch stage subject calls answer next :: after,j⟩
        ⟨before ++ next answer.toOption :: after,j ++ (ctx.fetch stage subject ⟨answer,{ calls }⟩).journal⟩
  | finish (before : List Enrichment) {after : List Enrichment} {b : Batch} {j : Journal} :
      Step ⟨before ++ .done b :: after,j⟩ ⟨before ++ after,j ++ (Run.emit b).journal⟩
  | breakOff (before : List Enrichment) {after : List Enrichment} {j : Journal} :
      Step ⟨before ++ .broken :: after,j⟩
        ⟨before ++ after,j ++ (ctx.record "enrich" "unknown" Context.brokenTask).journal⟩

abbrev Steps : Pool → Pool → Prop := Relation.ReflTransGen (Step ctx)

/-- What has been written and what is still to do. -/
def balance (p : Pool) : Account := p.journal.account + owed ctx p.running

variable {ctx} {p q : Pool}

theorem balance_split {before after : List Enrichment} {e : Enrichment} {j : Journal} :
    balance ctx ⟨before ++ e :: after,j⟩ =
      j.account + owed ctx [e] + owed ctx (before ++ after) := by
  rw [balance,← List.singleton_append,owed_append,owed_append,owed_append]
  dsimp only
  abel

theorem Step.balance_eq (h : Step ctx p q) : q.balance ctx = p.balance ctx := by
  cases h with
  | fetch before =>
    rw [balance_split,balance_split,owed_fetch,Journal.account_append]
    abel
  | finish before =>
    rw [balance_split,owed_done,balance,Journal.account_append]
  | breakOff before =>
    rw [balance_split,owed_broken,balance,Journal.account_append]

theorem Steps.balance_eq (h : Steps ctx p q) : q.balance ctx = p.balance ctx := by
  induction h with
  | refl => rfl
  | tail _ hs ih => rw [hs.balance_eq,ih]

/-- A task can do all that it has to do while the others wait. -/
theorem Steps.of_task (before after : List Enrichment) (e : Enrichment) (j : Journal) :
    Steps ctx ⟨before ++ e :: after,j⟩ ⟨before ++ after,j ++ (e.task ctx).journal⟩ := by
  induction e generalizing j with
  | fetch stage subject calls answer next ih =>
    have hv : (ctx.fetch stage subject ⟨answer,{ calls }⟩).value = answer.toOption := ctx.fetch_value ..
    have hj : ((Enrichment.fetch stage subject calls answer next).task ctx).journal =
        (ctx.fetch stage subject ⟨answer,{ calls }⟩).journal ++ ((next answer.toOption).task ctx).journal := by
      rw [← hv]
      exact Journal.append_assoc ..
    rw [hj,← Journal.append_assoc]
    exact .head (.fetch before) (ih answer.toOption _)
  | done b =>
    have hj : ((Enrichment.done b).task ctx).journal = (Run.emit b).journal := Journal.empty_append _
    rw [hj]
    exact .single (.finish before)
  | broken =>
    have hj : (Enrichment.broken.task ctx).journal =
        (ctx.record "enrich" "unknown" Context.brokenTask).journal := Journal.empty_append _
    rw [hj]
    exact .single (.breakOff before)

/-- The tasks can do what they have to do one after the other, in any order. -/
theorem Steps.of_sequence {runs : List (Run Unit)} {tasks : List Enrichment} {j : Journal}
    (h : runs.Perm (tasks.map (Enrichment.task ctx))) :
    Steps ctx ⟨tasks,j⟩ ⟨[],j ++ (Run.sequence runs).journal⟩ := by
  induction runs generalizing tasks j with
  | nil =>
    obtain rfl := List.map_eq_nil_iff.mp h.nil_eq.symm
    have hj : j ++ (Run.sequence ([] : List (Run Unit))).journal = j := Journal.append_empty j
    rw [hj]
  | cons x runs ih =>
    obtain ⟨e,he,rfl⟩ := List.mem_map.mp (h.mem_iff.mp List.mem_cons_self)
    obtain ⟨before,after,rfl⟩ := List.append_of_mem he
    rw [List.map_append,List.map_cons] at h
    have hrest : runs.Perm ((before ++ after).map (Enrichment.task ctx)) := by
      rw [List.map_append]
      exact (h.trans List.perm_middle).cons_inv
    rw [Run.sequence_cons_journal,← Journal.append_assoc]
    exact (Steps.of_task before after e j).trans (ih hrest)

end Pool

theorem Contained.of_account {ctx : Context} {tasks : List Enrichment} {j : Journal}
    (h : j.account = owed ctx tasks) : Contained ctx tasks j := by
  simp only [Journal.account,Journal.yield,owed,Prod.mk.injEq,Multiset.coe_eq_coe] at h
  obtain ⟨⟨hbatches,hfailures,hrejected,hunavailable⟩,hcounted,hevents⟩ := h
  constructor
  case batches => exact hbatches
  case failures => exact hfailures
  case counted => rw [hfailures,List.perm_replicate.mp hcounted]
  case events => exact hevents
  case rejected => exact hrejected
  case unavailable => exact hunavailable

namespace Pool

variable {ctx : Context} {tasks : List Enrichment} {p : Pool}

/-- What has been written is an account of what the running tasks do not owe any more. -/
theorem Steps.account_add_owed (h : Steps ctx ⟨tasks,{}⟩ p) :
    p.journal.account + owed ctx p.running = owed ctx tasks :=
  h.balance_eq.trans (zero_add _)

theorem Steps.contained {j : Journal} (h : Steps ctx ⟨tasks,{}⟩ ⟨[],j⟩) : Contained ctx tasks j :=
  .of_account ((add_zero _).symm.trans h.account_add_owed)

/-- Nothing is handed over that is not a whole batch of a task that does not break off. -/
theorem Steps.batches_subperm (h : Steps ctx ⟨tasks,{}⟩ p) :
    p.journal.batches.Subperm ((tasks.filterMap Enrichment.batch?).filter fun b => !b.isEmpty) := by
  have hb := congrArg (fun a : Account => a.1.1) h.account_add_owed
  exact Multiset.coe_le.mp (Multiset.le_iff_exists_add.mpr ⟨_,hb.symm⟩)

theorem Steps.exists_finish : ∃ j, Steps ctx p ⟨[],j⟩ := ⟨_,.of_sequence (.refl _)⟩

end Pool

section
variable {α : Type} (ctx : Context) (resources : List (Zoned α)) (enrich : Zoned α → Enrichment)

theorem forEach_steps (order : Order) : Pool.Steps ctx ⟨resources.map enrich,{}⟩
    ⟨[],(ctx.forEach order resources fun r => (enrich r).run ctx).journal⟩ := by
  have hp := order.arrange_perm (resources.map fun r => (enrich r).task ctx)
  rw [ctx.forEach_run,← Journal.empty_append (Run.sequence _).journal]
  apply Pool.Steps.of_sequence
  rw [List.map_map]
  exact hp

/-- Where the tasks of some resources break off, the others hand over what they do without them. -/
theorem forEach_batches_of_broken (enrich' : Zoned α → Enrichment)
    (h : ∀ r ∈ resources, (enrich' r).isBroken = true ∨ enrich' r = enrich r) (order order' : Order) :
    (ctx.forEach order resources fun r => (enrich' r).run ctx).journal.batches.Perm
      (ctx.forEach order' (resources.filter fun r => !(enrich' r).isBroken) fun r =>
        (enrich r).run ctx).journal.batches := by
  have hb := (forEach_steps ctx resources enrich' order).contained.batches
  have hb' := (forEach_steps ctx (resources.filter fun r => !(enrich' r).isBroken) enrich order').contained.batches
  have he : (resources.map enrich').filterMap Enrichment.batch? =
      ((resources.filter fun r => !(enrich' r).isBroken).map enrich).filterMap Enrichment.batch? := by
    rw [List.filterMap_map,List.filterMap_map,List.filterMap_filter]
    refine List.filterMap_congr fun r hr => ?_
    rcases h r hr with hbroken | heq
    · have hn : (enrich' r).batch? = none := Option.isNone_iff_eq_none.mp hbroken
      simp [hn,hbroken]
    · rw [Function.comp_apply,heq]
      cases hb : (enrich r).batch? <;> simp [Enrichment.isBroken,hb]
  exact hb.trans (he ▸ hb'.symm)

/-- The tasks of resources are contained, in every order of completion and whenever they take turns. On the
way nothing but whole batches has been handed over, and the tasks can always be brought to an end. A task that
breaks off changes nothing for the others. -/
theorem resource_tasks_are_contained :
    (∀ order,
      Contained ctx (resources.map enrich)
        (ctx.forEach order resources fun r => (enrich r).run ctx).journal ∧
      Pool.Steps ctx ⟨resources.map enrich,{}⟩
        ⟨[],(ctx.forEach order resources fun r => (enrich r).run ctx).journal⟩) ∧
    (∀ j, Pool.Steps ctx ⟨resources.map enrich,{}⟩ ⟨[],j⟩ → Contained ctx (resources.map enrich) j) ∧
    (∀ p, Pool.Steps ctx ⟨resources.map enrich,{}⟩ p → (∃ j, Pool.Steps ctx p ⟨[],j⟩) ∧
      p.journal.batches.Subperm
        (((resources.map enrich).filterMap Enrichment.batch?).filter fun b => !b.isEmpty)) ∧
    ∀ enrich' : Zoned α → Enrichment, (∀ r ∈ resources, (enrich' r).isBroken = true ∨ enrich' r = enrich r) →
      ∀ order order',
        (ctx.forEach order resources fun r => (enrich' r).run ctx).journal.batches.Perm
          (ctx.forEach order' (resources.filter fun r => !(enrich' r).isBroken) fun r =>
            (enrich r).run ctx).journal.batches := by
  refine ⟨?forEach,?steps,?onTheWay,?others⟩
  case forEach =>
    intro order
    have h := forEach_steps ctx resources enrich order
    exact ⟨h.contained,h⟩
  case steps =>
    intro j h
    exact h.contained
  case onTheWay =>
    intro p h
    exact ⟨Pool.Steps.exists_finish,h.batches_subperm⟩
  case others => exact forEach_batches_of_broken ctx resources enrich

end

/-- What is done for two resources: the first has a batch, and for the second two queries fail before the last
step. -/
def afterFailures (last : Enrichment) (r : Zoned String) : Enrichment :=
  if r.resource = "a" then .done [⟨"up","",[],1,none⟩]
  else .fetch "status" "b" [] (.error (.ofApi (.status "/b" 503 "")) : Except Failure Unit) fun _ =>
    .fetch "nic" "b" [] (.error (.ofText "no such field") : Except Failure Unit) fun _ => last

/-- What is written where the last step is to break off. -/
def brokenTrial : Journal :=
  ((Context.new "test" ["is1a"] .epoch).forEach .asStarted [⟨"is1a","a"⟩,⟨"is1a","b"⟩] fun r =>
    (afterFailures .broken r).run (.new "test" ["is1a"] .epoch)).journal

/-- Three failures, one of them of the cloud, and the batch of the first resource as if it were alone. -/
theorem resource_tasks_are_contained_of_one_broken :
    brokenTrial.failures = 3 ∧ brokenTrial.counted = ["test","test","test"] ∧
    brokenTrial.faults = ⟨0,1⟩ ∧
    brokenTrial.batches.Perm
      ((Context.new "test" ["is1a"] .epoch).forEach .asStarted [⟨"is1a","a"⟩] fun r =>
        (afterFailures (.done []) r).run (.new "test" ["is1a"] .epoch)).journal.batches := by
  have h := resource_tasks_are_contained (.new "test" ["is1a"] .epoch) [⟨"is1a","a"⟩,⟨"is1a","b"⟩]
    (afterFailures (.done []))
  refine ⟨rfl,rfl,rfl,h.2.2.2 (afterFailures .broken) ?_ .asStarted .asStarted⟩
  intro r hr
  simp only [List.mem_cons,List.not_mem_nil,or_false] at hr
  rcases hr with rfl | rfl
  · exact .inr rfl
  · exact .inl rfl

end CloudMetrics.Collect
