import CloudMetrics.Proofs.Scrapes
import CloudMetrics.Proofs.Gauges
import Mathlib.Algebra.Group.Prod
import Mathlib.Algebra.Order.Group.Multiset
import Mathlib.Logic.Relation
import Mathlib.Tactic.Abel

/-!
# Interleavings of a scrape

The kinds of a scrape run at once, and within a kind first the zone queries and then the resource tasks.
Here they take turns: a zone answers, a kind goes on from its answers to its resources, or a resource task
does a part of what it has to do. What a task hands over goes into the one queue, and the queue is emptied
when no kind is left running. What every step keeps is an account of batches and failures, so the samples
and reports in the end are those of a scrape, for some orders of completion.
-/
namespace CloudMetrics.Collect

open Cloud Metrics Time

/-- The batches handed over, the failures, and the faults of either sort. -/
abbrev Yield := Multiset Batch × Nat × Nat × Nat

def Journal.yield (j : Journal) : Yield :=
  (j.batches,j.failures,j.faults.rejected,j.faults.unavailable)

@[simp] theorem Journal.yield_empty : ({} : Journal).yield = 0 := rfl

@[simp] theorem Journal.yield_calls (calls : List Call) : ({ calls } : Journal).yield = 0 := rfl

@[simp] theorem Journal.yield_append (a b : Journal) : (a++b).yield = a.yield+b.yield := by
  simp [yield,← Multiset.coe_add]

theorem Run.sequence_yield {α : Type} (xs : List (Run α)) :
    (Run.sequence xs).journal.yield = (xs.map (·.journal.yield)).sum := by
  induction xs with
  | nil => rfl
  | cons x xs ih => simp [Run.sequence_cons_journal,ih]

theorem Journal.Alike.yield_eq {a b : Journal} (h : a.Alike b) : a.yield = b.yield := by
  simp only [yield,h.failures,h.faults,Multiset.coe_eq_coe.mpr h.batches]

theorem Journal.failures_of_yield {a b : Journal} (h : a.yield = b.yield) :
    a.failures = b.failures ∧ a.faults = b.faults := by
  obtain ⟨calls,failures,⟨rejected,unavailable⟩,counted,events,batches⟩ := a
  obtain ⟨calls',failures',⟨rejected',unavailable'⟩,counted',events',batches'⟩ := b
  simp only [yield,Prod.mk.injEq] at h
  obtain ⟨-,rfl,rfl,rfl⟩ := h
  exact ⟨rfl,rfl⟩

namespace Cycle

variable {ctx : Context} {api : Api} {α : Type} (c : Cycle ctx api α)

/-- What is made of the answers when all zones have answered in some order. -/
def settle (answered : List String) : Run (Option (List (Zoned α))) :=
  ctx.settleZones ((answered.map c.task).foldl (fun g t => g.complete t.1 t.2)
    ({ waiting := c.zones } : Gathering α)).close

/-- What the tasks of the listed resources have to do. -/
def tasks (resources : Option (List (Zoned α))) : List Journal :=
  (resources.getD []).map fun r => (c.deliver r).journal

end Cycle

/-- How far the run of a kind has come. -/
inductive Phase where
  /-- The zones that have answered, in that order, and those that are still asked. -/
  | listing (answered asked : List String)
  /-- What each of the tasks has still to do. -/
  | enriching (tasks : List Journal)

namespace Phase

/-- The step of a kind, with what is done in it. -/
inductive Step (s : Setting) (k : Kind) : Phase → Journal → Phase → Prop
  | answer {c : (α : Type) × Cycle s.context s.api α} {answered : List String} (before : List String)
      {zone : String} {after : List String} : k.cycle? s = some c →
      Step s k (.listing answered (before ++ zone :: after)) { calls := [c.2.call zone] }
        (.listing (answered ++ [zone]) (before ++ after))
  | settle {c : (α : Type) × Cycle s.context s.api α} {answered : List String} :
      k.cycle? s = some c →
      Step s k (.listing answered []) (c.2.settle answered).journal
        (.enriching (c.2.tasks (c.2.settle answered).value))
  | act (before : List Journal) {j rest : Journal} {after : List Journal} :
      Step s k (.enriching (before ++ (j++rest) :: after)) j (.enriching (before ++ rest :: after))
  | stop (before : List Journal) {after : List Journal} :
      Step s k (.enriching (before ++ {} :: after)) {} (.enriching (before ++ after))

/-- A kind that lists resources starts with its zones. An account kind is one task. -/
def start (s : Setting) (caches : Caches) (k : Kind) : Phase :=
  match k.cycle? s with
  | some c => .listing [] c.2.zones
  | none => .enriching [(k.collect s {} caches).journal]

end Phase

/-- A kind that runs, and what it has done so far. -/
structure Worker where
  kind : Kind
  phase : Phase
  done : Journal := {}

/-- A scrape on its way. -/
structure Scraping where
  workers : List Worker
  queue : List Batch := []
  reports : List Report := []
  samples : List Sample := []

namespace Scraping

section
variable (s : CollectorSet) (now : Instant) (api : Api) (caches : Caches)

def start : Scraping :=
  { workers := s.kinds.map fun k => ⟨k,.start (s.setting k now api) caches k,{}⟩ }

/-- A kind goes on, a kind has nothing left to do and reports, or a batch is received from the queue. No
batch is received as long as a kind runs. -/
inductive Step : Scraping → Scraping → Prop
  | work (before : List Worker) {after : List Worker} {k : Kind} {phase phase' : Phase}
      {done j : Journal} {queue : List Batch} {reports : List Report} {samples : List Sample} :
      phase.Step (s.setting k now api) k j phase' →
      Step ⟨before ++ ⟨k,phase,done⟩ :: after,queue,reports,samples⟩
        ⟨before ++ ⟨k,phase',done++j⟩ :: after,queue ++ j.batches,reports,samples⟩
  | report (before : List Worker) {after : List Worker} {k : Kind} {done : Journal}
      {queue : List Batch} {reports : List Report} {samples : List Sample} :
      Step ⟨before ++ ⟨k,.enriching [],done⟩ :: after,queue,reports,samples⟩
        ⟨before ++ after,queue,reports ++ [⟨k,done.failures,done.faults⟩],samples⟩
  | receive {b : Batch} {queue : List Batch} {reports : List Report} {samples : List Sample} :
      Step ⟨[],b :: queue,reports,samples⟩ ⟨[],queue,reports,samples ++ b⟩

abbrev Steps : Scraping → Scraping → Prop := Relation.ReflTransGen (Step s now api)

end

/-- No kind runs, and the queue is empty. -/
def IsFinished (x : Scraping) : Prop := x.workers = [] ∧ x.queue = []

end Scraping

theorem Cycle.yield_of_answered {ctx : Context} {api : Api} {α : Type} (c : Cycle ctx api α)
    {answered : List String} (h : answered.Perm c.zones) :
    ∃ order : Order, (c.run { zones := order }).journal.yield =
      (c.settle answered).journal.yield + ((c.tasks (c.settle answered).value).map Journal.yield).sum := by
  obtain ⟨order,ho⟩ := Order.exists_arrange_eq (h.map c.task)
  refine ⟨order,?_⟩
  have hz : (c.zones.map c.task).map (·.1) = c.zones := by
    rw [List.map_map]
    exact List.map_id _
  have hl : ctx.listIn order c.zones c.query =
      ⟨(c.settle answered).value,{ calls := c.zones.map c.call } ++ (c.settle answered).journal⟩ := by
    rw [Context.listIn,c.sequence_query]
    change Run.mk (ctx.settleZones (queryZones order _)).value (_ ++ (ctx.settleZones _).journal) = _
    rw [queryZones,ho,hz]
    rfl
  rw [run,Context.collectEach,hl,Run.bind_journal,Journal.yield_append,Journal.yield_append,
    Journal.yield_calls,zero_add]
  congr 1
  cases (c.settle answered).value with
  | none => rfl
  | some resources =>
    change (ctx.forEach .asStarted resources fun r => some <$> c.batch r).journal.yield = _
    rw [c.forEach_batch,Run.sequence_yield]
    simp [tasks,Order.asStarted,Function.comp_def]

namespace Phase

variable {s : Setting} {k : Kind} {phase phase' : Phase} {done j : Journal}

/-- What a kind has done, with what it has still to do, yields what its run yields. -/
def Owes (s : Setting) (caches : Caches) (k : Kind) (done : Journal) : Phase → Prop
  | .listing answered asked =>
    ∃ c, k.cycle? s = some c ∧ (answered ++ asked).Perm c.2.zones ∧ done.yield = 0
  | .enriching tasks =>
    done.yield + (tasks.map Journal.yield).sum = (k.collect s {} caches).journal.yield

theorem owes_start (s : Setting) (caches : Caches) (k : Kind) : (start s caches k).Owes s caches k {} := by
  unfold start
  cases h : k.cycle? s with
  | some c => exact ⟨c,h,.refl _,rfl⟩
  | none =>
    change 0 + ([(k.collect s {} caches).journal].map Journal.yield).sum = _
    simp

theorem Owes.step {caches : Caches} (ho : phase.Owes s caches k done) (h : Step s k phase j phase') :
    phase'.Owes s caches k (done++j) := by
  cases h with
  | @answer c answered before zone after hc =>
    obtain ⟨c',hc',hp,hy⟩ := ho
    refine ⟨c',hc',?_,?_⟩
    · rw [List.append_assoc,List.singleton_append]
      exact (List.Perm.append_left answered List.perm_middle.symm).trans hp
    · rw [Journal.yield_append,hy,Journal.yield_calls,add_zero]
  | @settle c answered hc =>
    obtain ⟨c',hc',hp,hy⟩ := ho
    obtain rfl := Option.some.inj (hc.symm.trans hc')
    rw [List.append_nil] at hp
    obtain ⟨order,hr⟩ := c.2.yield_of_answered hp
    have hk := (k.collect_alike s { zones := order } {} caches).yield_eq
    rw [k.collect_journal hc,hr] at hk
    change (done ++ (c.2.settle answered).journal).yield + _ = _
    rw [Journal.yield_append,hy,zero_add]
    exact hk
  | @act before j rest after =>
    change done.yield + _ = _ at ho
    change (done++j).yield + _ = _
    rw [← ho]
    simp only [List.map_append,List.map_cons,List.sum_append,List.sum_cons,Journal.yield_append]
    abel
  | stop before =>
    change done.yield + _ = _ at ho
    change (done ++ ({} : Journal)).yield + _ = _
    rw [← ho]
    simp

end Phase

namespace Scraping

variable (s : CollectorSet) (now : Instant) (api : Api) (caches : Caches)

/-- The batches of a kind when its tasks complete in the order in which they start. -/
def batchesOf (k : Kind) : List Batch := (s.runOf {} now api caches k).run.journal.batches

def reportOf (k : Kind) : Report := (s.runOf {} now api caches k).report

/-- The kinds have reported or still run. What was received or waits in the queue is what the former have
made in all and the latter so far. -/
structure Sound (x : Scraping) (reported : List Kind) (received : List Batch) : Prop where
  kinds : (reported ++ x.workers.map Worker.kind).Perm s.kinds
  owes : ∀ w ∈ x.workers, w.phase.Owes (s.setting w.kind now api) caches w.kind w.done
  reports : x.reports = reported.map (reportOf s now api caches)
  samples : x.samples = received.flatten
  batches : (received ++ x.queue).Perm
    (reported.flatMap (batchesOf s now api caches) ++ x.workers.flatMap (·.done.batches))

variable {s now api caches} {x x' : Scraping} {reported : List Kind} {received : List Batch}

theorem sound_start : (start s now api caches).Sound s now api caches [] [] where
  kinds := by simp [start,Function.comp_def]
  owes := by
    intro w hw
    obtain ⟨k,-,rfl⟩ := List.mem_map.mp hw
    exact Phase.owes_start _ caches k
  reports := rfl
  samples := rfl
  batches := by simp [start,List.flatMap_map]

theorem Sound.step (h : x.Sound s now api caches reported received) (hs : Step s now api x x') :
    ∃ reported' received', x'.Sound s now api caches reported' received' := by
  cases hs with
  | @work before after k phase phase' done j queue reports samples hstep =>
    have howes := h.owes ⟨k,phase,done⟩ (by simp)
    refine ⟨reported,received,?_⟩
    constructor
    case kinds => simpa using h.kinds
    case owes =>
      intro w hw
      simp only [List.mem_append,List.mem_cons] at hw
      rcases hw with hw | rfl | hw
      · exact h.owes w (by simp [hw])
      · exact howes.step hstep
      · exact h.owes w (by simp [hw])
    case reports => exact h.reports
    case samples => exact h.samples
    case batches =>
      have hb := h.batches
      rw [← Multiset.coe_eq_coe] at hb ⊢
      simp only [← Multiset.coe_add,List.flatMap_append,List.flatMap_cons,Journal.append_batches]
        at hb ⊢
      rw [← add_assoc,hb]
      abel
  | @report before after k done queue reports samples =>
    have howes := h.owes ⟨k,.enriching [],done⟩ (by simp)
    have hyield : done.yield = (s.runOf {} now api caches k).run.journal.yield := by
      change done.yield + 0 = _ at howes
      rw [← add_zero done.yield,howes]
      rfl
    refine ⟨reported ++ [k],received,?_⟩
    constructor
    case kinds =>
      refine List.Perm.trans ?_ h.kinds
      simp only [List.map_append,List.map_cons,List.append_assoc,List.singleton_append]
      exact List.Perm.append_left reported List.perm_middle.symm
    case owes =>
      intro w hw
      rcases List.mem_append.mp hw with hw | hw
      · exact h.owes w (by simp [hw])
      · exact h.owes w (by simp [hw])
    case reports =>
      obtain ⟨hf,hfaults⟩ := Journal.failures_of_yield hyield
      rw [List.map_append,← h.reports,hf,hfaults]
      rfl
    case samples => exact h.samples
    case batches =>
      have hb := h.batches
      have hk : (done.batches : Multiset Batch) = batchesOf s now api caches k :=
        congrArg Prod.fst hyield
      rw [← Multiset.coe_eq_coe] at hb ⊢
      simp only [← Multiset.coe_add,List.flatMap_append,List.flatMap_cons,List.flatMap_nil] at hb ⊢
      rw [hb,hk]
      abel
  | @receive b queue reports samples =>
    refine ⟨reported,received ++ [b],?_⟩
    constructor
    case kinds => exact h.kinds
    case owes => exact h.owes
    case reports => exact h.reports
    case samples =>
      rw [List.flatten_append,← h.samples]
      simp
    case batches =>
      rw [List.append_assoc]
      exact h.batches

theorem Steps.sound (h : Steps s now api (start s now api caches) x) :
    ∃ reported received, x.Sound s now api caches reported received := by
  induction h with
  | refl => exact ⟨[],[],sound_start⟩
  | tail _ hstep ih =>
    obtain ⟨reported,received,hsound⟩ := ih
    exact hsound.step hstep

/-- A scrape that is finished came out as one for some orders of completion. -/
theorem Sound.exists_schedule (h : x.Sound s now api caches reported received) (hf : x.IsFinished) :
    ∃ schedule, x.samples = (s.scrape schedule now api caches).samples ∧
      x.reports = (s.scrape schedule now api caches).reports := by
  obtain ⟨hw,hq⟩ := hf
  have hk := h.kinds
  have hb := h.batches
  rw [hw,List.map_nil,List.append_nil] at hk
  rw [hw,hq,List.append_nil,List.flatMap_nil,List.append_nil] at hb
  obtain ⟨kinds,hkinds⟩ := Order.exists_arrange_eq (hk.map (s.runOf {} now api caches))
  have hruns : kinds.arrange (s.runs {} now api caches) =
      reported.map (s.runOf {} now api caches) := hkinds
  have hrb : (reported.map (s.runOf {} now api caches)).flatMap (fun r => r.run.journal.batches) =
      reported.flatMap (batchesOf s now api caches) := List.flatMap_map ..
  obtain ⟨queue,hqueue⟩ := Order.exists_arrange_eq hb
  refine ⟨{ kinds, queue },?_,?_⟩
  · change x.samples = (queue.arrange ((kinds.arrange (s.runs {} now api caches)).flatMap
      fun r => r.run.journal.batches)).flatten
    rw [hruns,hrb,hqueue,h.samples]
  · change x.reports = (kinds.arrange (s.runs {} now api caches)).map KindRun.report
    rw [hruns,List.map_map,h.reports]
    rfl

section
variable {workers : List Worker} {k : Kind} {reports : List Report} {samples : List Sample}

theorem exists_enriched (tasks : List Journal) (done : Journal) (queue : List Batch) : ∃ done' queue',
    Steps s now api ⟨⟨k,.enriching tasks,done⟩ :: workers,queue,reports,samples⟩
      ⟨⟨k,.enriching [],done'⟩ :: workers,queue',reports,samples⟩ := by
  induction tasks generalizing done queue with
  | nil => exact ⟨done,queue,.refl⟩
  | cons task tasks ih =>
    have hact : Phase.Step (s.setting k now api) k (.enriching ((task ++ {}) :: tasks)) task
        (.enriching ({} :: tasks)) := .act []
    rw [Journal.append_empty] at hact
    have hstop : Phase.Step (s.setting k now api) k (.enriching ({} :: tasks)) {}
        (.enriching tasks) := .stop []
    obtain ⟨done',queue',h⟩ := ih (done ++ task ++ {}) (queue ++ task.batches ++ [])
    have hlast := Relation.ReflTransGen.head (Step.work [] hstop) h
    exact ⟨done',queue',Relation.ReflTransGen.head (Step.work [] hact) hlast⟩

theorem exists_listed {c : (α : Type) × Cycle (s.setting k now api).context (s.setting k now api).api α}
    (hc : k.cycle? (s.setting k now api) = some c) (answered asked : List String) (done : Journal)
    (queue : List Batch) : ∃ tasks done' queue',
      Steps s now api ⟨⟨k,.listing answered asked,done⟩ :: workers,queue,reports,samples⟩
        ⟨⟨k,.enriching tasks,done'⟩ :: workers,queue',reports,samples⟩ := by
  induction asked generalizing answered done queue with
  | nil => exact ⟨_,_,_,.single (Step.work [] (.settle hc))⟩
  | cons zone asked ih =>
    have hanswer : Phase.Step (s.setting k now api) k (.listing answered (zone :: asked))
        { calls := [c.2.call zone] } (.listing (answered ++ [zone]) asked) := .answer [] hc
    obtain ⟨tasks,done',queue',h⟩ := ih (answered ++ [zone]) (done ++ { calls := [c.2.call zone] })
      (queue ++ [])
    exact ⟨tasks,done',queue',Relation.ReflTransGen.head (Step.work [] hanswer) h⟩

theorem exists_reported {phase : Phase} {done : Journal} {queue : List Batch}
    (ho : phase.Owes (s.setting k now api) caches k done) :
    ∃ queue' reports', Steps s now api ⟨⟨k,phase,done⟩ :: workers,queue,reports,samples⟩
      ⟨workers,queue',reports',samples⟩ := by
  have henriching : ∀ tasks done queue, ∃ queue' reports',
      Steps s now api ⟨⟨k,.enriching tasks,done⟩ :: workers,queue,reports,samples⟩
        ⟨workers,queue',reports',samples⟩ := by
    intro tasks done queue
    obtain ⟨done',queue',h⟩ := exists_enriched tasks done queue
    exact ⟨queue',_,h.tail (Step.report [])⟩
  cases phase with
  | listing answered asked =>
    obtain ⟨c,hc,-⟩ := ho
    obtain ⟨tasks,done',queue',h⟩ := exists_listed hc answered asked done queue
    obtain ⟨queue'',reports',h'⟩ := henriching tasks done' queue'
    exact ⟨queue'',reports',h.trans h'⟩
  | enriching tasks => exact henriching tasks done queue

theorem exists_received (queue : List Batch) (samples : List Sample) : ∃ samples',
    Steps s now api ⟨[],queue,reports,samples⟩ ⟨[],[],reports,samples'⟩ := by
  induction queue generalizing samples with
  | nil => exact ⟨samples,.refl⟩
  | cons b queue ih =>
    obtain ⟨samples',h⟩ := ih (samples ++ b)
    exact ⟨samples',Relation.ReflTransGen.head .receive h⟩

end

theorem exists_finished {workers : List Worker} (queue : List Batch) (reports : List Report)
    {samples : List Sample}
    (ho : ∀ w ∈ workers, w.phase.Owes (s.setting w.kind now api) caches w.kind w.done) :
    ∃ y, Steps s now api ⟨workers,queue,reports,samples⟩ y ∧ y.IsFinished := by
  induction workers generalizing queue reports with
  | nil =>
    obtain ⟨samples',h⟩ := exists_received queue samples
    exact ⟨_,h,rfl,rfl⟩
  | cons w workers ih =>
    obtain ⟨queue',reports',h⟩ := exists_reported (ho w List.mem_cons_self)
    obtain ⟨y,hy,hf⟩ := ih queue' reports' fun w' hw => ho w' (List.mem_cons_of_mem _ hw)
    exact ⟨y,h.trans hy,hf⟩

theorem IsFinished.not_step (hf : x.IsFinished) : ¬Step s now api x x' := by
  intro h
  cases h with
  | work before _ => simp [IsFinished] at hf
  | report before => simp [IsFinished] at hf
  | receive => simp [IsFinished] at hf

end Scraping

namespace Kind

/-- The batch of account data, if the cache or the cloud has some. -/
def accountBatch? (s : Setting) (caches : Caches) : Kind → Option Batch
  | .bill => (s.context.cached .billing s.now caches.bills "bills"
      (.call s.api (.bills s.account))).value.value.map Bills.batch
  | .coupon => (s.context.cached .billing s.now caches.coupons "coupons"
      (.call s.api (.coupons s.account))).value.value.map (Coupons.batch · s.now)
  | _ => none

/-- One batch for each listed resource, unless a zone could not be listed; of account data at most one. -/
def produced (s : Setting) (caches : Caches) (k : Kind) : List Batch :=
  match k.cycle? s with
  | some c => if c.2.isComplete c.2.zones then c.2.listed.map fun r => (c.2.batch r).value else []
  | none => (k.accountBatch? s caches).toList

theorem length_produced_le_one {k : Kind} (hk : k.lists = false) (s : Setting) (caches : Caches) :
    (k.produced s caches).length ≤ 1 := by
  have hlength : ∀ o : Option Batch, o.toList.length ≤ 1 := by
    intro o
    cases o <;> simp
  cases k with
  | bill | coupon => exact hlength _
  | _ => cases hk

theorem collect_batches_perm_produced (k : Kind) (s : Setting) (schedule : Schedule) (caches : Caches) :
    (k.collect s schedule caches).journal.batches.Perm
      ((k.produced s caches).filter (!·.isEmpty)) := by
  unfold produced
  cases hc : k.cycle? s with
  | some c =>
    rw [k.collect_journal hc]
    cases hl : c.2.isComplete c.2.zones with
    | true =>
      have hall : ∀ b ∈ c.2.listed.map (fun r => (c.2.batch r).value), (!b.isEmpty) = true := by
        intro b hb
        obtain ⟨r,-,rfl⟩ := List.mem_map.mp hb
        simp [c.2.batch_ne_nil r]
      dsimp only
      rw [if_pos hl,List.filter_eq_self.mpr hall]
      exact c.2.batches_perm schedule hl
    | false =>
      have hf : ¬c.2.isComplete c.2.zones = true := by simp [hl]
      dsimp only
      rw [if_neg hf,(c.2.run_of_not_isComplete schedule hl).2.batches]
      exact .refl _
  | none =>
    cases k with
    | bill =>
      rw [bill_journal,Bills.collect_batches]
      exact .refl _
    | coupon =>
      rw [coupon_journal,Coupons.collect_batches]
      exact .refl _
    | _ => cases hc

end Kind

namespace CollectorSet

variable (s : CollectorSet) (now : Instant) (api : Api) (caches : Caches)

/-- The batches of a scrape that hold samples. -/
def produced : List Batch :=
  (s.kinds.flatMap fun k => k.produced (s.setting k now api) caches).filter (!·.isEmpty)

theorem flatMap_batches_perm (schedule : ScrapeSchedule) :
    (s.kinds.flatMap fun k => (s.runOf schedule now api caches k).run.journal.batches).Perm
      (s.produced now api caches) := by
  rw [produced,List.filter_flatMap]
  exact .flatMap_left _ fun k _ => k.collect_batches_perm_produced _ _ caches

theorem scrape_delivers (schedule : ScrapeSchedule) : ∃ received : List Batch,
    received.Perm (s.produced now api caches) ∧
      (s.scrape schedule now api caches).samples = received.flatten := by
  refine ⟨_,?_,rfl⟩
  have hruns := s.runs_flatMap_perm schedule now api caches fun r => r.run.journal.batches
  exact ((schedule.queue.arrange_perm _).trans hruns).trans
    (s.flatMap_batches_perm now api caches schedule)

end CollectorSet

theorem Scraping.Sound.delivers {s : CollectorSet} {now : Instant} {api : Api} {caches : Caches}
    {x : Scraping} {reported : List Kind} {received : List Batch}
    (h : x.Sound s now api caches reported received) (hf : x.IsFinished) :
    received.Perm (s.produced now api caches) ∧ reported.Perm s.kinds := by
  obtain ⟨hw,hq⟩ := hf
  have hk := h.kinds
  have hb := h.batches
  rw [hw,List.map_nil,List.append_nil] at hk
  rw [hw,hq,List.append_nil,List.flatMap_nil,List.append_nil] at hb
  exact ⟨(hb.trans (hk.flatMap_right _)).trans (s.flatMap_batches_perm now api caches {}),hk⟩

/-- However the kinds, their zone queries and their resource tasks take turns, a scrape can be finished,
and then nothing follows. Its samples are the produced batches, each whole and once, in some order; they
and the reports are those of a scrape that runs the kinds one by one, in some order. So two interleavings
differ in the order of the batches and of the reports alone. Account data makes at most one batch. -/
theorem interleavings_deliver_the_same (s : CollectorSet) (now : Instant) (api : Api) (caches : Caches) :
    let start := Scraping.start s now api caches
    let Ends := fun x => Scraping.Steps s now api start x ∧ x.IsFinished
    let Delivers := fun (samples : List Sample) (batches : List Batch) =>
      ∃ received : List Batch, received.Perm batches ∧ samples = received.flatten
    (∀ x, Scraping.Steps s now api start x → ∃ y, Scraping.Steps s now api x y ∧ y.IsFinished) ∧
    (∀ x, Ends x → Delivers x.samples (s.produced now api caches) ∧
      (∀ y, ¬Scraping.Step s now api x y) ∧
      ∃ schedule, x.samples = (s.scrape schedule now api caches).samples ∧
        x.reports = (s.scrape schedule now api caches).reports) ∧
    (∀ x y, Ends x → Ends y → x.reports.Perm y.reports ∧
      ∃ batches, x.samples = batches.flatten ∧ Delivers y.samples batches) ∧
    (∀ schedule, Delivers (s.scrape schedule now api caches).samples (s.produced now api caches)) ∧
    ∀ k : Kind, k.lists = false → (k.produced (s.setting k now api) caches).length ≤ 1 := by
  intro start Ends Delivers
  refine ⟨?_,?_,?_,fun schedule => s.scrape_delivers now api caches schedule,
    fun k hk => k.length_produced_le_one hk _ caches⟩
  · intro x hx
    obtain ⟨reported,received,hsound⟩ := Scraping.Steps.sound hx
    exact Scraping.exists_finished x.queue x.reports hsound.owes
  · rintro x ⟨hx,hf⟩
    obtain ⟨reported,received,hsound⟩ := Scraping.Steps.sound hx
    exact ⟨⟨received,(hsound.delivers hf).1,hsound.samples⟩,fun _ => hf.not_step,
      hsound.exists_schedule hf⟩
  · rintro x y ⟨hx,hxf⟩ ⟨hy,hyf⟩
    obtain ⟨reported,received,hsound⟩ := Scraping.Steps.sound hx
    obtain ⟨reported',received',hsound'⟩ := Scraping.Steps.sound hy
    obtain ⟨hb,hk⟩ := hsound.delivers hxf
    obtain ⟨hb',hk'⟩ := hsound'.delivers hyf
    refine ⟨?_,received,hsound.samples,received',hb'.trans hb.symm,hsound'.samples⟩
    rw [hsound.reports,hsound'.reports]
    exact (hk.trans hk'.symm).map _

end CloudMetrics.Collect
