import CloudMetrics.Proofs.Plans

/-!
# The accounts of failures

What a run of any kind tells about failures is exactly what its calls came to. Rejections and breakdowns
are counted by call, also in a listing that fails in several zones for several reasons. The tally of
failures, the error counter and the log agree with each other: one failure for a listing that failed
anywhere, otherwise one for every call that failed.
-/
namespace CloudMetrics.Collect

open Cloud Metrics Time

namespace Journal

/-- The number of failures that some calls are worth: a failed listing counts as a whole. -/
def expectedFailures (api : Api) (calls : List Call) : Nat :=
  if calls.any fun c => c.isListing && api.fails c then 1
  else calls.countP fun c => !c.isListing && api.fails c

variable {collector : String} {api : Api} {j : Journal}

theorem Faithful.failures_eq_expected (hf : j.Faithful collector api)
    (h : ∀ c ∈ j.calls, c.isListing = true → api.fails c = false) :
    j.failures = expectedFailures api j.calls := by
  have hn : (j.calls.any fun c => c.isListing && api.fails c) = false := by
    rw [List.any_eq_false]
    intro c hc
    rw [Bool.and_eq_true]
    rintro ⟨hl,he⟩
    rw [h c hc hl] at he
    exact Bool.false_ne_true he
  rw [expectedFailures,hn,if_neg Bool.false_ne_true,hf.failures]
  refine List.countP_congr fun c hc => ?_
  cases hl : c.isListing with
  | true => simp [h c hc hl]
  | false => simp

end Journal

namespace Cycle

variable {ctx : Context} {api : Api} {α : Type} (c : Cycle ctx api α) (schedule : Schedule)

theorem run_failures : (c.run schedule).journal.failures =
    Journal.expectedFailures api (c.run schedule).journal.calls := by
  cases h : c.isComplete c.zones with
  | true =>
    refine (c.faithful_of_isComplete schedule h).failures_eq_expected fun d hd hl => ?_
    rcases List.mem_append.mp ((c.calls_perm schedule h).mem_iff.mp hd) with hd | hd
    · obtain ⟨z,hz,rfl⟩ := List.mem_map.mp hd
      simpa using List.all_eq_true.mp h z hz
    · obtain ⟨r,-,hr⟩ := List.mem_flatMap.mp hd
      rw [c.isListing_plan r d hr] at hl
      exact absurd hl Bool.false_ne_true
  | false =>
    obtain ⟨hc,ha⟩ := c.run_of_not_isComplete schedule h
    obtain ⟨z,hz,hf⟩ := List.all_eq_false.mp h
    have hany : ((c.zones.map c.call).any fun d => d.isListing && api.fails d) = true := by
      refine List.any_eq_true.mpr ⟨c.call z,List.mem_map_of_mem hz,?_⟩
      simpa [c.isListing_call z] using hf
    rw [ha.failures,hc,Journal.expectedFailures,if_pos hany]

theorem run_notesFaults : (c.run schedule).journal.NotesFaults api := by
  cases h : c.isComplete c.zones with
  | true => exact (c.faithful_of_isComplete schedule h).toNotesFaults
  | false => exact (c.run_of_not_isComplete schedule h).2.toNotesFaults

theorem run_counted : (c.run schedule).journal.counted =
    List.replicate (c.run schedule).journal.failures ctx.collector := by
  cases h : c.isComplete c.zones with
  | true => exact (c.faithful_of_isComplete schedule h).counted
  | false =>
    have ha := (c.run_of_not_isComplete schedule h).2
    rw [ha.counted,ha.failures,List.replicate_one]

theorem run_events : (c.run schedule).journal.events.length = (c.run schedule).journal.failures := by
  cases h : c.isComplete c.zones with
  | true => exact (c.faithful_of_isComplete schedule h).events
  | false =>
    have ha := (c.run_of_not_isComplete schedule h).2
    rw [ha.events,ha.failures]

end Cycle

/-- A run that makes no call but one, which it records if it fails. -/
structure Journal.Consults (collector : String) (api : Api) (c : Call) (j : Journal) : Prop where
  faithful : j.Faithful collector api
  eq_of_mem : ∀ d ∈ j.calls, d = c

section
variable {α β : Type} (ctx : Context) (api : Api) (c : Call)

/-- A hit makes no call, and a miss one. -/
theorem Context.cached_consults (refresh : DailyRefresh) (now : Instant) (slot : Slot c.Answer)
    (stage : String) :
    (ctx.cached refresh now slot stage (.call api c)).journal.Consults ctx.collector api c := by
  unfold cached
  cases slot.get now with
  | some hit => exact ⟨.empty,fun d hd => absurd hd List.not_mem_nil⟩
  | none =>
    have he := ctx.fetch_enquires api c stage "account"
    have hj : ∀ f : Option c.Answer → Run (Served c.Answer), (∀ a, (f a).journal = {}) →
        (ctx.fetch stage "account" (.call api c) >>= f).journal.Consults ctx.collector api c := by
      intro f hf
      rw [Run.bind_journal,hf,Journal.append_empty]
      exact ⟨he.faithful,fun d hd => List.mem_singleton.mp (he.calls_eq ▸ hd)⟩
    refine hj _ fun a => ?_
    cases a <;> rfl

/-- Handing over a batch adds no call and no failure. -/
theorem Journal.Consults.append_batches {j : Journal} (h : j.Consults ctx.collector api c)
    (batches : List Batch) : (j ++ { batches }).Consults ctx.collector api c := by
  refine ⟨h.faithful.append ⟨⟨rfl,rfl⟩,rfl,rfl,rfl⟩,fun d hd => h.eq_of_mem d ?_⟩
  rwa [append_calls,List.append_nil] at hd

end

theorem Bills.collect_consults (ctx : Context) (account : String) (now : Instant) (api : Api)
    (slot : Slot (List Bill)) :
    (collect ctx account now api slot).journal.Consults ctx.collector api (.bills account) := by
  have h := ctx.cached_consults api (.bills account) .billing now slot "bills"
  rw [collect,Run.bind_journal]
  cases (ctx.cached .billing now slot "bills" (.call api (.bills account))).value.value with
  | none => exact h.append_batches ctx api _ []
  | some bills =>
    dsimp only
    rw [Run.bind_journal,Run.pure_journal,Journal.append_empty]
    exact h.append_batches ctx api _ _

theorem Coupons.collect_consults (ctx : Context) (account : String) (now : Instant) (api : Api)
    (slot : Slot (List Coupon)) :
    (collect ctx account now api slot).journal.Consults ctx.collector api (.coupons account) := by
  have h := ctx.cached_consults api (.coupons account) .billing now slot "coupons"
  rw [collect,Run.bind_journal]
  cases (ctx.cached .billing now slot "coupons" (.call api (.coupons account))).value.value with
  | none => exact h.append_batches ctx api _ []
  | some coupons =>
    dsimp only
    rw [Run.bind_journal,Run.pure_journal,Journal.append_empty]
    exact h.append_batches ctx api _ _

/-- What a journal tells about failures, held against its calls. -/
structure Journal.Accounts (collector : String) (api : Api) (j : Journal) : Prop
    extends NotesFaults api j where
  failures : j.failures = expectedFailures api j.calls
  counted : j.counted = List.replicate j.failures collector
  events : j.events.length = j.failures

theorem Cycle.run_accounts {ctx : Context} {api : Api} {α : Type} (c : Cycle ctx api α)
    (schedule : Schedule) : (c.run schedule).journal.Accounts ctx.collector api where
  toNotesFaults := c.run_notesFaults schedule
  failures := c.run_failures schedule
  counted := c.run_counted schedule
  events := c.run_events schedule

theorem Journal.Consults.accounts {collector : String} {api : Api} {c : Call} {j : Journal}
    (h : j.Consults collector api c) (hc : c.isListing = false) : j.Accounts collector api where
  toNotesFaults := h.faithful.toNotesFaults
  failures := h.faithful.failures_eq_expected fun d hd hl => by
    rw [h.eq_of_mem d hd,hc] at hl
    exact absurd hl Bool.false_ne_true
  counted := h.faithful.counted
  events := h.faithful.events

theorem Kind.collect_accounts (k : Kind) (s : Setting) (schedule : Schedule) (caches : Caches) :
    (k.collect s schedule caches).journal.Accounts s.context.collector s.api := by
  cases hc : k.cycle? s with
  | some c =>
    rw [k.collect_journal hc schedule caches]
    exact c.2.run_accounts schedule
  | none =>
    cases k with
    | bill =>
      rw [bill_journal]
      exact (Bills.collect_consults ..).accounts rfl
    | coupon =>
      rw [coupon_journal]
      exact (Coupons.collect_consults ..).accounts rfl
    | _ => cases hc

/-- After one run of any kind, for every order of completion and every state of the caches: what is noted
of the cloud's health is the number of calls that were rejected and of those that broke down, which are
never the same calls; and the failures are those of the error counter and of the log, one for a listing
that failed in any zone, otherwise one for every other call that failed. -/
theorem failures_are_accounted_for (k : Kind) (s : Setting) (schedule : Schedule) (caches : Caches) :
    let j := (k.collect s schedule caches).journal
    j.faults.rejected = j.calls.countP s.api.rejects ∧
    j.faults.unavailable = j.calls.countP s.api.breaksDown ∧
    (∀ c, (s.api.rejects c && s.api.breaksDown c) = false) ∧
    j.counted = List.replicate j.failures s.context.collector ∧
    j.events.length = j.failures ∧
    j.failures = if j.calls.any fun c => c.isListing && s.api.fails c then 1
      else j.calls.countP fun c => !c.isListing && s.api.fails c := by
  intro j
  have h := k.collect_accounts s schedule caches
  refine ⟨h.rejected,h.unavailable,fun c => ?_,h.counted,h.events,h.failures⟩
  unfold Api.rejects Api.breaksDown
  cases s.api.error? c with
  | none => rfl
  | some e => exact e.not_isRejection_and_isBreakdown

end CloudMetrics.Collect
