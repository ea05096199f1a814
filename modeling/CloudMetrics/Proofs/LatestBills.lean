import CloudMetrics.Proofs.CalendarMonths
import CloudMetrics.Proofs.Gauges
import CloudMetrics.Proofs.Plans

/-!
# The latest bill

Of the bills of an account the one with the greatest date is reported, the last of them if several have it. It
is looked for from the front, and at each place the one that is held is the latest so far. Its month is the one
in which its instant lies nine hours east.
-/
namespace CloudMetrics.Collect

open Cloud Metrics Time

namespace Bills

variable {a b c : Bill} {bills : List Bill}

/-- The bill is not dated, or another one is, and not before it. -/
def NotAfter (a b : Bill) : Prop := ∀ t, a.date = some t → ∃ u, b.date = some u ∧ t ≤ u

/-- Another bill is dated, and this one is not, or before it. -/
def Before (a b : Bill) : Prop := ∃ u, b.date = some u ∧ ∀ t, a.date = some t → t < u

theorem isBefore_iff : isBefore a b = true ↔ Before a b := by
  unfold isBefore Before
  cases hb : b.date with
  | none => simp
  | some u => cases ha : a.date <;> simp

theorem not_before : ¬Before b a ↔ NotAfter a b := by
  unfold Before NotAfter
  cases ha : a.date with
  | none => simp
  | some t =>
    cases hb : b.date with
    | none => simp
    | some u => simp [Instant.not_lt]

theorem Before.notAfter (h : Before a b) : NotAfter a b := by
  obtain ⟨u,hu,hlt⟩ := h
  exact fun t ht => ⟨u,hu,Instant.not_lt.mp fun hut => Instant.lt_irrefl t (Instant.lt_trans (hlt t ht) hut)⟩

theorem NotAfter.refl (a : Bill) : NotAfter a a := fun t ht => ⟨t,ht,Instant.le_refl t⟩

theorem NotAfter.trans (hab : NotAfter a b) (hbc : NotAfter b c) : NotAfter a c := by
  intro t ht
  obtain ⟨u,hu,htu⟩ := hab t ht
  obtain ⟨v,hv,huv⟩ := hbc u hu
  exact ⟨v,hv,Instant.le_trans htu huv⟩

theorem NotAfter.date_eq_none (h : NotAfter a b) (hb : b.date = none) : a.date = none := by
  rw [Option.eq_none_iff_forall_ne_some]
  intro t ht
  obtain ⟨u,hu,-⟩ := h t ht
  rw [hb] at hu
  cases hu

/-- A bill at its place, the last of those with the greatest date. -/
structure IsLatest (before : List Bill) (b : Bill) (after : List Bill) : Prop where
  before_le : ∀ a ∈ before, NotAfter a b
  after_lt : ∀ a ∈ after, Before a b

namespace IsLatest

variable {before after : List Bill}

theorem le (h : IsLatest before b after) : ∀ a ∈ before ++ b :: after, NotAfter a b := by
  intro a ha
  rcases List.mem_append.mp ha with ha | ha
  · exact h.before_le a ha
  · rcases List.mem_cons.mp ha with rfl | ha
    · exact .refl a
    · exact (h.after_lt a ha).notAfter

/-- One that is dated before leaves the latest bill what it is. -/
theorem append (h : IsLatest before b after) (hc : Before c b) : IsLatest before b (after ++ [c]) := by
  refine ⟨h.before_le,fun a ha => ?_⟩
  rcases List.mem_append.mp ha with ha | ha
  · exact h.after_lt a ha
  · obtain rfl := List.mem_singleton.mp ha
    exact hc

/-- Any other one takes its place. -/
theorem replace (h : IsLatest before b after) (hc : ¬Before c b) : IsLatest (before ++ b :: after) c [] :=
  ⟨fun a ha => (h.le a ha).trans (not_before.mp hc),fun _ ha => absurd ha List.not_mem_nil⟩

end IsLatest

/-- A list has no latest bill but one. -/
theorem IsLatest.eq {before after before' after' : List Bill} (hb : IsLatest before b after)
    (hc : IsLatest before' c after') (h : before ++ b :: after = before' ++ c :: after') : b = c := by
  have hle : NotAfter b c ∧ NotAfter c b :=
    ⟨hc.le b (h ▸ by simp),hb.le c (h ▸ by simp)⟩
  rcases List.append_eq_append_iff.mp h with ⟨xs,-,hxs⟩ | ⟨xs,-,hxs⟩
  · cases xs with
    | nil => exact (List.cons.inj hxs).1
    | cons x xs =>
      have hmem : c ∈ after := by simp [(List.cons.inj hxs).2]
      exact absurd (hb.after_lt c hmem) (not_before.mpr hle.1)
  · cases xs with
    | nil => exact (List.cons.inj hxs).1.symm
    | cons x xs =>
      have hmem : b ∈ after' := by simp [(List.cons.inj hxs).2]
      exact absurd (hc.after_lt b hmem) (not_before.mpr hle.2)

theorem latest?_append (bills : List Bill) (c : Bill) : latest? (bills ++ [c]) =
    match latest? bills with
    | none => some c
    | some b => if isBefore c b then some b else some c := by
  rw [latest?,List.foldl_append]
  rfl

/-- There is a latest bill of each list but the empty one. -/
theorem exists_isLatest (bills : List Bill) (h : bills ≠ []) :
    ∃ before b after, bills = before ++ b :: after ∧ IsLatest before b after ∧ latest? bills = some b := by
  induction bills using List.reverseRecOn with
  | nil => exact absurd rfl h
  | append_singleton bills c ih =>
    rw [latest?_append]
    by_cases hnil : bills = []
    · subst hnil
      exact ⟨[],c,[],rfl,⟨nofun,nofun⟩,rfl⟩
    · obtain ⟨before,b,after,rfl,hb,hlatest⟩ := ih hnil
      rw [hlatest]
      by_cases hc : Before c b
      · refine ⟨before,b,after ++ [c],?_,hb.append hc,if_pos (isBefore_iff.mpr hc)⟩
        rw [List.append_assoc,List.cons_append]
      · exact ⟨before ++ b :: after,c,[],rfl,hb.replace hc,if_neg fun h => hc (isBefore_iff.mp h)⟩

theorem month_of_date {t : Instant} (h : b.date = some t) : month b = monthLabel t DailyRefresh.billingOffset := by
  rw [month,h]
  rfl

theorem month_eq_empty_iff : month b = "" ↔ b.date = none := by
  cases hb : b.date with
  | none => simp [month,hb]
  | some t =>
    obtain ⟨m,hm,-⟩ := Month.exists_holds t DailyRefresh.billingOffset
    rw [month_of_date hb,Month.monthLabel_eq hm]
    simp [Month.label_ne_empty]

/-- The bills of an account: those in the cache, otherwise those of the answer. -/
def served (s : Setting) (slot : Slot (List Bill)) : Option (List Bill) :=
  (slot.get s.now).or (s.api (.bills s.account)).toOption

theorem cached_value (s : Setting) (slot : Slot (List Bill)) :
    (s.context.cached .billing s.now slot "bills" (.call s.api (.bills s.account))).value.value = served s slot := by
  unfold Context.cached served
  cases slot.get s.now with
  | some bills => rfl
  | none =>
    rw [Run.bind_value,Context.fetch_value,Run.call_value]
    cases s.api (.bills s.account) <;> rfl

/-- Whether a bill is paid is told by one digit. -/
theorem row_eq (b : Bill) : row b =
    { name := "sakuracloud_bill_amount", help := "Amount billed for the latest month (unit: JPY)"
      labels := [("member_id",b.memberId),("bill_id",b.id),("month",month b),
        ("paid",if b.paid then "1" else "0")]
      value := b.amount, time := none } := by
  have hpaid : Decimal.text (boolValue b.paid) = if b.paid then "1" else "0" := by
    cases b.paid <;> decide +kernel
  rw [← hpaid]
  rfl

theorem run_batches (s : Setting) (schedule : Schedule) (caches : Caches) :
    (Kind.bill.collect s schedule caches).journal.batches =
      ((served s caches.bills).map batch).toList.filter (!·.isEmpty) := by
  rw [Kind.bill_journal,collect_batches,cached_value]

/-- The sample of the latest bill is all that a run hands over. -/
theorem run_batches_of_isLatest {s : Setting} {caches : Caches} {before after : List Bill}
    (hserved : served s caches.bills = some (before ++ b :: after)) (h : IsLatest before b after)
    (schedule : Schedule) : (Kind.bill.collect s schedule caches).journal.batches = [[row b]] := by
  obtain ⟨before',c,after',heq,hc,hlatest⟩ := exists_isLatest (before ++ b :: after) (by simp)
  obtain rfl := h.eq hc heq
  rw [run_batches,hserved,Option.map_some,batch,hlatest]
  rfl

theorem run_batches_of_none {s : Setting} {caches : Caches}
    (h : ∀ bills, served s caches.bills = some bills → bills = []) (schedule : Schedule) :
    (Kind.bill.collect s schedule caches).journal.batches = [] := by
  rw [run_batches]
  cases hserved : served s caches.bills with
  | none => rfl
  | some bills =>
    obtain rfl := h bills hserved
    rfl

/-- A run reports the latest bill of the list that it is served by one sample, and otherwise hands over nothing:
of the bills with the greatest date the last one, and an undated one only if all are. The sample has the
amount of the bill as of now, and its member, its id, its month and whether it is paid as labels. The month of
a bill is empty if it has no date, and otherwise the one of the calendar in which its instant lies nine hours
east. So instants of one month there have one label, and in the years from 0 to 9999 those of a later month a
greater one. -/
theorem latest_bill_is_reported (s : Setting) (schedule : Schedule) (caches : Caches) :
    (∀ bills, served s caches.bills = some bills → bills ≠ [] →
      ∃ before b after, bills = before ++ b :: after ∧ IsLatest before b after) ∧
    (∀ before b after, served s caches.bills = some (before ++ b :: after) → IsLatest before b after →
      (Kind.bill.collect s schedule caches).journal.batches = [[row b]] ∧
      (b.date = none → ∀ a ∈ before ++ b :: after, a.date = none)) ∧
    ((∃ x, (Kind.bill.collect s schedule caches).journal.batches = [[x]]) ↔
      ∃ bills, served s caches.bills = some bills ∧ bills ≠ []) ∧
    ((¬∃ bills, served s caches.bills = some bills ∧ bills ≠ []) →
      (Kind.bill.collect s schedule caches).journal.batches = []) ∧
    (∀ b : Bill, row b =
      { name := "sakuracloud_bill_amount", help := "Amount billed for the latest month (unit: JPY)"
        labels := [("member_id",b.memberId),("bill_id",b.id),("month",month b),
          ("paid",if b.paid then "1" else "0")]
        value := b.amount, time := none }) ∧
    (∀ b : Bill, (row b).label? "month" = some (month b) ∧ (month b = "" ↔ b.date = none) ∧
      ∀ t m, b.date = some t → Month.Holds m (9*3600) t → month b = Month.label m) ∧
    (Month.firstDay (12*1970) = 0 ∧
      ∀ m, Month.firstDay (m+1) = Month.firstDay m+daysInMonth (Month.year m) (Month.number m)) ∧
    (∀ t, ∃! m, Month.Holds m (9*3600) t) ∧
    (∀ t u m, Month.Holds m (9*3600) t → Month.Holds m (9*3600) u →
      monthLabel t (9*3600) = monthLabel u (9*3600)) ∧
    ∀ t u m n, Month.Holds m (9*3600) t → Month.Holds n (9*3600) u → m < n → 0 ≤ Month.year m →
      Month.year n ≤ 9999 → monthLabel t (9*3600) < monthLabel u (9*3600) := by
  have hempty (h : ¬∃ bills, served s caches.bills = some bills ∧ bills ≠ []) :
      (Kind.bill.collect s schedule caches).journal.batches = [] :=
    run_batches_of_none (fun bills hserved => by_contra fun hne => h ⟨bills,hserved,hne⟩) schedule
  refine ⟨?_,?_,⟨?_,?_⟩,hempty,row_eq,fun b => ⟨rfl,month_eq_empty_iff,?_⟩,
    ⟨by decide,Month.firstDay_succ⟩,?_,?_,?_⟩
  · intro bills _ hne
    obtain ⟨before,b,after,heq,hb,-⟩ := exists_isLatest bills hne
    exact ⟨before,b,after,heq,hb⟩
  · intro before b after hserved hb
    refine ⟨run_batches_of_isLatest hserved hb schedule,fun hnone a ha => ?_⟩
    exact (hb.le a ha).date_eq_none hnone
  · rintro ⟨x,hx⟩
    by_contra hnone
    rw [hempty hnone] at hx
    cases hx
  · rintro ⟨bills,hserved,hne⟩
    obtain ⟨before,b,after,rfl,hb,-⟩ := exists_isLatest bills hne
    exact ⟨row b,run_batches_of_isLatest hserved hb schedule⟩
  · intro t m hdate hm
    rw [month_of_date hdate]
    exact Month.monthLabel_eq hm
  · intro t
    obtain ⟨m,hm,-⟩ := Month.exists_holds t (9*3600)
    exact ⟨m,hm,fun n hn => hn.eq hm⟩
  · intro t u m ht hu
    rw [Month.monthLabel_eq ht,Month.monthLabel_eq hu]
  · intro t u m n ht hu hlt hlo hhi
    rw [Month.monthLabel_eq ht,Month.monthLabel_eq hu]
    exact Month.label_lt hlo hhi hlt

def lastMinute : Bill := { id := "1", amount := 1000, date := some ⟨1714489199,0⟩ }

def midnight : Bill := { id := "2", amount := 2500, date := some ⟨1714489200,0⟩ }

def undated : Bill := { id := "3" }

/-- An account with bills around the start of May 2024 in Tokyo, two of them at midnight. -/
def mayBills : Setting :=
  { context := .new "bill" [] .epoch, account := "111", now := .epoch,
    api := fun
      | .bills _ => .ok [midnight,lastMinute,{ midnight with id := "4" },undated]
      | c => .error (.transport c.path) }

/-- The later one of two bills at midnight is reported, with the month that has just begun. -/
theorem latest_bill_is_reported_of_midnight :
    (Kind.bill.collect mayBills {} {}).journal.batches = [[row { midnight with id := "4" }]] ∧
    month { midnight with id := "4" } = "2024-05" ∧
    monthLabel ⟨1714489199,0⟩ (9*3600) < monthLabel ⟨1714489200,0⟩ (9*3600) := by
  obtain ⟨-,hrun,-,-,-,hmonth,-,-,-,hlt⟩ := latest_bill_is_reported mayBills {} {}
  have hapril : Month.Holds (12*2024+3) (9*3600) ⟨1714489199,0⟩ := ⟨by decide,by decide⟩
  have hmay : Month.Holds (12*2024+4) (9*3600) ⟨1714489200,0⟩ := ⟨by decide,by decide⟩
  have hlatest : IsLatest [midnight,lastMinute] { midnight with id := "4" } [undated] := by
    refine ⟨?_,?_⟩
    · simp [NotAfter,midnight,lastMinute,Instant.le_iff]
    · simp [Before,midnight,undated]
  refine ⟨(hrun _ _ _ rfl hlatest).1,?_,?_⟩
  · rw [(hmonth _).2.2 _ _ rfl hmay]
    decide
  · exact hlt _ _ _ _ hapril hmay (by decide) (by decide) (by decide)

end Bills

end CloudMetrics.Collect
