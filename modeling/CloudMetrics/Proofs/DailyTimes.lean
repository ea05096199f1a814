import CloudMetrics.Collect.Cache
import Mathlib.Logic.Function.Iterate
import Mathlib.Order.Bounds.Defs

/-!
# Times of day

A daily refresh comes at one time of day at one place, so refreshes are a day apart, and every instant
lies between two of them. From these two bounds follows all that is said about the next refresh: it is
the least one that is later, and as `now` moves it stays the same up to the next refresh.
-/
namespace CloudMetrics.Collect

open Time

namespace DailyRefresh

/-- The time of day is one, outside leap seconds. -/
structure IsProper (r : DailyRefresh) : Prop where
  second_lt : (r.second : Int) < secondsPerDay
  nanos_lt : r.nanos < nanosPerSecond

/-- At the refresh's place it is the refresh's time of day. -/
def IsDue (r : DailyRefresh) (t : Instant) : Prop :=
  (t.seconds+r.offset)%secondsPerDay = r.second ∧ t.nanos = r.nanos

instance (r : DailyRefresh) (t : Instant) : Decidable (r.IsDue t) := by unfold IsDue; infer_instance

variable {r : DailyRefresh} {now later due next : Instant}

theorem isDue_mk {s : Int} : r.IsDue ⟨s,r.nanos⟩ ↔ (s+r.offset)%secondsPerDay = r.second := by
  simp [IsDue]

theorem IsProper.not_isLeap (hr : r.IsProper) (s : Int) : ¬(⟨s,r.nanos⟩ : Instant).IsLeap :=
  Nat.not_le.mpr hr.nanos_lt

theorem IsDue.not_isLeap (hr : r.IsProper) (hd : r.IsDue due) : ¬due.IsLeap := by
  simpa [Instant.IsLeap,hd.2] using hr.nanos_lt

/-- The refresh of some second of `now`'s day at the place. -/
theorem ofLocal_dayAt (now : Instant) :
    Instant.ofLocal (now.dayAt r.offset) r.second r.nanos r.offset =
      ⟨(now.seconds+r.offset)/secondsPerDay*secondsPerDay+r.second-r.offset,r.nanos⟩ := rfl

/-- The next refresh and the one a day before it have the instant between them. -/
theorem exists_nextAfter_eq (hr : r.IsProper) (now : Instant) :
    ∃ s : Int, r.nextAfter now = ⟨s,r.nanos⟩ ∧ r.IsDue ⟨s,r.nanos⟩ ∧
      now < ⟨s,r.nanos⟩ ∧ ⟨s-secondsPerDay,r.nanos⟩ ≤ now := by
  have hs := hr.second_lt
  have hadd : ∀ s : Int, (⟨s,r.nanos⟩ : Instant).add (.ofDays 1) = ⟨s+secondsPerDay*1,r.nanos⟩ := fun s =>
    Instant.add_days (hr.not_isLeap s) 1
  simp only [nextAfter,ofLocal_dayAt,isDue_mk]
  simp only [secondsPerDay] at hs hadd ⊢
  by_cases h : now < ⟨(now.seconds+r.offset)/86400*86400+r.second-r.offset,r.nanos⟩
  · refine ⟨_,if_pos h,?_,h,?_⟩
    · omega
    · simp only [Instant.le_iff]
      omega
  · refine ⟨_,(if_neg h).trans (hadd _),?_,?_,?_⟩
    · omega
    · simp only [Instant.lt_iff]
      omega
    · rw [Instant.not_lt] at h
      simpa using h

theorem isDue_nextAfter (hr : r.IsProper) (now : Instant) : r.IsDue (r.nextAfter now) := by
  obtain ⟨s,hs,hd,-,-⟩ := exists_nextAfter_eq hr now
  rwa [hs]

theorem lt_nextAfter (hr : r.IsProper) (now : Instant) : now < r.nextAfter now := by
  obtain ⟨s,hs,-,hl,-⟩ := exists_nextAfter_eq hr now
  rwa [hs]

/-- No refresh that is later comes before the next one: two refreshes are whole days apart. -/
theorem nextAfter_le (hr : r.IsProper) (hd : r.IsDue due) (h : now < due) : r.nextAfter now ≤ due := by
  obtain ⟨s,hs,hds,-,hle⟩ := exists_nextAfter_eq hr now
  have hlt := Instant.lt_of_le_of_lt hle h
  rw [isDue_mk] at hds
  obtain ⟨hm,hn⟩ := hd
  simp only [Instant.lt_iff,hn] at hlt
  rw [hs,Instant.le_iff]
  simp only [hn]
  simp only [secondsPerDay] at *
  omega

theorem isLeast_nextAfter (hr : r.IsProper) (now : Instant) :
    IsLeast {t | now < t ∧ r.IsDue t} (r.nextAfter now) :=
  ⟨⟨lt_nextAfter hr now,isDue_nextAfter hr now⟩,fun _ ht => nextAfter_le hr ht.2 ht.1⟩

theorem nextAfter_mono (hr : r.IsProper) (h : now ≤ later) : r.nextAfter now ≤ r.nextAfter later :=
  nextAfter_le hr (isDue_nextAfter hr later) (Instant.lt_of_le_of_lt h (lt_nextAfter hr later))

theorem since_nextAfter_le (hr : r.IsProper) (hnow : ¬now.IsLeap) :
    (r.nextAfter now).since now ≤ .ofDays 1 := by
  obtain ⟨s,hs,-,-,hle⟩ := exists_nextAfter_eq hr now
  rw [hs,Instant.since_eq_sub (hr.not_isLeap s) hnow]
  rw [Instant.le_iff_total (hr.not_isLeap _) hnow] at hle
  simp only [Instant.total,secondsPerDay,nanosPerSecond] at hle
  change s*1000000000+r.nanos-(now.seconds*1000000000+now.nanos) ≤ (86400000000000 : Int)
  omega

/-- Between two refreshes with none between them, the later one is the next. -/
theorem nextAfter_eq_of_isLeast (hr : r.IsProper) (hn : IsLeast {t | due < t ∧ r.IsDue t} next)
    (hd : due ≤ now) (h : now < next) : r.nextAfter now = next := by
  have hlater := Instant.lt_of_le_of_lt hd (lt_nextAfter hr now)
  exact Instant.le_antisymm (nextAfter_le hr hn.1.2 h) (hn.2 ⟨hlater,isDue_nextAfter hr now⟩)

theorem nextAfter_of_isDue (hr : r.IsProper) (hd : r.IsDue due) :
    r.nextAfter due = due.add (.ofDays 1) := by
  obtain ⟨s,hs,hds,hl,hle⟩ := exists_nextAfter_eq hr due
  rw [Instant.add_days (hd.not_isLeap hr),hs]
  rw [isDue_mk] at hds
  obtain ⟨hm,hn⟩ := hd
  simp only [Instant.lt_iff,Instant.le_iff,hn] at hl hle
  simp only [secondsPerDay,Instant.mk.injEq] at *
  omega

theorem iterate_nextAfter (hr : r.IsProper) (now : Instant) (n : Nat) :
    r.nextAfter^[n+1] now = (r.nextAfter now).add (.ofDays n) := by
  have hl := (isDue_nextAfter hr now).not_isLeap hr
  induction n with
  | zero =>
    rw [Instant.add_days hl]
    simp
  | succ n ih =>
    have hd : r.IsDue (r.nextAfter^[n+1] now) := by
      rw [Function.iterate_succ_apply']
      exact isDue_nextAfter hr _
    rw [Function.iterate_succ_apply',nextAfter_of_isDue hr hd,Instant.add_days (hd.not_isLeap hr),ih,
      Instant.add_days hl,Instant.add_days hl]
    simp only [secondsPerDay,Instant.mk.injEq,and_true]
    omega

/-- The next refresh is the least later one. So it comes within a day, it moves on with `now` only when a
refresh has come, and from one refresh to the next it is a day. -/
theorem nextAfter_is_least_later (hr : r.IsProper) :
    (∀ now, IsLeast {t | now < t ∧ r.IsDue t} (r.nextAfter now)) ∧
    (∀ now, ¬now.IsLeap → (r.nextAfter now).since now ≤ .ofDays 1) ∧
    (∀ now later, now ≤ later → r.nextAfter now ≤ r.nextAfter later) ∧
    (∀ due next, r.IsDue due → IsLeast {t | due < t ∧ r.IsDue t} next →
      ∀ now, due ≤ now → now < next → r.nextAfter now = next) ∧
    (∀ now n, r.nextAfter^[n+1] now = (r.nextAfter now).add (.ofDays n)) := by
  refine ⟨isLeast_nextAfter hr,?_,?_,?_,iterate_nextAfter hr⟩
  · intro now hnow
    exact since_nextAfter_le hr hnow
  · intro now later h
    exact nextAfter_mono hr h
  · intro due next _ hn now hd h
    exact nextAfter_eq_of_isLeast hr hn hd h

/-- The last nanosecond of the day at a place west of the prime meridian, asked for before the epoch. -/
theorem nextAfter_is_least_later_at_day_end :
    (⟨-34200,86399,999999999⟩ : DailyRefresh).IsProper ∧
      IsLeast {t | ⟨-1,5⟩ < t ∧ (⟨-34200,86399,999999999⟩ : DailyRefresh).IsDue t} ⟨34199,999999999⟩ ∧
      (⟨-34200,86399,999999999⟩ : DailyRefresh).nextAfter^[3] ⟨-1,5⟩ = ⟨34199+2*86400,999999999⟩ := by
  have hr : (⟨-34200,86399,999999999⟩ : DailyRefresh).IsProper := ⟨by decide,by decide⟩
  obtain ⟨hleast,-,-,-,hiterate⟩ := nextAfter_is_least_later hr
  refine ⟨hr,hleast ⟨-1,5⟩,?_⟩
  rw [hiterate ⟨-1,5⟩ 2]
  decide

end DailyRefresh

end CloudMetrics.Collect
