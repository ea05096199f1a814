import CloudMetrics.Time.Calendar

/-!
# Instants

A point in time as whole seconds since 1970-01-01T00:00:00 UTC and nanoseconds in that second. A
leap second has no number of its own: it is the second before it with 10^9 nanoseconds or more.
Main statement: `total_add`, outside leap seconds an instant and a span add up on one line of
nanoseconds.
-/
namespace CloudMetrics.Time

def nanosPerSecond : Nat := 1000000000

def secondsPerDay : Int := 86400

structure Instant where
  seconds : Int
  nanos : Nat := 0
deriving DecidableEq, Repr, Inhabited

/-- A length of time in nanoseconds. -/
abbrev Span := Int

namespace Span

def ofSeconds (n : Int) : Span := n*nanosPerSecond
def ofMillis (n : Int) : Span := n*1000000
def ofMinutes (n : Int) : Span := ofSeconds (60*n)
def ofDays (n : Int) : Span := ofSeconds (secondsPerDay*n)

end Span

namespace Instant

instance : LT Instant := ⟨fun a b => a.seconds < b.seconds ∨ (a.seconds = b.seconds ∧ a.nanos < b.nanos)⟩
instance : LE Instant := ⟨fun a b => a.seconds < b.seconds ∨ (a.seconds = b.seconds ∧ a.nanos ≤ b.nanos)⟩

theorem lt_iff {a b : Instant} :
    a < b ↔ a.seconds < b.seconds ∨ (a.seconds = b.seconds ∧ a.nanos < b.nanos) := Iff.rfl

theorem le_iff {a b : Instant} :
    a ≤ b ↔ a.seconds < b.seconds ∨ (a.seconds = b.seconds ∧ a.nanos ≤ b.nanos) := Iff.rfl

instance (a b : Instant) : Decidable (a < b) :=
  inferInstanceAs (Decidable (a.seconds < b.seconds ∨ (a.seconds = b.seconds ∧ a.nanos < b.nanos)))
instance (a b : Instant) : Decidable (a ≤ b) :=
  inferInstanceAs (Decidable (a.seconds < b.seconds ∨ (a.seconds = b.seconds ∧ a.nanos ≤ b.nanos)))

theorem not_lt {a b : Instant} : ¬a < b ↔ b ≤ a := by
  simp only [lt_iff,le_iff]; omega

theorem le_refl (a : Instant) : a ≤ a := Or.inr ⟨rfl,Nat.le_refl _⟩

theorem le_total (a b : Instant) : a ≤ b ∨ b ≤ a := by
  simp only [le_iff]; omega

theorem le_trans {a b c : Instant} (hab : a ≤ b) (hbc : b ≤ c) : a ≤ c := by
  simp only [le_iff] at *; omega

theorem lt_trans {a b c : Instant} (hab : a < b) (hbc : b < c) : a < c := by
  simp only [lt_iff] at *; omega

theorem lt_of_le_of_lt {a b c : Instant} (hab : a ≤ b) (hbc : b < c) : a < c := by
  simp only [le_iff,lt_iff] at *; omega

theorem lt_irrefl (a : Instant) : ¬a < a := by
  simp only [lt_iff]; omega

theorem le_antisymm {a b : Instant} (hab : a ≤ b) (hba : b ≤ a) : a = b := by
  simp only [le_iff] at *
  have hs : a.seconds = b.seconds := by omega
  have hn : a.nanos = b.nanos := by omega
  exact congr (congrArg Instant.mk hs) hn

theorem lt_of_le_of_ne {a b : Instant} (h : a ≤ b) (hne : a ≠ b) : a < b :=
  Decidable.byContradiction fun hn => hne (le_antisymm h (not_lt.mp hn))

def epoch : Instant := ⟨0,0⟩

def IsLeap (t : Instant) : Prop := nanosPerSecond ≤ t.nanos

instance (t : Instant) : Decidable t.IsLeap := inferInstanceAs (Decidable (nanosPerSecond ≤ t.nanos))

/-- Nanoseconds since the epoch. -/
def total (t : Instant) : Int := t.seconds*nanosPerSecond+t.nanos

/-- The instant with a given number of nanoseconds, never in a leap second. -/
def ofTotal (n : Int) : Instant := ⟨n/nanosPerSecond,(n%nanosPerSecond).toNat⟩

/-- A span that leaves a leap second starts from the ordinary second before it (or after it, when
it leads back); one that stays inside moves the nanoseconds only. -/
def add (t : Instant) (span : Span) : Instant :=
  let whole := Int.tdiv span nanosPerSecond
  let part := Int.tmod span nanosPerSecond
  if t.IsLeap then
    if 0 < whole ∨ (0 < part ∧ 2*nanosPerSecond ≤ t.nanos+part) then
      ofTotal (t.total-nanosPerSecond+span)
    else if whole < 0 then ofTotal (t.total+span)
    else ⟨t.seconds,(t.nanos+part).toNat⟩
  else ofTotal (t.total+span)

def sub (t : Instant) (span : Span) : Instant := t.add (-span)

/-- The second of the day. -/
def secondOfDay (t : Instant) : Int := t.seconds%secondsPerDay

/-- The span from `u` to `t`; a leap second that lies between their times of day counts. -/
def since (t u : Instant) : Span :=
  let adjust : Int :=
    if u.secondOfDay < t.secondOfDay then if u.IsLeap then 1 else 0
    else if t.secondOfDay < u.secondOfDay then if t.IsLeap then -1 else 0
    else 0
  t.total-u.total+adjust*nanosPerSecond

/-- The start of the second; a leap second stays one. -/
def truncate (t : Instant) : Instant := ⟨t.seconds,if t.IsLeap then nanosPerSecond else 0⟩

/-- Milliseconds since the epoch, rounded down. -/
def millis (t : Instant) : Int := t.seconds*1000+t.nanos/1000000

/-- The day at a place `offset` seconds east. -/
def dayAt (t : Instant) (offset : Int) : Int := (t.seconds+offset)/secondsPerDay

def dateAt (t : Instant) (offset : Int) : Date := Date.ofDays (t.dayAt offset)

/-- The instant of a second of a day at a place `offset` seconds east. -/
def ofLocal (day second : Int) (nanos : Nat) (offset : Int) : Instant :=
  ⟨day*secondsPerDay+second-offset,nanos⟩

theorem total_ofTotal (n : Int) : (ofTotal n).total = n := by
  simp only [ofTotal,total,nanosPerSecond]; omega

theorem not_isLeap_ofTotal (n : Int) : ¬(ofTotal n).IsLeap := by
  simp only [IsLeap,ofTotal,nanosPerSecond]; omega

theorem total_add {t : Instant} (h : ¬t.IsLeap) (span : Span) :
    (t.add span).total = t.total+span := by
  simp [add,h,total_ofTotal]

theorem not_isLeap_add {t : Instant} (h : ¬t.IsLeap) (span : Span) : ¬(t.add span).IsLeap := by
  rw [add,if_neg h]
  exact not_isLeap_ofTotal _

theorem lt_iff_total {a b : Instant} (ha : ¬a.IsLeap) (hb : ¬b.IsLeap) : a < b ↔ a.total < b.total := by
  simp only [IsLeap,nanosPerSecond] at ha hb
  simp only [lt_iff,total,nanosPerSecond]; omega

theorem le_iff_total {a b : Instant} (ha : ¬a.IsLeap) (hb : ¬b.IsLeap) : a ≤ b ↔ a.total ≤ b.total := by
  rw [← not_lt,lt_iff_total hb ha,Int.not_lt]

/-- Days change the seconds alone. -/
theorem add_days {t : Instant} (h : ¬t.IsLeap) (n : Int) :
    t.add (.ofDays n) = ⟨t.seconds+secondsPerDay*n,t.nanos⟩ := by
  simp only [IsLeap,nanosPerSecond] at h
  simp only [add,IsLeap,h,if_false,ofTotal,total,Span.ofDays,Span.ofSeconds,secondsPerDay,nanosPerSecond,
    Instant.mk.injEq]
  omega

/-- The span between instants outside leap seconds. -/
theorem since_eq_sub {t u : Instant} (ht : ¬t.IsLeap) (hu : ¬u.IsLeap) : t.since u = t.total-u.total := by
  simp only [since,ht,hu,if_false,ite_self,Int.zero_mul,Int.add_zero]

end Instant

/-- A range of time that monitor values are asked for. -/
structure Window where
  start : Instant
  stop : Instant
deriving DecidableEq, Repr, Inhabited

/-- The window of a length up to the start of the second of `stop`. -/
def Window.endingAt (stop : Instant) (length : Span) : Window :=
  let stop := stop.truncate
  ⟨stop.sub length,stop⟩

end CloudMetrics.Time
