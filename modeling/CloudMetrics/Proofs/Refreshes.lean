import CloudMetrics.Collect.Context
import CloudMetrics.Proofs.DailyTimes

/-!
# Refreshes of account data

Account data is refreshed at half past four in the morning in Tokyo. An item is stored up to the least
refresh after the instant at which it is stored, so it is served exactly as long as no refresh has come
between. A slot is compared with what was stored in it last: it holds that, or it was swept after the
refresh.
-/
namespace CloudMetrics.Collect

open Time

/-- Half past four in the morning, nine hours east. -/
def IsRefresh (t : Instant) : Prop := t.nanos = 0 ∧ (t.seconds+9*3600)%86400 = 4*3600+30*60

instance (t : Instant) : Decidable (IsRefresh t) := by unfold IsRefresh; infer_instance

/-- There is no refresh after the first instant and up to the second. -/
def SamePeriod (t u : Instant) : Prop := ∀ r, IsRefresh r → ¬(t < r ∧ r ≤ u)

theorem billing_isProper : DailyRefresh.billing.IsProper := ⟨by decide,by decide⟩

theorem isRefresh_iff {t : Instant} : IsRefresh t ↔ DailyRefresh.billing.IsDue t :=
  ⟨fun h => ⟨h.2,h.1⟩,fun h => ⟨h.2,h.1⟩⟩

section
variable {t u v r : Instant}

theorem isRefresh_nextAfter (t : Instant) : IsRefresh (DailyRefresh.billing.nextAfter t) :=
  isRefresh_iff.mpr (DailyRefresh.isDue_nextAfter billing_isProper t)

theorem lt_nextAfter (t : Instant) : t < DailyRefresh.billing.nextAfter t :=
  DailyRefresh.lt_nextAfter billing_isProper t

theorem nextAfter_le (hr : IsRefresh r) (h : t < r) : DailyRefresh.billing.nextAfter t ≤ r :=
  DailyRefresh.nextAfter_le billing_isProper (isRefresh_iff.mp hr) h

theorem nextAfter_ne_epoch (t : Instant) : DailyRefresh.billing.nextAfter t ≠ .epoch := by
  intro h
  have hr := isRefresh_nextAfter t
  rw [h] at hr
  exact absurd hr (by decide)

theorem samePeriod_iff : SamePeriod t u ↔ u < DailyRefresh.billing.nextAfter t := by
  constructor
  · intro h
    have hn := h _ (isRefresh_nextAfter t)
    exact Decidable.byContradiction fun hu => hn ⟨lt_nextAfter t,Instant.not_lt.mp hu⟩
  · intro h r hr ⟨ht,hu⟩
    have hle := Instant.le_trans (nextAfter_le hr ht) hu
    exact Instant.not_lt.mpr hle h

theorem SamePeriod.of_le (h : SamePeriod t v) (hu : t ≤ u) : SamePeriod u v := by
  intro r hr ⟨hur,hrv⟩
  exact h r hr ⟨Instant.lt_of_le_of_lt hu hur,hrv⟩

end

/-- An item and the instant at which it was stored. -/
structure Stored (α : Type) where
  item : α
  time : Instant

variable {α : Type}

theorem store_billing (now : Instant) (slot : Slot α) (fresh : α) :
    Context.store .billing now slot fresh = some ⟨fresh,DailyRefresh.billing.nextAfter now⟩ := by
  rw [Context.store,Slot.set,if_neg (nextAfter_ne_epoch now)]

/-- What a slot is by some instant, when something was stored in it last: that, up to the next refresh,
unless it was swept since. -/
inductive Keeps (now : Instant) : Slot α → Option (Stored α) → Prop
  | empty : Keeps now none none
  | kept {last : Stored α} : last.time ≤ now →
      Keeps now (some ⟨last.item,DailyRefresh.billing.nextAfter last.time⟩) (some last)
  | swept {last : Stored α} : last.time ≤ now → DailyRefresh.billing.nextAfter last.time ≤ now →
      Keeps now none (some last)

theorem Keeps.store (now : Instant) (slot : Slot α) (fresh : α) :
    Keeps now (Context.store .billing now slot fresh) (some ⟨fresh,now⟩) := by
  have h : Keeps now _ (some (⟨fresh,now⟩ : Stored α)) := .kept (Instant.le_refl now)
  rw [store_billing]
  exact h

namespace Keeps

variable {now later : Instant} {slot : Slot α} {last : Option (Stored α)} (h : Keeps now slot last)

include h

theorem mono (hl : now ≤ later) : Keeps later slot last := by
  cases h with
  | empty => exact .empty
  | kept ht => exact .kept (Instant.le_trans ht hl)
  | swept ht hn => exact .swept (Instant.le_trans ht hl) (Instant.le_trans hn hl)

theorem purge : Keeps now (slot.purge now) last := by
  cases h with
  | empty => exact .empty
  | @kept last ht =>
    simp only [Slot.purge,Option.bind_some]
    split
    · exact .kept ht
    · next hn => exact .swept ht (Instant.not_lt.mp hn)
  | swept ht hn => exact .swept ht hn

theorem time_le {s : Stored α} (hs : last = some s) : s.time ≤ now := by
  cases h with
  | empty => cases hs
  | kept ht => cases hs; exact ht
  | swept ht _ => cases hs; exact ht

/-- What is served was stored last, in the same period. -/
theorem of_get_eq_some {item : α} (hg : slot.get now = some item) :
    ∃ t, last = some ⟨item,t⟩ ∧ t ≤ now ∧ SamePeriod t now := by
  cases h with
  | empty => cases hg
  | @kept last ht =>
    simp only [Slot.get,Option.bind_some] at hg
    split at hg
    · next hl =>
      cases hg
      exact ⟨last.time,rfl,ht,samePeriod_iff.mpr hl⟩
    · cases hg
  | swept _ _ => cases hg

/-- Nothing is served when nothing was stored in the same period. -/
theorem of_get_eq_none (hg : slot.get now = none) {s : Stored α} (hs : last = some s) :
    ¬SamePeriod s.time now := by
  rw [samePeriod_iff]
  cases h with
  | empty => cases hs
  | @kept last ht =>
    cases hs
    intro hl
    simp [Slot.get,hl] at hg
  | swept _ hn =>
    cases hs
    exact Instant.not_lt.mpr hn

end Keeps

end CloudMetrics.Collect
