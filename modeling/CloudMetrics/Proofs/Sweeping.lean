import CloudMetrics.Collect.Cache
import Mathlib.Data.List.Induction

/-!
# Sweeping

A cache is read and written; purges and sweeps come between, and none of its readers can tell. By a
clock that never goes back, a cache is compared with the item that was stored last: it holds that item,
or it was swept after the item's time. Both serve the same, for what is swept has expired and what has
expired stays so.
-/
namespace CloudMetrics.Collect

open Time

variable {α : Type}

namespace Slot

/-- What sweeping may have left of a slot by some instant: all of it, or nothing once its item has
expired. -/
inductive Swept (now : Instant) : Slot α → Slot α → Prop
  | kept (slot : Slot α) : Swept now slot slot
  | dropped {e : Entry α} : e.expires ≤ now → Swept now (some e) none

namespace Swept

variable {now later : Instant} {kept slot : Slot α}

theorem mono (h : Swept now kept slot) (hl : now ≤ later) : Swept later kept slot := by
  cases h with
  | kept => exact .kept _
  | dropped he => exact .dropped (Instant.le_trans he hl)

theorem purge (h : Swept now kept slot) : Swept now kept (slot.purge now) := by
  cases h with
  | kept =>
    cases kept with
    | none => exact .kept none
    | some e =>
      simp only [Slot.purge,Option.bind_some]
      split
      · exact .kept _
      · next he => exact .dropped (Instant.not_lt.mp he)
  | dropped he => exact .dropped he

theorem get_eq (h : Swept now kept slot) : slot.get now = kept.get now := by
  cases h with
  | kept => rfl
  | @dropped e he =>
    have hn : ¬now < e.expires := Instant.not_lt.mpr he
    simp [Slot.get,hn]

end Swept

theorem isStale_iff {slot : Slot α} {now : Instant} :
    slot.isStale now = true ↔ ∃ e, slot = some e ∧ e.expires ≤ now := by
  cases slot with
  | none => simp [isStale]
  | some e => simp [isStale,Instant.not_lt]

theorem purge_of_isStale {slot : Slot α} {now : Instant} (h : slot.isStale now = true) :
    slot.purge now = none := by
  obtain ⟨e,rfl,he⟩ := isStale_iff.mp h
  have hn : ¬now < e.expires := Instant.not_lt.mpr he
  simp [purge,hn]

theorem purge_of_not_isStale {slot : Slot α} {now : Instant} (h : slot.isStale now = false) :
    slot.purge now = slot := by
  cases slot with
  | none => rfl
  | some e =>
    have hl : now < e.expires := by simpa [isStale] using h
    simp [purge,hl]

end Slot

/-- What is done to a cache. Time passes on the cache's own clock, and a sweep that falls due then goes by
the wall clock; since the two clocks are apart, a sweep may come at any moment. -/
inductive CacheStep (α : Type) where
  | set (item : Option α) (expires : Instant)
  | get (now : Instant)
  | purge (now : Instant)
  | pass (millis : Nat) (now : Instant)
deriving DecidableEq, Repr

inductive CacheAnswer (α : Type) where
  | set (result : Except CacheError Unit)
  | found (item : Option α)
  | purged (removed : Bool)
  | passed

namespace CacheStep

/-- The cache is read or written; all other steps tidy up. -/
def isUse : CacheStep α → Bool
  | .set .. | .get _ => true
  | .purge _ | .pass .. => false

/-- The wall clock of a step; writing looks at no clock. -/
def clock? : CacheStep α → Option Instant
  | .set .. => none
  | .get now | .purge now | .pass _ now => some now

/-- What a step stores. -/
def stored? : CacheStep α → Option (Entry α)
  | .set (some item) expires => if expires = .epoch then none else some ⟨item,expires⟩
  | _ => none

/-- The wall clock does not go back. -/
def InOrder (steps : List (CacheStep α)) : Prop := (steps.filterMap clock?).Pairwise (· ≤ ·)

instance (steps : List (CacheStep α)) : Decidable (InOrder steps) := by unfold InOrder; infer_instance

theorem stored?_of_not_isUse {s : CacheStep α} (h : s.isUse = false) : s.stored? = none := by
  cases s <;> first | rfl | cases h

end CacheStep

open CacheStep

namespace SweptCache

def answer (c : SweptCache α) : CacheStep α → CacheAnswer α
  | .set item expires => .set ((c.slot.set item expires).map fun _ => ())
  | .get now => .found (c.slot.get now)
  | .purge now => .purged (c.slot.isStale now)
  | .pass .. => .passed

/-- The cache after a step; a step that fails leaves it alone. -/
def after (c : SweptCache α) : CacheStep α → SweptCache α
  | .set item expires =>
    match c.slot.set item expires with
    | .ok slot => { c with slot }
    | .error _ => c
  | .get _ => c
  | .purge now => { c with slot := c.slot.purge now }
  | .pass millis now => c.advance millis now

def run (c : SweptCache α) (steps : List (CacheStep α)) : SweptCache α := steps.foldl after c

/-- Every step with its answer. -/
def transcript (c : SweptCache α) : List (CacheStep α) → List (CacheStep α × CacheAnswer α)
  | [] => []
  | s :: steps => (s,c.answer s) :: (c.after s).transcript steps

/-- The entry that was stored last; before anything is stored, the one at the start. -/
def lastStored (c : SweptCache α) (steps : List (CacheStep α)) : Slot α :=
  (steps.filterMap stored?).getLast?.or c.slot

variable {c : SweptCache α} {steps : List (CacheStep α)} {s : CacheStep α} {now : Instant}

theorem run_concat (c : SweptCache α) (steps : List (CacheStep α)) (s : CacheStep α) :
    c.run (steps ++ [s]) = (c.run steps).after s := by
  simp [run]

theorem transcript_concat (c : SweptCache α) (steps : List (CacheStep α)) (s : CacheStep α) :
    c.transcript (steps ++ [s]) = c.transcript steps ++ [(s,(c.run steps).answer s)] := by
  induction steps generalizing c with
  | nil => rfl
  | cons t steps ih => simp [transcript,run,ih]

theorem lastStored_concat (c : SweptCache α) (steps : List (CacheStep α)) (s : CacheStep α) :
    c.lastStored (steps ++ [s]) = s.stored?.or (c.lastStored steps) := by
  cases h : s.stored? with
  | none => simp [lastStored,List.filterMap_append,h]
  | some e => simp [lastStored,List.filterMap_append,h]

theorem lastStored_filter_isUse (c : SweptCache α) (steps : List (CacheStep α)) :
    c.lastStored (steps.filter isUse) = c.lastStored steps := by
  induction steps using List.reverseRecOn with
  | nil => rfl
  | append_singleton steps s ih =>
    rw [List.filter_append,lastStored_concat]
    cases h : s.isUse with
    | true => simp only [List.filter_cons,h,if_true,List.filter_nil,lastStored_concat,ih]
    | false => simp [h,stored?_of_not_isUse h,ih]

theorem after_set_slot (c : SweptCache α) (item : Option α) (expires : Instant) :
    (c.after (.set item expires)).slot = (stored? (.set item expires)).or c.slot := by
  cases item with
  | none => rfl
  | some item => by_cases h : expires = .epoch <;> simp [after,Slot.set,stored?,h]

/-- Letting time pass sweeps the slot or leaves it alone. -/
theorem advance_slot (c : SweptCache α) (millis : Nat) (now : Instant) :
    (c.advance millis now).slot = c.slot.purge now ∨ (c.advance millis now).slot = c.slot := by
  simp only [advance]
  split
  · exact Or.inl rfl
  · exact Or.inr rfl

/-- One step keeps a cache what sweeping has left of the entry that was stored last. -/
theorem swept_after {kept : Slot α} (h : Slot.Swept now kept c.slot) (hc : ∀ t ∈ s.clock?, t = now) :
    Slot.Swept now (s.stored?.or kept) (c.after s).slot := by
  cases s with
  | set item expires =>
    rw [after_set_slot]
    cases stored? (.set item expires) with
    | none => exact h
    | some e => exact .kept _
  | get t => exact h
  | purge t =>
    obtain rfl := hc t rfl
    exact h.purge
  | pass millis t =>
    obtain rfl := hc t rfl
    change Slot.Swept t kept (c.advance millis t).slot
    rcases advance_slot c millis t with hs | hs
    · rw [hs]
      exact h.purge
    · rwa [hs]

/-- A whole run: the clock has reached `now`. -/
theorem swept_run (c : SweptCache α) (h : InOrder steps) (hn : ∀ t ∈ steps.filterMap clock?, t ≤ now) :
    Slot.Swept now (c.lastStored steps) (c.run steps).slot := by
  induction steps using List.reverseRecOn generalizing now with
  | nil => exact .kept _
  | append_singleton steps s ih =>
    rw [run_concat,lastStored_concat]
    rw [InOrder,List.filterMap_append,List.pairwise_append] at h
    obtain ⟨hsteps,-,hs⟩ := h
    rw [List.filterMap_append] at hn
    cases hc : s.clock? with
    | none =>
      have hk := ih hsteps fun t ht => hn t (List.mem_append_left _ ht)
      exact swept_after hk (by simp [hc])
    | some t =>
      have ht : t ∈ [s].filterMap clock? := by simp [hc]
      have hk : Slot.Swept t (c.lastStored steps) (c.run steps).slot := ih hsteps fun u hu => hs u hu t ht
      exact (swept_after hk (by simp [hc])).mono (hn t (List.mem_append_right _ ht))

/-- What is read is the entry that was stored last, up to its time. -/
theorem get_run (c : SweptCache α) (h : InOrder (steps ++ [.get now])) :
    (c.run steps).slot.get now = (c.lastStored steps).get now := by
  rw [InOrder,List.filterMap_append,List.pairwise_append] at h
  obtain ⟨hsteps,-,hs⟩ := h
  exact (swept_run c hsteps fun t ht => hs t ht now (by simp [clock?])).get_eq

theorem InOrder.filter_isUse (h : InOrder steps) : InOrder (steps.filter isUse) :=
  List.Pairwise.sublist (List.filter_sublist.filterMap _) h

/-- A reader or a writer is answered by what was stored before. -/
theorem answer_run_filter (c : SweptCache α) (h : InOrder (steps ++ [s])) (hs : s.isUse = true) :
    (c.run (steps.filter isUse)).answer s = (c.run steps).answer s := by
  cases s with
  | set item expires => rfl
  | get now =>
    have hf : InOrder (steps.filter isUse ++ [.get now]) := by
      have hu := InOrder.filter_isUse h
      rwa [List.filter_append] at hu
    simp only [answer]
    rw [get_run c h,get_run c hf,lastStored_filter_isUse]
  | purge _ => cases hs
  | pass _ _ => cases hs

theorem transcript_filter_isUse (c : SweptCache α) (h : InOrder steps) :
    (c.transcript steps).filter (·.1.isUse) = c.transcript (steps.filter isUse) := by
  induction steps using List.reverseRecOn with
  | nil => rfl
  | append_singleton steps s ih =>
    have hsteps : InOrder steps := h.sublist ((List.sublist_append_left steps [s]).filterMap _)
    rw [transcript_concat,List.filter_append,List.filter_append,ih hsteps]
    cases hs : s.isUse with
    | true =>
      have ha := answer_run_filter c h hs
      simp only [List.filter_cons,hs,if_true,List.filter_nil,transcript_concat,ha]
    | false => simp [hs]

theorem answer_set_ok_iff (c : SweptCache α) (item : Option α) (expires : Instant) :
    c.answer (.set item expires) = .set (.ok ()) ↔ item.isSome ∧ expires ≠ .epoch := by
  cases item with
  | none => simp [answer,Slot.set,Except.map]
  | some item => by_cases h : expires = .epoch <;> simp [answer,Slot.set,Except.map,h]

theorem after_set_of_ne_ok (c : SweptCache α) (item : Option α) (expires : Instant)
    (h : c.answer (.set item expires) ≠ .set (.ok ())) : c.after (.set item expires) = c := by
  rw [Ne,answer_set_ok_iff] at h
  cases item with
  | none => rfl
  | some item =>
    have he : expires = .epoch := by simpa using h
    simp [after,Slot.set,he]

/-- Whoever reads or writes a cache cannot tell that it is swept: a reader gets the entry that was stored
last, up to its time. What fails to be stored changes nothing, and a purge takes away what has expired and
nothing else. -/
theorem sweeping_is_invisible (c : SweptCache α) (h : InOrder steps) :
    (c.transcript steps).filter (·.1.isUse) = c.transcript (steps.filter isUse) ∧
    (∀ before now rest, steps = before ++ .get now :: rest →
      (c.run before).answer (.get now) =
        .found ((c.lastStored before).bind fun e => if now < e.expires then some e.item else none)) ∧
    (∀ (d : SweptCache α) item expires,
      (d.answer (.set item expires) = .set (.ok ()) ↔ item.isSome ∧ expires ≠ .epoch) ∧
      (d.answer (.set item expires) ≠ .set (.ok ()) → d.after (.set item expires) = d)) ∧
    (∀ (d : SweptCache α) now,
      (d.answer (.purge now) = .purged true ↔ ∃ e, d.slot = some e ∧ e.expires ≤ now) ∧
      (d.answer (.purge now) = .purged true → (d.after (.purge now)).slot = none) ∧
      (d.answer (.purge now) ≠ .purged true → d.after (.purge now) = d)) := by
  refine ⟨transcript_filter_isUse c h,?_,?_,?_⟩
  · intro before now rest hs
    have hb : InOrder (before ++ [.get now]) := by
      have hsub : (before ++ [CacheStep.get now]).Sublist steps := by simp [hs]
      exact h.sublist (hsub.filterMap _)
    exact congrArg CacheAnswer.found (get_run c hb)
  · intro d item expires
    exact ⟨answer_set_ok_iff d item expires,after_set_of_ne_ok d item expires⟩
  · intro d now
    have ha : d.answer (.purge now) = .purged true ↔ d.slot.isStale now = true := by simp [answer]
    rw [Ne,ha,Bool.not_eq_true]
    refine ⟨Slot.isStale_iff,Slot.purge_of_isStale,?_⟩
    intro hn
    simp only [after,Slot.purge_of_not_isStale hn]

/-- A cache that is swept between two readers, the second of which comes at the item's time; nothing is
stored in between, though it is tried. -/
def sweptSteps : List (CacheStep Nat) :=
  [.set (some 1) ⟨10,0⟩,.get ⟨9,999999999⟩,.pass 60000 ⟨10,0⟩,.set none ⟨20,0⟩,.set (some 2) .epoch,
    .get ⟨10,0⟩,.set (some 3) ⟨5,0⟩,.get ⟨11,0⟩,.purge ⟨11,0⟩]

theorem sweeping_is_invisible_of_swept_steps :
    InOrder sweptSteps ∧
      (({ interval := 60000 } : SweptCache Nat).transcript sweptSteps).filter (·.1.isUse) =
        ({ interval := 60000 } : SweptCache Nat).transcript (sweptSteps.filter isUse) := by
  have h : InOrder sweptSteps := by decide
  exact ⟨h,(sweeping_is_invisible { interval := 60000 } h).1⟩

end SweptCache

end CloudMetrics.Collect
