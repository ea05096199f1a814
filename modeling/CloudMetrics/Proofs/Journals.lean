import CloudMetrics.Collect.Context
import Mathlib.Data.List.Perm.Basic

/-!
# Journals of composed runs

What a run writes into its journal follows from what its parts write. The lemmas here open the
operations of a context once: a query makes one call, a listing one per zone, and runs in a sequence
write one after the other.
-/
namespace CloudMetrics.Collect

open Cloud Metrics Time

@[simp] theorem Faults.merge_rejected (a b : Faults) :
    (a.merge b).rejected = a.rejected+b.rejected := rfl

@[simp] theorem Faults.merge_unavailable (a b : Faults) :
    (a.merge b).unavailable = a.unavailable+b.unavailable := rfl

namespace Journal

@[simp] theorem append_empty (j : Journal) : j ++ ({} : Journal) = j := by
  obtain ⟨calls,failures,⟨rejected,unavailable⟩,counted,events,batches⟩ := j
  change Journal.mk _ _ _ _ _ _ = _
  simp only [List.append_nil,Nat.add_zero,Faults.merge]

@[simp] theorem empty_append (j : Journal) : ({} : Journal) ++ j = j := by
  obtain ⟨calls,failures,⟨rejected,unavailable⟩,counted,events,batches⟩ := j
  change Journal.mk _ _ _ _ _ _ = _
  simp only [List.nil_append,Nat.zero_add,Faults.merge]

theorem append_assoc (a b c : Journal) : a++b++c = a++(b++c) := by
  change Journal.mk _ _ _ _ _ _ = Journal.mk _ _ _ _ _ _
  simp only [append_calls,append_failures,append_faults,append_counted,append_events,append_batches,
    List.append_assoc,Nat.add_assoc,Faults.merge_assoc]

end Journal

namespace Run

variable {α β : Type}

@[simp] theorem map_journal (f : α → β) (x : Run α) : (f <$> x).journal = x.journal :=
  Journal.append_empty _

theorem sequence_cons_journal (x : Run α) (xs : List (Run α)) :
    (sequence (x :: xs)).journal = x.journal ++ (sequence xs).journal := by
  simp only [sequence,bind_journal,pure_journal,Journal.append_empty]

@[simp] theorem sequence_value (xs : List (Run α)) : (sequence xs).value = xs.map (·.value) := by
  induction xs with
  | nil => rfl
  | cons x xs ih => simp only [sequence,bind_value,pure_value,ih,List.map_cons]

@[simp] theorem sequence_calls (xs : List (Run α)) :
    (sequence xs).journal.calls = xs.flatMap (·.journal.calls) := by
  induction xs with
  | nil => rfl
  | cons x xs ih => rw [sequence_cons_journal,Journal.append_calls,ih,List.flatMap_cons]

@[simp] theorem sequence_batches (xs : List (Run α)) :
    (sequence xs).journal.batches = xs.flatMap (·.journal.batches) := by
  induction xs with
  | nil => rfl
  | cons x xs ih => rw [sequence_cons_journal,Journal.append_batches,ih,List.flatMap_cons]

/-- What holds of the empty journal and is kept by appending holds of a sequence whose runs have it. -/
theorem sequence_journal_induction {P : Journal → Prop} (empty : P {})
    (append : ∀ a b, P a → P b → P (a++b)) (xs : List (Run α)) (h : ∀ x ∈ xs, P x.journal) :
    P (sequence xs).journal := by
  induction xs with
  | nil => exact empty
  | cons x xs ih =>
    rw [sequence_cons_journal]
    exact append _ _ (h x List.mem_cons_self) (ih fun y hy => h y (List.mem_cons_of_mem _ hy))

end Run

namespace Run

@[simp] theorem call_journal (api : Api) (c : Call) : (call api c).journal = { calls := [c] } := by
  simp only [call,ask,bind_journal]
  cases api c <;> simp only [pure_journal,Journal.append_empty]

/-- The value of a call hangs on the answer to that call alone. -/
theorem call_value (api : Api) (c : Call) : (call api c).value = (api c).mapError .ofApi := by
  simp only [call,ask,bind_value]
  cases api c <;> rfl

theorem toOption_call_value (api : Api) (c : Call) : (call api c).value.toOption = (api c).toOption := by
  rw [call_value]
  cases api c <;> rfl

end Run

namespace Context

variable {α V : Type} (ctx : Context) (api : Api) (c : Call) (stage subject : String)

@[simp] theorem fetch_calls (query : Run (Except Failure α)) :
    (ctx.fetch stage subject query).journal.calls = query.journal.calls := by
  simp only [fetch,Run.bind_journal,Journal.append_calls]
  cases query.value <;> simp [record]

@[simp] theorem fetch_batches (query : Run (Except Failure α)) :
    (ctx.fetch stage subject query).journal.batches = query.journal.batches := by
  simp only [fetch,Run.bind_journal,Journal.append_batches]
  cases query.value <;> simp [record]

@[simp] theorem fetch_value (query : Run (Except Failure α)) :
    (ctx.fetch stage subject query).value = query.value.toOption := by
  simp only [fetch,Run.bind_value]
  cases query.value <;> rfl

@[simp] theorem settled_value (query : Run (Except Failure (List (MonitorSample V)))) :
    (ctx.settled stage subject query).value = query.value.toOption.bind latestSettled := by
  simp only [settled,Run.bind_value,fetch_value,Run.pure_value]

theorem fetch_call_value : (ctx.fetch stage subject (.call api c)).value = (api c).toOption := by
  rw [fetch_value,Run.toOption_call_value]

end Context

end CloudMetrics.Collect
