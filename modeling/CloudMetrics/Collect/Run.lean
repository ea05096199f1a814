import CloudMetrics.Cloud.Call
import CloudMetrics.Metrics.Sample

/-!
# Runs

A run computes a value and keeps a journal: the calls it made, the failures it recorded and the
batches it handed over. Journals of successive runs are appended, and tasks that run at once are taken
in the order in which they complete.
-/
namespace CloudMetrics.Collect

open Cloud Metrics

/-- Failures of the cloud itself. -/
structure Faults where
  /-- Requests refused because of the credentials. -/
  rejected : Nat := 0
  /-- Requests without an answer, or with an answer of a failing server. -/
  unavailable : Nat := 0
deriving DecidableEq, Repr, Inhabited

namespace Faults

def merge (a b : Faults) : Faults := ⟨a.rejected+b.rejected,a.unavailable+b.unavailable⟩

/-- What one error says about the cloud. -/
def ofError (e : ApiError) : Faults :=
  if e.isUnauthorized then ⟨1,0⟩ else if e.isUnavailable then ⟨0,1⟩ else ⟨0,0⟩

def ofFailure (f : Failure) : Faults := (f.api?.map ofError).getD {}

end Faults

/-- A logged failure. -/
structure Event where
  /-- The instance that logs. -/
  source : String
  collector : String
  stage : String
  subject : String
  failure : Failure
deriving DecidableEq, Repr

structure Journal where
  calls : List Call := []
  /-- Failures recorded in the run's own tally. -/
  failures : Nat := 0
  faults : Faults := {}
  /-- Increments of the error counter, by collector. -/
  counted : List String := []
  events : List Event := []
  batches : List Batch := []
deriving Repr, Inhabited

instance : Append Journal where
  append a b := ⟨a.calls++b.calls,a.failures+b.failures,a.faults.merge b.faults,a.counted++b.counted,
    a.events++b.events,a.batches++b.batches⟩

namespace Journal

@[simp] theorem append_calls (a b : Journal) : (a++b).calls = a.calls++b.calls := rfl
@[simp] theorem append_failures (a b : Journal) : (a++b).failures = a.failures+b.failures := rfl
@[simp] theorem append_faults (a b : Journal) : (a++b).faults = a.faults.merge b.faults := rfl
@[simp] theorem append_counted (a b : Journal) : (a++b).counted = a.counted++b.counted := rfl
@[simp] theorem append_events (a b : Journal) : (a++b).events = a.events++b.events := rfl
@[simp] theorem append_batches (a b : Journal) : (a++b).batches = a.batches++b.batches := rfl

end Journal

theorem Faults.merge_assoc (a b c : Faults) : (a.merge b).merge c = a.merge (b.merge c) := by
  simp [Faults.merge,Nat.add_assoc]

/-- A value and the journal of how it came about. -/
structure Run (α : Type) where
  value : α
  journal : Journal := {}

instance : Monad Run where
  pure a := ⟨a,{}⟩
  bind x f := ⟨(f x.value).value,x.journal++(f x.value).journal⟩

namespace Run

variable {α β : Type}

@[simp] theorem pure_value (a : α) : (pure a : Run α).value = a := rfl
@[simp] theorem pure_journal (a : α) : (pure a : Run α).journal = {} := rfl
@[simp] theorem bind_value (x : Run α) (f : α → Run β) : (x >>= f).value = (f x.value).value := rfl
@[simp] theorem bind_journal (x : Run α) (f : α → Run β) :
    (x >>= f).journal = x.journal++(f x.value).journal := rfl

/-- Hands over a batch; an empty one is dropped. -/
def emit (b : Batch) : Run Unit := ⟨(),{ batches := if b.isEmpty then [] else [b] }⟩

/-- Makes a call. -/
def ask (api : Api) (c : Call) : Run (Except ApiError c.Answer) := ⟨api c,{ calls := [c] }⟩

/-- Runs one after the other. -/
def sequence : List (Run α) → Run (List α)
  | [] => pure []
  | x :: xs => do
    let a ← x
    let as ← sequence xs
    pure (a :: as)

end Run

/-- An order in which tasks that run at once complete. -/
structure Order where
  arrange : {α : Type} → List α → List α
  arrange_perm : ∀ {α : Type} (xs : List α), (arrange xs).Perm xs

/-- The order in which tasks were started. -/
def Order.asStarted : Order := ⟨fun xs => xs,fun xs => .refl xs⟩

instance : Inhabited Order := ⟨.asStarted⟩

/-- The orders of one collection: of its zone queries, and of its resource tasks. -/
structure Schedule where
  zones : Order := .asStarted
  tasks : Order := .asStarted

instance : Inhabited Schedule := ⟨{}⟩

end CloudMetrics.Collect
