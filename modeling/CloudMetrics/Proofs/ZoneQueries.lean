import CloudMetrics.Collect.Zones
import Mathlib.Data.List.Perm.Basic

/-!
# Queries across zones lose nothing

While zone tasks complete, the zones that wait are those of the lost tasks and of the tasks still
running, each as often as it was queried. When all tasks are in, as many zones wait as tasks were lost,
so every lost task is laid to a zone whose task was lost. This holds for every order of completion and
for zones that are queried more than once.
-/
namespace CloudMetrics.Collect

open Cloud

namespace Order

/-- The first task completes first, and the others in the given order. -/
def keepFirst (o : Order) : Order where
  arrange
    | [] => []
    | x :: xs => x :: o.arrange xs
  arrange_perm
    | [] => .nil
    | x :: xs => (o.arrange_perm xs).cons x

/-- The first two tasks complete the other way round. -/
def swapFirst : Order where
  arrange
    | x :: y :: xs => y :: x :: xs
    | xs => xs
  arrange_perm
    | [] => .nil
    | [_] => .refl _
    | x :: y :: xs => .swap x y xs

def after (o p : Order) : Order where
  arrange xs := o.arrange (p.arrange xs)
  arrange_perm xs := (o.arrange_perm _).trans (p.arrange_perm xs)

/-- Tasks can complete in any order whatever. -/
theorem exists_arrange_eq {α : Type} {completed tasks : List α} (h : completed.Perm tasks) :
    ∃ o : Order, o.arrange tasks = completed := by
  induction h with
  | nil => exact ⟨asStarted,rfl⟩
  | cons x _ ih =>
    obtain ⟨o,ho⟩ := ih
    exact ⟨o.keepFirst,by simp only [keepFirst,ho]⟩
  | swap x y xs => exact ⟨swapFirst,rfl⟩
  | trans _ _ ih₁ ih₂ =>
    obtain ⟨o,ho⟩ := ih₁
    obtain ⟨p,hp⟩ := ih₂
    exact ⟨o.after p,by simp only [after,hp,ho]⟩

end Order

variable {α : Type}

def Outcome.isDone : Outcome α → Bool
  | .done _ => true
  | _ => false

def Outcome.isLost : Outcome α → Bool
  | .lost => true
  | _ => false

/-- The items that a task ends with, under its zone. -/
def taskItems (t : String × Outcome (List α)) : List (Zoned α) :=
  match t.2 with
  | .done items => items.map (⟨t.1,·⟩)
  | _ => []

def taskFailure? (t : String × Outcome (List α)) : Option ZoneError :=
  match t.2 with
  | .failed f => some ⟨t.1,f⟩
  | _ => none

/-- What is said of a task that does not end with items. -/
def taskError? (t : String × Outcome (List α)) : Option ZoneError :=
  match t.2 with
  | .done _ => none
  | .failed f => some ⟨t.1,f⟩
  | .lost => some ⟨t.1,lostTask⟩

def lostError (t : String × Outcome (List α)) : ZoneError := ⟨t.1,lostTask⟩

def lostTasks (tasks : List (String × Outcome (List α))) : List (String × Outcome (List α)) :=
  tasks.filter fun t => t.2.isLost

theorem taskError?_eq_none_iff (t : String × Outcome (List α)) :
    taskError? t = none ↔ t.2.isDone = true := by
  obtain ⟨zone,o⟩ := t
  cases o <;> simp [taskError?,Outcome.isDone]

/-- The errors by task are the failures and, after them, what is said of the lost tasks. -/
theorem failures_append_lost_perm (tasks : List (String × Outcome (List α))) :
    (tasks.filterMap taskFailure? ++ (lostTasks tasks).map lostError).Perm
      (tasks.filterMap taskError?) := by
  induction tasks with
  | nil => exact .nil
  | cons t tasks ih =>
    obtain ⟨zone,o⟩ := t
    cases o with
    | done items => exact ih
    | failed f => exact ih.cons _
    | lost => exact List.perm_middle.trans (ih.cons _)

theorem zones_of_errors (tasks : List (String × Outcome (List α))) :
    (tasks.filterMap taskError?).map (·.zone) =
      (tasks.filter fun t => !t.2.isDone).map (·.1) := by
  induction tasks with
  | nil => rfl
  | cons t tasks ih =>
    obtain ⟨zone,o⟩ := t
    cases o with
    | done items => exact ih
    | failed f => exact congrArg (zone :: ·) ih
    | lost => exact congrArg (zone :: ·) ih

/-- A zone that waits and answers is taken out once; the others stay, in another order. -/
theorem cons_dropAnswered_perm {zone : String} {waiting : List String} (h : zone ∈ waiting) :
    (zone :: dropAnswered zone waiting).Perm waiting := by
  obtain ⟨i,hi⟩ := Option.isSome_iff_exists.mp (List.isSome_idxOf?.mpr h)
  obtain ⟨hlt,hz,-⟩ := List.idxOf?_eq_some_iff.mp hi
  have hne : waiting ≠ [] := List.ne_nil_of_mem h
  obtain ⟨init,last,rfl⟩ := (List.eq_nil_or_concat waiting).resolve_left hne
  simp only [List.concat_eq_append] at hi hlt hz ⊢
  have hd : dropAnswered zone (init ++ [last]) = init.set i last := by
    simp only [dropAnswered,hi,List.getLast?_append,List.getLast?_singleton,Option.some_or,
      List.dropLast_concat]
  rw [hd]
  by_cases hl : i < init.length
  · rw [List.getElem_append_left hl] at hz
    have hs := (List.set_perm_cons_eraseIdx hl last).cons zone
    have hg := (List.getElem_cons_eraseIdx_perm hl).cons last
    rw [hz] at hg
    exact hs.trans ((List.Perm.swap _ _ _).trans (hg.trans (List.perm_append_singleton _ _).symm))
  · rw [List.getElem_append_right (by omega)] at hz
    simp only [List.getElem_singleton] at hz
    rw [List.set_eq_of_length_le (by omega),hz]
    exact (List.perm_append_singleton _ _).symm

/-- What is known once some tasks have completed while others still run. -/
structure Gathering.Accounts (g : Gathering α) (completed running : List (String × Outcome (List α))) :
    Prop where
  items : g.results.items = completed.flatMap taskItems
  errors : g.results.errors = completed.filterMap taskFailure?
  /-- The zones that wait belong to the lost tasks and to the running ones. -/
  waiting : g.waiting.Perm ((lostTasks completed ++ running).map (·.1))
  lost : g.lost = (lostTasks completed).length

namespace Gathering.Accounts

variable {g : Gathering α} {completed running : List (String × Outcome (List α))}

theorem start (tasks : List (String × Outcome (List α))) :
    ({ waiting := tasks.map (·.1) } : Gathering α).Accounts [] tasks :=
  ⟨rfl,rfl,.refl _,rfl⟩

/-- Once the zone of a running task is taken out, the zones of the others wait. -/
theorem waiting_dropAnswered {t : String × Outcome (List α)}
    (h : g.Accounts completed (t :: running)) :
    (dropAnswered t.1 g.waiting).Perm ((lostTasks completed ++ running).map (·.1)) := by
  have hw : g.waiting.Perm (t.1 :: (lostTasks completed ++ running).map (·.1)) := by
    refine h.waiting.trans ?_
    simp only [List.map_append,List.map_cons]
    exact List.perm_middle
  have hm : t.1 ∈ g.waiting := hw.mem_iff.mpr List.mem_cons_self
  exact ((cons_dropAnswered_perm hm).trans hw).cons_inv

/-- The step: one running task completes, with whatever outcome. -/
theorem complete {t : String × Outcome (List α)} (h : g.Accounts completed (t :: running)) :
    (g.complete t.1 t.2).Accounts (completed ++ [t]) running := by
  obtain ⟨zone,o⟩ := t
  have hd := h.waiting_dropAnswered
  cases o with
  | done items =>
    refine ⟨?_,?_,?_,?_⟩
    · simp [Gathering.complete,h.items,taskItems]
    · simp [Gathering.complete,h.errors,taskFailure?]
    · simpa [Gathering.complete,lostTasks,Outcome.isLost] using hd
    · simp [Gathering.complete,h.lost,lostTasks,Outcome.isLost]
  | failed f =>
    refine ⟨?_,?_,?_,?_⟩
    · simp [Gathering.complete,h.items,taskItems]
    · simp [Gathering.complete,h.errors,taskFailure?]
    · simpa [Gathering.complete,lostTasks,Outcome.isLost] using hd
    · simp [Gathering.complete,h.lost,lostTasks,Outcome.isLost]
  | lost =>
    refine ⟨?_,?_,?_,?_⟩
    · simp [Gathering.complete,h.items,taskItems]
    · simp [Gathering.complete,h.errors,taskFailure?]
    · simpa [Gathering.complete,lostTasks,Outcome.isLost] using h.waiting
    · simp [Gathering.complete,h.lost,lostTasks,Outcome.isLost]

/-- The run: all running tasks complete, one after the other. -/
theorem foldl (h : g.Accounts completed running) :
    (running.foldl (fun g t => g.complete t.1 t.2) g).Accounts (completed ++ running) [] := by
  induction running generalizing g completed with
  | nil => simpa using h
  | cons t running ih =>
    have hs := ih h.complete
    rwa [List.append_assoc] at hs

/-- When no task runs any more, as many zones wait as tasks were lost. -/
theorem length_waiting (h : g.Accounts completed []) : g.waiting.length = g.lost := by
  rw [h.waiting.length_eq,h.lost]
  simp

/-- Neither a zone that waits nor a lost task is dropped when the two are paired. -/
theorem close_errors_perm (h : g.Accounts completed []) :
    g.close.errors.Perm (completed.filterMap taskError?) := by
  have hp : (g.waiting.zip (List.replicate g.lost ())).map (fun p => (⟨p.1,lostTask⟩ : ZoneError)) =
      g.waiting.map (⟨·,lostTask⟩) := by
    have hl : g.waiting.length ≤ (List.replicate g.lost ()).length := by simp [h.length_waiting]
    conv_rhs => rw [← List.map_fst_zip hl]
    simp only [List.map_map,Function.comp_def]
  have hw : (g.waiting.map fun z => (⟨z,lostTask⟩ : ZoneError)).Perm
      ((lostTasks completed).map lostError) := by
    have hm := h.waiting.map fun z => (⟨z,lostTask⟩ : ZoneError)
    rw [List.append_nil,List.map_map] at hm
    exact hm
  simp only [Gathering.close]
  rw [hp,h.errors]
  exact (hw.append_left _).trans (failures_append_lost_perm completed)

end Gathering.Accounts

def gather (order : Order) (tasks : List (String × Outcome (List α))) : Gathering α :=
  (order.arrange tasks).foldl (fun g t => g.complete t.1 t.2) { waiting := tasks.map (·.1) }

theorem queryZones_eq_close (order : Order) (tasks : List (String × Outcome (List α))) :
    queryZones order tasks = (gather order tasks).close := rfl

theorem gather_accounts (order : Order) (tasks : List (String × Outcome (List α))) :
    (gather order tasks).Accounts (order.arrange tasks) [] := by
  have hs := Gathering.Accounts.start tasks
  have ho : ({ waiting := tasks.map (·.1) } : Gathering α).Accounts [] (order.arrange tasks) :=
    { hs with waiting := hs.waiting.trans ((order.arrange_perm tasks).symm.map _) }
  exact ho.foldl

theorem queryZones_items (order : Order) (tasks : List (String × Outcome (List α))) :
    (queryZones order tasks).items = (order.arrange tasks).flatMap taskItems := by
  rw [queryZones_eq_close]
  exact (gather_accounts order tasks).items

theorem queryZones_errors_perm (order : Order) (tasks : List (String × Outcome (List α))) :
    (queryZones order tasks).errors.Perm (tasks.filterMap taskError?) := by
  rw [queryZones_eq_close]
  exact (gather_accounts order tasks).close_errors_perm.trans ((order.arrange_perm tasks).filterMap _)

/-- Every item of every task that ended well comes once, under its own zone and beside the others of its
task; every other task is reported once, under its own zone. -/
theorem queryZones_loses_nothing (order : Order) (tasks : List (String × Outcome (List α))) :
    (queryZones order tasks).items = (order.arrange tasks).flatMap taskItems ∧
    (queryZones order tasks).errors.Perm (tasks.filterMap taskError?) ∧
    ((queryZones order tasks).errors.map (·.zone)).Perm
      ((tasks.filter fun t => !t.2.isDone).map (·.1)) ∧
    (gather order tasks).waiting.Perm ((lostTasks tasks).map (·.1)) ∧
    (gather order tasks).waiting.length = (gather order tasks).lost ∧
    ((queryZones order tasks).isComplete = true ↔ ∀ t ∈ tasks, t.2.isDone = true) := by
  have ha := gather_accounts order tasks
  have he := queryZones_errors_perm order tasks
  refine ⟨queryZones_items order tasks,he,?_,?_,ha.length_waiting,?_⟩
  · have hz := he.map (·.zone)
    rwa [zones_of_errors] at hz
  · have hl : (lostTasks (order.arrange tasks)).Perm (lostTasks tasks) :=
      (order.arrange_perm tasks).filter _
    have hw := ha.waiting
    rw [List.append_nil] at hw
    exact hw.trans (hl.map _)
  · rw [ZoneResults.isComplete,List.isEmpty_iff,← List.perm_nil,he.congr_left,List.perm_nil,
      List.filterMap_eq_nil_iff]
    simp only [taskError?_eq_none_iff]

end CloudMetrics.Collect
