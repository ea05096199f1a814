import CloudMetrics.Proofs.Recording
import CloudMetrics.Proofs.Refreshes
import Mathlib.Logic.Function.Basic
import Mathlib.Logic.Relation

/-!
# Cached queries at once

Cached queries that run at once share a slot. Each looks into it, makes its query if it finds nothing, and
stores the answer; sweeps and the passing of time come between these steps in any way. What each call has
done so far is noted, and the notes tell which value is served and when a query is made.
-/
namespace CloudMetrics.Collect

open Cloud Time

/-- How far a call has come. -/
inductive Stage (α : Type) where
  | started
  /-- Nothing was found. -/
  | missed
  /-- The query succeeded, and its answer is to be stored. -/
  | answered (fresh : α)
  | returned (value : Option α)

inductive Deed (α : Type) where
  | hit (item : α)
  | miss
  | failed
  | answered (fresh : α)
  | stored (fresh : α)

/-- The deed is a look into the slot. -/
def Deed.isLookup {α : Type} : Deed α → Bool
  | .hit _ | .miss => true
  | _ => false

/-- What a call did, and when. -/
structure Note (α : Type) where
  time : Instant
  call : Nat
  deed : Deed α

def Note.stored? {α : Type} (n : Note α) : Option (Stored α) :=
  match n.deed with
  | .stored fresh => some ⟨fresh,n.time⟩
  | _ => none

/-- A slot, the calls on it by their numbers, and the notes with the latest first. -/
structure World (c : Call) where
  slot : Slot c.Answer
  clock : Instant
  stage : Nat → Stage c.Answer
  journal : Nat → Journal
  notes : List (Note c.Answer)

namespace World

variable {c : Call}

def start (clock : Instant) : World c := ⟨none,clock,fun _ => .started,fun _ => {},[]⟩

/-- A call goes on to a stage, with a deed and with what it writes into its journal. -/
def put (w : World c) (i : Nat) (stage : Stage c.Answer) (deed : Deed c.Answer) (j : Journal) : World c :=
  { w with
    stage := Function.update w.stage i stage
    journal := Function.update w.journal i (w.journal i ++ j)
    notes := ⟨w.clock,i,deed⟩ :: w.notes }

/-- A call stores the answer to its query and returns it. -/
def store (w : World c) (i : Nat) (fresh : c.Answer) : World c :=
  { w.put i (.returned (some fresh)) (.stored fresh) {} with
    slot := Context.store .billing w.clock w.slot fresh }

/-- A query may be answered by any cloud in any way. -/
inductive Step : World c → World c → Prop
  | tick {w : World c} {t : Instant} : w.clock ≤ t → Step w { w with clock := t }
  | sweep {w : World c} : Step w { w with slot := w.slot.purge w.clock }
  | hit {w : World c} {i : Nat} {item : c.Answer} : w.stage i = .started →
      w.slot.get w.clock = some item → Step w (w.put i (.returned (some item)) (.hit item) {})
  | miss {w : World c} {i : Nat} : w.stage i = .started → w.slot.get w.clock = none →
      Step w (w.put i .missed .miss {})
  | failed {w : World c} {i : Nat} (ctx : Context) (stage : String) (api : Api) :
      w.stage i = .missed → (ctx.fetch stage "account" (.call api c)).value = none →
      Step w (w.put i (.returned none) .failed (ctx.fetch stage "account" (.call api c)).journal)
  | answered {w : World c} {i : Nat} {fresh : c.Answer} (ctx : Context) (stage : String) (api : Api) :
      w.stage i = .missed → (ctx.fetch stage "account" (.call api c)).value = some fresh →
      Step w (w.put i (.answered fresh) (.answered fresh)
        (ctx.fetch stage "account" (.call api c)).journal)
  | stored {w : World c} {i : Nat} {fresh : c.Answer} : w.stage i = .answered fresh →
      Step w (w.store i fresh)

abbrev Reaches : World c → World c → Prop := Relation.ReflTransGen Step

/-- What was stored so far, the latest first. -/
def stores (w : World c) : List (Stored c.Answer) := w.notes.filterMap Note.stored?

def deeds (w : World c) (i : Nat) : List (Deed c.Answer) :=
  (w.notes.filter fun n => n.call == i).map (·.deed)

end World

/-- The deeds of a call by its stage, with the calls to the cloud and the failures in its journal. -/
inductive Told (c : Call) : Stage c.Answer → List (Deed c.Answer) → List Call → Nat → Prop
  | started : Told c .started [] [] 0
  | hit (item : c.Answer) : Told c (.returned (some item)) [.hit item] [] 0
  | missed : Told c .missed [.miss] [] 0
  | failed : Told c (.returned none) [.failed,.miss] [c] 1
  | answered (fresh : c.Answer) : Told c (.answered fresh) [.answered fresh,.miss] [c] 0
  | stored (fresh : c.Answer) :
      Told c (.returned (some fresh)) [.stored fresh,.answered fresh,.miss] [c] 0

/-- Why a slot gave what it gave, from what was stored in it before. -/
def Note.Explained {α : Type} (stores : List (Stored α)) (n : Note α) : Prop :=
  match n.deed with
  | .hit item => ∃ t, stores.head? = some ⟨item,t⟩ ∧ t ≤ n.time ∧ SamePeriod t n.time
  | .miss => ∀ s ∈ stores, ¬SamePeriod s.time n.time
  | _ => True

namespace World

variable {c : Call} {w w' : World c}

structure Sound (w : World c) : Prop where
  keeps : Keeps w.clock w.slot w.stores.head?
  ordered : w.stores.Pairwise fun a b => b.time ≤ a.time
  told : ∀ i, Told c (w.stage i) (w.deeds i) (w.journal i).calls (w.journal i).failures
  explained : ∀ later n earlier, w.notes = later ++ n :: earlier →
    n.Explained (earlier.filterMap Note.stored?)

theorem sound_start (clock : Instant) : (start clock : World c).Sound where
  keeps := .empty
  ordered := .nil
  told _ := .started
  explained later n earlier h := by
    have hl := congrArg List.length h
    simp [start] at hl

theorem Sound.exists_last (hw : w.Sound) {s : Stored c.Answer} (hs : s ∈ w.stores) :
    ∃ last, w.stores.head? = some last ∧ s.time ≤ last.time := by
  have ho := hw.ordered
  generalize w.stores = stores at *
  cases stores with
  | nil => exact absurd hs List.not_mem_nil
  | cons last rest =>
    refine ⟨last,rfl,?_⟩
    rcases List.mem_cons.mp hs with rfl | hs
    · exact Instant.le_refl _
    · exact (List.pairwise_cons.mp ho).1 s hs

theorem Sound.time_le (hw : w.Sound) {s : Stored c.Answer} (hs : s ∈ w.stores) : s.time ≤ w.clock := by
  obtain ⟨last,hl,hle⟩ := hw.exists_last hs
  exact Instant.le_trans hle (hw.keeps.time_le hl)

/-- A store in the present period would make the last one a store in this period too. -/
theorem Sound.not_samePeriod (hw : w.Sound) (hg : w.slot.get w.clock = none) {s : Stored c.Answer}
    (hs : s ∈ w.stores) : ¬SamePeriod s.time w.clock := by
  intro hp
  obtain ⟨last,hl,hle⟩ := hw.exists_last hs
  exact hw.keeps.of_get_eq_none hg hl (hp.of_le hle)

section
variable (w) (i : Nat) (stage : Stage c.Answer) (deed : Deed c.Answer) (j : Journal)

@[simp] theorem stage_put_self : (w.put i stage deed j).stage i = stage := Function.update_self ..

@[simp] theorem journal_put_self : (w.put i stage deed j).journal i = w.journal i ++ j :=
  Function.update_self ..

@[simp] theorem stage_store_self (fresh : c.Answer) :
    (w.store i fresh).stage i = .returned (some fresh) :=
  stage_put_self w i _ (.stored fresh) {}

@[simp] theorem journal_store_self (fresh : c.Answer) :
    (w.store i fresh).journal i = w.journal i ++ {} :=
  journal_put_self w i (.returned (some fresh)) (.stored fresh) {}

theorem deeds_put_self : (w.put i stage deed j).deeds i = deed :: w.deeds i := by
  simp [deeds,put]

theorem deeds_put_of_ne {k : Nat} (h : k ≠ i) : (w.put i stage deed j).deeds k = w.deeds k := by
  simp [deeds,put,Ne.symm h]

end

section
variable {i : Nat} {stage : Stage c.Answer} {deed : Deed c.Answer} {j : Journal} (hw : w.Sound)
include hw

theorem Sound.told_put
    (h : Told c stage (deed :: w.deeds i) ((w.journal i).calls ++ j.calls)
      ((w.journal i).failures+j.failures)) (k : Nat) :
    Told c ((w.put i stage deed j).stage k) ((w.put i stage deed j).deeds k)
      ((w.put i stage deed j).journal k).calls ((w.put i stage deed j).journal k).failures := by
  by_cases hk : k = i
  · subst hk
    rw [deeds_put_self]
    simpa [put] using h
  · rw [deeds_put_of_ne w i stage deed j hk]
    simpa [put,hk] using hw.told k

theorem Sound.explained_cons {m : Note c.Answer} (h : m.Explained w.stores)
    (later : List (Note c.Answer)) (n : Note c.Answer) (earlier : List (Note c.Answer))
    (he : m :: w.notes = later ++ n :: earlier) : n.Explained (earlier.filterMap Note.stored?) := by
  cases later with
  | nil =>
    obtain ⟨rfl,rfl⟩ := List.cons.inj he
    exact h
  | cons l later => exact hw.explained later n earlier (List.cons.inj he).2

/-- A deed that stores nothing. -/
theorem Sound.put
    (ht : Told c stage (deed :: w.deeds i) ((w.journal i).calls ++ j.calls)
      ((w.journal i).failures+j.failures))
    (hn : (⟨w.clock,i,deed⟩ : Note c.Answer).stored? = none)
    (he : (⟨w.clock,i,deed⟩ : Note c.Answer).Explained w.stores) : (w.put i stage deed j).Sound := by
  have hs : (w.put i stage deed j).stores = w.stores := List.filterMap_cons_none hn
  refine ⟨?_,?_,hw.told_put ht,hw.explained_cons he⟩
  · rw [hs]
    exact hw.keeps
  · rw [hs]
    exact hw.ordered

end

end World

section
variable {c : Call} {ds : List (Deed c.Answer)} {cs : List Call} {n : Nat}

theorem Told.of_started (h : Told c .started ds cs n) : ds = [] ∧ cs = [] ∧ n = 0 := by
  cases h
  exact ⟨rfl,rfl,rfl⟩

theorem Told.of_missed (h : Told c .missed ds cs n) : ds = [.miss] ∧ cs = [] ∧ n = 0 := by
  cases h
  exact ⟨rfl,rfl,rfl⟩

theorem Told.of_answered {fresh : c.Answer} (h : Told c (.answered fresh) ds cs n) :
    ds = [.answered fresh,.miss] ∧ cs = [c] ∧ n = 0 := by
  cases h
  exact ⟨rfl,rfl,rfl⟩

end

namespace World

variable {c : Call} {w w' : World c}

/-- The journal of a query by its outcome. -/
theorem fetch_journal (ctx : Context) (stage : String) (api : Api) (c : Call) :
    (ctx.fetch stage "account" (.call api c)).journal.calls = [c] ∧
      (ctx.fetch stage "account" (.call api c)).journal.failures =
        if (ctx.fetch stage "account" (.call api c)).value.isSome then 0 else 1 := by
  rw [Context.fetch_value,Run.call_value]
  cases h : api c with
  | ok a =>
    rw [ctx.fetch_call_of_ok api c stage "account" h]
    exact ⟨rfl,rfl⟩
  | error e =>
    rw [ctx.fetch_call_of_error api c stage "account" h]
    exact ⟨rfl,rfl⟩

theorem Sound.told_at (hw : w.Sound) {i : Nat} {stage : Stage c.Answer} (hi : w.stage i = stage) :
    Told c stage (w.deeds i) (w.journal i).calls (w.journal i).failures :=
  hi ▸ hw.told i

theorem Sound.step (hw : w.Sound) (h : Step w w') : w'.Sound := by
  cases h with
  | tick ht => exact { hw with keeps := hw.keeps.mono ht }
  | sweep => exact { hw with keeps := hw.keeps.purge }
  | @hit i item hi hg =>
    obtain ⟨hd,hc,hf⟩ := (hw.told_at hi).of_started
    obtain ⟨t,hl,ht,hp⟩ := hw.keeps.of_get_eq_some hg
    refine hw.put ?_ rfl ⟨t,hl,ht,hp⟩
    rw [hd,hc,hf]
    exact .hit item
  | @miss i hi hg =>
    obtain ⟨hd,hc,hf⟩ := (hw.told_at hi).of_started
    refine hw.put ?_ rfl fun s hs hp => ?_
    · rw [hd,hc,hf]
      exact .missed
    · exact hw.not_samePeriod hg hs hp
  | @failed i ctx stage api hi hv =>
    obtain ⟨hd,hc,hf⟩ := (hw.told_at hi).of_missed
    obtain ⟨hjc,hjf⟩ := fetch_journal ctx stage api c
    refine hw.put ?_ rfl trivial
    rw [hd,hc,hf,hjc,hjf,hv]
    exact .failed
  | @answered i fresh ctx stage api hi hv =>
    obtain ⟨hd,hc,hf⟩ := (hw.told_at hi).of_missed
    obtain ⟨hjc,hjf⟩ := fetch_journal ctx stage api c
    refine hw.put ?_ rfl trivial
    rw [hd,hc,hf,hjc,hjf,hv]
    exact .answered fresh
  | @stored i fresh hi =>
    obtain ⟨hd,hc,hf⟩ := (hw.told_at hi).of_answered
    refine ⟨.store _ _ fresh,?_,hw.told_put ?_,hw.explained_cons trivial⟩
    · exact .cons (fun s hs => hw.time_le hs) hw.ordered
    · rw [hd,hc,hf]
      exact .stored fresh

theorem Reaches.sound {clock : Instant} (h : (start clock : World c).Reaches w) : w.Sound := by
  induction h with
  | refl => exact sound_start clock
  | tail _ hstep ih => exact ih.step hstep

/-- No deed but a store changes the slot. -/
theorem Step.slot_eq {n : Note c.Answer} (h : Step w w') (hn : w'.notes = n :: w.notes)
    (hs : n.stored? = none) : w'.slot = w.slot := by
  cases h with
  | tick | sweep =>
    have hl := congrArg List.length hn
    simp at hl
  | hit | miss | failed | answered => rfl
  | @stored i fresh hi =>
    have he : (⟨w.clock,i,.stored fresh⟩ : Note c.Answer) = n := (List.cons.inj hn).1
    rw [← he] at hs
    cases hs

theorem mem_deeds {n : Note c.Answer} (h : n ∈ w.notes) : n.deed ∈ w.deeds n.call :=
  List.mem_map_of_mem (List.mem_filter.mpr ⟨h,beq_self_eq_true n.call⟩)

/-- A call that looks into the slot after a store in the same period sends no query. -/
theorem Sound.calls_eq_nil (hw : w.Sound) {later earlier : List (Note c.Answer)} {n : Note c.Answer}
    (hn : w.notes = later ++ n :: earlier) (hl : n.deed.isLookup = true) {s : Stored c.Answer}
    (hs : s ∈ earlier.filterMap Note.stored?) (hp : SamePeriod s.time n.time) :
    (w.journal n.call).calls = [] := by
  have he := hw.explained later n earlier hn
  have hd : n.deed ∈ w.deeds n.call := mem_deeds (hn ▸ List.mem_append_right _ List.mem_cons_self)
  have ht := hw.told n.call
  unfold Note.Explained at he
  generalize w.stage n.call = stage, w.deeds n.call = ds, (w.journal n.call).calls = cs,
    (w.journal n.call).failures = failures at hd ht ⊢
  cases hnd : n.deed with
  | miss =>
    rw [hnd] at he
    exact absurd hp (he s hs)
  | hit item =>
    rw [hnd] at hd
    cases ht with
    | hit => rfl
    | started => rfl
    | missed => rfl
    | failed | answered | stored => simp at hd
  | failed | answered | stored =>
    rw [hnd] at hl
    exact absurd hl Bool.false_ne_true

/-- A cached query whose steps follow each other with the clock standing still. -/
theorem reaches_of_cached {i : Nat} (hi : w.stage i = .started) (ctx : Context) (stage : String)
    (api : Api) :
    ∃ w', w.Reaches w' ∧ w'.clock = w.clock ∧
      w'.slot = (ctx.cached .billing w.clock w.slot stage (.call api c)).value.slot ∧
      w'.stage i =
        .returned (ctx.cached .billing w.clock w.slot stage (.call api c)).value.value ∧
      w'.journal i = w.journal i ++ (ctx.cached .billing w.clock w.slot stage (.call api c)).journal := by
  unfold Context.cached
  cases hg : w.slot.get w.clock with
  | some item =>
    exact ⟨_,.single (.hit hi hg),rfl,rfl,stage_put_self ..,journal_put_self ..⟩
  | none =>
    have hmiss : Step w (w.put i .missed .miss {}) := .miss hi hg
    have hm : (w.put i .missed .miss {}).stage i = .missed := stage_put_self ..
    generalize hv : (ctx.fetch stage "account" (.call api c)).value = value
    cases value with
    | none =>
      refine ⟨_,(Relation.ReflTransGen.single hmiss).tail (.failed ctx stage api hm hv),rfl,?_,?_,?_⟩
      · rw [Run.bind_value,hv]
        rfl
      · rw [Run.bind_value,hv]
        exact stage_put_self ..
      · rw [Run.bind_journal,hv,Run.pure_journal,Journal.append_empty]
        simp
    | some fresh =>
      have hanswered : Step _ _ := .answered ctx stage api hm hv
      have ha := stage_put_self (w.put i .missed .miss {}) i (.answered fresh) (.answered fresh)
        (ctx.fetch stage "account" (.call api c)).journal
      refine ⟨_,((Relation.ReflTransGen.single hmiss).tail hanswered).tail (.stored ha),rfl,?_,?_,?_⟩
      · rw [Run.bind_value,hv]
        rfl
      · rw [Run.bind_value,hv]
        exact stage_store_self ..
      · rw [Run.bind_journal,hv,Run.pure_journal,Journal.append_empty]
        simp

end World

/-- What comes between two calls is a sweep. -/
inductive Turn where
  | sweep (now : Instant)
  | call (ctx : Context) (stage : String) (now : Instant) (api : Api)

def Turn.now : Turn → Instant
  | .sweep now => now
  | .call _ _ now _ => now

/-- What the calls of some turns give, each with its instant. -/
def serve {c : Call} (slot : Slot c.Answer) : List Turn → List (Instant × Context.Served c.Answer)
  | [] => []
  | .sweep now :: turns => serve (slot.purge now) turns
  | .call ctx stage now api :: turns =>
    let served := (ctx.cached .billing now slot stage (.call api c)).value
    (now,served) :: serve served.slot turns

/-- A query was made, and it succeeded. -/
def Context.Served.isFresh {α : Type} (s : Context.Served α) : Bool := s.queried && s.value.isSome

section
variable {c : Call}

/-- A cached query is made only in a new period; what it leaves behind is its answer, or all as it was. -/
theorem Keeps.cached {now : Instant} {slot : Slot c.Answer} {last : Option (Stored c.Answer)}
    (h : Keeps now slot last) (ctx : Context) (stage : String) (api : Api) :
    let served := (ctx.cached .billing now slot stage (.call api c)).value
    (served.queried = true → ∀ s, last = some s → ¬SamePeriod s.time now) ∧
    ((served.isFresh = false ∧ Keeps now served.slot last) ∨
      ∃ fresh, Keeps now served.slot (some ⟨fresh,now⟩)) := by
  intro served
  have hs : served = (ctx.cached .billing now slot stage (.call api c)).value := rfl
  unfold Context.cached at hs
  cases hg : slot.get now with
  | some item =>
    rw [hg] at hs
    rw [hs]
    exact ⟨fun hq => absurd hq Bool.false_ne_true,.inl ⟨rfl,h⟩⟩
  | none =>
    rw [hg,Run.bind_value] at hs
    refine ⟨fun _ s hl => h.of_get_eq_none hg hl,?_⟩
    cases hv : (ctx.fetch stage "account" (.call api c)).value with
    | none =>
      rw [hv] at hs
      rw [hs]
      exact .inl ⟨rfl,h⟩
    | some fresh =>
      rw [hv] at hs
      rw [hs]
      exact .inr ⟨fresh,.store now slot fresh⟩

/-- After a value was stored, the turns of its period make no query. -/
theorem Keeps.serve {turns : List Turn} {now : Instant} {slot : Slot c.Answer}
    {last : Option (Stored c.Answer)} (h : Keeps now slot last) (hnow : ∀ t ∈ turns, now ≤ t.now)
    (ho : (turns.map Turn.now).Pairwise (· ≤ ·)) :
    (∀ s, last = some s → ∀ a ∈ serve slot turns, SamePeriod s.time a.1 → a.2.queried = false) ∧
    (serve slot turns).Pairwise fun a b =>
      SamePeriod a.1 b.1 → a.2.isFresh = true → b.2.queried = false := by
  induction turns generalizing now slot last with
  | nil => exact ⟨fun _ _ a ha => absurd ha List.not_mem_nil,.nil⟩
  | cons turn turns ih =>
    rw [List.map_cons,List.pairwise_cons] at ho
    have hturn : Keeps turn.now slot last := h.mono (hnow turn List.mem_cons_self)
    have hlater : ∀ t ∈ turns, turn.now ≤ t.now := fun t ht => ho.1 _ (List.mem_map_of_mem ht)
    cases turn with
    | sweep => exact ih hturn.purge hlater ho.2
    | call ctx stage now' api =>
      obtain ⟨hq,hk⟩ := hturn.cached ctx stage api
      have hhead : ∀ s, last = some s → SamePeriod s.time now' →
          (ctx.cached .billing now' slot stage (.call api c)).value.queried = false := by
        intro s hl hp
        exact Bool.eq_false_iff.mpr fun hasked => hq hasked s hl hp
      rcases hk with ⟨hf,hk⟩ | ⟨fresh,hk⟩
      · obtain ⟨hi,hp⟩ := ih hk hlater ho.2
        refine ⟨fun s hl a ha hs => ?_,.cons (fun b _ _ hfresh => ?_) hp⟩
        · rcases List.mem_cons.mp ha with rfl | ha
          · exact hhead s hl hs
          · exact hi s hl a ha hs
        · exact absurd (hf.symm.trans hfresh) Bool.false_ne_true
      · obtain ⟨hi,hp⟩ := ih hk hlater ho.2
        refine ⟨fun s hl a ha hs => ?_,.cons (fun b hb hs _ => hi _ rfl b hb hs) hp⟩
        rcases List.mem_cons.mp ha with rfl | ha
        · exact hhead s hl hs
        · exact hi _ rfl a ha (hs.of_le (hturn.time_le hl))

/-- Of calls that follow each other, at most one in a period makes a query that succeeds. -/
theorem serve_pairwise {turns : List Turn} (ho : (turns.map Turn.now).Pairwise (· ≤ ·)) :
    (serve (none : Slot c.Answer) turns).Pairwise fun a b =>
      SamePeriod a.1 b.1 → a.2.isFresh = true → b.2.queried = false := by
  cases turns with
  | nil => exact .nil
  | cons turn turns =>
    have hnow : ∀ t ∈ turn :: turns, turn.now ≤ t.now := by
      intro t ht
      rcases List.mem_cons.mp ht with rfl | ht
      · exact Instant.le_refl _
      · exact (List.pairwise_cons.mp ho).1 _ (List.mem_map_of_mem ht)
    exact (Keeps.serve .empty hnow ho).2

end

/-- Cached queries at once, with sweeps and the passing of time between their steps. A call sends its
query exactly after it has found nothing; it returns what it found, or the answer to its query, or, with
one failure recorded and the slot as it was, nothing. What is found was stored last, in the same period;
and who looks into the slot after a store in the same period sends no query. The same steps, one after the
other with the clock standing still, are a cached query of a collection; of such queries at most one in a
period is made and succeeds. -/
theorem one_query_serves_a_period {c : Call} {w : World c} {clock : Instant}
    (h : (World.start clock : World c).Reaches w) :
    (∀ i, Told c (w.stage i) (w.deeds i) (w.journal i).calls (w.journal i).failures) ∧
    (∀ later n earlier, w.notes = later ++ n :: earlier →
      n.Explained (earlier.filterMap Note.stored?)) ∧
    (∀ later n earlier, w.notes = later ++ n :: earlier → n.deed.isLookup = true →
      ∀ s ∈ earlier.filterMap Note.stored?, SamePeriod s.time n.time →
        (w.journal n.call).calls = []) ∧
    (∀ w' n, w.Step w' → w'.notes = n :: w.notes → n.stored? = none → w'.slot = w.slot) ∧
    (∀ i, w.stage i = .started → ∀ ctx stage api,
      let x := Context.cached ctx .billing w.clock w.slot stage (.call api c)
      ∃ w', w.Reaches w' ∧ w'.clock = w.clock ∧ w'.slot = x.value.slot ∧
        w'.stage i = .returned x.value.value ∧ w'.journal i = w.journal i ++ x.journal) ∧
    ∀ turns : List Turn, (turns.map Turn.now).Pairwise (· ≤ ·) →
      (serve (none : Slot c.Answer) turns).Pairwise fun a b =>
        SamePeriod a.1 b.1 → a.2.isFresh = true → b.2.queried = false := by
  have hw := h.sound
  refine ⟨hw.told,hw.explained,?_,?_,?_,fun turns ho => serve_pairwise ho⟩
  · intro later n earlier hn hl s hs hp
    exact hw.calls_eq_nil hn hl hs hp
  · intro w' n hstep hn hs
    exact hstep.slot_eq hn hs
  · intro i hi ctx stage api
    exact World.reaches_of_cached hi ctx stage api

/-- A cloud that does not answer. -/
def silent : Api := fun c => .error (.transport c.path)

/-- A cloud that has no bills and answers nothing else. -/
def withoutBills : Api
  | .bills _ => .ok []
  | c => .error (.transport c.path)

def anyContext : Context := ⟨"bill",[],default,"exporter"⟩

/-- The query of one call fails, another stores its answer, and a third is served with it. -/
def threeCalls : World (.bills "1") :=
  let failed := anyContext.fetch "bills" "account" (.call silent (.bills "1"))
  let answered := anyContext.fetch "bills" "account" (.call withoutBills (.bills "1"))
  let world := (World.start .epoch).put 0 .missed .miss {}
  let world := world.put 0 (.returned none) .failed failed.journal
  let world := (world.put 1 .missed .miss {}).put 1 (.answered []) (.answered []) answered.journal
  (world.store 1 []).put 2 (.returned (some [])) (.hit []) {}

theorem reaches_threeCalls : (World.start .epoch).Reaches threeCalls := by
  have h := Relation.ReflTransGen.single
    (World.Step.miss (c := .bills "1") (w := .start .epoch) (i := 0) rfl rfl)
  have h := h.tail (.failed (i := 0) anyContext "bills" silent rfl rfl)
  have h := h.tail (.miss (i := 1) rfl rfl)
  have h := h.tail (.answered (i := 1) anyContext "bills" withoutBills rfl rfl)
  have h := h.tail (.stored (i := 1) rfl)
  exact h.tail (.hit (i := 2) rfl rfl)

theorem one_query_serves_a_period_of_three_calls :
    (World.start .epoch).Reaches threeCalls ∧
    Told (.bills "1") (.returned none) [.failed,.miss] [.bills "1"] 1 ∧
    Told (.bills "1") (.returned (some [])) [.stored [],.answered [],.miss] [.bills "1"] 0 ∧
    Told (.bills "1") (.returned (some [])) [.hit []] [] 0 := by
  have h := one_query_serves_a_period reaches_threeCalls
  exact ⟨reaches_threeCalls,h.1 0,h.1 1,h.1 2⟩

end CloudMetrics.Collect
