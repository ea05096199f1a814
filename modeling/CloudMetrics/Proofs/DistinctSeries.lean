import CloudMetrics.Proofs.Gauges
import Mathlib.Data.List.Nodup

/-!
# Batches of distinct series

A series is a name with its labels. A batch is tidy when each of its samples fills every label of a gauge
and no series comes twice. Tidy batches are put together in three ways: beside each other when they have
no gauge in common, one for each of some things that a label tells apart, and one for each place of a list
when a label holds the place. So nothing needs to be known of the things themselves.
-/
namespace CloudMetrics.Metrics

open Time

def Sample.series (s : Sample) : String × List (String × String) := (s.name,s.labels)

/-- The sample has a value for each label of the gauge, and no value more. -/
def Sample.Fills (s : Sample) (g : Gauge) : Prop :=
  ∃ v values full time, s = { g.fill v values full with time }

/-- The sample has some labels, among others. -/
def Sample.Bears (s : Sample) (labels : List (String × String)) : Prop :=
  ∀ l ∈ labels, s.label? l.1 = some l.2

section
variable {s : Sample} {g : Gauge} {labels : List (String × String)}

theorem Sample.fills_fill {v : Float} {values : List String} {full : values.length = g.labels.length} :
    (g.fill v values full).Fills g :=
  ⟨v,values,full,none,rfl⟩

theorem Sample.fills_sample {v : Float} {values : List String}
    (full : values.length = g.labels.length := by rfl) : (g.sample v values).Fills g :=
  ⟨v,values,full,none,rfl⟩

theorem Sample.fills_info {values : List String} {full : values.length = g.labels.length} :
    (g.info values full).Fills g :=
  ⟨1,values,full,none,rfl⟩

theorem Sample.Fills.stamped (h : s.Fills g) (t : Instant) : (s.stamped t).Fills g := by
  obtain ⟨v,values,full,time,rfl⟩ := h
  exact ⟨v,values,full,some t,rfl⟩

theorem Sample.Fills.name_eq (h : s.Fills g) : s.name = g.name := by
  obtain ⟨v,values,full,time,rfl⟩ := h
  rfl

theorem Sample.Fills.help_eq (h : s.Fills g) : s.help = g.help := by
  obtain ⟨v,values,full,time,rfl⟩ := h
  rfl

theorem Sample.Fills.names_of_labels (h : s.Fills g) : s.labels.map (·.1) = g.labels := by
  obtain ⟨v,values,full,time,rfl⟩ := h
  exact List.map_fst_zip (by omega)

theorem Sample.bears_of_map_eq (h : (labels.map fun l => s.label? l.1) = labels.map fun l => some l.2) :
    s.Bears labels :=
  List.map_inj_left.mp h

theorem Sample.Bears.values_eq {names : List String} : ∀ {as bs : List String},
    as.length = names.length → bs.length = names.length →
      s.Bears (names.zip as) → s.Bears (names.zip bs) → as = bs := by
  induction names with
  | nil =>
    intro as bs ha hb _ _
    rw [List.length_eq_zero_iff.mp ha,List.length_eq_zero_iff.mp hb]
  | cons name names ih =>
    rintro (_ | ⟨a,as⟩) (_ | ⟨b,bs⟩) ha hb has hbs <;> try contradiction
    simp only [List.length_cons,Nat.add_right_cancel_iff] at ha hb
    simp only [Sample.Bears,List.zip_cons_cons,List.forall_mem_cons] at has hbs
    have hab : a = b := Option.some.inj (has.1.symm.trans hbs.1)
    rw [hab,ih ha hb has.2 hbs.2]

end

theorem toString_injective : Function.Injective (toString : Nat → String) := by
  intro m n h
  rw [Nat.toString_eq_ofList_toDigits,Nat.toString_eq_ofList_toDigits] at h
  have hd := congrArg String.toList h
  rw [String.toList_ofList,String.toList_ofList] at hd
  have hm := Nat.ofDigitChars_ten_toDigits (n := m)
  rw [hd,Nat.ofDigitChars_ten_toDigits] at hm
  exact hm.symm

theorem singleton_toString_injective : Function.Injective fun n : Nat => [toString n] :=
  fun _ _ h => toString_injective (List.singleton_inj.mp h)

/-- Gauges that share no name. -/
def Apart (gs hs : List Gauge) : Prop := ∀ g ∈ gs, ∀ h ∈ hs, g.name ≠ h.name

instance (gs hs : List Gauge) : Decidable (Apart gs hs) :=
  inferInstanceAs (Decidable (∀ g ∈ gs, ∀ h ∈ hs, g.name ≠ h.name))

/-- Samples of some gauges, all with some labels, and no series twice. -/
structure Tidy (gauges : List Gauge) (labels : List (String × String)) (b : Batch) : Prop where
  fills : ∀ s ∈ b, ∃ g ∈ gauges, s.Fills g
  labelled : ∀ s ∈ b, s.Bears labels
  distinct : (b.map Sample.series).Nodup

namespace Tidy

variable {gs hs : List Gauge} {g : Gauge} {labels : List (String × String)} {a b : Batch} {s : Sample}

theorem named (h : Tidy gs labels b) : Named gs b := by
  intro s hs
  obtain ⟨g,hg,hf⟩ := h.fills s hs
  exact ⟨g,hg,hf.name_eq.symm⟩

theorem nil : Tidy gs labels [] := ⟨by simp,by simp,by simp⟩

theorem one (hf : s.Fills g) (hl : s.Bears labels) : Tidy [g] labels [s] :=
  ⟨by simpa using hf,by simpa using hl,by simp⟩

theorem of_subset (h : Tidy gs labels b) (hg : gs ⊆ hs) : Tidy hs labels b where
  fills s hm := (h.fills s hm).imp fun _ hf => ⟨hg hf.1,hf.2⟩
  labelled := h.labelled
  distinct := h.distinct

theorem append (ha : Tidy gs labels a) (hb : Tidy hs labels b) (hd : Apart gs hs) :
    Tidy (gs ++ hs) labels (a++b) := by
  constructor
  case fills =>
    intro s hs
    rcases List.mem_append.mp hs with hs | hs
    · obtain ⟨g,hg,hf⟩ := ha.fills s hs
      exact ⟨g,List.mem_append_left _ hg,hf⟩
    · obtain ⟨g,hg,hf⟩ := hb.fills s hs
      exact ⟨g,List.mem_append_right _ hg,hf⟩
  case labelled =>
    intro s hs
    rcases List.mem_append.mp hs with hs | hs
    · exact ha.labelled s hs
    · exact hb.labelled s hs
  case distinct =>
    rw [List.map_append,List.nodup_append]
    refine ⟨ha.distinct,hb.distinct,?_⟩
    intro x hx y hy he
    obtain ⟨s,hs,rfl⟩ := List.mem_map.mp hx
    obtain ⟨t,ht,rfl⟩ := List.mem_map.mp hy
    obtain ⟨g,hg,hfg⟩ := ha.fills s hs
    obtain ⟨h,hh,hfh⟩ := hb.fills t ht
    have hn : s.name = t.name := congrArg Prod.fst he
    apply hd g hg h hh
    rw [← hfg.name_eq,← hfh.name_eq,hn]

theorem cons (hf : s.Fills g) (hl : s.Bears labels) (hb : Tidy hs labels b) (hd : Apart [g] hs) :
    Tidy (g :: hs) labels (s :: b) :=
  (one hf hl).append hb hd

theorem ite {p : Prop} [Decidable p] (h : Tidy gs labels b) : Tidy gs labels (if p then b else []) := by
  split
  · exact h
  · exact nil

theorem rowsOf {V : Type} {rows : V → Batch} (h : ∀ v, Tidy gs labels (rows v)) (o : Option V) :
    Tidy gs labels (Collect.rowsOf o rows) := by
  cases o with
  | none => exact nil
  | some v => exact h v

theorem perm (h : Tidy gs labels a) (hp : a.Perm b) : Tidy gs labels b where
  fills s hs := h.fills s (hp.mem_iff.mpr hs)
  labelled s hs := h.labelled s (hp.mem_iff.mpr hs)
  distinct := (hp.map Sample.series).nodup_iff.mp h.distinct

/-- Batches that the values of some labels tell apart. -/
theorem flatMap {α : Type} {xs : List α} {f : α → Batch} (names : List String) {key : α → List String}
    (hd : (xs.map key).Nodup) (hk : ∀ x ∈ xs, (key x).length = names.length)
    (h : ∀ x ∈ xs, Tidy gs (names.zip (key x) ++ labels) (f x)) :
    Tidy gs labels (xs.flatMap f) := by
  constructor
  case fills =>
    intro s hs
    obtain ⟨x,hx,hs⟩ := List.mem_flatMap.mp hs
    exact (h x hx).fills s hs
  case labelled =>
    intro s hs l hl
    obtain ⟨x,hx,hs⟩ := List.mem_flatMap.mp hs
    exact (h x hx).labelled s hs l (List.mem_append_right _ hl)
  case distinct =>
    rw [List.map_flatMap,List.nodup_flatMap]
    refine ⟨fun x hx => (h x hx).distinct,?_⟩
    rw [List.nodup_iff_pairwise_ne,List.pairwise_map] at hd
    refine hd.imp_of_mem fun {x y} hx hy hne => ?_
    intro series hsx hsy
    obtain ⟨s,hs,hsx⟩ := List.mem_map.mp hsx
    obtain ⟨t,ht,hty⟩ := List.mem_map.mp hsy
    have hlabels : s.labels = t.labels := congrArg Prod.snd (hsx.trans hty.symm)
    have hsb : s.Bears (names.zip (key x)) := fun l hl =>
      (h x hx).labelled s hs l (List.mem_append_left _ hl)
    have htb : s.Bears (names.zip (key y)) := by
      intro l hl
      rw [Sample.label?,hlabels]
      exact (h y hy).labelled t ht l (List.mem_append_left _ hl)
    exact hne (hsb.values_eq (hk x hx) (hk y hy) htb)

/-- Batches under their places. -/
theorem flatten_mapIdx {α : Type} {f : Nat → α → Batch} {label : String}
    (h : ∀ i x, Tidy gs ((label,toString i) :: labels) (f i x)) (xs : List α) :
    Tidy gs labels (xs.mapIdx f).flatten := by
  have hp : xs.zipIdx.map (fun p => [toString p.2]) = (List.range' 0 xs.length).map fun i => [toString i] := by
    rw [← List.zipIdx_map_snd,List.map_map]
    rfl
  have hd : (xs.zipIdx.map fun p => [toString p.2]).Nodup := by
    rw [hp]
    exact List.Nodup.map singleton_toString_injective List.nodup_range'
  rw [List.mapIdx_eq_zipIdx_map]
  exact flatMap [label] hd (fun _ _ => rfl) fun p _ => h p.2 p.1

/-- Rows under their places. -/
theorem mapIdx {α : Type} {f : Nat → α → Sample} {label : String}
    (hf : ∀ i x, (f i x).Fills g) (hl : ∀ i x, (f i x).Bears ((label,toString i) :: labels)) (xs : List α) :
    Tidy [g] labels (xs.mapIdx f) := by
  have hs : xs.mapIdx f = (xs.mapIdx fun i x => [f i x]).flatten := by
    rw [List.mapIdx_eq_zipIdx_map,List.mapIdx_eq_zipIdx_map]
    exact List.map_eq_flatMap
  rw [hs]
  exact flatten_mapIdx (fun i x => one (hf i x) (hl i x)) xs

end Tidy

end CloudMetrics.Metrics
