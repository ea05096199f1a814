import CloudMetrics.Collect.Settled
import Mathlib.Data.List.Nodup
import Mathlib.Data.List.Perm.Basic

/-!
# The second newest sample

Samples may share an instant. An instant then has several ranks, one for each of its samples, counted
from the latest. From the newest to the oldest, the sample of a rank is one of that rank's instant, and
among those the input order decides. The settled sample is the one of rank one. Where the instants
differ, it is the one that exactly one other sample is newer than, and the order in which the samples
come has no part in it.
-/
namespace CloudMetrics.Collect

open Cloud Time

variable {V : Type} {samples batch : List (MonitorSample V)} {t u : Instant} {n : Nat}

/-- The samples of one instant, in their own order. -/
def samplesAt (t : Instant) (samples : List (MonitorSample V)) : List (MonitorSample V) :=
  samples.filter fun s => decide (s.time = t)

/-- How many samples are later than an instant. -/
def countLater (t : Instant) (samples : List (MonitorSample V)) : Nat :=
  samples.countP fun s => decide (t < s.time)

/-- Counted from the latest sample, this place is taken by a sample of the instant. -/
def HasRank (n : Nat) (t : Instant) (samples : List (MonitorSample V)) : Prop :=
  countLater t samples ≤ n ∧ n < countLater t samples+(samplesAt t samples).length

@[simp] theorem mem_samplesAt {s : MonitorSample V} : s ∈ samplesAt t samples ↔ s ∈ samples ∧ s.time = t := by
  simp [samplesAt]

instance : Decidable (HasRank n t samples) := by unfold HasRank; infer_instance

/-- All samples from a later instant on are later than an earlier one. -/
theorem countLater_add_le (h : t < u) (samples : List (MonitorSample V)) :
    countLater u samples+(samplesAt u samples).length ≤ countLater t samples := by
  induction samples with
  | nil => exact Nat.le_refl 0
  | cons s samples ih =>
    simp only [countLater,samplesAt] at ih ⊢
    rw [List.countP_cons,List.countP_cons,List.filter_cons]
    by_cases hu : u < s.time
    · have hne : s.time ≠ u := fun he => Instant.lt_irrefl u (he ▸ hu)
      simp only [hu,hne,Instant.lt_trans h hu,decide_true,decide_false,if_true,Bool.false_eq_true,if_false]
      omega
    · by_cases he : s.time = u
      · simp only [he,h,Instant.lt_irrefl,decide_true,decide_false,if_true,Bool.false_eq_true,if_false,
          List.length_cons]
        omega
      · simp only [hu,he,decide_false,Bool.false_eq_true,if_false]
        omega

theorem HasRank.unique (ht : HasRank n t samples) (hu : HasRank n u samples) : t = u := by
  by_contra hne
  rcases Instant.le_total t u with h | h
  · have hle := countLater_add_le (Instant.lt_of_le_of_ne h hne) samples
    exact absurd (Nat.le_trans hle ht.1) (Nat.not_le.mpr hu.2)
  · have hle := countLater_add_le (Instant.lt_of_le_of_ne h (Ne.symm hne)) samples
    exact absurd (Nat.le_trans hle hu.1) (Nat.not_le.mpr ht.2)

theorem HasRank.perm (h : HasRank n t samples) (hp : batch.Perm samples) : HasRank n t batch := by
  have hcount : countLater t batch = countLater t samples := hp.countP_eq _
  have hlength : (samplesAt t batch).length = (samplesAt t samples).length := (hp.filter _).length_eq
  rwa [HasRank,hcount,hlength]

/-- A sample that is later than an instant moves it on by one rank. -/
theorem HasRank.cons {later : MonitorSample V} (h : HasRank n t samples) (hl : t < later.time) :
    HasRank (n+1) t (later :: samples) := by
  have hne : later.time ≠ t := fun he => Instant.lt_irrefl t (he ▸ hl)
  have hcount : countLater t (later :: samples) = countLater t samples+1 :=
    List.countP_cons_of_pos (decide_eq_true hl)
  have hsame : samplesAt t (later :: samples) = samplesAt t samples :=
    List.filter_cons_of_neg (by simpa using hne)
  rw [HasRank,hcount,hsame]
  have ⟨hle,hlt⟩ := h
  omega

theorem hasRank_zero {newest : MonitorSample V} (hm : newest ∈ samples)
    (hn : ∀ s ∈ samples, s.time ≤ newest.time) : HasRank 0 newest.time samples := by
  have hcount : countLater newest.time samples = 0 := by
    rw [countLater,List.countP_eq_zero]
    intro s hs
    simpa [Instant.not_lt] using hn s hs
  have hmem : newest ∈ samplesAt newest.time samples := mem_samplesAt.mpr ⟨hm,rfl⟩
  refine ⟨Nat.le_of_eq hcount,?_⟩
  rw [hcount,Nat.zero_add]
  exact List.length_pos_of_mem hmem

theorem length_samplesAt_le_one (hd : (samples.map (·.time)).Nodup) (t : Instant) :
    (samplesAt t samples).length ≤ 1 := by
  have hn : ((samplesAt t samples).map (·.time)).Nodup := hd.sublist (List.filter_sublist.map _)
  have hall : (samplesAt t samples).map (·.time) = List.replicate (samplesAt t samples).length t := by
    rw [List.map_eq_replicate_iff]
    intro s hs
    exact (mem_samplesAt.mp hs).2
  rwa [hall,List.nodup_replicate] at hn

theorem newestFirst_perm (samples : List (MonitorSample V)) : (newestFirst samples).Perm samples :=
  List.mergeSort_perm _ _

theorem newestFirst_pairwise (samples : List (MonitorSample V)) :
    (newestFirst samples).Pairwise fun a b => b.time ≤ a.time := by
  have h : (newestFirst samples).Pairwise fun a b => decide (b.time ≤ a.time) = true := by
    apply List.pairwise_mergeSort
    · intro a b c hab hbc
      exact decide_eq_true (Instant.le_trans (of_decide_eq_true hbc) (of_decide_eq_true hab))
    · intro a b
      simp only [Bool.or_eq_true,decide_eq_true_eq]
      exact Instant.le_total _ _
  exact h.imp of_decide_eq_true

/-- Of samples from the newest to the oldest, those later than an instant come first and its own next. -/
theorem eq_later_append_samplesAt {sorted : List (MonitorSample V)}
    (hs : sorted.Pairwise fun a b => b.time ≤ a.time) (t : Instant) :
    ∃ earlier, sorted = sorted.filter (fun s => decide (t < s.time)) ++ (samplesAt t sorted ++ earlier) ∧
      ∀ s ∈ earlier, s.time < t := by
  induction sorted with
  | nil => exact ⟨[],rfl,by simp⟩
  | cons a sorted ih =>
    have ⟨ha,hp⟩ := List.pairwise_cons.mp hs
    obtain ⟨earlier,he,hlt⟩ := ih hp
    by_cases hta : t < a.time
    · have hne : a.time ≠ t := fun h => Instant.lt_irrefl t (h ▸ hta)
      refine ⟨earlier,?_,hlt⟩
      simpa [samplesAt,hta,hne] using he
    · have hle : a.time ≤ t := Instant.not_lt.mp hta
      have hnone : ∀ s ∈ sorted, ¬t < s.time := fun s hs =>
        Instant.not_lt.mpr (Instant.le_trans (ha s hs) hle)
      have hfilter : sorted.filter (fun s => decide (t < s.time)) = [] := by
        simpa [List.filter_eq_nil_iff] using hnone
      rw [hfilter,List.nil_append] at he
      by_cases hat : a.time = t
      · refine ⟨earlier,?_,hlt⟩
        simpa [samplesAt,hat,Instant.lt_irrefl,hfilter] using he
      · have hat' : a.time < t := Instant.lt_of_le_of_ne hle hat
        refine ⟨a :: sorted,?_,?_⟩
        · have hnil : samplesAt t sorted = [] := by
            simp only [samplesAt,List.filter_eq_nil_iff,decide_eq_true_eq]
            intro s hs hst
            exact Instant.lt_irrefl t (Instant.lt_of_le_of_lt (hst ▸ ha s hs) hat')
          have hnil' : samplesAt t (a :: sorted) = [] := by
            rw [← hnil]
            exact List.filter_cons_of_neg (by simpa using hat)
          rw [hnil',List.nil_append,List.filter_cons_of_neg (by simpa using hta),hfilter,List.nil_append]
        · intro s hs
          rcases List.mem_cons.mp hs with rfl | hs
          · exact hat'
          · exact Instant.lt_of_le_of_lt (ha s hs) hat'

/-- Sorting keeps the samples of one instant in their order. -/
theorem samplesAt_newestFirst (samples : List (MonitorSample V)) (t : Instant) :
    samplesAt t (newestFirst samples) = samplesAt t samples := by
  have htrans : ∀ a b c : MonitorSample V,
      decide (b.time ≤ a.time) → decide (c.time ≤ b.time) → decide (c.time ≤ a.time) := by
    intro a b c hab hbc
    exact decide_eq_true (Instant.le_trans (of_decide_eq_true hbc) (of_decide_eq_true hab))
  have htotal : ∀ a b : MonitorSample V, (decide (b.time ≤ a.time) || decide (a.time ≤ b.time)) := by
    intro a b
    simpa using Instant.le_total b.time a.time
  have hsame : (samplesAt t samples).Pairwise fun a b => decide (b.time ≤ a.time) := by
    rw [List.pairwise_iff_forall_sublist]
    intro a b hab
    have ha : a.time = t := (mem_samplesAt.mp (hab.subset (by simp))).2
    have hb : b.time = t := (mem_samplesAt.mp (hab.subset (by simp))).2
    simpa [ha,hb] using Instant.le_refl t
  have hsub : (samplesAt t samples).Sublist (newestFirst samples) :=
    List.sublist_mergeSort htrans htotal hsame List.filter_sublist
  have hsub' : (samplesAt t samples).Sublist (samplesAt t (newestFirst samples)) := by
    have h := hsub.filter fun s => decide (s.time = t)
    rw [samplesAt,List.filter_filter] at h
    simpa only [samplesAt,Bool.and_self] using h
  exact (hsub'.eq_of_length ((newestFirst_perm samples).filter _).length_eq.symm).symm

/-- From the newest to the oldest, those later than an instant come before its own. -/
theorem newestFirst_getElem? (h : HasRank n t samples) :
    (newestFirst samples)[n]? = (samplesAt t samples)[n-countLater t samples]? := by
  obtain ⟨earlier,he,-⟩ := eq_later_append_samplesAt (newestFirst_pairwise samples) t
  have hlater : (newestFirst samples).countP (fun s => decide (t < s.time)) = countLater t samples :=
    (newestFirst_perm samples).countP_eq _
  rw [List.countP_eq_length_filter] at hlater
  rw [samplesAt_newestFirst] at he
  have ⟨hle,hlt⟩ := h
  rw [he,List.getElem?_append_right (by omega),hlater,List.getElem?_append_left (by omega)]

theorem hasRank_of_getElem? {s : MonitorSample V} (h : (newestFirst samples)[n]? = some s) :
    HasRank n s.time samples := by
  obtain ⟨earlier,he,hearlier⟩ := eq_later_append_samplesAt (newestFirst_pairwise samples) s.time
  have hlater : (newestFirst samples).countP (fun a => decide (s.time < a.time)) =
      countLater s.time samples := (newestFirst_perm samples).countP_eq _
  rw [List.countP_eq_length_filter] at hlater
  rw [samplesAt_newestFirst] at he
  constructor
  · by_contra hn
    rw [he,List.getElem?_append_left (by omega)] at h
    have hs := List.of_mem_filter (List.mem_of_getElem? h)
    exact Instant.lt_irrefl _ (of_decide_eq_true hs)
  · by_contra hn
    rw [he,List.getElem?_append_right (by omega),List.getElem?_append_right (by omega)] at h
    exact Instant.lt_irrefl _ (hearlier s (List.mem_of_getElem? h))

theorem latestSettled_eq_getElem? (samples : List (MonitorSample V)) :
    latestSettled samples = (newestFirst samples)[1]? := by
  by_cases h : samples.length < minSamples
  · have hnone : (newestFirst samples)[1]? = none := by
      rw [List.getElem?_eq_none_iff,(newestFirst_perm samples).length_eq]
      exact Nat.le_of_lt_succ h
    rw [latestSettled,if_pos h,hnone]
  · rw [latestSettled,if_neg h]

theorem latestSettled_eq_none_iff : latestSettled samples = none ↔ samples.length < 2 := by
  rw [latestSettled_eq_getElem?,List.getElem?_eq_none_iff,(newestFirst_perm samples).length_eq]
  omega

theorem hasRank_of_latestSettled {s : MonitorSample V} (h : latestSettled samples = some s) :
    HasRank 1 s.time samples :=
  hasRank_of_getElem? ((latestSettled_eq_getElem? samples).symm.trans h)

theorem latestSettled_of_hasRank (h : HasRank 1 t samples) :
    latestSettled samples = (samplesAt t samples)[1-countLater t samples]? :=
  (latestSettled_eq_getElem? samples).trans (newestFirst_getElem? h)

theorem exists_latestSettled_of_hasRank (h : HasRank 1 t samples) :
    ∃ s ∈ samples, latestSettled samples = some s ∧ s.time = t := by
  have hlt : 1-countLater t samples < (samplesAt t samples).length := by
    have ⟨hle,hlt⟩ := h
    omega
  have hm := mem_samplesAt.mp (List.getElem_mem hlt)
  refine ⟨(samplesAt t samples)[1-countLater t samples],hm.1,?_,hm.2⟩
  rw [latestSettled_of_hasRank h,List.getElem?_eq_getElem hlt]

theorem mem_of_latestSettled {s : MonitorSample V} (h : latestSettled samples = some s) : s ∈ samples := by
  obtain ⟨s',hs',he,-⟩ := exists_latestSettled_of_hasRank (hasRank_of_latestSettled h)
  rw [h] at he
  cases he
  exact hs'

theorem latestSettled_time_perm (hp : batch.Perm samples) :
    (latestSettled batch).map (·.time) = (latestSettled samples).map (·.time) := by
  cases hs : latestSettled samples with
  | none =>
    rw [latestSettled_eq_none_iff,← hp.length_eq,← latestSettled_eq_none_iff] at hs
    rw [hs]
  | some s =>
    obtain ⟨s',-,he,ht⟩ := exists_latestSettled_of_hasRank ((hasRank_of_latestSettled hs).perm hp)
    rw [he,Option.map_some,Option.map_some,ht]

/-- A member is settled once its instant has rank one, if its instant is its own. -/
theorem latestSettled_eq_of_hasRank {s : MonitorSample V} (hd : (samples.map (·.time)).Nodup)
    (hm : s ∈ samples) (h : HasRank 1 s.time samples) : latestSettled samples = some s := by
  obtain ⟨s',hs',he,ht⟩ := exists_latestSettled_of_hasRank h
  rw [he,List.inj_on_of_nodup_map hd hs' hm ht]

theorem latestSettled_perm (hd : (samples.map (·.time)).Nodup) (hp : batch.Perm samples) :
    latestSettled batch = latestSettled samples := by
  cases hs : latestSettled samples with
  | none => rwa [latestSettled_eq_none_iff,hp.length_eq,← latestSettled_eq_none_iff]
  | some s =>
    have hd' : (batch.map (·.time)).Nodup := (hp.map _).nodup_iff.mpr hd
    have hm := hp.mem_iff.mpr (mem_of_latestSettled hs)
    exact latestSettled_eq_of_hasRank hd' hm ((hasRank_of_latestSettled hs).perm hp)

theorem countLater_latestSettled {s : MonitorSample V} (hd : (samples.map (·.time)).Nodup)
    (h : latestSettled samples = some s) : countLater s.time samples = 1 := by
  have ⟨hle,hlt⟩ := hasRank_of_latestSettled h
  have hone := length_samplesAt_le_one hd s.time
  omega

theorem latestSettled_of_length_lt {samples : List (MonitorSample V)} (h : samples.length < 2) :
    latestSettled samples = none := if_pos h

/-- The settled one of at least two samples of different instants is the one that exactly one other is
newer than. -/
theorem latestSettled_of_two_le {samples : List (MonitorSample V)} (h : 2 ≤ samples.length)
    (hd : (samples.map (·.time)).Nodup) :
    ∃ settled ∈ samples, latestSettled samples = some settled ∧
      samples.countP (fun s => decide (settled.time < s.time)) = 1 := by
  cases hs : latestSettled samples with
  | none => exact absurd (latestSettled_eq_none_iff.mp hs) (Nat.not_lt.mpr h)
  | some settled => exact ⟨settled,mem_of_latestSettled hs,rfl,countLater_latestSettled hd hs⟩

/-- With one more sample that is later than all others, the newest one so far is settled. -/
theorem latestSettled_of_later {newest later : MonitorSample V} (hd : (samples.map (·.time)).Nodup)
    (hm : newest ∈ samples) (hn : ∀ s ∈ samples, s.time ≤ newest.time) (hl : newest.time < later.time)
    (hp : batch.Perm (later :: samples)) : latestSettled batch = some newest := by
  have hnew : later.time ∉ samples.map (·.time) := by
    rw [List.mem_map]
    rintro ⟨s,hs,ht⟩
    exact Instant.lt_irrefl _ (Instant.lt_of_le_of_lt (ht ▸ hn s hs) hl)
  have hd' : ((later :: samples).map (·.time)).Nodup := List.nodup_cons.mpr ⟨hnew,hd⟩
  rw [latestSettled_perm hd' hp]
  exact latestSettled_eq_of_hasRank hd' (List.mem_cons_of_mem _ hm) ((hasRank_zero hm hn).cons hl)

/-- The settled sample is the one whose instant is the second latest, each sample counted, and the input order
chooses among the samples of that instant. Where all instants differ, the order of the batch has no part in
it, one sample is later, and once a later one comes the newest so far is settled. -/
theorem settled_is_second_latest (samples : List (MonitorSample V)) :
    (latestSettled samples = none ↔ samples.length < 2) ∧
    (∀ s, latestSettled samples = some s →
      s ∈ samples ∧ HasRank 1 s.time samples ∧ (∀ t, HasRank 1 t samples → t = s.time) ∧
        (samplesAt s.time samples)[1-countLater s.time samples]? = some s) ∧
    (∀ newest ∈ samples, (∀ s ∈ samples, s.time ≤ newest.time) →
      1 < (samplesAt newest.time samples).length →
        latestSettled samples = (samplesAt newest.time samples)[1]?) ∧
    (∀ batch, batch.Perm samples →
      (latestSettled batch).map (·.time) = (latestSettled samples).map (·.time)) ∧
    ((samples.map (·.time)).Nodup →
      (∀ batch, batch.Perm samples → latestSettled batch = latestSettled samples) ∧
      (∀ s, latestSettled samples = some s → countLater s.time samples = 1) ∧
      ∀ newest ∈ samples, (∀ s ∈ samples, s.time ≤ newest.time) →
        ∀ later : MonitorSample V, newest.time < later.time →
          ∀ batch, batch.Perm (later :: samples) → latestSettled batch = some newest) := by
  refine ⟨latestSettled_eq_none_iff,?_,?_,fun _ => latestSettled_time_perm,fun hd => ⟨?_,?_,?_⟩⟩
  · intro s hs
    have hr := hasRank_of_latestSettled hs
    refine ⟨mem_of_latestSettled hs,hr,fun t ht => ht.unique hr,?_⟩
    rw [← latestSettled_of_hasRank hr,hs]
  · intro newest hm hn hshared
    have hzero := hasRank_zero hm hn
    have hnone : countLater newest.time samples = 0 := Nat.le_zero.mp hzero.1
    have hone : HasRank 1 newest.time samples := ⟨by omega,by omega⟩
    rw [latestSettled_of_hasRank hone,hnone]
  · intro batch hp
    exact latestSettled_perm hd hp
  · intro s hs
    exact countLater_latestSettled hd hs
  · intro newest hm hn later hl batch hp
    exact latestSettled_of_later hd hm hn hl hp

/-- Of two samples that share the newest instant the second one is settled. Where a later sample has come
among others of different instants, the newest of those is settled. -/
theorem settled_is_second_latest_of_ties :
    latestSettled [⟨⟨60,0⟩,"first"⟩,⟨⟨0,0⟩,"old"⟩,⟨⟨60,0⟩,"second"⟩] = some ⟨⟨60,0⟩,"second"⟩ ∧
    ([⟨⟨60,0⟩,"old"⟩,⟨⟨60,5⟩,"newest"⟩] : List (MonitorSample String)).Pairwise (·.time ≠ ·.time) ∧
    latestSettled [⟨⟨60,0⟩,"old"⟩,⟨⟨61,0⟩,"later"⟩,⟨⟨60,5⟩,"newest"⟩] = some ⟨⟨60,5⟩,"newest"⟩ := by
  have hp : ([⟨⟨60,0⟩,"old"⟩,⟨⟨60,5⟩,"newest"⟩] : List (MonitorSample String)).Pairwise
      (·.time ≠ ·.time) := by simp
  obtain ⟨-,-,hties,-,-⟩ :=
    settled_is_second_latest [⟨⟨60,0⟩,"first"⟩,⟨⟨0,0⟩,"old"⟩,⟨⟨60,0⟩,"second"⟩]
  obtain ⟨-,-,-,-,hdistinct⟩ := settled_is_second_latest [⟨⟨60,0⟩,"old"⟩,⟨⟨60,5⟩,"newest"⟩]
  obtain ⟨-,-,hlater⟩ := hdistinct (List.pairwise_map.mpr hp)
  refine ⟨?_,hp,?_⟩
  · exact hties ⟨⟨60,0⟩,"first"⟩ (by simp) (by decide) (by decide)
  · exact hlater ⟨⟨60,5⟩,"newest"⟩ (by simp) (by decide) ⟨⟨61,0⟩,"later"⟩ (by decide) _ (.swap _ _ _)

end CloudMetrics.Collect
