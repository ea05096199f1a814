import CloudMetrics.Metrics.Exposition
import Mathlib.Data.List.Induction
import Mathlib.Data.String.Basic

/-!
# Samples in families

Samples are added to their families one by one, and the families stay in ascending order of their names.
So there is one family for each name of a sample; it has the help of the first sample of this name, and a
line for each of them in the order of the samples.
-/
namespace CloudMetrics.Metrics

open Time

/-- The samples of one name. -/
def named (name : String) (samples : List Sample) : List Sample := samples.filter fun s => s.name = name

/-- The family of the samples of one name. -/
def familyOf (samples : List Sample) (name : String) : Family :=
  ⟨name,((named name samples).head?.map Sample.help).getD "",.gauge,(named name samples).map Sample.line⟩

section
variable {samples : List Sample} {s : Sample} {f : Family} {fs : List Family} {name : String}

theorem named_concat_of_ne (h : s.name ≠ name) : named name (samples ++ [s]) = named name samples := by
  simp [named,h]

theorem named_concat_self : named s.name (samples ++ [s]) = named s.name samples ++ [s] := by
  simp [named]

theorem named_eq_nil_iff : named name samples = [] ↔ ∀ s ∈ samples, s.name ≠ name := by
  simp [named]

theorem familyOf_concat_of_ne (h : s.name ≠ name) :
    familyOf (samples ++ [s]) name = familyOf samples name := by
  simp only [familyOf,named_concat_of_ne h]

theorem familyOf_concat_of_nil (h : named s.name samples = []) :
    familyOf (samples ++ [s]) s.name = ⟨s.name,s.help,.gauge,[s.line]⟩ := by
  simp [familyOf,named_concat_self,h]

theorem familyOf_concat_of_ne_nil (h : named s.name samples ≠ []) :
    familyOf (samples ++ [s]) s.name =
      { familyOf samples s.name with lines := (familyOf samples s.name).lines ++ [s.line] } := by
  obtain ⟨t,ts,ht⟩ := List.exists_cons_of_ne_nil h
  simp [familyOf,named_concat_self,ht]

theorem mem_names_addSample : name ∈ (addSample s fs).map Family.name ↔
    name = s.name ∨ name ∈ fs.map Family.name := by
  induction fs with
  | nil => simp [addSample]
  | cons g fs ih =>
    rw [addSample]
    split
    · next hn => simp [hn]
    · split
      · simp
      · simp only [List.map_cons,List.mem_cons,ih]
        tauto

theorem sorted_addSample (h : (fs.map Family.name).Pairwise (· < ·)) :
    ((addSample s fs).map Family.name).Pairwise (· < ·) := by
  induction fs with
  | nil => simp [addSample]
  | cons g fs ih =>
    rw [List.map_cons,List.pairwise_cons] at h
    rw [addSample]
    split
    · exact List.pairwise_cons.mpr h
    · next hne =>
      split
      · next hlt =>
        refine List.pairwise_cons.mpr ⟨?_,List.pairwise_cons.mpr h⟩
        intro name hm
        rcases List.mem_cons.mp hm with rfl | hm
        · exact hlt
        · exact lt_trans hlt (h.1 name hm)
      · next hnlt =>
        refine List.pairwise_cons.mpr ⟨?_,ih h.2⟩
        intro name hm
        rcases mem_names_addSample.mp hm with rfl | hm
        · exact lt_of_le_of_ne (not_lt.mp hnlt) hne
        · exact h.1 name hm

/-- A family is one of the others, or the one of the sample: extended, or new. -/
theorem mem_addSample (h : (fs.map Family.name).Pairwise (· < ·)) (hf : f ∈ addSample s fs) :
    (f ∈ fs ∧ f.name ≠ s.name) ∨
    (∃ g ∈ fs, g.name = s.name ∧ f = { g with lines := g.lines ++ [s.line] }) ∨
    (s.name ∉ fs.map Family.name ∧ f = ⟨s.name,s.help,.gauge,[s.line]⟩) := by
  induction fs with
  | nil => exact .inr (.inr ⟨List.not_mem_nil,List.mem_singleton.mp hf⟩)
  | cons g fs ih =>
    rw [List.map_cons,List.pairwise_cons] at h
    have habove : ∀ f' ∈ fs, g.name < f'.name := fun f' hf' => h.1 _ (List.mem_map_of_mem hf')
    rw [addSample] at hf
    split at hf
    · next hn =>
      rcases List.mem_cons.mp hf with rfl | hf
      · exact .inr (.inl ⟨g,List.mem_cons_self,hn,rfl⟩)
      · exact .inl ⟨List.mem_cons_of_mem _ hf,fun he => (habove f hf).ne (hn.trans he.symm)⟩
    · next hne =>
      split at hf
      · next hlt =>
        have hnot : ∀ f' ∈ g :: fs, f'.name ≠ s.name := by
          intro f' hf' he
          rcases List.mem_cons.mp hf' with rfl | hf'
          · exact hne he
          · exact lt_irrefl _ (he ▸ lt_trans hlt (habove f' hf'))
        rcases List.mem_cons.mp hf with rfl | hf
        · refine .inr (.inr ⟨fun hm => ?_,rfl⟩)
          obtain ⟨f',hf',he⟩ := List.mem_map.mp hm
          exact hnot f' hf' he
        · exact .inl ⟨hf,hnot f hf⟩
      · rcases List.mem_cons.mp hf with rfl | hf
        · exact .inl ⟨List.mem_cons_self,hne⟩
        · rcases ih h.2 hf with ⟨hm,hn⟩ | ⟨g',hg',hn,he⟩ | ⟨hnot,he⟩
          · exact .inl ⟨List.mem_cons_of_mem _ hm,hn⟩
          · exact .inr (.inl ⟨g',List.mem_cons_of_mem _ hg',hn,he⟩)
          · refine .inr (.inr ⟨fun hm => ?_,he⟩)
            rcases List.mem_cons.mp hm with hm | hm
            · exact hne hm.symm
            · exact hnot hm

end

theorem families_concat (samples : List Sample) (s : Sample) :
    families (samples ++ [s]) = addSample s (families samples) := by
  rw [families,List.foldl_append]
  rfl

theorem mem_names_families (samples : List Sample) (name : String) :
    name ∈ (families samples).map Family.name ↔ ∃ s ∈ samples, s.name = name := by
  induction samples using List.reverseRecOn with
  | nil => simp [families]
  | append_singleton samples s ih =>
    rw [families_concat,mem_names_addSample,ih]
    simp only [List.mem_append,List.mem_singleton,or_and_right,exists_or,exists_eq_left]
    rw [or_comm,eq_comm]

theorem sorted_families (samples : List Sample) :
    ((families samples).map Family.name).Pairwise (· < ·) := by
  induction samples using List.reverseRecOn with
  | nil => exact .nil
  | append_singleton samples s ih =>
    rw [families_concat]
    exact sorted_addSample ih

theorem eq_familyOf_of_mem {samples : List Sample} {f : Family} (h : f ∈ families samples) :
    f = familyOf samples f.name := by
  induction samples using List.reverseRecOn generalizing f with
  | nil => exact absurd h List.not_mem_nil
  | append_singleton samples s ih =>
    rw [families_concat] at h
    rcases mem_addSample (sorted_families samples) h with ⟨hf,hn⟩ | ⟨g,hg,hn,rfl⟩ | ⟨hnot,rfl⟩
    · rw [familyOf_concat_of_ne hn.symm]
      exact ih hf
    · have hsome : named s.name samples ≠ [] := by
        intro hnil
        obtain ⟨t,ht,hname⟩ := (mem_names_families samples s.name).mp (hn ▸ List.mem_map_of_mem hg)
        exact named_eq_nil_iff.mp hnil t ht hname
      have hgs := ih hg
      rw [hn] at hgs
      change _ = familyOf (samples ++ [s]) g.name
      rw [hn,familyOf_concat_of_ne_nil hsome,← hgs]
      exact congrArg (Family.mk · g.help g.kind (g.lines ++ [s.line])) hn.symm
    · have hnil : named s.name samples = [] := named_eq_nil_iff.mpr fun t ht hname =>
        hnot ((mem_names_families samples s.name).mpr ⟨t,ht,hname⟩)
      exact (familyOf_concat_of_nil hnil).symm

/-- The families of some samples, by the names of these. -/
theorem families_eq_map (samples : List Sample) :
    families samples = ((families samples).map Family.name).map (familyOf samples) := by
  rw [List.map_map]
  nth_rewrite 1 [← List.map_id (families samples)]
  exact List.map_congr_left fun f hf => eq_familyOf_of_mem hf

end CloudMetrics.Metrics
