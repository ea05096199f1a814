import CloudMetrics.Metrics.Sample
import CloudMetrics.Text.Scan
import Mathlib.Data.List.Infix

/-!
# Labels of tags

All tags of a resource stand in one label, in ascending order and each between two commas. The order makes
the label the same for every order of the tags. The commas make it readable: as long as no tag has a comma
of its own, the label has a tag between commas just when the resource has the tag, and no other tags give
the same label. An empty tag counts: it stands between two commas that follow each other.
-/
namespace CloudMetrics.Metrics

/-- No tag has a comma. -/
def CommaFree (tags : List String) : Prop := ∀ t ∈ tags, ',' ∉ t.toList

instance (tags : List String) : Decidable (CommaFree tags) :=
  List.decidableBAll (fun t : String => ',' ∉ t.toList) tags

/-- Words with a comma before each of them and one at the end. -/
def commaRow (words : List (List Char)) : List Char := words.flatMap (',' :: ·) ++ [',']

theorem commaRow_cons (w : List Char) (words : List (List Char)) :
    commaRow (w :: words) = ',' :: (w ++ commaRow words) := by
  simp [commaRow]

/-- After its first comma a row goes on with a word or ends. -/
theorem exists_commaRow_eq (words : List (List Char)) : ∃ rest, commaRow words = ',' :: rest := by
  cases words with
  | nil => exact ⟨[],rfl⟩
  | cons w words => exact ⟨_,commaRow_cons w words⟩

theorem intercalate_eq_commaRow (w : List Char) (words : List (List Char)) :
    [','] ++ [','].intercalate (w :: words) ++ [','] = commaRow (w :: words) := by
  induction words generalizing w with
  | nil => simp [commaRow]
  | cons v words ih =>
    rw [List.intercalate_cons_cons,commaRow_cons,← ih v]
    simp

/-- A row without commas in its words is read in one way. -/
theorem commaRow_inj {words others : List (List Char)} (hw : ∀ w ∈ words, ',' ∉ w)
    (ho : ∀ w ∈ others, ',' ∉ w) : commaRow words = commaRow others ↔ words = others := by
  induction words generalizing others with
  | nil =>
    cases others with
    | nil => simp
    | cons v others =>
      obtain ⟨rest,hrest⟩ := exists_commaRow_eq others
      have hne : commaRow [] ≠ commaRow (v :: others) := by
        rw [commaRow_cons,hrest]
        simp [commaRow]
      simp [hne]
  | cons w words ih =>
    cases others with
    | nil =>
      obtain ⟨rest,hrest⟩ := exists_commaRow_eq words
      have hne : commaRow (w :: words) ≠ commaRow [] := by
        rw [commaRow_cons,hrest]
        simp [commaRow]
      simp [hne]
    | cons v others =>
      obtain ⟨hw,hwords⟩ := List.forall_mem_cons.mp hw
      obtain ⟨hv,hothers⟩ := List.forall_mem_cons.mp ho
      obtain ⟨x,hx⟩ := exists_commaRow_eq words
      obtain ⟨y,hy⟩ := exists_commaRow_eq others
      have hrows : x = y ↔ words = others := by
        rw [← ih hwords hothers,hx,hy,List.cons_inj_right]
      rw [commaRow_cons,commaRow_cons,hx,hy,List.cons_inj_right,Text.append_mark_inj hw hv,hrows,List.cons.injEq]

/-- What starts with a comma starts behind a word without commas. -/
theorem infix_append_of_not_mem {w cs ds : List Char} (hw : ',' ∉ w) :
    ',' :: cs <:+: w ++ ds ↔ ',' :: cs <:+: ds := by
  induction w with
  | nil => rfl
  | cons c w ih =>
    have hc : ',' ≠ c := fun hc => hw (hc ▸ List.mem_cons_self)
    rw [List.cons_append,List.infix_cons_iff,List.cons_prefix_cons,ih fun h => hw (List.mem_cons_of_mem c h)]
    simp [hc]

/-- A row has a word between two commas just when it is one of its words. -/
theorem infix_commaRow {t : List Char} {words : List (List Char)} (ht : ',' ∉ t) (hw : ∀ w ∈ words, ',' ∉ w) :
    ',' :: (t ++ [',']) <:+: commaRow words ↔ t ∈ words := by
  induction words with
  | nil =>
    have hlong : ¬ (',' :: (t ++ [',']) <:+: commaRow []) := by
      intro h
      have hlength := h.length_le
      simp [commaRow] at hlength
    simp [hlong]
  | cons w words ih =>
    obtain ⟨hw,hwords⟩ := List.forall_mem_cons.mp hw
    obtain ⟨rest,hrest⟩ := exists_commaRow_eq words
    have hhead : t ++ [','] <+: w ++ commaRow words ↔ t = w := by
      rw [hrest]
      constructor
      · rintro ⟨x,hx⟩
        rw [List.append_assoc,List.singleton_append] at hx
        exact ((Text.append_mark_inj ht hw).mp hx).1
      · rintro rfl
        exact ⟨rest,by simp⟩
    rw [commaRow_cons,List.infix_cons_iff,List.cons_prefix_cons,hhead,infix_append_of_not_mem hw,ih hwords]
    simp

/-- The label of some tags is the row of the tags in another order. -/
theorem exists_toList_flattenTags {tags : List String} (h : tags ≠ []) :
    ∃ sorted : List String, sorted.Perm tags ∧ (flattenTags tags).toList = commaRow (sorted.map String.toList) := by
  have hp := List.mergeSort_perm tags fun a b => !decide (b < a)
  refine ⟨_,hp,?_⟩
  have hempty : ¬tags.isEmpty := by rwa [List.isEmpty_iff]
  rw [flattenTags,if_neg hempty,String.toList_append,String.toList_append,String.toList_intercalate]
  generalize hs : tags.mergeSort _ = sorted
  cases sorted with
  | nil =>
    rw [hs] at hp
    exact absurd hp.nil_eq.symm h
  | cons t sorted => exact intercalate_eq_commaRow t.toList _

theorem flattenTags_perm {tags others : List String} (h : tags.Perm others) :
    flattenTags tags = flattenTags others := by
  have hsorted (l : List String) : (l.mergeSort fun a b => !decide (b < a)).Pairwise fun a b => !decide (b < a) := by
    refine List.pairwise_mergeSort ?_ ?_ l
    · intro a b c hab hbc
      simp only [Bool.not_eq_true',decide_eq_false_iff_not,String.not_lt] at hab hbc ⊢
      exact String.le_trans hab hbc
    · intro a b
      simp only [Bool.or_eq_true,Bool.not_eq_true',decide_eq_false_iff_not,String.not_lt]
      exact String.le_total a b
  have hsort : tags.mergeSort (fun a b => !decide (b < a)) = others.mergeSort fun a b => !decide (b < a) := by
    refine List.Perm.eq_of_pairwise ?_ (hsorted tags) (hsorted others) ?_
    · intro a b _ _ hab hba
      simp only [Bool.not_eq_true',decide_eq_false_iff_not,String.not_lt] at hab hba
      exact String.le_antisymm hab hba
    · exact (List.mergeSort_perm _ _).trans (h.trans (List.mergeSort_perm _ _).symm)
  have hempty : tags.isEmpty = others.isEmpty := by
    rw [Bool.eq_iff_iff,List.isEmpty_iff,List.isEmpty_iff]
    exact ⟨fun he => (he ▸ h).nil_eq.symm,fun he => (he ▸ h).eq_nil⟩
  rw [flattenTags,flattenTags,hsort,hempty]

theorem flattenTags_eq_empty_iff (tags : List String) : flattenTags tags = "" ↔ tags = [] := by
  constructor
  · intro he
    by_contra h
    obtain ⟨sorted,-,hlist⟩ := exists_toList_flattenTags h
    rw [he] at hlist
    simp [commaRow] at hlist
  · rintro rfl
    rfl

theorem not_mem_of_commaFree {sorted tags : List String} (hp : sorted.Perm tags) (h : CommaFree tags) :
    ∀ w ∈ sorted.map String.toList, ',' ∉ w := by
  intro w hw
  obtain ⟨t,ht,rfl⟩ := List.mem_map.mp hw
  exact h t (hp.mem_iff.mp ht)

theorem perm_of_flattenTags_eq {tags others : List String} (ht : CommaFree tags) (ho : CommaFree others)
    (h : flattenTags tags = flattenTags others) : tags.Perm others := by
  by_cases hempty : tags = []
  · have hother : others = [] := by
      rwa [← flattenTags_eq_empty_iff,← h,flattenTags_eq_empty_iff]
    rw [hempty,hother]
  · have hother : others ≠ [] := by
      rwa [ne_eq,← flattenTags_eq_empty_iff,← h,flattenTags_eq_empty_iff]
    obtain ⟨sorted,hs,hlist⟩ := exists_toList_flattenTags hempty
    obtain ⟨sorted',hs',hlist'⟩ := exists_toList_flattenTags hother
    have hrow : commaRow (sorted.map String.toList) = commaRow (sorted'.map String.toList) := by
      rw [← hlist,← hlist',h]
    rw [commaRow_inj (not_mem_of_commaFree hs ht) (not_mem_of_commaFree hs' ho)] at hrow
    have heq : sorted = sorted' := List.map_injective_iff.mpr (fun _ _ => String.toList_inj.mp) hrow
    exact hs.symm.trans (heq ▸ hs')

theorem infix_flattenTags_iff {tags : List String} {t : String} (h : CommaFree tags) (ht : ',' ∉ t.toList) :
    ',' :: (t.toList ++ [',']) <:+: (flattenTags tags).toList ↔ t ∈ tags := by
  by_cases hempty : tags = []
  · subst hempty
    simp [flattenTags]
  · obtain ⟨sorted,hs,hlist⟩ := exists_toList_flattenTags hempty
    rw [hlist,infix_commaRow ht (not_mem_of_commaFree hs h),← hs.mem_iff,
      List.mem_map_of_injective fun _ _ => String.toList_inj.mp]

/-- The label depends on the tags alone and not on their order, and it is empty only without tags. Of tags
without commas it shows which tags they are and how often each comes, and to look in the label for a tag
between two commas selects those resources that have the tag. -/
theorem tag_labels_are_searchable :
    (∀ tags others : List String, tags.Perm others → flattenTags tags = flattenTags others) ∧
    (∀ tags : List String, flattenTags tags = "" ↔ tags = []) ∧
    (∀ tags others : List String, CommaFree tags → CommaFree others →
      (flattenTags tags = flattenTags others ↔ tags.Perm others)) ∧
    ∀ (tags : List String) (t : String), CommaFree tags → ',' ∉ t.toList →
      (("," ++ t ++ ",").toList <:+: (flattenTags tags).toList ↔ t ∈ tags) := by
  refine ⟨fun tags others => flattenTags_perm,flattenTags_eq_empty_iff,?_,?_⟩
  · intro tags others ht ho
    exact ⟨perm_of_flattenTags_eq ht ho,flattenTags_perm⟩
  · intro tags t h ht
    have htext : ("," ++ t ++ ",").toList = ',' :: (t.toList ++ [',']) := by simp
    rw [htext,infix_flattenTags_iff h ht]

theorem tag_labels_are_searchable_of_parts :
    flattenTags ["web","","we"] = flattenTags ["we","web",""] ∧
    (",we,".toList <:+: (flattenTags ["web","","we"]).toList ∧
      ",,".toList <:+: (flattenTags ["web","","we"]).toList) ∧
    ¬",we,".toList <:+: (flattenTags ["web",""]).toList := by
  obtain ⟨-,-,hperm,hsearch⟩ := tag_labels_are_searchable
  have hwe : ',' ∉ "we".toList := by decide
  refine ⟨(hperm _ _ (by decide) (by decide)).mpr (by decide),⟨?_,?_⟩,?_⟩
  · exact (hsearch ["web","","we"] "we" (by decide) hwe).mpr (by decide)
  · exact (hsearch ["web","","we"] "" (by decide) (by decide)).mpr (by decide)
  · exact mt (hsearch ["web",""] "we" (by decide) hwe).mp (by decide)

end CloudMetrics.Metrics
