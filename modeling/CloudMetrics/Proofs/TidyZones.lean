import CloudMetrics.Config.Settings
import Mathlib.Data.List.DropRight

/-!
# Zones without blanks around them

Trimming takes the blanks from both ends of a text and leaves a text that is trimmed, which is itself
when it is trimmed again. So zones that have been tidied stay as they are, and two of them are equal
just when they came from texts that differ in the blanks around them at most.
-/
namespace CloudMetrics

namespace Text

/-- No blank stands at either end. -/
def IsTrimmed (s : String) : Prop :=
  (∀ c ∈ s.toList.head?, isBlank c = false) ∧ ∀ c ∈ s.toList.getLast?, isBlank c = false

instance (s : String) : Decidable (IsTrimmed s) :=
  @instDecidableAnd _ _ (Option.decidableForallMem _) (Option.decidableForallMem _)

theorem toList_trim (s : String) : (trim s).toList = (s.toList.dropWhile isBlank).rdropWhile isBlank := by
  rw [trim,String.toList_ofList,trimList,List.rdropWhile]

theorem isTrimmed_trim (s : String) : IsTrimmed (trim s) := by
  rw [IsTrimmed,toList_trim]
  constructor
  · intro c hc
    have hhead := List.head?_dropWhile_not isBlank s.toList
    obtain ⟨rest,hrest⟩ := List.rdropWhile_prefix isBlank (l := s.toList.dropWhile isBlank)
    rw [← hrest,List.head?_append,Option.mem_def.mp hc] at hhead
    simpa using hhead
  · intro c hc
    have hne : (s.toList.dropWhile isBlank).rdropWhile isBlank ≠ [] := by
      rintro hnil
      rw [hnil] at hc
      cases hc
    have hlast := List.rdropWhile_last_not isBlank (s.toList.dropWhile isBlank) hne
    rw [List.getLast?_eq_getLast_of_ne_nil hne,Option.mem_some_iff] at hc
    simpa [hc] using hlast

theorem trim_of_isTrimmed {s : String} (h : IsTrimmed s) : trim s = s := by
  apply String.toList_inj.mp
  rw [toList_trim]
  cases hs : s.toList with
  | nil => rfl
  | cons c cs =>
    have hhead : isBlank c = false := h.1 c (by rw [hs]; rfl)
    have hdrop : (c :: cs).dropWhile isBlank = c :: cs := List.dropWhile_cons_of_neg (by simp [hhead])
    rw [hdrop,List.rdropWhile_eq_self_iff]
    intro hne hblank
    have hlast := h.2 ((c :: cs).getLast hne) (by rw [hs,List.getLast?_eq_getLast_of_ne_nil hne]; rfl)
    exact Bool.false_ne_true (hlast.symm.trans hblank)

end Text

namespace Config.Settings

open Text

variable {zones : List String} {z : String}

theorem mem_tidyZones : z ∈ tidyZones zones ↔ (∃ given ∈ zones, trim given = z) ∧ z ≠ "" := by
  simp [tidyZones]

theorem isTrimmed_of_mem_tidyZones (h : z ∈ tidyZones zones) : IsTrimmed z := by
  obtain ⟨⟨given,-,rfl⟩,-⟩ := mem_tidyZones.mp h
  exact isTrimmed_trim given

theorem tidyZones_tidyZones (zones : List String) : tidyZones (tidyZones zones) = tidyZones zones := by
  have htrim : (tidyZones zones).map trim = (tidyZones zones).map id :=
    List.map_congr_left fun z hz => trim_of_isTrimmed (isTrimmed_of_mem_tidyZones hz)
  rw [tidyZones,htrim,List.map_id,List.filter_eq_self]
  intro z hz
  exact decide_eq_true (mem_tidyZones.mp hz).2

/-- Tidied zones are distinct unless two of the given ones are the same zone with other blanks around. -/
theorem nodup_tidyZones_iff :
    (tidyZones zones).Nodup ↔ zones.Pairwise fun a b => trim a = trim b → trim a = "" := by
  rw [tidyZones,List.Nodup,List.pairwise_filter,List.pairwise_map]
  refine List.Pairwise.iff fun a b => ?_
  simp only [decide_eq_true_eq]
  constructor
  · intro h he
    by_contra ha
    exact h ha (he ▸ ha) he
  · intro h ha _ he
    exact ha (h he)

end Config.Settings

end CloudMetrics
