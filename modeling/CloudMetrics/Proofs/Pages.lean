import CloudMetrics.Proofs.Families

/-!
# Pages

A page is written unless a family has no name, and families are named for their samples. A page that is
written shows every line of every family.
-/
namespace CloudMetrics.Metrics

theorem expose_of_named {samples : List Sample} {further : List Family}
    (hs : ∀ s ∈ samples, s.name ≠ "") (hf : ∀ f ∈ further, f.name ≠ "") :
    expose samples further = .ok (String.join ((families samples ++ further).map Family.text)) := by
  have hn : ((families samples ++ further).any fun f => f.name == "") = false := by
    rw [List.any_eq_false]
    intro f hm he
    rcases List.mem_append.mp hm with hm | hm
    · obtain ⟨s,hms,hname⟩ := (mem_names_families samples f.name).mp (List.mem_map_of_mem hm)
      exact hs s hms (hname.trans (beq_iff_eq.mp he))
    · exact hf f hm (beq_iff_eq.mp he)
  rw [expose,writeFamilies,hn,if_neg Bool.false_ne_true]

/-- A text has a line, and it is not the first one. -/
def HasLine (text line : String) : Prop := ∃ pre post, text = pre ++ "\n" ++ line ++ "\n" ++ post

theorem HasLine.append {text line : String} (h : HasLine text line) (a b : String) :
    HasLine (a ++ text ++ b) line := by
  obtain ⟨pre,post,rfl⟩ := h
  refine ⟨a ++ pre,post ++ b,?_⟩
  simp only [String.append_assoc]

theorem HasLine.join {texts : List String} {text line : String} (hm : text ∈ texts)
    (h : HasLine text line) : HasLine (String.join texts) line := by
  obtain ⟨before,after,rfl⟩ := List.append_of_mem hm
  rw [String.join_append,String.join_cons,← String.append_assoc]
  exact h.append _ _

/-- What stands before a line of a family ends with a line feed. -/
theorem exists_end_of_lines (name : String) (lines : List Line) :
    ∃ pre, "\n" ++ String.join (lines.map (Line.text name)) = pre ++ "\n" := by
  rcases List.eq_nil_or_concat lines with rfl | ⟨before,l,rfl⟩
  · exact ⟨"",rfl⟩
  · rw [List.concat_eq_append,List.map_append,String.join_append,List.map_singleton,String.join_cons,
      String.join_nil,String.append_empty,Line.text,← String.append_assoc,← String.append_assoc]
    exact ⟨_,rfl⟩

theorem Family.hasLine {f : Family} {l : Line} {line : String} (hl : l ∈ f.lines)
    (ht : l.text f.name = line ++ "\n") : HasLine f.text line := by
  obtain ⟨before,after,hf⟩ := List.append_of_mem hl
  obtain ⟨pre,hpre⟩ := exists_end_of_lines f.name before
  have hj : "\n" ++ String.join (f.lines.map (Line.text f.name)) =
      pre ++ "\n" ++ line ++ "\n" ++ String.join (after.map (Line.text f.name)) := by
    rw [hf,List.map_append,String.join_append,← String.append_assoc,hpre,List.map_cons,
      String.join_cons,ht]
    simp only [String.append_assoc]
  have hlines : HasLine ("\n" ++ String.join (f.lines.map (Line.text f.name))) line := ⟨pre,_,hj⟩
  have h := hlines.append ((if f.help = "" then ""
    else "# HELP " ++ f.name ++ " " ++ escapeWith escapeHelp f.help ++ "\n")
      ++ "# TYPE " ++ f.name ++ " " ++ f.kind.text) ""
  rw [String.append_empty] at h
  rw [Family.text]
  simpa only [String.append_assoc] using h

end CloudMetrics.Metrics
