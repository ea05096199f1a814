import CloudMetrics.Proofs.LineReading
import CloudMetrics.Proofs.Pages
import CloudMetrics.Text.Utf8

/-!
# Reading written pages

A page of families with different names reads as one group for each of them. So a page of samples gives
back every sample under its name, in order, with the texts of its labels as they were.
-/
namespace CloudMetrics.Metrics

open TextFormat Text Time

namespace TextFormat

theorem lines?_line {row rest : List Char} (h : '\n' ∉ row) :
    lines? (row ++ '\n' :: rest) = (lines? rest).map (row :: ·) := by
  induction row with
  | nil => rfl
  | cons c row ih =>
    rw [List.mem_cons,not_or] at h
    rw [List.cons_append,lines?,if_neg (Ne.symm h.1),ih h.2]
    cases lines? rest with
    | none => rfl
    | some rows => rfl

theorem lines?_rows {rows : List (List Char)} (h : ∀ row ∈ rows, '\n' ∉ row) :
    lines? (rows.flatMap (· ++ ['\n'])) = some rows := by
  induction rows with
  | nil => rfl
  | cons row rows ih =>
    rw [List.forall_mem_cons] at h
    rw [List.flatMap_cons,List.append_assoc,List.singleton_append,lines?_line h.1,ih h.2]
    rfl

def groupOf (f : Family) : Group :=
  ⟨f.name,if f.help = "" then none else some f.help,some f.kind.text,f.lines.map readingOf⟩

section
variable {gs : List Group} {g : Group} {e : Entry} {f : Family}

theorem addEntry_new (h : ∀ g ∈ gs, g.name ≠ e.name) :
    addEntry gs e = (Group.add? { name := e.name } e).map (· :: gs) := by
  cases gs with
  | nil => rfl
  | cons g gs =>
    rw [List.forall_mem_cons] at h
    have hany : (gs.any fun g => g.name == e.name) = false := by simpa using h.2
    simp [addEntry,h.1,hany]

theorem addEntry_same (h : g.name = e.name) : addEntry (g :: gs) e = (g.add? e).map (· :: gs) := if_pos h

theorem foldlM_samples (g : Group) (gs : List Group) (rs : List Reading) :
    (rs.map (Entry.sample g.name)).foldlM addEntry (g :: gs) =
      some ({ g with readings := g.readings ++ rs } :: gs) := by
  induction rs generalizing g with
  | nil => simp
  | cons r rs ih =>
    rw [List.map_cons,List.foldlM_cons,addEntry_same rfl]
    have hrest := ih { g with readings := g.readings ++ [r] }
    simpa [Group.add?] using hrest

/-- The entries of a family make one group, after groups of other names. -/
theorem foldlM_entries (f : Family) (h : ∀ g ∈ gs, g.name ≠ f.name) :
    (entries f).foldlM addEntry gs = some (groupOf f :: gs) := by
  have hsamples : ∀ help, (f.lines.map fun l => Entry.sample f.name (readingOf l)).foldlM addEntry
      (⟨f.name,help,some f.kind.text,[]⟩ :: gs) =
        some (⟨f.name,help,some f.kind.text,f.lines.map readingOf⟩ :: gs) := by
    intro help
    have h := foldlM_samples ⟨f.name,help,some f.kind.text,[]⟩ gs (f.lines.map readingOf)
    rwa [List.map_map,List.nil_append] at h
  rw [entries,groupOf]
  split
  · have hkind : addEntry gs (.type f.name f.kind.text) =
        some (⟨f.name,none,some f.kind.text,[]⟩ :: gs) := addEntry_new h
    rw [List.nil_append,List.foldlM_cons,hkind]
    exact hsamples none
  · have hhelp : addEntry gs (.help f.name f.help) =
        some (⟨f.name,some f.help,none,[]⟩ :: gs) := addEntry_new h
    have hkind : addEntry (⟨f.name,some f.help,none,[]⟩ :: gs) (.type f.name f.kind.text) =
        some (⟨f.name,some f.help,some f.kind.text,[]⟩ :: gs) := addEntry_same rfl
    rw [List.singleton_append,List.foldlM_cons,hhelp,Option.bind_eq_bind,Option.bind_some,
      List.foldlM_cons,hkind]
    exact hsamples (some f.help)

theorem foldlM_families {fs : List Family} (hd : (fs.map Family.name).Nodup)
    (h : ∀ f ∈ fs, ∀ g ∈ gs, g.name ≠ f.name) :
    (fs.flatMap entries).foldlM addEntry gs = some ((fs.map groupOf).reverse ++ gs) := by
  induction fs generalizing gs with
  | nil => rfl
  | cons f fs ih =>
    rw [List.map_cons,List.nodup_cons] at hd
    rw [List.forall_mem_cons] at h
    have hrest : ∀ f' ∈ fs, ∀ g ∈ groupOf f :: gs, g.name ≠ f'.name := by
      intro f' hf' g hg
      rcases List.mem_cons.mp hg with rfl | hg
      · intro he
        have hm : f'.name ∈ fs.map Family.name := List.mem_map_of_mem hf'
        rw [← he] at hm
        exact hd.1 hm
      · exact h.2 f' hf' g hg
    rw [List.flatMap_cons,List.foldlM_append,foldlM_entries f h.1]
    simpa using ih hd.2 hrest

end

/-- Families with different names are read back in their order. -/
theorem readPage_families {fs : List Family} (h : ∀ f ∈ fs, Readable f) (hd : (fs.map Family.name).Nodup) :
    readPage (String.join (fs.map Family.text)) = some (fs.map groupOf) := by
  have htext : (String.join (fs.map Family.text)).toList = (fs.flatMap rows).flatMap (· ++ ['\n']) := by
    rw [String.toList_join,List.flatMap_map,List.flatMap_assoc]
    simp only [toList_familyText]
  have hlines : lines? (String.join (fs.map Family.text)).toList = some (fs.flatMap rows) := by
    rw [htext]
    apply lines?_rows
    intro row hrow
    obtain ⟨f,hf,hm⟩ := List.mem_flatMap.mp hrow
    exact not_newline_mem_rows (h f hf) row hm
  have hentries : (fs.flatMap rows).mapM readLine = some ((fs.flatMap entries).map some) := by
    clear hd htext hlines
    induction fs with
    | nil => rfl
    | cons f fs ih =>
      rw [List.forall_mem_cons] at h
      simp [mapM_readLine_rows h.1,ih h.2]
  have hgroups : (fs.flatMap entries).foldlM addEntry [] = some ((fs.map groupOf).reverse ++ []) :=
    foldlM_families hd fun _ _ _ hg => absurd hg List.not_mem_nil
  have hsome : ((fs.flatMap entries).map some).filterMap id = fs.flatMap entries := by
    simp [List.filterMap_map]
  rw [List.append_nil] at hgroups
  rw [readPage,hlines,Option.bind_eq_bind,Option.bind_some,hentries,Option.bind_eq_bind,Option.bind_some,
    hsome,hgroups]
  exact congrArg some (List.reverse_reverse _)

end TextFormat

/-- What a page shows of a sample: no time in the first millisecond after the epoch. -/
def Sample.reading (s : Sample) : Reading :=
  ⟨s.labels,Decimal.text s.value,(s.time.map fun t => t.total/1000000).filter (· ≠ 0)⟩

/-- The group of the samples of one name; the first of them gives the help. -/
def groupNamed (samples : List Sample) (name : String) : Group :=
  ⟨name,((named name samples).head?.map Sample.help).filter (· ≠ ""),some "gauge",
    (named name samples).map Sample.reading⟩

theorem millis_eq_total (t : Instant) : t.millis = t.total/1000000 := by
  simp only [Instant.millis,Instant.total,nanosPerSecond]
  omega

theorem readingOf_line (s : Sample) : readingOf s.line = s.reading := by
  rw [readingOf,Sample.reading,Sample.line]
  cases s.time with
  | none => rfl
  | some t =>
    simp only [Option.map_some,Option.getD_some,millis_eq_total]
    by_cases h : t.total/1000000 = 0
    · simp [h,Option.filter_some]
    · simp [h,Option.filter_some]

theorem groupOf_familyOf (samples : List Sample) (name : String) :
    groupOf (familyOf samples name) = groupNamed samples name := by
  have hreadings : (familyOf samples name).lines.map readingOf = (named name samples).map Sample.reading := by
    rw [familyOf,List.map_map]
    exact List.map_congr_left fun s _ => readingOf_line s
  rw [groupOf,groupNamed,hreadings,familyOf]
  cases (named name samples).head? with
  | none => rfl
  | some s =>
    by_cases h : s.help = ""
    · simp [h,Option.filter_some,FamilyType.text]
    · simp [h,Option.filter_some,FamilyType.text]

section
variable {samples : List Sample} {name : String}

theorem mem_of_mem_named {s : Sample} (h : s ∈ named name samples) : s ∈ samples ∧ s.name = name := by
  simpa [named] using h

theorem readable_familyOf (h : ∃ s ∈ samples, s.name = name) (hn : ∀ s ∈ samples, isName s.name.toList)
    (hl : ∀ s ∈ samples, ∀ l ∈ s.labels, isLabelName l.1.toList)
    (hh : ∀ s ∈ samples, trimBlanks s.help.toList = s.help.toList) : Readable (familyOf samples name) := by
  constructor
  case name =>
    obtain ⟨s,hs,rfl⟩ := h
    exact hn s hs
  case help =>
    have hhelp : (familyOf samples name).help = ((named name samples).head?.map Sample.help).getD "" := rfl
    rw [hhelp]
    rcases hhead : (named name samples).head? with _ | s
    · rfl
    · exact hh s (mem_of_mem_named (List.mem_of_head? hhead)).1
  case labels =>
    intro l hm
    obtain ⟨s,hs,rfl⟩ := List.mem_map.mp hm
    exact hl s (mem_of_mem_named hs).1

end

theorem ascii_of_isAlphanum {c : Char} (h : c.isAlphanum) : c.toNat < 0x80 := by
  have hle : ∀ d : Char, c.val ≤ d.val → d.toNat < 0x80 → c.toNat < 0x80 :=
    fun d hcd hd => lt_of_le_of_lt (UInt32.le_iff_toNat_le.mp hcd) hd
  have hcases : (c.isUpper || c.isLower || c.isDigit) = true := h
  rw [Bool.or_eq_true,Bool.or_eq_true] at hcases
  rcases hcases with (hupper | hlower) | hdigit
  · exact hle 'Z' (of_decide_eq_true hupper).2 (by decide)
  · exact hle 'z' (of_decide_eq_true (Bool.and_eq_true_iff.mp hlower).2) (by decide)
  · have hrange := Char.isDigit_iff_toNat.mp hdigit
    exact lt_of_le_of_lt hrange.2 (by decide)

theorem ascii_of_isName {cs : List Char} (h : isName cs) : ∀ c ∈ cs, c.toNat < 0x80 := by
  intro c hc
  rcases mem_of_isName h hc with ha | rfl | rfl
  · exact ascii_of_isAlphanum ha
  · decide
  · decide

theorem encodeList_of_ascii {c : Char} {cs : List Char} (h : c.toNat < 0x80) :
    Utf8.encodeList (c :: cs) = UInt8.ofNat c.toNat :: Utf8.encodeList cs := by
  simp [Utf8.encodeList,Utf8.encodeChar,h]

/-- Bytes are in the order of characters that are one byte each. -/
theorem encodeList_lt {cs ds : List Char} (hc : ∀ c ∈ cs, c.toNat < 0x80) (hd : ∀ d ∈ ds, d.toNat < 0x80)
    (h : cs < ds) : Utf8.encodeList cs < Utf8.encodeList ds := by
  induction cs generalizing ds with
  | nil =>
    cases ds with
    | nil => exact absurd h (lt_irrefl _)
    | cons d ds =>
      rw [encodeList_of_ascii (hd d List.mem_cons_self)]
      exact List.nil_lt_cons _ _
  | cons c cs ih =>
    cases ds with
    | nil => exact absurd h (List.not_lt_nil _)
    | cons d ds =>
      rw [List.forall_mem_cons] at hc hd
      rw [encodeList_of_ascii hc.1,encodeList_of_ascii hd.1,List.cons_lt_cons_iff]
      rcases List.cons_lt_cons_iff.mp h with hlt | ⟨rfl,hlt⟩
      · left
        rw [UInt8.lt_iff_toNat_lt,UInt8.toNat_ofNat',UInt8.toNat_ofNat']
        have hnat : c.toNat < d.toNat := hlt
        have := hc.1
        have := hd.1
        omega
      · exact .inr ⟨rfl,ih hc.2 hd.2 hlt⟩

/-- Every sample is read back under its name, in order and as it was; its name stands with one help, that of
the first sample of this name, and with one type. The names are in the order of their bytes. -/
theorem page_reads_back (samples : List Sample) (hn : ∀ s ∈ samples, isName s.name.toList)
    (hl : ∀ s ∈ samples, ∀ l ∈ s.labels, isLabelName l.1.toList)
    (hh : ∀ s ∈ samples, trimBlanks s.help.toList = s.help.toList) :
    ∃ (text : String) (names : List String), expose samples [] = .ok text ∧
      (names.map Utf8.encode).Pairwise (· < ·) ∧
      (∀ name, name ∈ names ↔ ∃ s ∈ samples, s.name = name) ∧
      readPage text = some (names.map (groupNamed samples)) := by
  have hnames := mem_names_families samples
  have hsorted := sorted_families samples
  refine ⟨String.join ((families samples).map Family.text),(families samples).map Family.name,
    ?_,?_,hnames,?_⟩
  · have hne : ∀ s ∈ samples, s.name ≠ "" := by
      intro s hs he
      exact ne_nil_of_isName (hn s hs) (by rw [he]; rfl)
    have hpage := expose_of_named hne fun f hf => absurd hf List.not_mem_nil
    rwa [List.append_nil] at hpage
  · have hascii : ∀ name ∈ (families samples).map Family.name, ∀ c ∈ name.toList, c.toNat < 0x80 := by
      intro name hm
      obtain ⟨s,hs,rfl⟩ := (hnames name).mp hm
      exact ascii_of_isName (hn s hs)
    refine List.pairwise_map.mpr (hsorted.imp_of_mem fun ha hb hlt => ?_)
    exact encodeList_lt (hascii _ ha) (hascii _ hb) (String.lt_iff_toList_lt.mp hlt)
  · have hreadable : ∀ f ∈ families samples, Readable f := by
      intro f hf
      rw [eq_familyOf_of_mem hf]
      exact readable_familyOf ((hnames f.name).mp (List.mem_map_of_mem hf)) hn hl hh
    have hdistinct : ((families samples).map Family.name).Nodup := hsorted.imp fun h => h.ne
    rw [readPage_families hreadable hdistinct]
    nth_rewrite 1 [families_eq_map]
    rw [List.map_map]
    exact congrArg some (List.map_congr_left fun name _ => groupOf_familyOf samples name)

/-- Two names that alternate, label values full of marks, a negative time and one in the first millisecond. -/
def trickySamples : List Sample :=
  [⟨"b_total","a \\ and\na line",[("id","1"),("note","say \"\x7bhi\x7d\",\n\\")],1.5,some ⟨-1,999500000⟩⟩,
    ⟨"a","",[],0,some ⟨0,999999⟩⟩,⟨"b_total","another help",[("id","2")],-2,none⟩]

theorem page_reads_back_of_tricky_samples :
    (∀ s ∈ trickySamples, isName s.name.toList) ∧
    (∀ s ∈ trickySamples, ∀ l ∈ s.labels, isLabelName l.1.toList) ∧
    (∀ s ∈ trickySamples, trimBlanks s.help.toList = s.help.toList) ∧
    ∃ (text : String) (names : List String), expose trickySamples [] = .ok text ∧
      (names.map Utf8.encode).Pairwise (· < ·) ∧
      (∀ name, name ∈ names ↔ ∃ s ∈ trickySamples, s.name = name) ∧
      readPage text = some (names.map (groupNamed trickySamples)) := by
  have hn : ∀ s ∈ trickySamples, isName s.name.toList := by decide
  have hl : ∀ s ∈ trickySamples, ∀ l ∈ s.labels, isLabelName l.1.toList := by decide
  have hh : ∀ s ∈ trickySamples, trimBlanks s.help.toList = s.help.toList := by decide
  exact ⟨hn,hl,hh,page_reads_back trickySamples hn hl hh⟩

end CloudMetrics.Metrics
