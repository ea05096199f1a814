import CloudMetrics.Cloud.Call
import CloudMetrics.Proofs.WrittenInstants
import CloudMetrics.Proofs.WrittenJson

/-!
# Queries of calls

The query of a call is an object with its keys in the order of their bytes. What its text is read as asks again
for what the call is about: all resources that a filter lets through, or the values between two instants.
-/
namespace CloudMetrics

namespace Json

open Text

/-- Values with the keys of each object in the order of their bytes. -/
inductive IsSorted : Json → Prop where
  | null : IsSorted null
  | bool (b : Bool) : IsSorted (bool b)
  | int (n : ℤ) : IsSorted (int n)
  | string (s : String) : IsSorted (string s)
  | array {items : List Json} : (∀ v ∈ items, IsSorted v) → IsSorted (array items)
  | object {members : List (String × Json)} :
      (members.map fun e => Utf8.encode e.1).Pairwise (· < ·) → (∀ e ∈ members, IsSorted e.2) →
      IsSorted (object members)

/-- Whether a value asks for all resources that a filter lets through. -/
structure Lists (filter : List (String × Json)) (v : Json) : Prop where
  count : v.field? "Count" = some (.int 10000)
  start : v.field? "From" = some (.int 0)
  filter : v.field? "Filter" = if filter.isEmpty then none else some (.object filter)

/-- Whether a value names the two instants of a window. -/
def Spans (w : Time.Window) (v : Json) : Prop :=
  ∃ start stop, v.field? "Start" = some (.string start) ∧ v.field? "End" = some (.string stop) ∧
    Time.Instant.ofLenient? start = some w.start ∧ Time.Instant.ofLenient? stop = some w.stop

end Json

namespace Cloud

open Json Time

/-- What is read of a query. -/
def Call.IsAskedBy (q : Json) : Call → Prop
  | .servers _ | .internets _ => q.Lists []
  | .databases _ => q.Lists [("Class",.string "database")]
  | .loadBalancers _ => q.Lists [("Class",.string "loadbalancer")]
  | .vpcRouters _ => q.Lists [("Class",.string "vpcrouter")]
  | .nfsAppliances _ => q.Lists [("Class",.string "nfs")]
  | .autoBackups _ => q.Lists [("Provider.Class",.string "autobackup")]
  | .proxyLbs _ => q.Lists [("Provider.Class",.string "proxylb")]
  | .archives _ id => q.Lists [("Tags.Name",.array [.string ("autobackup-" ++ id)])]
  | .serverCpu _ _ w | .interfaceTraffic _ _ w | .diskActivity _ _ w | .applianceCpu _ _ w
  | .applianceTraffic _ _ _ w | .databaseDisk _ _ w | .databaseUsage _ _ w | .nfsFreeDisk _ _ w
  | .internetTraffic _ _ w | .proxyLbConnections _ _ w => q.Spans w
  | .loadBalancerStatus .. | .vpcRouterStatus .. | .proxyLbHealth .. | .authStatus | .bills _ | .coupons _ => False

/-- The window that a call is about. -/
def Call.window? : Call → Option Window
  | .serverCpu _ _ w | .interfaceTraffic _ _ w | .diskActivity _ _ w | .applianceCpu _ _ w
  | .applianceTraffic _ _ _ w | .databaseDisk _ _ w | .databaseUsage _ _ w | .nfsFreeDisk _ _ w
  | .internetTraffic _ _ w | .proxyLbConnections _ _ w => some w
  | _ => none

/-- The filters that listings have: one member at most, and a text or a list of one text in it. -/
inductive IsFilter : List (String × Json) → Prop where
  | all : IsFilter []
  | text (key s : String) : IsFilter [(key,.string s)]
  | list (key s : String) : IsFilter [(key,.array [.string s])]

variable {filter : List (String × Json)} {w : Window} {q : Json} {c : Call}

/-- What the query of a call is, and what it is asked by. -/
theorem query_cases (h : q ∈ c.query?) :
    (∃ filter, IsFilter filter ∧ q = Call.listQuery filter ∧ (q.Lists filter → c.IsAskedBy q)) ∨
      ∃ w ∈ c.window?, q = Call.windowQuery w ∧ (q.Spans w → c.IsAskedBy q) := by
  cases c <;> cases h
  all_goals first
    | exact .inl ⟨_,.all,rfl,id⟩
    | exact .inl ⟨_,.text _ _,rfl,id⟩
    | exact .inl ⟨_,.list _ _,rfl,id⟩
    | exact .inr ⟨_,rfl,rfl,id⟩

theorem IsFilter.writable (h : IsFilter filter) : Writable 126 (.object filter) := by
  cases h with
  | all => exact .object (List.forall_mem_nil _) List.nodup_nil
  | text key s => exact .object (List.forall_mem_singleton.mpr (.string s)) (List.pairwise_singleton _ _)
  | list key s =>
    have hlist : Writable 125 (.array [.string s]) := .array (List.forall_mem_singleton.mpr (.string s))
    exact .object (List.forall_mem_singleton.mpr hlist) (List.pairwise_singleton _ _)

theorem IsFilter.isSorted (h : IsFilter filter) : IsSorted (.object filter) := by
  cases h with
  | all => exact .object .nil (List.forall_mem_nil _)
  | text key s => exact .object (List.pairwise_singleton _ _) (List.forall_mem_singleton.mpr (.string s))
  | list key s =>
    have hlist : IsSorted (.array [.string s]) := .array (List.forall_mem_singleton.mpr (.string s))
    exact .object (List.pairwise_singleton _ _) (List.forall_mem_singleton.mpr hlist)

theorem lists_listQuery (filter : List (String × Json)) : (Call.listQuery filter).Lists filter := by
  rw [Call.listQuery]
  cases filter with
  | nil => exact ⟨rfl,rfl,rfl⟩
  | cons e filter => exact ⟨rfl,rfl,rfl⟩

theorem writable_listQuery (h : IsFilter filter) : Writable 127 (Call.listQuery filter) := by
  have hcount : Writable 126 (.int Call.listCount) := .int _ (by decide) (by decide)
  have hzero : Writable 126 (.int 0) := .int _ (by decide) (by decide)
  have hfilter := h.writable
  rw [Call.listQuery]
  cases filter with
  | nil => exact .object (by simp [hcount,hzero]) (by decide)
  | cons e filter => exact .object (by simp [hcount,hzero,hfilter]) (by simp)

theorem isSorted_listQuery (h : IsFilter filter) : (Call.listQuery filter).IsSorted := by
  have hcount : IsSorted (.int Call.listCount) := .int _
  have hzero : IsSorted (.int 0) := .int _
  have hfilter := h.isSorted
  rw [Call.listQuery]
  cases filter with
  | nil => exact .object (by decide) (by simp [hcount,hzero])
  | cons e filter =>
    have hkeys : (["Count","Filter","From"].map Text.Utf8.encode).Pairwise (· < ·) := by decide
    exact .object hkeys (by simp [hcount,hzero,hfilter])

theorem writable_windowQuery (w : Window) : Writable 127 (Call.windowQuery w) := by
  rw [Call.windowQuery]
  exact .object (by simp [Writable.string]) (by simp)

theorem isSorted_windowQuery (w : Window) : (Call.windowQuery w).IsSorted := by
  have hkeys : (["End","Start"].map Text.Utf8.encode).Pairwise (· < ·) := by decide
  exact .object hkeys (by simp [IsSorted.string])

theorem spans_windowQuery (hstart : w.start.IsTime) (hstop : w.stop.IsTime) : (Call.windowQuery w).Spans w :=
  ⟨w.start.write,w.stop.write,rfl,rfl,Instant.ofLenient?_write hstart,Instant.ofLenient?_write hstop⟩

/-- A query has its keys in order, and it is read from its text as what it was built from. -/
theorem query_spec (h : q ∈ c.query?) (hw : ∀ w ∈ c.window?, w.start.IsTime ∧ w.stop.IsTime) :
    q.IsSorted ∧ Json.read .whole (Text.Utf8.encodeList q.writeList) = .ok q ∧ c.IsAskedBy q := by
  rcases query_cases h with ⟨filter,hfilter,rfl,hasked⟩ | ⟨w,hmem,rfl,hasked⟩
  · exact ⟨isSorted_listQuery hfilter,read_writeList (writable_listQuery hfilter),hasked (lists_listQuery filter)⟩
  · obtain ⟨hstart,hstop⟩ := hw w hmem
    exact ⟨isSorted_windowQuery w,read_writeList (writable_windowQuery w),hasked (spans_windowQuery hstart hstop)⟩

/-- Queries about windows with one text are about one window. -/
theorem windowQuery_inj {w w' : Window} (hw : w.start.IsTime ∧ w.stop.IsTime)
    (hw' : w'.start.IsTime ∧ w'.stop.IsTime)
    (h : Text.Utf8.encodeList (Call.windowQuery w).writeList =
      Text.Utf8.encodeList (Call.windowQuery w').writeList) : w = w' := by
  have hread := read_writeList (writable_windowQuery w)
  rw [h,read_writeList (writable_windowQuery w')] at hread
  have hquery := Except.ok.inj hread
  have htexts : w'.stop.write = w.stop.write ∧ w'.start.write = w.start.write := by
    simpa [Call.windowQuery] using hquery
  have hstart := Instant.ofLenient?_write hw.1
  have hstop := Instant.ofLenient?_write hw.2
  rw [← htexts.2,Instant.ofLenient?_write hw'.1] at hstart
  rw [← htexts.1,Instant.ofLenient?_write hw'.2] at hstop
  exact (congr (congrArg Window.mk (Option.some.inj hstart)) (Option.some.inj hstop)).symm

end Cloud

end CloudMetrics
