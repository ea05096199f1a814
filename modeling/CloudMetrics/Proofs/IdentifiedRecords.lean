import CloudMetrics.Proofs.Plans
import CloudMetrics.Proofs.RequestTargets
import CloudMetrics.Proofs.TextMembers
import CloudMetrics.Proofs.TidyBatches

/-!
# Records with an id

The id of a record is what it is asked about by, and a label of each sample about it. A kind of records says
where its id is read from, and brings the two laws along. There are eight kinds of listed resources; interfaces,
disks, archives, bills and coupons have samples of their own besides.
-/
namespace CloudMetrics

/-- The id of what is asked about. The archives of a schedule are asked for by the id of the schedule. -/
def Cloud.Call.subject? : Call → Option String
  | .archives _ id => some id
  | c => c.id?

namespace Collect

open Cloud Json Metrics Time

/-- Records with an id that is the value of a label: how one is read, the member and the label with the id, and
the samples about it, whatever else they depend on. -/
structure LabelledRecord where
  Value : Type
  shape : Shape Value
  member : String
  id : Value → String
  label : String
  Rest : Type
  rows : Rest → Value → Batch
  id_read : ∀ {ms r v}, shape.read (.object ms) = some r → member? member ms = some v → readText v = some (id r)
  bears : ∀ rest r, ∀ x ∈ rows rest r, x.label? label = some (id r)

/-- A kind of listed resources with their ids, and the ids of the parts that are asked about besides. -/
structure ListedKind (s : Setting) where
  Value : Type
  shape : Shape Value
  id : Value → String
  parts : Value → List String
  cycle : Cycle s.context s.api Value
  id_read : ∀ {ms r v}, shape.read (.object ms) = some r → member? "ID" ms = some v → readText v = some (id r)
  plan_asks : ∀ z r, ∀ c ∈ cycle.plan ⟨z,r⟩, ∃ t ∈ id r :: parts r, c.subject? = some t
  batch_bears : ∀ z r, ∀ x ∈ (cycle.batch ⟨z,r⟩).value, x.label? "id" = some (id r)

theorem label?_id_of_tidy {gs : List Gauge} {id zone : String} {b : Batch} (h : Tidy gs (place id zone) b) :
    ∀ x ∈ b, x.label? "id" = some id :=
  fun x hx => h.labelled x hx ("id",id) List.mem_cons_self

variable (s : Setting)

def Servers.kind : ListedKind s where
  Value := Server
  shape := Server.shape
  id := (·.id)
  parts r := r.interfaces.map (·.id) ++ r.disks.map (·.id)
  cycle := Servers.cycle s.context s.api
  id_read := readText_of_member Server.texts (by simp [textRecords,resourceRecords]) List.mem_cons_self
  plan_asks z r c hc := by
    change c ∈ Servers.plan s.context.window ⟨z,r⟩ at hc
    unfold plan at hc
    split at hc
    · simp only [List.mem_append,List.mem_cons,List.mem_map] at hc
      obtain (rfl | ⟨nic,hnic,rfl⟩) | ⟨disk,hdisk,rfl⟩ := hc
      · exact ⟨_,List.mem_cons_self,rfl⟩
      · exact ⟨_,List.mem_cons_of_mem _ (List.mem_append_left _ (List.mem_map_of_mem hnic)),rfl⟩
      · exact ⟨_,List.mem_cons_of_mem _ (List.mem_append_right _ (List.mem_map_of_mem hdisk)),rfl⟩
    · cases hc
  batch_bears z r := label?_id_of_tidy (Servers.batch_tidy ⟨z,r⟩ s.context s.api)

def Databases.kind : ListedKind s where
  Value := Database
  shape := Database.shape
  id := (·.common.id)
  parts _ := []
  cycle := Databases.cycle s.context s.api
  id_read := readText_of_member (applianceTexts Database.common)
    (by simp [textRecords,applianceRecords]) List.mem_cons_self
  plan_asks z r c hc := by
    refine ⟨_,List.mem_cons_self,?_⟩
    change c ∈ Databases.plan s.context.window ⟨z,r⟩ at hc
    unfold plan at hc
    split at hc
    · simp only [List.mem_cons,List.not_mem_nil,or_false] at hc
      rcases hc with rfl | rfl | rfl | rfl <;> rfl
    · cases hc
  batch_bears z r := label?_id_of_tidy (Databases.batch_tidy ⟨z,r⟩ s.context s.api)

def FileServers.kind : ListedKind s where
  Value := Nfs
  shape := Nfs.shape
  id := (·.common.id)
  parts _ := []
  cycle := FileServers.cycle s.context s.api
  id_read := readText_of_member (applianceTexts Nfs.common)
    (by simp [textRecords,applianceRecords]) List.mem_cons_self
  plan_asks z r c hc := by
    refine ⟨_,List.mem_cons_self,?_⟩
    change c ∈ FileServers.plan s.context.window ⟨z,r⟩ at hc
    unfold plan at hc
    split at hc
    · simp only [List.mem_cons,List.not_mem_nil,or_false] at hc
      rcases hc with rfl | rfl <;> rfl
    · cases hc
  batch_bears z r := label?_id_of_tidy (FileServers.batch_tidy ⟨z,r⟩ s.context s.api)

def LoadBalancers.kind : ListedKind s where
  Value := LoadBalancer
  shape := LoadBalancer.shape
  id := (·.common.id)
  parts _ := []
  cycle := LoadBalancers.cycle s.context s.api
  id_read := readText_of_member (applianceTexts LoadBalancer.common)
    (by simp [textRecords,applianceRecords]) List.mem_cons_self
  plan_asks z r c hc := by
    refine ⟨_,List.mem_cons_self,?_⟩
    change c ∈ LoadBalancers.plan s.context.window ⟨z,r⟩ at hc
    unfold plan at hc
    split at hc
    · simp only [List.mem_cons,List.not_mem_nil,or_false] at hc
      rcases hc with rfl | rfl <;> rfl
    · obtain rfl := List.mem_singleton.mp hc
      rfl
  batch_bears z r := label?_id_of_tidy (LoadBalancers.batch_tidy ⟨z,r⟩ s.context s.api)

def VpcRouters.kind : ListedKind s where
  Value := VpcRouter
  shape := VpcRouter.shape
  id := (·.common.id)
  parts _ := []
  cycle := VpcRouters.cycle s.context s.api
  id_read := readText_of_member (applianceTexts VpcRouter.common)
    (by simp [textRecords,applianceRecords]) List.mem_cons_self
  plan_asks z r c hc := by
    refine ⟨_,List.mem_cons_self,?_⟩
    change c ∈ VpcRouters.plan s.context.window ⟨z,r⟩ at hc
    unfold plan at hc
    split at hc
    · simp only [List.mem_cons,List.mem_map] at hc
      rcases hc with rfl | rfl | ⟨i,-,rfl⟩ <;> rfl
    · obtain rfl := List.mem_singleton.mp hc
      rfl
  batch_bears z r := label?_id_of_tidy (VpcRouters.batch_tidy ⟨z,r⟩ s.context s.api)

def Internets.kind : ListedKind s where
  Value := Internet
  shape := Internet.shape
  id := (·.id)
  parts _ := []
  cycle := Internets.cycle s.context s.api
  id_read := readText_of_member Internet.texts (by simp [textRecords,resourceRecords]) List.mem_cons_self
  plan_asks z r c hc := by
    obtain rfl := List.mem_singleton.mp hc
    exact ⟨_,List.mem_cons_self,rfl⟩
  batch_bears z r := label?_id_of_tidy (Internets.batch_tidy ⟨z,r⟩ s.context s.api)

/-- The row of an archive. -/
def AutoBackups.archiveRow (item : Zoned AutoBackup) (a : Archive) : Sample :=
  archiveInfo.sample 1 (ident item ++ [a.id,a.name,flattenTags a.tags,a.description])

theorem AutoBackups.archiveRows_eq (item : Zoned AutoBackup) (archives : List Archive) :
    archiveRows item archives = count.fill (Float.ofNat archives.length) (ident item) ::
      rowsOf (latest? (archives.filterMap (·.createdAt)))
        (fun t => [lastTime.fill (Float.ofInt t.millis) (ident item)]) ++
      archives.map (archiveRow item) := rfl

theorem AutoBackups.label?_id_of_archives (item : Zoned AutoBackup) (archives : List Archive) :
    ∀ x ∈ archiveRows item archives, x.label? "id" = some item.resource.id := by
  intro x hx
  simp only [archiveRows_eq,List.cons_append,List.mem_cons,List.mem_append,List.mem_map] at hx
  rcases hx with rfl | hx | ⟨a,-,rfl⟩
  · rfl
  · obtain ⟨t,-,hx⟩ := mem_rowsOf.mp hx
    obtain rfl := List.mem_singleton.mp hx
    rfl
  · rfl

/-- The archives of a schedule need not be distinct for its id to be in each sample. -/
theorem AutoBackups.label?_id (ctx : Context) (api : Api) (item : Zoned AutoBackup) :
    ∀ x ∈ (batch ctx api item).value, x.label? "id" = some item.resource.id := by
  intro x hx
  rcases List.mem_append.mp hx with hx | hx
  · obtain rfl := List.mem_singleton.mp hx
    rfl
  · obtain ⟨archives,-,hx⟩ := mem_rowsOf.mp hx
    exact label?_id_of_archives item archives x hx

def AutoBackups.kind : ListedKind s where
  Value := AutoBackup
  shape := AutoBackup.shape
  id := (·.id)
  parts _ := []
  cycle := AutoBackups.cycle s.context s.api
  id_read := readText_of_member AutoBackup.texts (by simp [textRecords,resourceRecords]) List.mem_cons_self
  plan_asks z r c hc := by
    obtain rfl := List.mem_singleton.mp hc
    exact ⟨_,List.mem_cons_self,rfl⟩
  batch_bears z r := AutoBackups.label?_id s.context s.api ⟨z,r⟩

def ProxyLbs.kind : ListedKind s where
  Value := ProxyLb
  shape := ProxyLb.shape
  id := (·.id)
  parts _ := []
  cycle := ProxyLbs.cycle s.context s.api
  id_read := readText_of_member ProxyLb.texts (by simp [textRecords,resourceRecords]) List.mem_cons_self
  plan_asks z r c hc := by
    refine ⟨_,List.mem_cons_self,?_⟩
    change c ∈ ProxyLbs.plan s.context.window ⟨z,r⟩ at hc
    unfold plan at hc
    split at hc
    · simp only [List.mem_cons,List.not_mem_nil,or_false] at hc
      rcases hc with rfl | rfl <;> rfl
    · obtain rfl := List.mem_singleton.mp hc
      rfl
  batch_bears z r x hx := (ProxyLbs.batch_tidy ⟨z,r⟩ s.context s.api).labelled x hx ("id",r.id) List.mem_cons_self

/-- The kinds of listed resources. -/
def listedKinds : List (ListedKind s) :=
  [Servers.kind s,Databases.kind s,LoadBalancers.kind s,VpcRouters.kind s,FileServers.kind s,Internets.kind s,
    AutoBackups.kind s,ProxyLbs.kind s]

/-- The samples about a listed resource have its id for a label. -/
def ListedKind.labelled {s : Setting} (k : ListedKind s) : LabelledRecord where
  Value := k.Value
  shape := k.shape
  member := "ID"
  id := k.id
  label := "id"
  Rest := String
  rows z r := (k.cycle.batch ⟨z,r⟩).value
  id_read := k.id_read
  bears := k.batch_bears

/-- The samples about an interface at some place of a server. -/
def Servers.nicRecord : LabelledRecord where
  Value := Interface
  shape := Interface.shape
  member := "ID"
  id := (·.id)
  label := "interface_id"
  Rest := Zoned Server × Nat × Option (MonitorSample Traffic)
  rows p nic := Servers.nicRow p.1 nic p.2.1 :: rowsOf p.2.2 (Servers.trafficRows p.1 nic p.2.1)
  id_read := readText_of_member Interface.texts (by simp [textRecords,partRecords]) List.mem_cons_self
  bears p nic x hx := by
    obtain ⟨item,i,traffic⟩ := p
    rcases List.mem_cons.mp hx with rfl | hx
    · unfold Servers.nicRow
      cases nic.switch <;> rfl
    · cases traffic with
      | none => cases hx
      | some m =>
        change x ∈ Servers.trafficRows item nic i m at hx
        simp only [Servers.trafficRows,List.mem_cons,List.not_mem_nil,or_false] at hx
        rcases hx with rfl | rfl <;> rfl

def Servers.diskRecord : LabelledRecord where
  Value := ServerDisk
  shape := ServerDisk.shape
  member := "ID"
  id := (·.id)
  label := "disk_id"
  Rest := Zoned Server × Nat × Option (MonitorSample DiskActivity)
  rows p disk := Servers.diskRow p.1 disk p.2.1 :: rowsOf p.2.2 (Servers.activityRows p.1 disk p.2.1)
  id_read := readText_of_member ServerDisk.texts (by simp [textRecords,partRecords]) List.mem_cons_self
  bears p disk x hx := by
    obtain ⟨item,i,activity⟩ := p
    rcases List.mem_cons.mp hx with rfl | hx
    · rfl
    · cases activity with
      | none => cases hx
      | some m =>
        change x ∈ Servers.activityRows item disk i m at hx
        simp only [Servers.activityRows,List.mem_cons,List.not_mem_nil,or_false] at hx
        rcases hx with rfl | rfl <;> rfl

def AutoBackups.archiveRecord : LabelledRecord where
  Value := Archive
  shape := Archive.shape
  member := "ID"
  id := (·.id)
  label := "archive_id"
  Rest := Zoned AutoBackup
  rows item a := [AutoBackups.archiveRow item a]
  id_read := readText_of_member Archive.texts (by simp [textRecords,resourceRecords]) List.mem_cons_self
  bears item a x hx := by
    obtain rfl := List.mem_singleton.mp hx
    rfl

def Bills.record : LabelledRecord where
  Value := Bill
  shape := Bill.shape
  member := "BillID"
  id := (·.id)
  label := "bill_id"
  Rest := Unit
  rows _ b := [Bills.row b]
  id_read := readText_of_member Bill.texts (by simp [textRecords,accountRecords]) List.mem_cons_self
  bears _ b x hx := by
    obtain rfl := List.mem_singleton.mp hx
    rfl

def Coupons.record : LabelledRecord where
  Value := Coupon
  shape := Coupon.shape
  member := "CouponID"
  id := (·.id)
  label := "id"
  Rest := Instant × Instant
  rows p c := Coupons.rows c p.1 p.2
  id_read := readText_of_member Coupon.texts (by simp [textRecords,accountRecords]) List.mem_cons_self
  bears p c x hx := (Coupons.rows_tidy c p.1 p.2).labelled x hx ("id",c.id) List.mem_cons_self

/-- The records with an id whose samples have it for a label. -/
def labelledRecords : List LabelledRecord :=
  (listedKinds s).map ListedKind.labelled ++
    [Servers.nicRecord,Servers.diskRecord,AutoBackups.archiveRecord,Bills.record,Coupons.record]

end Collect

end CloudMetrics
