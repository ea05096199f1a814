import CloudMetrics.Proofs.LenientRecords

/-!
# Texts of records

A record depends on a member only through what the member is read as; and once the member can be read, the rest
decides whether there is a record. What a member with a text is read as is kept in the record: the table of all
such members says where.
-/
namespace CloudMetrics

namespace Json

variable {α β γ : Type}

/-- What is read depends on a value only through what a shape reads it as, and there is a result for each value
that the shape reads, or for none. -/
def DependsOn (read : Json → Option α) (shape : Shape β) : Prop :=
  ∃ g : β → Option α, (∀ v b, shape.read v = some b → read v = g b) ∧ ∀ b b', (g b).isSome = (g b').isSome

namespace DependsOn

variable {read : Json → Option α} {shape : Shape β} {v w : Json}

theorem self (shape : Shape β) : DependsOn shape.read shape := ⟨some,fun _ _ h => h,fun _ _ => rfl⟩

theorem const (a : Option α) (shape : Shape β) : DependsOn (fun _ => a) shape :=
  ⟨fun _ => a,fun _ _ _ => rfl,fun _ _ => rfl⟩

theorem seq {f : Json → Option (γ → α)} {x : Json → Option γ} (hf : DependsOn f shape) (hx : DependsOn x shape) :
    DependsOn (fun v => (f v).bind fun g => (x v).map g) shape := by
  obtain ⟨g,hg,hg'⟩ := hf
  obtain ⟨y,hy,hy'⟩ := hx
  refine ⟨fun b => (g b).bind fun g => (y b).map g,fun v b h => ?_,fun b b' => ?_⟩
  · dsimp only
    rw [hg v b h,hy v b h]
  · have hsome (b : β) : ((g b).bind fun g => (y b).map g).isSome = ((g b).isSome && (y b).isSome) := by
      cases g b <;> simp
    rw [hsome,hsome,hg' b b',hy' b b']

theorem ite {p : Prop} [Decidable p] (h : DependsOn read shape) :
    DependsOn (fun v => if p then none else read v) shape := by
  split
  · exact const none shape
  · exact h

theorem isSome_eq (h : DependsOn read shape) (hv : (shape.read v).isSome) (hw : (shape.read w).isSome) :
    (read v).isSome = (read w).isSome := by
  obtain ⟨g,hg,hg'⟩ := h
  obtain ⟨b,hb⟩ := Option.isSome_iff_exists.mp hv
  obtain ⟨b',hb'⟩ := Option.isSome_iff_exists.mp hw
  rw [hg v b hb,hg w b' hb',hg' b b']

theorem eq_of_read_eq (h : DependsOn read shape) (hv : (shape.read v).isSome) (hvw : shape.read v = shape.read w) :
    read v = read w := by
  obtain ⟨g,hg,-⟩ := h
  obtain ⟨b,hb⟩ := Option.isSome_iff_exists.mp hv
  rw [hg v b hb,hg w b (hvw ▸ hb)]

end DependsOn

theorem dependsOn_readField (name : String) (absent : Option β) (shape : Shape β) (before after : Members) :
    DependsOn (fun v => readField name absent shape (before ++ (name,v) :: after)) shape := by
  have hfield (v : Json) : readField name absent shape (before ++ (name,v) :: after) =
      (member? name before).elim (shape.read v) shape.read := by
    rw [readField,Members.member?_append,Members.member?_cons,if_pos rfl]
    cases member? name before <;> rfl
  simp only [hfield]
  cases member? name before with
  | some w => exact .const (shape.read w) shape
  | none => exact .self shape

theorem Fields.dependsOn_ofMembers {fields : Fields α} {name : String} {absent : Option β} {shape : Shape β}
    (h : fields.Has name absent shape) (hn : fields.names.Nodup) (before after : Members) :
    DependsOn (fun v => fields.ofMembers (before ++ (name,v) :: after)) shape := by
  induction h with
  | @last _ _ inner name absent shape =>
    rw [names,List.nodup_append] at hn
    have hmem : name ∉ inner.names := fun hm => hn.2.2 name hm name List.mem_cons_self rfl
    simp only [ofMembers_next,ofMembers_of_not_mem hmem before after _ .null]
    exact (DependsOn.const _ shape).seq (dependsOn_readField name absent shape before after)
  | @before _ _ _ inner name name' absent absent' shape shape' hin ih =>
    rw [names,List.nodup_append] at hn
    have hne : name ≠ name' := fun he => hn.2.2 name' hin.mem_names name List.mem_cons_self he.symm
    simp only [ofMembers_next,readField,Members.member?_eq_of_ne hne _ .null]
    exact (ih hn.1).seq (.const (readField name absent shape (before ++ (name',.null) :: after)) shape')
  | @joinBefore _ _ _ inner inner' name _ shape hin ih =>
    rw [names,List.nodup_append] at hn
    have hmem : name ∉ inner'.names := fun hm => hn.2.2 name hin.mem_names name hm rfl
    simp only [ofMembers,ofMembers_of_not_mem hmem before after _ .null]
    exact (ih hn.1).seq (.const _ shape)
  | @joined _ _ _ inner inner' name _ shape hin ih =>
    rw [names,List.nodup_append] at hn
    have hmem : name ∉ inner.names := fun hm => hn.2.2 name hm name hin.mem_names rfl
    simp only [ofMembers,ofMembers_of_not_mem hmem before after _ .null]
    exact (DependsOn.const _ shape).seq (ih hn.2.1)

theorem repeatsKnown_exchange (names : List String) (before after : Members) (name : String) (v w : Json) :
    repeatsKnown names (before ++ (name,v) :: after) = repeatsKnown names (before ++ (name,w) :: after) := by
  unfold repeatsKnown
  refine congrArg _ (funext fun n => ?_)
  simp only [← List.countP_eq_length_filter,List.countP_append,List.countP_cons]

/-- A record depends on each of its members only through what the member is read as. -/
theorem Shape.IsRecord.dependsOn {shape : Shape α} {fields : Fields α} {name : String} {absent : Option β}
    {inner : Shape β} (hr : shape.IsRecord fields) (h : fields.Has name absent inner) (hn : fields.names.Nodup)
    (before after : Members) : DependsOn (fun v => shape.read (.object (before ++ (name,v) :: after))) inner := by
  have hmembers := Fields.dependsOn_ofMembers h hn before after
  cases hr with
  | record =>
    simp only [Shape.read,repeatsKnown_exchange fields.names before after name _ .null]
    exact hmembers.ite
  | joined =>
    simp only [Shape.read]
    exact hmembers

/-- What is asked of a record holds of every one that is read from some members. -/
def Fields.Ensures (fields : Fields α) (ms : Members) (P : α → Prop) : Prop :=
  ∀ a, fields.ofMembers ms = some a → P a

namespace Fields

variable {ms : Members} {P : α → Prop}

@[simp] theorem ensures_start {a : α} : (Fields.start a).Ensures ms P ↔ P a := by
  simp [Ensures,ofMembers_start]

theorem ensures_next {before : Fields (β → α)} {name : String} {absent : Option β} {shape : Shape β} :
    (before.next name absent shape).Ensures ms P ↔
      before.Ensures ms fun f => ∀ b, readField name absent shape ms = some b → P (f b) := by
  simp only [Ensures,ofMembers_next,Option.bind_eq_some_iff,Option.map_eq_some_iff]
  constructor
  · intro h f hf b hb
    exact h _ ⟨f,hf,b,hb,rfl⟩
  · rintro h a ⟨f,hf,b,hb,rfl⟩
    exact h f hf b hb

@[simp] theorem ensures_join {before : Fields (β → α)} {inner : Fields β} :
    (before.join inner).Ensures ms P ↔ before.Ensures ms fun f => inner.Ensures ms fun b => P (f b) := by
  simp only [Ensures,ofMembers,Option.bind_eq_some_iff,Option.map_eq_some_iff]
  constructor
  · intro h f hf b hb
    exact h _ ⟨f,hf,b,hb,rfl⟩
  · rintro h a ⟨f,hf,b,hb,rfl⟩
    exact h f hf b hb

@[simp] theorem ensures_text {before : Fields (String → α)} {name : String} :
    (before.text name).Ensures ms P ↔
      before.Ensures ms fun f => ∀ s, readField name (some "") .text ms = some s → P (f s) := ensures_next

@[simp] theorem ensures_requiredText {before : Fields (String → α)} {name : String} :
    (before.requiredText name).Ensures ms P ↔
      before.Ensures ms fun f => ∀ s, readField name none .text ms = some s → P (f s) := ensures_next

@[simp] theorem ensures_number {before : Fields (Float → α)} {name : String} :
    (before.number name).Ensures ms P ↔
      before.Ensures ms fun f => ∀ x, readField name (some 0) .number ms = some x → P (f x) := ensures_next

@[simp] theorem ensures_list {before : Fields (List β → α)} {name : String} {item : Shape β} :
    (before.list name item).Ensures ms P ↔ before.Ensures ms fun f =>
      ∀ bs, readField name (some []) (.nullable [] (.list item)) ms = some bs → P (f bs) := ensures_next

@[simp] theorem ensures_nested {before : Fields (β → α)} {name : String} {whenNull : β} {shape : Shape β} :
    (before.nested name whenNull shape).Ensures ms P ↔ before.Ensures ms fun f =>
      ∀ b, readField name (some whenNull) (.nullable whenNull shape) ms = some b → P (f b) := ensures_next

@[simp] theorem ensures_optional {before : Fields (Option β → α)} {name : String} {shape : Shape β} :
    (before.optional name shape).Ensures ms P ↔ before.Ensures ms fun f =>
      ∀ o, readField name (some none) (.optional shape) ms = some o → P (f o) := ensures_next

@[simp] theorem ensures_strict {before : Fields (β → α)} {name : String} {absent : β} {shape : Shape β} :
    (before.strict name absent shape).Ensures ms P ↔ before.Ensures ms fun f =>
      ∀ b, readField name (some absent) shape ms = some b → P (f b) := ensures_next

end Fields

@[simp] theorem Shape.isRecord_record {fields fields' : Fields α} :
    (Shape.record fields).IsRecord fields' ↔ fields = fields' := by
  constructor
  · rintro ⟨⟩
    rfl
  · rintro rfl
    exact .record

@[simp] theorem Shape.isRecord_joined {fields fields' : Fields α} :
    (Shape.joined fields).IsRecord fields' ↔ fields = fields' := by
  constructor
  · rintro ⟨⟩
    rfl
  · rintro rfl
    exact .joined

end Json

namespace Cloud

open Json

/-- A member of a record with a text: what the text is when the member is missing, and where it is kept. -/
structure TextMember (α : Type) where
  name : String
  absent : Option String
  get : α → String

def TextMember.text {α : Type} (name : String) (get : α → String) : TextMember α := ⟨name,some "",get⟩

def TextMember.required {α : Type} (name : String) (get : α → String) : TextMember α := ⟨name,none,get⟩

/-- A type of records with its texts. -/
structure TextRecord where
  Value : Type
  shape : Shape Value
  texts : List (TextMember Value)

/-- A text of a part is a text of the whole. -/
def TextMember.within {α β : Type} (part : α → β) (m : TextMember β) : TextMember α := ⟨m.name,m.absent,m.get ∘ part⟩

/-- The texts that every appliance has. -/
def Appliance.texts : List (TextMember Appliance) :=
  [.required "ID" (·.id),.text "Name" (·.name),.text "Description" (·.description),
    .text "Availability" (·.availability)]

def applianceTexts {α : Type} (common : α → Appliance) : List (TextMember α) := Appliance.texts.map (.within common)

def Server.texts : List (TextMember Server) :=
  [.required "ID" (·.id),.text "Name" (·.name),.text "Description" (·.description),
    .text "Availability" (·.availability)]

def Internet.texts : List (TextMember Internet) :=
  [.required "ID" (·.id),.text "Name" (·.name),.text "Description" (·.description),
    .text "BandWidthMbps" (·.bandWidthMbps),.text "NetworkMaskLen" (·.networkMaskLength)]

def AutoBackup.texts : List (TextMember AutoBackup) :=
  [.required "ID" (·.id),.text "Name" (·.name),.text "Description" (·.description)]

def Archive.texts : List (TextMember Archive) :=
  [.required "ID" (·.id),.text "Name" (·.name),.text "Description" (·.description)]

def ProxyLb.texts : List (TextMember ProxyLb) :=
  [.required "ID" (·.id),.text "Name" (·.name),.text "Description" (·.description),
    .text "Availability" (·.availability),.text "ServiceClass" (·.serviceClass)]

def Interface.texts : List (TextMember Interface) :=
  [.text "ID" (·.id),.text "MACAddress" (·.macAddress),.text "IPAddress" (·.ipAddress),
    .text "UserIPAddress" (·.userIpAddress)]

def ServerDisk.texts : List (TextMember ServerDisk) :=
  [.text "ID" (·.id),.text "Name" (·.name),.text "Connection" (·.connection)]

def Bill.texts : List (TextMember Bill) :=
  [.text "BillID" (·.id),.text "MemberID" (·.memberId)]

def Coupon.texts : List (TextMember Coupon) :=
  [.text "CouponID" (·.id),.text "MemberID" (·.memberId),.text "ContractID" (·.contractId)]

def applianceRecords : List TextRecord :=
  [⟨_,.record Appliance.fields,Appliance.texts⟩,⟨_,Database.shape,applianceTexts Database.common⟩,
    ⟨_,LoadBalancer.shape,applianceTexts LoadBalancer.common⟩,⟨_,VpcRouter.shape,applianceTexts VpcRouter.common⟩,
    ⟨_,Nfs.shape,applianceTexts Nfs.common⟩]

/-- The resources that are no appliances. -/
def resourceRecords : List TextRecord :=
  [⟨_,Server.shape,Server.texts⟩,⟨_,Internet.shape,Internet.texts⟩,⟨_,AutoBackup.shape,AutoBackup.texts⟩,
    ⟨_,Archive.shape,Archive.texts⟩,⟨_,ProxyLb.shape,ProxyLb.texts⟩]

/-- The parts of servers, databases and schedules. -/
def partRecords : List TextRecord :=
  [⟨_,NamedRef.shape,[.text "ID" (·.id),.text "Name" (·.name)]⟩,⟨_,Instance.shape,[.text "Status" (·.status)]⟩,
    ⟨_,SwitchRef.shape,[.text "ID" (·.id),.text "Name" (·.name),.text "Scope" (·.scope)]⟩,
    ⟨_,Interface.shape,Interface.texts⟩,⟨_,ServerPlan.shape,[.text "Commitment" (·.commitment)]⟩,
    ⟨_,ServerDisk.shape,ServerDisk.texts⟩,
    ⟨_,DatabaseEngine.shape,[.text "DatabaseName" (·.name),.text "DatabaseVersion" (·.version),
      .text "DatabaseRevision" (·.revision)]⟩,
    ⟨_,DatabaseCommonSettings.shape,[.text "WebUI" (·.webUi),.text "ServicePort" (·.servicePort)]⟩,
    ⟨_,DatabaseReplication.shape,[.text "Model" (·.model)]⟩,
    ⟨_,AutoBackupSpec.shape,[.text "MaximumNumberOfArchives" (·.maximumArchives)]⟩,
    ⟨_,AutoBackupStatus.shape,[.text "DiskId" (·.diskId),.text "ZoneName" (·.zoneName)]⟩]

/-- The parts of load balancers and routers. -/
def networkRecords : List TextRecord :=
  [⟨_,LoadBalancerHealthCheck.shape,[.text "Protocol" (·.protocol),.text "Path" (·.path),
      .text "Status" (·.status)]⟩,
    ⟨_,LoadBalancerServer.shape,[.text "IPAddress" (·.ipAddress),.text "Port" (·.port),
      .text "Enabled" (·.enabled)]⟩,
    ⟨_,LoadBalancerVip.shape,[.text "VirtualIPAddress" (·.address),.text "Port" (·.port),
      .text "DelayLoop" (·.delayLoop),.text "SorryServer" (·.sorryServer),.text "Description" (·.description)]⟩,
    ⟨_,Vrrp.shape,[.text "VRID" (·.vrid)]⟩,
    ⟨_,LoadBalancerServerStatus.shape,[.text "IPAddress" (·.ipAddress),.text "Port" (·.port),
      .text "Status" (·.status)]⟩,
    ⟨_,LoadBalancerVipStatus.shape,[.text "VirtualIPAddress" (·.address),.text "Port" (·.port)]⟩,
    ⟨_,VpcRouterInterface.shape,[.text "VirtualIPAddress" (·.virtualIpAddress),
      .text "NetworkMaskLen" (·.networkMaskLength)]⟩,
    ⟨_,EnabledFlag.shape,[.text "Enabled" (·.enabled)]⟩,
    ⟨_,PeerSetting.shape,[.text "Peer" (·.peer),.text "RemoteID" (·.remoteId)]⟩,
    ⟨_,RouterSetting.shape,[.text "VRID" (·.vrid)]⟩,
    ⟨_,PeerStatus.shape,[.text "Peer" (·.peer),.text "Status" (·.status)]⟩]

/-- The parts of proxies, and the records of an account. -/
def accountRecords : List TextRecord :=
  [⟨_,BindPort.shape,[.text "ProxyMode" (·.proxyMode),.text "Port" (·.port)]⟩,
    ⟨_,ProxyLbServer.shape,[.text "IPAddress" (·.ipAddress),.text "Port" (·.port),.text "Enabled" (·.enabled)]⟩,
    ⟨_,ProxyLbHealthCheck.shape,[.text "Protocol" (·.protocol),.text "Path" (·.path),
      .text "DelayLoop" (·.delayLoop)]⟩,
    ⟨_,ProxyLbStatus.shape,[.text "FQDN" (·.fqdn),.text "Region" (·.region)]⟩,
    ⟨_,ProxyLbServerHealth.shape,[.text "IPAddress" (·.ipAddress),.text "Port" (·.port),.text "Status" (·.status)]⟩,
    ⟨_,ProxyLbHealth.shape,[.text "CurrentVIP" (·.currentVip)]⟩,
    ⟨_,Account.shape,[.text "ID" (·.id),.text "Name" (·.name),.text "Code" (·.code)]⟩,⟨_,Bill.shape,Bill.texts⟩,
    ⟨_,Coupon.shape,Coupon.texts⟩]

/-- The records that have texts of their own. -/
def textRecords : List TextRecord :=
  applianceRecords ++ resourceRecords ++ partRecords ++ networkRecords ++ accountRecords

/-- A record of some fields that keeps what its members with a text are read as. -/
def TextRecord.Keeps (t : TextRecord) : Prop :=
  ∃ fields, t.shape.IsRecord fields ∧ ∀ ms, fields.Ensures ms fun a =>
    ∀ m ∈ t.texts, readField m.name m.absent .text ms = some (m.get a)

theorem Appliance.ensures_texts (ms : Members) : fields.Ensures ms fun a =>
    ∀ m ∈ texts, readField m.name m.absent .text ms = some (m.get a) := by
  simp +contextual [fields,texts,TextMember.text,TextMember.required]

/-- A record with the members of an appliance keeps their texts where it has the appliance. -/
theorem TextRecord.Keeps.of_appliance {α : Type} {fields : Fields α} {common : α → Appliance}
    (h : ∀ ms, fields.Ensures ms fun r => Appliance.fields.ofMembers ms = some (common r)) :
    TextRecord.Keeps ⟨α,.joined fields,applianceTexts common⟩ := by
  refine ⟨fields,.joined,fun ms r hr m hm => ?_⟩
  obtain ⟨inner,hinner,rfl⟩ := List.mem_map.mp hm
  exact Appliance.ensures_texts ms (common r) (h ms r hr) inner hinner

theorem keeps_of_mem_applianceRecords : ∀ t ∈ applianceRecords, t.Keeps := by
  simp only [applianceRecords,List.forall_mem_cons]
  refine ⟨⟨_,.record,Appliance.ensures_texts⟩,.of_appliance ?_,.of_appliance ?_,
    .of_appliance ?_,.of_appliance ?_,nofun⟩
  all_goals
    simp only [Fields.ensures_nested,Fields.ensures_join,Fields.ensures_start]
    intro ms a ha
    simp [ha]

section

attribute [local simp] TextRecord.Keeps TextMember.text TextMember.required

theorem keeps_of_mem_resourceRecords : ∀ t ∈ resourceRecords, t.Keeps := by
  simp only [resourceRecords,List.forall_mem_cons]
  and_intros <;> simp +contextual [Server.shape,Server.texts,Internet.shape,Internet.texts,AutoBackup.shape,
    AutoBackup.texts,Archive.shape,Archive.texts,ProxyLb.shape,ProxyLb.texts]

theorem keeps_of_mem_partRecords : ∀ t ∈ partRecords, t.Keeps := by
  simp only [partRecords,List.forall_mem_cons]
  and_intros <;> simp +contextual [NamedRef.shape,Instance.shape,SwitchRef.shape,Interface.shape,Interface.texts,
    ServerPlan.shape,ServerDisk.shape,ServerDisk.texts,DatabaseEngine.shape,DatabaseCommonSettings.shape,
    DatabaseReplication.shape,AutoBackupSpec.shape,AutoBackupStatus.shape]

theorem keeps_of_mem_networkRecords : ∀ t ∈ networkRecords, t.Keeps := by
  simp only [networkRecords,List.forall_mem_cons]
  and_intros <;> simp +contextual [LoadBalancerHealthCheck.shape,LoadBalancerServer.shape,LoadBalancerVip.shape,
    Vrrp.shape,LoadBalancerServerStatus.shape,LoadBalancerVipStatus.shape,VpcRouterInterface.shape,
    EnabledFlag.shape,PeerSetting.shape,RouterSetting.shape,PeerStatus.shape]

theorem keeps_of_mem_accountRecords : ∀ t ∈ accountRecords, t.Keeps := by
  simp only [accountRecords,List.forall_mem_cons]
  and_intros <;> simp +contextual [BindPort.shape,ProxyLbServer.shape,ProxyLbHealthCheck.shape,
    ProxyLbStatus.shape,ProxyLbServerHealth.shape,ProxyLbHealth.shape,Account.shape,Bill.shape,Bill.texts,
    Coupon.shape,Coupon.texts]

end

theorem keeps_of_mem_textRecords {t : TextRecord} (h : t ∈ textRecords) : t.Keeps := by
  simp only [textRecords,List.mem_append] at h
  obtain (((h | h) | h) | h) | h := h
  · exact keeps_of_mem_applianceRecords t h
  · exact keeps_of_mem_resourceRecords t h
  · exact keeps_of_mem_partRecords t h
  · exact keeps_of_mem_networkRecords t h
  · exact keeps_of_mem_accountRecords t h

theorem readField_of_mem_texts {t : TextRecord} (ht : t ∈ textRecords) {m : TextMember t.Value} (hm : m ∈ t.texts)
    {ms : Members} {r : t.Value} (h : t.shape.read (.object ms) = some r) :
    readField m.name m.absent .text ms = some (m.get r) := by
  obtain ⟨fields,hr,hall⟩ := keeps_of_mem_textRecords ht
  exact hall ms r (hr.ofMembers_of_read h) m hm

theorem readText_of_member {α : Type} {shape : Shape α} (texts : List (TextMember α))
    (ht : ⟨α,shape,texts⟩ ∈ textRecords) {m : TextMember α} (hm : m ∈ texts) {ms : Members} {r : α} {v : Json}
    (h : shape.read (.object ms) = some r) (hv : member? m.name ms = some v) : readText v = some (m.get r) := by
  have hfield := readField_of_mem_texts ht hm h
  rw [readField,hv] at hfield
  exact hfield

end Cloud

end CloudMetrics
