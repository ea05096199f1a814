import CloudMetrics.Cloud.Account
import CloudMetrics.Cloud.Database
import CloudMetrics.Cloud.Internet
import CloudMetrics.Cloud.LoadBalancer
import CloudMetrics.Cloud.Server
import CloudMetrics.Cloud.VpcRouter
import CloudMetrics.Proofs.RecordEdits

/-!
# Lenient records

The cloud leaves a member out, or writes null for it, and it adds members of which nothing is known. Every
record of the cloud is read as the same in each case, and so is every record inside another one. What is
asked for is the id of a resource; and a plan's size and whether a bill is paid are never null.
-/
namespace CloudMetrics

namespace Json

theorem array_ne_null (items : List Json) : Json.array items ≠ .null := nofun

namespace Fields

variable {α β : Type} {asked : List String}

@[simp] theorem names_start (a : α) : (Fields.start a).names = [] := by rw [names]

theorem names_next {before : Fields (α → β)} {name : String} {absent : Option α} {shape : Shape α} :
    (before.next name absent shape).names = before.names ++ [name] := by rw [names]

@[simp] theorem names_join {before : Fields (α → β)} {inner : Fields α} :
    (before.join inner).names = before.names ++ inner.names := by rw [names]

@[simp] theorem names_text {before : Fields (String → β)} {name : String} :
    (before.text name).names = before.names ++ [name] := names_next

@[simp] theorem names_requiredText {before : Fields (String → β)} {name : String} :
    (before.requiredText name).names = before.names ++ [name] := names_next

@[simp] theorem names_number {before : Fields (Float → β)} {name : String} :
    (before.number name).names = before.names ++ [name] := names_next

@[simp] theorem names_list {before : Fields (List α → β)} {name : String} {item : Shape α} :
    (before.list name item).names = before.names ++ [name] := names_next

@[simp] theorem names_nested {before : Fields (α → β)} {name : String} {whenNull : α} {shape : Shape α} :
    (before.nested name whenNull shape).names = before.names ++ [name] := names_next

@[simp] theorem names_optional {before : Fields (Option α → β)} {name : String} {shape : Shape α} :
    (before.optional name shape).names = before.names ++ [name] := names_next

@[simp] theorem names_strict {before : Fields (α → β)} {name : String} {absent : α} {shape : Shape α} :
    (before.strict name absent shape).names = before.names ++ [name] := names_next

@[simp] theorem forgiving_start (a : α) : (Fields.start a).Forgiving asked := by
  rw [Forgiving]
  trivial

@[simp] theorem forgiving_join {before : Fields (α → β)} {inner : Fields α} :
    (before.join inner).Forgiving asked ↔ before.Forgiving asked ∧ inner.Forgiving asked := by rw [Forgiving]

@[simp] theorem forgiving_text {before : Fields (String → β)} {name : String} :
    (before.text name).Forgiving asked ↔ before.Forgiving asked := by
  simp [text,Forgiving,Shape.text,Shape.Forgiving,Shape.read,readText]

@[simp] theorem forgiving_requiredText {before : Fields (String → β)} {name : String} :
    (before.requiredText name).Forgiving asked ↔ before.Forgiving asked ∧ (name ∈ asked ∨ name ∈ strictNames) := by
  simp [requiredText,Forgiving,Shape.text,Shape.Forgiving,Shape.read,readText]

@[simp] theorem forgiving_number {before : Fields (Float → β)} {name : String} :
    (before.number name).Forgiving asked ↔ before.Forgiving asked := by
  simp [number,Forgiving,Shape.number,Shape.Forgiving,Shape.read,readNumeric]

@[simp] theorem forgiving_list {before : Fields (List α → β)} {name : String} {item : Shape α} :
    (before.list name item).Forgiving asked ↔ before.Forgiving asked ∧ item.Forgiving [] := by
  simp [list,Forgiving,Shape.Forgiving,Shape.read]

@[simp] theorem forgiving_nested {before : Fields (α → β)} {name : String} {whenNull : α} {shape : Shape α} :
    (before.nested name whenNull shape).Forgiving asked ↔ before.Forgiving asked ∧ shape.Forgiving [] := by
  simp [nested,Forgiving,Shape.Forgiving,Shape.read]

@[simp] theorem forgiving_optional {before : Fields (Option α → β)} {name : String} {shape : Shape α} :
    (before.optional name shape).Forgiving asked ↔ before.Forgiving asked ∧ shape.Forgiving [] := by
  simp [optional,Forgiving,Shape.Forgiving,Shape.read]

@[simp] theorem forgiving_strict {before : Fields (α → β)} {name : String} {absent : α} {shape : Shape α} :
    (before.strict name absent shape).Forgiving asked ↔ before.Forgiving asked ∧
      (name ∈ asked ∨ name ∈ strictNames ∨ shape.read .null = some absent) ∧ shape.Forgiving [] := by
  rw [strict,Forgiving]

end Fields

end Json

namespace Cloud

open Json

/-- A type of records with the names that are asked for. -/
structure RecordType where
  Value : Type
  shape : Shape Value
  asked : List String := []

/-- The records that answers hold, and those inside them. The resources are asked for their id. -/
def recordTypes : List RecordType :=
  [⟨_,Server.shape,["ID"]⟩,⟨_,Database.shape,["ID"]⟩,⟨_,LoadBalancer.shape,["ID"]⟩,⟨_,VpcRouter.shape,["ID"]⟩,
    ⟨_,Nfs.shape,["ID"]⟩,⟨_,Internet.shape,["ID"]⟩,⟨_,AutoBackup.shape,["ID"]⟩,⟨_,Archive.shape,["ID"]⟩,
    ⟨_,ProxyLb.shape,["ID"]⟩,⟨_,.record Appliance.fields,["ID"]⟩,
    ⟨_,NamedRef.shape,[]⟩,⟨_,Instance.shape,[]⟩,⟨_,SwitchRef.shape,[]⟩,⟨_,Interface.shape,[]⟩,
    ⟨_,ServerPlan.shape,[]⟩,⟨_,ServerDisk.shape,[]⟩,
    ⟨_,DatabaseEngine.shape,[]⟩,⟨_,DatabaseConfRemark.shape,[]⟩,⟨_,DatabaseRemark.shape,[]⟩,
    ⟨_,DatabaseCommonSettings.shape,[]⟩,⟨_,DatabaseReplication.shape,[]⟩,⟨_,DatabaseConfSettings.shape,[]⟩,
    ⟨_,DatabaseSettings.shape,[]⟩,
    ⟨_,LoadBalancerHealthCheck.shape,[]⟩,⟨_,LoadBalancerServer.shape,[]⟩,⟨_,LoadBalancerVip.shape,[]⟩,
    ⟨_,Vrrp.shape,[]⟩,⟨_,LoadBalancerRemark.shape,[]⟩,⟨_,LoadBalancerSettings.shape,[]⟩,
    ⟨_,LoadBalancerServerStatus.shape,[]⟩,⟨_,LoadBalancerVipStatus.shape,[]⟩,
    ⟨_,VpcRouterInterface.shape,[]⟩,⟨_,EnabledFlag.shape,[]⟩,⟨_,PeerSetting.shape,[]⟩,
    ⟨_,SiteToSiteSetting.shape,[]⟩,⟨_,RouterSetting.shape,[]⟩,⟨_,VpcRouterSettings.shape,[]⟩,
    ⟨_,PeerStatus.shape,[]⟩,⟨_,VpcRouterStatus.shape,[]⟩,
    ⟨_,AutoBackupSpec.shape,[]⟩,⟨_,AutoBackupSettings.shape,[]⟩,⟨_,AutoBackupStatus.shape,[]⟩,
    ⟨_,BindPort.shape,[]⟩,⟨_,ProxyLbServer.shape,[]⟩,⟨_,ProxyLbHealthCheck.shape,[]⟩,⟨_,ProxyLbSpec.shape,[]⟩,
    ⟨_,ProxyLbSettings.shape,[]⟩,⟨_,ProxyLbStatus.shape,[]⟩,⟨_,ProxyLbServerHealth.shape,[]⟩,
    ⟨_,ProxyLbHealth.shape,[]⟩,
    ⟨_,Account.shape,[]⟩,⟨_,AuthStatus.shape,[]⟩,⟨_,Bill.shape,[]⟩,⟨_,Coupon.shape,[]⟩]

section

attribute [local simp] NamedRef.shape Instance.shape SwitchRef.shape Interface.shape Appliance.fields Server.shape
  ServerPlan.shape ServerDisk.shape Database.shape DatabaseEngine.shape DatabaseConfRemark.shape
  DatabaseRemark.shape DatabaseCommonSettings.shape DatabaseReplication.shape DatabaseConfSettings.shape
  DatabaseSettings.shape LoadBalancer.shape LoadBalancerHealthCheck.shape LoadBalancerServer.shape
  LoadBalancerVip.shape Vrrp.shape LoadBalancerRemark.shape LoadBalancerSettings.shape
  LoadBalancerServerStatus.shape LoadBalancerVipStatus.shape VpcRouter.shape VpcRouterInterface.shape
  EnabledFlag.shape PeerSetting.shape SiteToSiteSetting.shape RouterSetting.shape VpcRouterSettings.shape
  PeerStatus.shape VpcRouterStatus.shape Nfs.shape Internet.shape AutoBackup.shape AutoBackupSpec.shape
  AutoBackupSettings.shape AutoBackupStatus.shape Archive.shape ProxyLb.shape BindPort.shape ProxyLbServer.shape
  ProxyLbHealthCheck.shape ProxyLbSpec.shape ProxyLbSettings.shape ProxyLbStatus.shape ProxyLbServerHealth.shape
  ProxyLbHealth.shape Account.shape AuthStatus.shape Bill.shape Coupon.shape dateShape Shape.string Shape.flag
  Shape.natural Shape.anything Shape.Forgiving strictNames

theorem forgiving_of_mem_recordTypes : ∀ t ∈ recordTypes, t.shape.Forgiving t.asked := by
  simp [recordTypes]

end

namespace VpcRouterStatus

/-- The status with a null for each lease and each session, so that only their number is left. -/
def counted (s : VpcRouterStatus) : VpcRouterStatus :=
  { s with
    dhcpLeases := s.dhcpLeases.map fun _ => .null
    l2tpSessions := s.l2tpSessions.map fun _ => .null
    pptpSessions := s.pptpSessions.map fun _ => .null }

/-- The lists that are kept as they are written. -/
def rawNames : List String := ["DHCPServerLeases","L2TPIPsecServerSessions","PPTPServerSessions"]

/-- The number of the entries of a raw list. -/
def readNumber (name : String) (ms : Members) : Option (List Json) :=
  (readField name (some []) (.nullable [] (.list .anything)) ms).map fun items => items.map fun _ => .null

theorem counted_read {ms : Members} (hd : ms.Distinct) : (shape.read (.object ms)).map counted =
    (readNumber "DHCPServerLeases" ms).bind fun leases =>
      (readNumber "L2TPIPsecServerSessions" ms).bind fun l2tp =>
        (readNumber "PPTPServerSessions" ms).bind fun pptp =>
          (readField "SiteToSiteIPsecVPNPeers" (some []) (.nullable [] (.list PeerStatus.shape)) ms).bind fun peers =>
            (readField "SessionCount" (some 0) .number ms).map fun count => ⟨leases,l2tp,pptp,peers,count⟩ := by
  rw [shape,Shape.IsRecord.record.read_object hd]
  simp only [Fields.list,Fields.number,Fields.ofMembers_next,Fields.ofMembers_start,readNumber]
  generalize readField "DHCPServerLeases" _ _ ms = leases
  generalize readField "L2TPIPsecServerSessions" _ _ ms = l2tp
  generalize readField "PPTPServerSessions" _ _ ms = pptp
  generalize readField "SiteToSiteIPsecVPNPeers" _ _ ms = peers
  generalize readField "SessionCount" _ _ ms = count
  cases leases <;> cases l2tp <;> cases pptp <;> cases peers <;> cases count <;> rfl

theorem read_anything (items : List Json) :
    (Shape.nullable [] (.list .anything)).read (.array items) = some items := by
  rw [Shape.read_nullable _ _ (array_ne_null items),Shape.read]
  induction items with
  | nil => rfl
  | cons v items ih =>
    have hv : Shape.anything.read v = some v := by rw [Shape.anything,Shape.read]
    rw [Json.traverse,hv,ih]
    rfl

theorem readNumber_of_member {before after : Members} {name : String} {items : List Json}
    (hd : Members.Distinct (before ++ (name,.array items) :: after)) :
    readNumber name (before ++ (name,.array items) :: after) = some (List.replicate items.length .null) := by
  have hmember := hd.member?_eq (.array items)
  rw [readNumber,readField,hmember]
  simp only [read_anything,Option.map_some,List.map_const']

theorem readNumber_of_ne {before after : Members} {name name' : String} (h : name' ≠ name) (v w : Json) :
    readNumber name' (before ++ (name,v) :: after) = readNumber name' (before ++ (name,w) :: after) := by
  rw [readNumber,readNumber,readField,readField,Members.member?_eq_of_ne h v w]

/-- Raw lists of one length are the same as far as their entries are counted. -/
theorem counted_read_raw {before after : Members} {name : String} {items items' : List Json} (hname : name ∈ rawNames)
    (hd : Members.Distinct (before ++ (name,.array items) :: after)) (hlength : items.length = items'.length) :
    (shape.read (.object (before ++ (name,.array items) :: after))).map counted =
      (shape.read (.object (before ++ (name,.array items') :: after))).map counted := by
  have hd' : Members.Distinct (before ++ (name,.array items') :: after) := by
    simpa [Members.Distinct] using hd
  have hnumber (name' : String) : readNumber name' (before ++ (name,.array items) :: after) =
      readNumber name' (before ++ (name,.array items') :: after) := by
    by_cases he : name' = name
    · rw [he,readNumber_of_member hd,readNumber_of_member hd',hlength]
    · exact readNumber_of_ne he _ _
  have hpeers : "SiteToSiteIPsecVPNPeers" ≠ name := by
    rintro rfl
    revert hname
    decide
  have hcount : "SessionCount" ≠ name := by
    rintro rfl
    revert hname
    decide
  rw [counted_read hd,counted_read hd',hnumber,hnumber,hnumber]
  simp only [readField,Members.member?_eq_of_ne hpeers (.array items) (.array items'),
    Members.member?_eq_of_ne hcount (.array items) (.array items')]

end VpcRouterStatus

/-- An element that is null is an empty slot, and any other one is an interface. -/
def Fills : Json → Option VpcRouterInterface → Prop
  | .null, slot => slot = none
  | v, slot => ∃ i, VpcRouterInterface.shape.read v = some i ∧ slot = some i

theorem fills_of_read {v : Json} {slot : Option VpcRouterInterface}
    (h : (Shape.optional VpcRouterInterface.shape).read v = some slot) : Fills v slot := by
  by_cases hv : v = .null
  · subst hv
    rw [Shape.read] at h
    exact (Option.some.inj h).symm
  · rw [Shape.read_optional _ hv] at h
    obtain ⟨i,hi,rfl⟩ := Option.map_eq_some_iff.mp h
    cases v with
    | null => exact absurd rfl hv
    | _ => exact ⟨i,hi,rfl⟩

theorem forall₂_of_traverse {α β : Type} {f : α → Option β} {as : List α} {bs : List β}
    (h : Json.traverse f as = some bs) : List.Forall₂ (fun a b => f a = some b) as bs := by
  induction as generalizing bs with
  | nil =>
    obtain rfl := Option.some.inj h
    exact .nil
  | cons a as ih =>
    rw [Json.traverse] at h
    obtain ⟨b,hb,h⟩ := Option.bind_eq_some_iff.mp h
    obtain ⟨rest,hrest,rfl⟩ := Option.map_eq_some_iff.mp h
    exact .cons hb (ih hrest)

theorem traverse_set {α β : Type} {f : α → Option β} {before after : List α} {a a' : α} {b : β} {bs : List β}
    (h : Json.traverse f (before ++ a :: after) = some bs) (ha : f a' = some b) :
    Json.traverse f (before ++ a' :: after) = some (bs.set before.length b) := by
  induction before generalizing bs with
  | nil =>
    rw [List.nil_append,Json.traverse] at h
    obtain ⟨_,-,h⟩ := Option.bind_eq_some_iff.mp h
    obtain ⟨rest,hrest,rfl⟩ := Option.map_eq_some_iff.mp h
    rw [List.nil_append,Json.traverse,ha,hrest]
    rfl
  | cons c before ih =>
    rw [List.cons_append,Json.traverse] at h
    obtain ⟨d,hd,h⟩ := Option.bind_eq_some_iff.mp h
    obtain ⟨rest,hrest,rfl⟩ := Option.map_eq_some_iff.mp h
    rw [List.cons_append,Json.traverse,hd,ih hrest]
    rfl

namespace RouterSetting

/-- The settings with a slot that is empty. -/
def vacate (r : RouterSetting) (i : Nat) : RouterSetting := { r with interfaces := r.interfaces.set i none }

theorem ofMembers_iff {fields : Fields RouterSetting} (h : shape.IsRecord fields) {ms : Members} {r : RouterSetting} :
    fields.ofMembers ms = some r ↔
      readField "Interfaces" (some []) (.nullable [] (.list (.optional VpcRouterInterface.shape))) ms =
        some r.interfaces ∧
      readField "VRID" (some "") .text ms = some r.vrid ∧
      readField "L2TPIPsecServer" (some none) (.optional EnabledFlag.shape) ms = some r.l2tpServer ∧
      readField "PPTPServer" (some none) (.optional EnabledFlag.shape) ms = some r.pptpServer ∧
      readField "SiteToSiteIPsecVPN" (some none) (.optional SiteToSiteSetting.shape) ms = some r.siteToSite := by
  cases h
  simp only [Fields.list,Fields.text,Fields.optional,Fields.ofMembers_next,Fields.ofMembers_start,
    Option.bind_eq_some_iff,Option.map_eq_some_iff,Option.some.injEq]
  constructor
  · rintro ⟨_,⟨_,⟨_,⟨_,⟨_,rfl,_,hi,rfl⟩,_,hv,rfl⟩,_,hl,rfl⟩,_,hp,rfl⟩,_,hs,rfl⟩
    exact ⟨hi,hv,hl,hp,hs⟩
  · rintro ⟨hi,hv,hl,hp,hs⟩
    exact ⟨_,⟨_,⟨_,⟨_,⟨_,rfl,_,hi,rfl⟩,_,hv,rfl⟩,_,hl,rfl⟩,_,hp,rfl⟩,_,hs,rfl⟩

theorem exists_isRecord : ∃ fields, shape.IsRecord fields := ⟨_,.record⟩

theorem fills_of_read {v : Json} {items : List Json} {r : RouterSetting} (h : shape.read v = some r)
    (hi : v.field? "Interfaces" = some (.array items)) : List.Forall₂ Fills items r.interfaces := by
  cases v with
  | object ms =>
    obtain ⟨fields,hr⟩ := exists_isRecord
    obtain ⟨hread,-⟩ := (ofMembers_iff hr).mp (hr.ofMembers_of_read h)
    rw [field?] at hi
    rw [readField,hi] at hread
    dsimp only at hread
    rw [Shape.read_nullable _ _ (array_ne_null items),Shape.read] at hread
    exact (forall₂_of_traverse hread).imp fun _ _ => Cloud.fills_of_read
  | _ => cases hi

/-- A null makes a slot empty, whatever was there, and changes nothing else. -/
theorem read_vacate {before after : Members} {items items' : List Json} {v : Json} {r : RouterSetting}
    (hd : Members.Distinct (before ++ ("Interfaces",.array (items ++ v :: items')) :: after))
    (h : shape.read (.object (before ++ ("Interfaces",.array (items ++ v :: items')) :: after)) = some r) :
    shape.read (.object (before ++ ("Interfaces",.array (items ++ .null :: items')) :: after)) =
      some (r.vacate items.length) := by
  have hd' : Members.Distinct (before ++ ("Interfaces",.array (items ++ .null :: items')) :: after) := by
    simpa [Members.Distinct] using hd
  obtain ⟨fields,hr⟩ := exists_isRecord
  rw [hr.read_object hd,ofMembers_iff hr] at h
  rw [hr.read_object hd',ofMembers_iff hr]
  obtain ⟨hslots,hothers⟩ := h
  refine ⟨?_,?_⟩
  · rw [readField,hd.member?_eq] at hslots ⊢
    dsimp only at hslots ⊢
    rw [Shape.read_nullable _ _ (array_ne_null _),Shape.read] at hslots ⊢
    exact traverse_set hslots (by rw [Shape.read])
  · have hsame {α : Type} {name : String} (hname : name ≠ "Interfaces") (absent : Option α) (shape : Shape α) :
        readField name absent shape (before ++ ("Interfaces",.array (items ++ .null :: items')) :: after) =
          readField name absent shape (before ++ ("Interfaces",.array (items ++ v :: items')) :: after) := by
      rw [readField,readField,Members.member?_eq_of_ne hname]
    rw [hsame (by decide),hsame (by decide),hsame (by decide),hsame (by decide)]
    exact hothers

end RouterSetting

/-- A member that is not null is read as its record. -/
theorem read_of_readField_nested {α : Type} {name : String} {whenNull a : α} {shape : Shape α} {ms : Members}
    {v : Json} (h : readField name (some whenNull) (.nullable whenNull shape) ms = some a)
    (hm : member? name ms = some v) (hv : v ≠ .null) : shape.read v = some a := by
  rw [readField,hm] at h
  dsimp only at h
  rwa [Shape.read_nullable _ _ hv] at h

theorem ne_null_of_field? {v w : Json} {name : String} (h : v.field? name = some w) : v ≠ .null := by
  rintro rfl
  cases h

theorem VpcRouterSettings.read_router {v router : Json} {s : VpcRouterSettings} (h : shape.read v = some s)
    (hr : v.field? "Router" = some router) (hne : router ≠ .null) :
    RouterSetting.shape.read router = some s.router := by
  cases v with
  | object ms =>
    have hread := Shape.IsRecord.record.ofMembers_of_read h
    simp only [Fields.nested,Fields.ofMembers_next,Fields.ofMembers_start,Option.bind_some,
      Option.map_eq_some_iff] at hread
    obtain ⟨r,hread,rfl⟩ := hread
    exact read_of_readField_nested hread hr hne
  | _ => cases hr

theorem VpcRouter.read_settings {v settings : Json} {r : VpcRouter} (h : VpcRouter.shape.read v = some r)
    (hs : v.field? "Settings" = some settings) (hne : settings ≠ .null) :
    VpcRouterSettings.shape.read settings = some r.settings := by
  cases v with
  | object ms =>
    have hread := Shape.IsRecord.joined.ofMembers_of_read h
    simp only [Fields.nested,Fields.ofMembers_next,Option.bind_eq_some_iff,Option.map_eq_some_iff] at hread
    obtain ⟨f,hf,s,hread,rfl⟩ := hread
    rw [Fields.ofMembers,Fields.ofMembers_start,Option.bind_some,Option.map_eq_some_iff] at hf
    obtain ⟨common,-,rfl⟩ := hf
    exact read_of_readField_nested hread hs hne
  | _ => cases hs

/-- Each null among the interfaces that a router is set up with is an empty slot, and each other one has the
slot at its own place. -/
theorem VpcRouter.fills_of_read {v settings router : Json} {items : List Json} {r : VpcRouter}
    (h : VpcRouter.shape.read v = some r) (hs : v.field? "Settings" = some settings)
    (hr : settings.field? "Router" = some router) (hi : router.field? "Interfaces" = some (.array items)) :
    List.Forall₂ Fills items r.settings.router.interfaces := by
  have hsettings := VpcRouter.read_settings h hs (ne_null_of_field? hr)
  have hrouter := VpcRouterSettings.read_router hsettings hr (ne_null_of_field? hi)
  exact RouterSetting.fills_of_read hrouter hi

/-- In every record of the cloud, at any depth, null stands for a missing member and an unknown member for
nothing, so both leave what is read as it is; only the id of a resource and the members that are never null
are left out of this. A raw list in the status of a router counts by its length. A null among the interfaces
of a router is an empty slot: it may stand anywhere, and the others keep their places. -/
theorem records_forgive_null_and_unknown :
    (∀ t ∈ recordTypes, ∀ v v', Alike t.asked t.shape v v' → t.shape.read v = t.shape.read v') ∧
    (∀ (before after : Members) (name : String) (items items' : List Json), name ∈ VpcRouterStatus.rawNames →
      Members.Distinct (before ++ (name,.array items) :: after) → items.length = items'.length →
      (VpcRouterStatus.shape.read (.object (before ++ (name,.array items) :: after))).map VpcRouterStatus.counted =
        (VpcRouterStatus.shape.read (.object (before ++ (name,.array items') :: after))).map
          VpcRouterStatus.counted) ∧
    (∀ (v settings router : Json) (items : List Json) (r : VpcRouter), VpcRouter.shape.read v = some r →
      v.field? "Settings" = some settings → settings.field? "Router" = some router →
      router.field? "Interfaces" = some (.array items) →
      List.Forall₂ Fills items r.settings.router.interfaces) ∧
    ∀ (before after : Members) (items items' : List Json) (v : Json) (r : RouterSetting),
      Members.Distinct (before ++ ("Interfaces",.array (items ++ v :: items')) :: after) →
      RouterSetting.shape.read (.object (before ++ ("Interfaces",.array (items ++ v :: items')) :: after)) = some r →
      RouterSetting.shape.read (.object (before ++ ("Interfaces",.array (items ++ .null :: items')) :: after)) =
        some (r.vacate items.length) := by
  refine ⟨?_,?_,?_,?_⟩
  · intro t ht v v' h
    exact h.read_eq (forgiving_of_mem_recordTypes t ht)
  · intro before after name items items' hname hd hlength
    exact VpcRouterStatus.counted_read_raw hname hd hlength
  · intro v settings router items r h hs hr hi
    exact VpcRouter.fills_of_read h hs hr hi
  · intro before after items items' v r hd h
    exact RouterSetting.read_vacate hd h

/-- A router with two slots, the first of them empty. -/
def routerText (first : Json) : Json :=
  .object [("ID",.int 7),("Settings",.object [("Router",
    .object [("Interfaces",.array [first,.object [("VirtualIPAddress",.string "192.0.2.1")]]),("Uptime",.int 1)])])]

def interfacesText (first : Json) : Members :=
  [("VRID",.int 3),("Interfaces",.array [first,.object [("NetworkMaskLen",.int 24)]])]

/-- A switch without a name inside an interface inside a server, and lists of one length in the status of a
router; and an interface that is taken from a router. -/
theorem records_forgive_null_and_unknown_of_parts :
    (let switched (ms : Members) : Json :=
      .object [("ID",.int 7),("Interfaces",.array [.object [("Switch",.object ms)]])]
    let parts : Members := [("ID",.int 1),("Name",.string "front")]
    Server.shape.read (switched (parts.without "Name")) = Server.shape.read (switched (parts.nulled "Name")) ∧
      (Server.shape.read (switched (parts.nulled "Name"))).isSome) ∧
    (VpcRouterStatus.shape.read (.object [("DHCPServerLeases",.array [.int 1])])).map VpcRouterStatus.counted =
      (VpcRouterStatus.shape.read (.object [("DHCPServerLeases",.array [.null])])).map VpcRouterStatus.counted ∧
    (∃ r, VpcRouter.shape.read (routerText .null) = some r ∧
      r.settings.router.interfaces.map (·.map (·.virtualIpAddress)) = [none,some "192.0.2.1"] ∧
      List.Forall₂ Fills [.null,.object [("VirtualIPAddress",.string "192.0.2.1")]] r.settings.router.interfaces) ∧
    ∃ r, RouterSetting.shape.read (.object (interfacesText (.object []))) = some r ∧
      RouterSetting.shape.read (.object (interfacesText .null)) = some (r.vacate 0) := by
  obtain ⟨hread,hraw,hfills,hvacate⟩ := records_forgive_null_and_unknown
  refine ⟨⟨?_,by decide +kernel⟩,?_,⟨_,rfl,by decide +kernel,?_⟩,_,rfl,?_⟩
  · refine hread ⟨_,Server.shape,["ID"]⟩ List.mem_cons_self _ _ ?_
    have hswitch : Alike [] SwitchRef.shape
        (.object (Members.without "Name" [("ID",.int 1),("Name",.string "front")]))
        (.object (Members.nulled "Name" [("ID",.int 1),("Name",.string "front")])) :=
      .missing .record (by decide) (by decide) (by decide)
    have hinterface : Alike [] Interface.shape
        (.object ([] ++ ("Switch",.object (Members.without "Name" [("ID",.int 1),("Name",.string "front")])) :: []))
        (.object ([] ++ ("Switch",.object (Members.nulled "Name" [("ID",.int 1),("Name",.string "front")])) :: [])) :=
      .member .record .last (by decide) (.optional hswitch)
    exact @Alike.member ["ID"] _ _ _ _ _ _ _ [("ID",.int 7)] [] _ _ .record (.before .last) (by decide)
      (.nullable (@Alike.item [] _ _ [] [] _ _ hinterface))
  · exact hraw [] [] "DHCPServerLeases" [.int 1] [.null] (by decide) (by decide) rfl
  · exact hfills (routerText .null) _ _ _ _ rfl rfl rfl rfl
  · exact hvacate [("VRID",.int 3)] [] [] _ (.object []) _ (by decide) rfl

end Cloud

end CloudMetrics
