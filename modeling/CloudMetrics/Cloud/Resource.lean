import CloudMetrics.Json.Shape

/-!
# Parts of cloud resources

What servers and appliances have in common: references by id and name, the running instance, network
interfaces, and the record that every appliance starts with. Ids and counts come as numbers or as
text, and null stands for a missing member.
-/
namespace CloudMetrics.Cloud

open Json

/-- A reference to a zone, a host, a plan or a switch. -/
structure NamedRef where
  id : String := ""
  name : String := ""
deriving DecidableEq, Repr, Inhabited

def NamedRef.shape : Shape NamedRef :=
  .record (Fields.start NamedRef.mk |>.text "ID" |>.text "Name")

structure Instance where
  status : String := ""
  host : NamedRef := {}
deriving DecidableEq, Repr, Inhabited

def Instance.shape : Shape Instance :=
  .record (Fields.start Instance.mk |>.text "Status" |>.nested "Host" {} NamedRef.shape)

def Instance.isUp (i : Instance) : Bool := i.status == "up"

structure SwitchRef where
  id : String := ""
  name : String := ""
  scope : String := ""
deriving DecidableEq, Repr, Inhabited

def SwitchRef.shape : Shape SwitchRef :=
  .record (Fields.start SwitchRef.mk |>.text "ID" |>.text "Name" |>.text "Scope")

/-- A network interface. -/
structure Interface where
  id : String := ""
  macAddress : String := ""
  ipAddress : String := ""
  userIpAddress : String := ""
  switch : Option SwitchRef := none
deriving DecidableEq, Repr, Inhabited

namespace Interface

def shape : Shape Interface :=
  .record (Fields.start Interface.mk |>.text "ID" |>.text "MACAddress" |>.text "IPAddress"
    |>.text "UserIPAddress" |>.optional "Switch" SwitchRef.shape)

/-- What the interface is connected to. -/
def connection (i : Interface) : String :=
  match i.switch with
  | none => "disconnected"
  | some s => if s.scope = "shared" then "shared" else "switch"

/-- The address given to the interface, otherwise the one that its user set. -/
def address (i : Interface) : String := if i.ipAddress = "" then i.userIpAddress else i.ipAddress

end Interface

/-- What every appliance starts with. -/
structure Appliance where
  id : String
  name : String := ""
  description : String := ""
  tags : List String := []
  availability : String := ""
  plan : NamedRef := {}
  state : Instance := {}
  interfaces : List Interface := []
deriving DecidableEq, Repr, Inhabited

def Appliance.fields : Fields Appliance :=
  Fields.start Appliance.mk |>.requiredText "ID" |>.text "Name" |>.text "Description"
    |>.list "Tags" .string |>.text "Availability" |>.nested "Plan" {} NamedRef.shape
    |>.nested "Instance" {} Instance.shape |>.list "Interfaces" Interface.shape

def Appliance.isUp (a : Appliance) : Bool := a.state.isUp

/-- The address of the first interface. -/
def Appliance.firstAddress (a : Appliance) : String := (a.interfaces.head?.map Interface.address).getD ""

/-- Two texts that differ at most in the case of their ASCII letters. -/
def sameIgnoringCase (a b : String) : Bool := a.toList.map Char.toLower == b.toList.map Char.toLower

end CloudMetrics.Cloud
