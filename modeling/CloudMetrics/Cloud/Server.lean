import CloudMetrics.Cloud.Resource

/-!
# Servers
-/
namespace CloudMetrics.Cloud

open Json

structure ServerPlan where
  cpu : Nat := 0
  memoryMb : Nat := 0
  commitment : String := ""
deriving DecidableEq, Repr, Inhabited

def ServerPlan.shape : Shape ServerPlan :=
  .record (Fields.start ServerPlan.mk |>.strict "CPU" 0 (.natural (Nat.pow 2 32))
    |>.strict "MemoryMB" 0 (.natural (Nat.pow 2 64)) |>.text "Commitment")

structure ServerDisk where
  id : String := ""
  name : String := ""
  sizeMb : Nat := 0
  plan : NamedRef := {}
  connection : String := ""
deriving DecidableEq, Repr, Inhabited

def ServerDisk.shape : Shape ServerDisk :=
  .record (Fields.start ServerDisk.mk |>.text "ID" |>.text "Name" |>.strict "SizeMB" 0 (.natural (Nat.pow 2 64))
    |>.nested "Plan" {} NamedRef.shape |>.text "Connection")

structure Server where
  id : String
  name : String := ""
  description : String := ""
  tags : List String := []
  availability : String := ""
  plan : ServerPlan := {}
  state : Instance := {}
  interfaces : List Interface := []
  disks : List ServerDisk := []
deriving DecidableEq, Repr, Inhabited

def Server.shape : Shape Server :=
  .record (Fields.start Server.mk |>.requiredText "ID" |>.text "Name" |>.text "Description"
    |>.list "Tags" .string |>.text "Availability" |>.nested "ServerPlan" {} ServerPlan.shape
    |>.nested "Instance" {} Instance.shape |>.list "Interfaces" Interface.shape
    |>.list "Disks" ServerDisk.shape)

def Server.isUp (s : Server) : Bool := s.state.isUp

end CloudMetrics.Cloud
