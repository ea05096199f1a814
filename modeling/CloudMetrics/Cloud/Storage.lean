import CloudMetrics.Cloud.Resource
import CloudMetrics.Time.Timestamp

/-!
# Storage

File server appliances, schedules of automatic backups, and the archives that they leave.
-/
namespace CloudMetrics.Cloud

open Json Time

/-- A file server appliance. -/
structure Nfs where
  common : Appliance
deriving DecidableEq, Repr, Inhabited

def Nfs.shape : Shape Nfs := .joined (Fields.start Nfs.mk |>.join Appliance.fields)

structure AutoBackupSpec where
  weekdays : List String := []
  maximumArchives : String := ""
deriving DecidableEq, Repr, Inhabited

def AutoBackupSpec.shape : Shape AutoBackupSpec :=
  .record (Fields.start AutoBackupSpec.mk |>.list "BackupSpanWeekdays" .string
    |>.text "MaximumNumberOfArchives")

structure AutoBackupSettings where
  spec : AutoBackupSpec := {}
deriving DecidableEq, Repr, Inhabited

def AutoBackupSettings.shape : Shape AutoBackupSettings :=
  .record (Fields.start AutoBackupSettings.mk |>.nested "Autobackup" {} AutoBackupSpec.shape)

structure AutoBackupStatus where
  diskId : String := ""
  zoneName : String := ""
deriving DecidableEq, Repr, Inhabited

def AutoBackupStatus.shape : Shape AutoBackupStatus :=
  .record (Fields.start AutoBackupStatus.mk |>.text "DiskId" |>.text "ZoneName")

/-- The backup schedule of one disk. -/
structure AutoBackup where
  id : String
  name : String := ""
  description : String := ""
  tags : List String := []
  settings : AutoBackupSettings := {}
  status : AutoBackupStatus := {}
deriving DecidableEq, Repr, Inhabited

def AutoBackup.shape : Shape AutoBackup :=
  .record (Fields.start AutoBackup.mk |>.requiredText "ID" |>.text "Name" |>.text "Description"
    |>.list "Tags" .string |>.nested "Settings" {} AutoBackupSettings.shape
    |>.nested "Status" {} AutoBackupStatus.shape)

/-- A date inside a record. -/
def dateShape : Shape Instant := .leaf fun v => (readString? v).bind Instant.ofLenient?

/-- A copy of a disk. -/
structure Archive where
  id : String
  name : String := ""
  description : String := ""
  tags : List String := []
  sizeMb : Nat := 0
  createdAt : Option Instant := none
deriving DecidableEq, Repr, Inhabited

def Archive.shape : Shape Archive :=
  .record (Fields.start Archive.mk |>.requiredText "ID" |>.text "Name" |>.text "Description"
    |>.list "Tags" .string |>.strict "SizeMB" 0 (.natural (Nat.pow 2 64)) |>.optional "CreatedAt" dateShape)

end CloudMetrics.Cloud
