import CloudMetrics.Cloud.Resource

/-!
# Database appliances
-/
namespace CloudMetrics.Cloud

open Json

/-- The kind of database that runs. -/
structure DatabaseEngine where
  name : String := ""
  version : String := ""
  revision : String := ""
deriving DecidableEq, Repr, Inhabited

def DatabaseEngine.shape : Shape DatabaseEngine :=
  .record (Fields.start DatabaseEngine.mk |>.text "DatabaseName" |>.text "DatabaseVersion"
    |>.text "DatabaseRevision")

structure DatabaseConfRemark where
  common : DatabaseEngine := {}
deriving DecidableEq, Repr, Inhabited

def DatabaseConfRemark.shape : Shape DatabaseConfRemark :=
  .record (Fields.start DatabaseConfRemark.mk |>.nested "Common" {} DatabaseEngine.shape)

structure DatabaseRemark where
  conf : DatabaseConfRemark := {}
deriving DecidableEq, Repr, Inhabited

def DatabaseRemark.shape : Shape DatabaseRemark :=
  .record (Fields.start DatabaseRemark.mk |>.nested "DBConf" {} DatabaseConfRemark.shape)

structure DatabaseCommonSettings where
  /-- A truth value, or the address of the web interface. -/
  webUi : String := ""
  servicePort : String := ""
deriving DecidableEq, Repr, Inhabited

def DatabaseCommonSettings.shape : Shape DatabaseCommonSettings :=
  .record (Fields.start DatabaseCommonSettings.mk |>.text "WebUI" |>.text "ServicePort")

structure DatabaseReplication where
  model : String := ""
deriving DecidableEq, Repr, Inhabited

def DatabaseReplication.shape : Shape DatabaseReplication :=
  .record (Fields.start DatabaseReplication.mk |>.text "Model")

structure DatabaseConfSettings where
  common : DatabaseCommonSettings := {}
  replication : Option DatabaseReplication := none
deriving DecidableEq, Repr, Inhabited

def DatabaseConfSettings.shape : Shape DatabaseConfSettings :=
  .record (Fields.start DatabaseConfSettings.mk |>.nested "Common" {} DatabaseCommonSettings.shape
    |>.optional "Replication" DatabaseReplication.shape)

structure DatabaseSettings where
  conf : DatabaseConfSettings := {}
deriving DecidableEq, Repr, Inhabited

def DatabaseSettings.shape : Shape DatabaseSettings :=
  .record (Fields.start DatabaseSettings.mk |>.nested "DBConf" {} DatabaseConfSettings.shape)

structure Database where
  common : Appliance
  remark : DatabaseRemark := {}
  settings : DatabaseSettings := {}
deriving DecidableEq, Repr, Inhabited

namespace Database

def shape : Shape Database :=
  .joined (Fields.start Database.mk |>.join Appliance.fields |>.nested "Remark" {} DatabaseRemark.shape
    |>.nested "Settings" {} DatabaseSettings.shape)

def engine (d : Database) : DatabaseEngine := d.remark.conf.common

/-- The part that the database has in a replication, if it has one. -/
def replicationRole (d : Database) : String :=
  match d.settings.conf.replication with
  | none => ""
  | some r =>
    if r.model = "Master-Slave" then "master"
    else if r.model = "Async-Replica" then "slave"
    else ""

end Database

end CloudMetrics.Cloud
