import CloudMetrics.Cloud.Resource

/-!
# Routers of private networks

The configured interfaces stand by slot, and an unused slot is null.
-/
namespace CloudMetrics.Cloud

open Json

structure VpcRouterInterface where
  ipAddress : List String := []
  virtualIpAddress : String := ""
  networkMaskLength : String := ""
deriving DecidableEq, Repr, Inhabited

def VpcRouterInterface.shape : Shape VpcRouterInterface :=
  .record (Fields.start VpcRouterInterface.mk |>.list "IPAddress" .string |>.text "VirtualIPAddress"
    |>.text "NetworkMaskLen")

/-- A service that can be switched on. -/
structure EnabledFlag where
  enabled : String := ""
deriving DecidableEq, Repr, Inhabited

def EnabledFlag.shape : Shape EnabledFlag := .record (Fields.start EnabledFlag.mk |>.text "Enabled")

def EnabledFlag.isEnabled (f : EnabledFlag) : Bool := sameIgnoringCase f.enabled "true"

/-- The far end of a site-to-site connection. -/
structure PeerSetting where
  peer : String := ""
  remoteId : String := ""
deriving DecidableEq, Repr, Inhabited

def PeerSetting.shape : Shape PeerSetting :=
  .record (Fields.start PeerSetting.mk |>.text "Peer" |>.text "RemoteID")

structure SiteToSiteSetting where
  peers : List PeerSetting := []
deriving DecidableEq, Repr, Inhabited

def SiteToSiteSetting.shape : Shape SiteToSiteSetting :=
  .record (Fields.start SiteToSiteSetting.mk |>.list "Config" PeerSetting.shape)

structure RouterSetting where
  interfaces : List (Option VpcRouterInterface) := []
  vrid : String := ""
  l2tpServer : Option EnabledFlag := none
  pptpServer : Option EnabledFlag := none
  siteToSite : Option SiteToSiteSetting := none
deriving DecidableEq, Repr, Inhabited

def RouterSetting.shape : Shape RouterSetting :=
  .record (Fields.start RouterSetting.mk |>.list "Interfaces" (.optional VpcRouterInterface.shape)
    |>.text "VRID" |>.optional "L2TPIPsecServer" EnabledFlag.shape
    |>.optional "PPTPServer" EnabledFlag.shape
    |>.optional "SiteToSiteIPsecVPN" SiteToSiteSetting.shape)

structure VpcRouterSettings where
  router : RouterSetting := {}
deriving DecidableEq, Repr, Inhabited

def VpcRouterSettings.shape : Shape VpcRouterSettings :=
  .record (Fields.start VpcRouterSettings.mk |>.nested "Router" {} RouterSetting.shape)

structure VpcRouter where
  common : Appliance
  settings : VpcRouterSettings := {}
deriving DecidableEq, Repr, Inhabited

namespace VpcRouter

def shape : Shape VpcRouter :=
  .joined (Fields.start VpcRouter.mk |>.join Appliance.fields
    |>.nested "Settings" {} VpcRouterSettings.shape)

/-- The names of the plans, by their id. -/
def planNames : List (String × String) :=
  [("1","standard"),("2","premium"),("3","highspec"),("4","highspec4000")]

def planName (r : VpcRouter) : String := (planNames.lookup r.common.plan.id).getD "unknown"

end VpcRouter

structure PeerStatus where
  peer : String := ""
  status : String := ""
deriving DecidableEq, Repr, Inhabited

def PeerStatus.shape : Shape PeerStatus := .record (Fields.start PeerStatus.mk |>.text "Peer" |>.text "Status")

/-- The live status of a router. Of leases and sessions only the number matters. -/
structure VpcRouterStatus where
  dhcpLeases : List Json := []
  l2tpSessions : List Json := []
  pptpSessions : List Json := []
  peers : List PeerStatus := []
  sessionCount : Float := 0
deriving Repr, Inhabited

def VpcRouterStatus.shape : Shape VpcRouterStatus :=
  .record (Fields.start VpcRouterStatus.mk |>.list "DHCPServerLeases" .anything
    |>.list "L2TPIPsecServerSessions" .anything |>.list "PPTPServerSessions" .anything
    |>.list "SiteToSiteIPsecVPNPeers" PeerStatus.shape |>.number "SessionCount")

end CloudMetrics.Cloud
