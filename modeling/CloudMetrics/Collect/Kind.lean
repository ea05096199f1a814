import CloudMetrics.Collect.AutoBackups
import CloudMetrics.Collect.Billing
import CloudMetrics.Collect.Databases
import CloudMetrics.Collect.FileServers
import CloudMetrics.Collect.Internets
import CloudMetrics.Collect.LoadBalancers
import CloudMetrics.Collect.ProxyLbs
import CloudMetrics.Collect.Servers
import CloudMetrics.Collect.VpcRouters

/-!
# Kinds of resources

Ten kinds, each with a name and a collection of its own. Eight of them list resources; bills and
coupons come through caches that outlive a single run.
-/
namespace CloudMetrics.Collect

open Cloud Metrics Time

inductive Kind where
  | server | database | loadBalancer | vpcRouter | nfs | internet | autoBackup | proxyLb | bill | coupon
deriving DecidableEq, Repr

namespace Kind

/-- All kinds, in the order in which they are set up. -/
def all : List Kind :=
  [.server,.database,.loadBalancer,.vpcRouter,.nfs,.internet,.autoBackup,.proxyLb,.bill,.coupon]

def name : Kind → String
  | .server => "server"
  | .database => "database"
  | .loadBalancer => "loadbalancer"
  | .vpcRouter => "vpc_router"
  | .nfs => "nfs"
  | .internet => "internet"
  | .autoBackup => "auto_backup"
  | .proxyLb => "proxylb"
  | .bill => "bill"
  | .coupon => "coupon"

def ofName? (s : String) : Option Kind := all.find? fun k => k.name == s

def isKnown (s : String) : Bool := (ofName? s).isSome

/-- The kinds that are set up, one after the other; a disabled one is left out. -/
def enabled (disabled : List String) : List Kind :=
  let setUp (k : Kind) : List Kind := if disabled.any (· == k.name) then [] else [k]
  setUp .server ++ setUp .database ++ setUp .loadBalancer ++ setUp .vpcRouter ++ setUp .nfs
    ++ setUp .internet ++ setUp .autoBackup ++ setUp .proxyLb ++ setUp .bill ++ setUp .coupon

theorem mem_all (k : Kind) : k ∈ all := by cases k <;> decide

theorem name_injective {a b : Kind} : a.name = b.name → a = b := by
  cases a <;> cases b <;> decide

end Kind

/-- The caches of account data. -/
structure Caches where
  bills : Slot (List Bill) := none
  coupons : Slot (List Coupon) := none

/-- What a collection of any kind is given. -/
structure Setting where
  context : Context
  account : String
  now : Instant
  api : Api

/-- One collection of a kind, and the caches afterwards. -/
def Kind.collect (k : Kind) (s : Setting) (schedule : Schedule) (caches : Caches) : Run Caches :=
  let listed (collect : Context → Schedule → Api → Run Unit) : Run Caches := do
    collect s.context schedule s.api
    return caches
  match k with
  | .server => listed Servers.collect
  | .database => listed Databases.collect
  | .loadBalancer => listed LoadBalancers.collect
  | .vpcRouter => listed VpcRouters.collect
  | .nfs => listed FileServers.collect
  | .internet => listed Internets.collect
  | .autoBackup => listed AutoBackups.collect
  | .proxyLb => listed ProxyLbs.collect
  | .bill => do
    return { caches with bills := ← Bills.collect s.context s.account s.now s.api caches.bills }
  | .coupon => do
    return { caches with coupons := ← Coupons.collect s.context s.account s.now s.api caches.coupons }

end CloudMetrics.Collect
