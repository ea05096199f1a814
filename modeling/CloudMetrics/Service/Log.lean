import CloudMetrics.Collect.Run

/-!
# Log events

The events that the service logs, as named texts.
-/
namespace CloudMetrics.Service

open Collect

inductive LogEvent where
  | started (version account : String) (zones : List String)
  | stopped (reason : String)
  | collectionFailed (collector stage subject error : String)
deriving DecidableEq, Repr

namespace LogEvent

/-- The failure of a collection as an event. -/
def ofFailure (e : Event) : LogEvent := .collectionFailed e.collector e.stage e.subject e.failure.text

/-- The fields of an event, logged by an instance. -/
def fields (source : String) : LogEvent → List (String × String)
  | .started version account zones =>
    [("message","sakuracloud-exporter started"),("event","exporter_started"),("instance",source),
      ("exporter_version",version),("account_id",account),("zones",String.intercalate "," zones)]
  | .stopped reason =>
    [("message","sakuracloud-exporter shutting down"),("event","exporter_shutdown"),("instance",source),
      ("reason",reason)]
  | .collectionFailed collector stage subject error =>
    [("message","Collection failed"),("event","collection_failed"),("instance",source),
      ("collector",collector),("stage",stage),("subject",subject),("error",error)]

end LogEvent

end CloudMetrics.Service
