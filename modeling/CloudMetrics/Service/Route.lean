import CloudMetrics.Text.Scan

/-!
# Routes

The service answers at three paths of its own and at the path of the metrics. That one is a pattern: in
a segment, a colon stands before the name of any text, and a star before the name of all that is left
of a path. The three paths go before the pattern, and one of them with a slash behind it is not looked
for among the wildcards.
-/
namespace CloudMetrics.Service

open Text

inductive Page where
  | landing | health | readiness | metrics
deriving DecidableEq, Repr

/-- The paths that are taken by the service itself. -/
def ownRoutes : List (String × Page) := [("/",.landing),("/healthz",.health),("/readyz",.readiness)]

/-- One segment of a pattern. -/
inductive Segment where
  /-- This text. -/
  | exact (text : List Char)
  /-- This text and any other after it; in the last segment of a path, at least one more character. -/
  | param (lead : List Char)
  /-- This text and at least one more character, slashes among them. -/
  | tail (lead : List Char)
deriving DecidableEq, Repr

/-- Why a path cannot be a route. -/
inductive RouteError where
  | noLeadingSlash
  /-- One of the service's own paths. -/
  | taken
  /-- Two wildcards in one segment. -/
  | crowdedSegment
  | unnamedWildcard
  /-- A wildcard for the rest of the path before its end, or after other text. -/
  | misplacedTail
  | tooManyParams
deriving DecidableEq, Repr

namespace Segment

def isMark (c : Char) : Bool := c = ':' || c = '*'

def isTail : Segment → Bool
  | .tail _ => true
  | _ => false

def isParam : Segment → Bool
  | .param _ => true
  | _ => false

/-- Reads the text between two slashes. -/
def read (s : List Char) : Except RouteError Segment :=
  let lead := s.takeWhile fun c => !isMark c
  match s.dropWhile fun c => !isMark c with
  | [] => .ok (.exact s)
  | mark :: name =>
    if name.any isMark then .error .crowdedSegment
    else if name.isEmpty then .error .unnamedWildcard
    else .ok (if mark = ':' then .param lead else .tail lead)

end Segment

/-- The segments between the slashes of a path, the empty one before the first slash among them. -/
def segments (path : List Char) : List (List Char) := splitBy (· = '/') path

abbrev Pattern := List Segment

namespace Pattern

/-- The most wildcards of one segment each. -/
def maxParams : Nat := 25

/-- Whether the rest of a path may be taken here: after a slash, or where the service's own paths have
the text before the star in common. -/
def tailFits (path lead : List Char) : Bool :=
  lead.isEmpty || ownRoutes.any fun r => (path.takeWhile (· ≠ '*')).isPrefixOf r.1.toList

/-- The pattern that a path writes. -/
def read (path : String) : Except RouteError Pattern := do
  if path.toList.head? ≠ some '/' then throw .noLeadingSlash
  if (ownRoutes.lookup path).isSome then throw .taken
  let parts ← (segments path.toList).mapM Segment.read
  if maxParams < parts.countP Segment.isParam then throw .tooManyParams
  if parts.dropLast.any Segment.isTail then throw .misplacedTail
  match parts.getLast? with
  | some (.tail lead) => if tailFits path.toList lead then return parts else throw .misplacedTail
  | _ => return parts

/-- Whether the segments of a path follow a pattern. -/
def follows : Pattern → List (List Char) → Bool
  | [], [] => true
  | [.tail lead], s :: ss => lead.isPrefixOf s && (decide (lead.length < s.length) || !ss.isEmpty)
  | .exact text :: ps, s :: ss => text == s && follows ps ss
  | .param lead :: ps, s :: ss =>
    lead.isPrefixOf s && (decide (lead.length < s.length) || !ss.isEmpty) && follows ps ss
  | _, _ => false

/-- The text before the first wildcard, if there is one. -/
def stem? : Pattern → Option (List Char)
  | [] => none
  | .exact text :: ps => (stem? ps).map fun s => text ++ '/' :: s
  | .param lead :: _ | .tail lead :: _ => some lead

/-- Whether a path is one of the service's own with a slash behind it, where the own path goes on from
the text before the first wildcard. -/
def isShadowed (p : Pattern) (path : List Char) : Bool :=
  p.stem?.any fun stem =>
    ownRoutes.any fun r => path = r.1.toList ++ ['/'] && stem ≠ r.1.toList && stem.isPrefixOf r.1.toList

/-- Whether the metrics are at a path. -/
def leadsTo (p : Pattern) (path : List Char) : Bool := p.follows (segments path) && !p.isShadowed path

end Pattern

/-- The path of a request target: what stands before a question mark or a number sign. -/
def pathOf (target : String) : String := String.ofList (target.toList.takeWhile fun c => c ≠ '?' && c ≠ '#')

/-- The page at a request target, when the metrics follow a pattern. -/
def pageAt? (metrics : Pattern) (target : String) : Option Page :=
  (ownRoutes.lookup (pathOf target)).or
    (if metrics.leadsTo (pathOf target).toList then some .metrics else none)

end CloudMetrics.Service
