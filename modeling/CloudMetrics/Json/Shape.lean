import CloudMetrics.Decimal.Layout
import CloudMetrics.Decimal.Reader
import CloudMetrics.Json.Value
import CloudMetrics.Text.Blank

/-!
# Shapes of JSON values

A shape says what a value is read as: a scalar, a list, a record with named members. Shapes are data,
so that a law about reading is one induction over them. Records ignore members they do not know, and
each known member says what its absence means.
-/
namespace CloudMetrics.Json

mutual
inductive Shape : Type → Type 1 where
  | leaf {α : Type} (read : Json → Option α) : Shape α
  | list {α : Type} (item : Shape α) : Shape (List α)
  /-- Null stands for a fixed value. -/
  | nullable {α : Type} (whenNull : α) (shape : Shape α) : Shape α
  /-- Null stands for nothing. -/
  | optional {α : Type} (shape : Shape α) : Shape (Option α)
  /-- An object, or the list of the members' values in their order. -/
  | record {α : Type} (fields : Fields α) : Shape α
  /-- An object whose members belong together with those of another record, never a list. -/
  | joined {α : Type} (fields : Fields α) : Shape α
  /-- An object with free names; the last member of a name counts. -/
  | entries {α : Type} (value : Shape α) : Shape (List (String × α))

inductive Fields : Type → Type 1 where
  | start {α : Type} (a : α) : Fields α
  /-- One more member, and its value when it is missing. -/
  | next {α β : Type} (before : Fields (α → β)) (name : String) (absent : Option α) (shape : Shape α) :
      Fields β
  /-- The members of another record among one's own. -/
  | join {α β : Type} (before : Fields (α → β)) (inner : Fields α) : Fields β
end

/-- The names of the members, in their order. -/
def Fields.names {α : Type} : Fields α → List String
  | .start _ => []
  | .next before name _ _ => before.names ++ [name]
  | .join before inner => before.names ++ inner.names

/-- A record that names a known member twice is refused. -/
def repeatsKnown (names : List String) (members : List (String × Json)) : Bool :=
  names.any fun n => 1 < (members.filter fun m => m.1 == n).length

def traverse {α β : Type} (f : α → Option β) : List α → Option (List β)
  | [] => some []
  | a :: r => (f a).bind fun b => (traverse f r).map (b :: ·)

mutual
/-- The value that a JSON value is read as. -/
def Shape.read {α : Type} : Shape α → Json → Option α
  | .leaf read, v => read v
  | .list item, v =>
    match v with
    | array vs => traverse item.read vs
    | _ => none
  | .nullable whenNull shape, v =>
    match v with
    | null => some whenNull
    | v => shape.read v
  | .optional shape, v =>
    match v with
    | null => some none
    | v => (shape.read v).map some
  | .record fields, v =>
    match v with
    | object members => if repeatsKnown fields.names members then none else fields.ofMembers members
    | array vs => (fields.ofItems vs).bind fun r => if r.2.isEmpty then some r.1 else none
    | _ => none
  | .joined fields, v =>
    match v with
    | object members => fields.ofMembers members
    | _ => none
  | .entries value, v =>
    match v with
    | object members => (traverse (fun m : String × Json => (value.read m.2).map fun a => (m.1,a)) members).map lastOfEach
    | _ => none

/-- A record from named members. -/
def Fields.ofMembers {α : Type} : Fields α → List (String × Json) → Option α
  | .start a, _ => some a
  | .next before name absent shape, members =>
    (before.ofMembers members).bind fun f =>
      match member? name members with
      | some v => (shape.read v).map f
      | none => absent.map f
  | .join before inner, members =>
    (before.ofMembers members).bind fun f => (inner.ofMembers members).map f

/-- A record from the front of a list of values, and the values left over. -/
def Fields.ofItems {α : Type} : Fields α → List Json → Option (α × List Json)
  | .start a, vs => some (a,vs)
  | .next before _ absent shape, vs =>
    (before.ofItems vs).bind fun r =>
      match r.2 with
      | v :: vs => (shape.read v).map fun a => (r.1 a,vs)
      | [] => absent.map fun a => (r.1 a,[])
  | .join before inner, vs =>
    (before.ofItems vs).bind fun r => (inner.ofItems r.2).map fun q => (r.1 q.1,q.2)
end

def greatestInt : Int := 9223372036854775807

/-- Strings, numbers and truth values as text, null as the empty text. Integers keep their digits up
to `2^63-1`; beyond, they are doubles. -/
def readText : Json → Option String
  | null => some ""
  | string s => some s
  | int n => some (if n ≤ greatestInt then toString n else Decimal.text (Float.ofInt n))
  | float x => some (Decimal.text x)
  | bool b => some (toString b)
  | _ => none

/-- Numbers, numeric strings and truth values as a double, null and blank strings as zero. -/
def readNumeric : Json → Option Float
  | null => some 0
  | int n => some (Float.ofInt n)
  | float x => some x
  | bool b => some (if b then 1 else 0)
  | string s => let t := Text.trim s; if t = "" then some 0 else Decimal.read? t
  | _ => none

def readString? : Json → Option String
  | string s => some s
  | _ => none

def readBool? : Json → Option Bool
  | bool b => some b
  | _ => none

/-- An integer from zero up to a bound. -/
def readNat? (bound : Nat) : Json → Option Nat
  | int n => if 0 ≤ n ∧ n < bound then some n.toNat else none
  | _ => none

/-- A number as a double. -/
def readFloat? : Json → Option Float
  | int n => some (Float.ofInt n)
  | float x => some x
  | _ => none

namespace Shape

def text : Shape String := .leaf readText
def number : Shape Float := .leaf readNumeric
def string : Shape String := .leaf readString?
def flag : Shape Bool := .leaf readBool?
def natural (bound : Nat) : Shape Nat := .leaf (readNat? bound)
def double : Shape Float := .leaf readFloat?
def anything : Shape Json := .leaf some

end Shape

namespace Fields

variable {α β : Type}

/-- A lenient text, empty when missing. -/
def text (before : Fields (String → β)) (name : String) : Fields β := before.next name (some "") .text

/-- A lenient text that has to be there. -/
def requiredText (before : Fields (String → β)) (name : String) : Fields β := before.next name none .text

/-- A lenient number, zero when missing. -/
def number (before : Fields (Float → β)) (name : String) : Fields β := before.next name (some 0) .number

/-- A double that has to be there. -/
def exact (before : Fields (Float → β)) (name : String) : Fields β := before.next name none .double

/-- A list, empty when missing or null. -/
def list (before : Fields (List α → β)) (name : String) (item : Shape α) : Fields β :=
  before.next name (some []) (.nullable [] (.list item))

/-- A record, its default when missing or null. -/
def nested (before : Fields (α → β)) (name : String) (whenNull : α) (shape : Shape α) : Fields β :=
  before.next name (some whenNull) (.nullable whenNull shape)

/-- Something that may be missing or null. -/
def optional (before : Fields (Option α → β)) (name : String) (shape : Shape α) : Fields β :=
  before.next name (some none) (.optional shape)

/-- A value of its own type, a default when missing, never null. -/
def strict (before : Fields (α → β)) (name : String) (absent : α) (shape : Shape α) : Fields β :=
  before.next name (some absent) shape

end Fields

end CloudMetrics.Json
