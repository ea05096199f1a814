/-!
# JSON values

Members of an object are kept in order. Integers are those from `-2^63` up to `2^64-1`; every other
number is a double.
-/
namespace CloudMetrics

inductive Json where
  | null
  | bool (b : Bool)
  | int (n : Int)
  | float (x : Float)
  | string (s : String)
  | array (items : List Json)
  | object (members : List (String × Json))
  /-- Well formed text without a value: a number beyond the doubles, a string (or an object with a
  key) that is no text. -/
  | unreadable
deriving Inhabited, Repr

namespace Json

/-- Replaces a member, or appends it. -/
def put {α : Type} (key : String) (value : α) : List (String × α) → List (String × α)
  | [] => [(key,value)]
  | m :: r => if m.1 = key then (key,value) :: r else m :: put key value r

theorem lookup_cons {α : Type} (key : String) (m : String × α) (r : List (String × α)) :
    (m :: r).lookup key = if key = m.1 then some m.2 else r.lookup key := by
  rw [List.lookup_cons]
  by_cases h : key = m.1
  · rw [if_pos h,beq_iff_eq.mpr h]
  · rw [if_neg h,beq_eq_false_iff_ne.mpr h]

theorem lookup_put {α : Type} (key key' : String) (value : α) (members : List (String × α)) :
    (put key value members).lookup key' = if key' = key then some value else members.lookup key' := by
  induction members with
  | nil => rw [put,lookup_cons]
  | cons m r ih =>
    rw [put]
    split
    · next hm =>
      rw [lookup_cons,lookup_cons,hm]
      by_cases h : key' = key
      · rw [if_pos h,if_pos h]
      · rw [if_neg h,if_neg h,if_neg h]
    · next hm =>
      rw [lookup_cons,lookup_cons,ih]
      by_cases h : key' = m.1
      · have hk : key' ≠ key := fun hk => hm (h.symm.trans hk)
        rw [if_pos h,if_neg hk,if_pos h]
      · rw [if_neg h,if_neg h]

/-- The members with only the last of each key. -/
def lastOfEach {α : Type} (members : List (String × α)) : List (String × α) :=
  members.foldl (fun acc m => put m.1 m.2 acc) []

/-- The first member of a name. -/
def member? (name : String) (members : List (String × Json)) : Option Json := members.lookup name

/-- A member of an object; other values have none. -/
def field? (name : String) : Json → Option Json
  | object members => member? name members
  | _ => none

end Json

end CloudMetrics
