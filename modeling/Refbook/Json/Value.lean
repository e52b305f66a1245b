namespace Refbook

/-!
# JSON values

Documents, records and dict schemes travel as JSON.  A number is a whole
number that fits in 64 bits, or else a double; an object keeps its keys in
the order they were first written.
-/

/-- A JSON number: a whole number from `-2^63` to `2^64 - 1`, or a double. -/
inductive JsonNumber where
  | nat (n : Nat)
  | neg (n : Int)
  | float (f : Float)
  deriving Repr, Inhabited

/-- A JSON value. -/
inductive Json where
  | null
  | bool (b : Bool)
  | number (n : JsonNumber)
  | string (s : String)
  | array (items : List Json)
  | object (fields : List (String × Json))
  deriving Repr, Inhabited

namespace JsonNumber

/-- A whole number as a JSON number; out of the 64-bit range it is a double. -/
def ofInt (n : Int) : JsonNumber :=
  if 0 ≤ n then
    if n < Int.pow 2 64 then .nat n.toNat else .float (Float.ofNat n.toNat)
  else if -(Int.pow 2 63) ≤ n then .neg n
  else .float (-(Float.ofNat n.natAbs))

/-- The number as a whole number, when it is one of the 64-bit signed range. -/
def toInt? : JsonNumber -> Option Int
  | nat n => if n < Nat.pow 2 63 then some n else none
  | neg n => some n
  | float _ => none

/-- Numbers are equal when both are whole and equal, or both doubles and
equal as doubles. -/
def beq : JsonNumber -> JsonNumber -> Bool
  | nat a, nat b => a == b
  | neg a, neg b => a == b
  | float a, float b => a == b
  | _, _ => false

instance : BEq JsonNumber := ⟨beq⟩

end JsonNumber

namespace Json

/-- Structural equality; object fields are compared as sets of entries. -/
def beq : Json -> Json -> Bool
  | null, null => true
  | bool a, bool b => a == b
  | number a, number b => a == b
  | string a, string b => a == b
  | array as, array bs => beqList as bs
  | object as, object bs => as.length == bs.length && beqFields as bs bs
  | _, _ => false
where
  beqList : List Json -> List Json -> Bool
    | [], [] => true
    | a :: as, b :: bs => beq a b && beqList as bs
    | _, _ => false
  beqFields : List (String × Json) -> List (String × Json) -> List (String × Json) -> Bool
    | [], _, _ => true
    | (key, value) :: rest, others, all =>
      lookupBeq key value all && beqFields rest others all
  lookupBeq : String -> Json -> List (String × Json) -> Bool
    | _, _, [] => false
    | key, value, (key', value') :: rest =>
      if key == key' then beq value value' else lookupBeq key value rest

instance : BEq Json := ⟨beq⟩

/-- The value of a key of an object. -/
def get? (json : Json) (key : String) : Option Json :=
  match json with
  | object fields => fields.lookup key
  | _ => none

/-- The text of a string value. -/
def str? : Json -> Option String
  | string s => some s
  | _ => none

/-- The entries of an object. -/
def fields? : Json -> Option (List (String × Json))
  | object fields => some fields
  | _ => none

/-- A whole number in the signed 64-bit range. -/
def int? : Json -> Option Int
  | number n => n.toInt?
  | _ => none

def ofInt (n : Int) : Json :=
  number (JsonNumber.ofInt n)

def ofNat (n : Nat) : Json :=
  number (JsonNumber.ofInt n)

/-- A string, or null. -/
def ofOption : Option String -> Json
  | some s => string s
  | none => null

end Json

namespace Fields

/-- Set a key: an existing key keeps its place, a new one goes last. -/
def set (fields : List (String × Json)) (key : String) (value : Json) : List (String × Json) :=
  if fields.any (fun entry => entry.1 == key) then
    fields.map fun entry => if entry.1 == key then (key, value) else entry
  else fields ++ [(key, value)]

/-- Remove a key; the last entry takes its place, so other keys keep their
places except the last one. -/
def swapRemove (fields : List (String × Json)) (key : String) : List (String × Json) :=
  match fields.findIdx? (fun entry => entry.1 == key) with
  | none => fields
  | some i =>
    if i + 1 = fields.length then fields.dropLast
    else
      match fields.getLast? with
      | some last => (fields.set i last).dropLast
      | none => fields

/-- Remove a key, keeping the order of the others. -/
def shiftRemove (fields : List (String × Json)) (key : String) : List (String × Json) :=
  fields.filter fun entry => entry.1 != key

end Fields

end Refbook

namespace Refbook
namespace Json

mutual

/-- How deeply arrays and objects nest in a value. -/
def depth : Json -> Nat
  | array items => depthItems items + 1
  | object fields => depthFields fields + 1
  | _ => 0

def depthItems : List Json -> Nat
  | [] => 0
  | item :: items => max (depth item) (depthItems items)

def depthFields : List (String × Json) -> Nat
  | [] => 0
  | (_, value) :: fields => max (depth value) (depthFields fields)

end

end Json
end Refbook
