import ModelSchema.Number.Binary64
import ModelSchema.OrderedMap

/-!
# JSON values

A JSON number is an integer or a finite double, and the two are told apart: `18` and `18.0` are
different values.  An object keeps its members in order.
-/

namespace ModelSchema

/-- A JSON number: written as an integer, or a double. -/
inductive Number where
  | int (value : Int)
  | float (value : Binary64)
deriving DecidableEq

instance : Inhabited Number := ⟨.int 0⟩

namespace Number

/-- The exact value, as a count of units of `2 ^ (-1074)`. -/
def units : Number → Int
  | .int n => n * Binary64.unitsOfOne
  | .float x => x.units

/-- The nearest double. -/
def toBinary64 : Number → Binary64
  | .int n => .ofInt n
  | .float x => x

/-- Equality of numbers as JSON values: an integer never equals a double, and the two zeros of
the doubles are equal. -/
def same : Number → Number → Bool
  | .int m, .int n => m == n
  | .float x, .float y => x.units == y.units
  | _, _ => false

end Number

/-- A JSON value. -/
inductive Json where
  | null
  | bool (value : Bool)
  | number (value : Number)
  | string (value : String)
  | array (items : List Json)
  | object (members : List (String × Json))
deriving Inhabited

namespace Json

/-- The members of an object, in order. -/
abbrev Members := OrderedMap Json

/-- An integer as a value. -/
def int (n : Int) : Json := .number (.int n)

/-- The six types that a value can have. -/
inductive ValueType where
  | null | boolean | number | string | array | object
deriving DecidableEq

/-- The name of a type in messages. -/
def ValueType.name : ValueType → String
  | .null => "null"
  | .boolean => "boolean"
  | .number => "number"
  | .string => "string"
  | .array => "array"
  | .object => "object"

/-- The type of a value. -/
def valueType : Json → ValueType
  | .null => .null
  | .bool _ => .boolean
  | .number _ => .number
  | .string _ => .string
  | .array _ => .array
  | .object _ => .object

/-- The member of an object with a name. -/
def member? : Json → String → Option Json
  | .object members, name => OrderedMap.value? members name
  | _, _ => none

mutual

/-- Equality of values: members are compared by name, whatever their order. -/
def same : Json → Json → Bool
  | .null, .null => true
  | .bool a, .bool b => a == b
  | .number a, .number b => a.same b
  | .string a, .string b => a == b
  | .array a, .array b => sameItems a b
  | .object a, .object b => a.length == b.length && sameMembers a b
  | _, _ => false

/-- Equality of lists of values, item by item. -/
def sameItems : List Json → List Json → Bool
  | [], [] => true
  | a :: as, b :: bs => same a b && sameItems as bs
  | _, _ => false

/-- Whether each member of a list has an equal partner of its name. -/
def sameMembers : List (String × Json) → List (String × Json) → Bool
  | [], _ => true
  | (name, a) :: rest, others =>
    (match OrderedMap.value? others name with
      | some b => same a b
      | none => false) && sameMembers rest others

end

mutual

/-- The value in which a repeated member name keeps its first place and its last value. -/
def collapse : Json → Json
  | .array items => .array (collapseItems items)
  | .object members => .object (collapseMembers [] members)
  | other => other

/-- `collapse` of each item. -/
def collapseItems : List Json → List Json
  | [] => []
  | item :: rest => collapse item :: collapseItems rest

/-- Writes collapsed members one after another into an object. -/
def collapseMembers (written : List (String × Json)) : List (String × Json) → List (String × Json)
  | [] => written
  | (name, value) :: rest => collapseMembers (OrderedMap.put written name (collapse value)) rest

end

end Json

end ModelSchema
