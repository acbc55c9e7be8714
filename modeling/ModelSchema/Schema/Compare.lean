import ModelSchema.Json.Basic

/-!
# Comparing schemas

Two schemas describe the same shape if they are equal up to the order of members, and up to the
order of the items of arrays that stand under `required` and `oneOf`.
-/

namespace ModelSchema

/-- Takes the first item that passes a test out of a list. -/
def takeFirst? {α : Type} (test : α → Bool) : List α → Option (List α)
  | [] => none
  | a :: rest => if test a then some rest else (takeFirst? test rest).map (a :: ·)

namespace Json

/-- The names under which the order of array items has no meaning. -/
def isUnorderedKey (key : String) : Bool := key == "required" || key == "oneOf"

mutual

/-- Whether two schemas describe the same shape. -/
def sameShape : Json → Json → Bool
  | .object a, .object b => a.length == b.length && sameShapeMembers a b
  | .array a, .array b => sameShapeItems a b
  | .null, .null => true
  | .bool a, .bool b => a == b
  | .number a, .number b => a.same b
  | .string a, .string b => a == b
  | _, _ => false

/-- Arrays whose items correspond one by one. -/
def sameShapeItems : List Json → List Json → Bool
  | [], [] => true
  | a :: as, b :: bs => sameShape a b && sameShapeItems as bs
  | _, _ => false

/-- Whether each member has a corresponding one of its name among others. -/
def sameShapeMembers : List (String × Json) → List (String × Json) → Bool
  | [], _ => true
  | (key, a) :: rest, others =>
    (match OrderedMap.value? others key with
      | some b => if isUnorderedKey key then sameUnordered a b else sameShape a b
      | none => false) && sameShapeMembers rest others

/-- Values under a name that gives order no meaning. -/
def sameUnordered : Json → Json → Bool
  | .array a, .array b => a.length == b.length && matchItems a b
  | .object a, .object b => a.length == b.length && sameShapeMembers a b
  | .null, .null => true
  | .bool a, .bool b => a == b
  | .number a, .number b => a.same b
  | .string a, .string b => a == b
  | _, _ => false

/-- Gives each item the first corresponding one that no item before it took. -/
def matchItems : List Json → List Json → Bool
  | [], _ => true
  | a :: as, others =>
    match takeFirst? (fun b => sameShape a b) others with
    | some left => matchItems as left
    | none => false

end

end Json

end ModelSchema
