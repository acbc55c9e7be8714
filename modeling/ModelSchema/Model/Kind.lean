/-!
# Kinds of fields

Seven kinds are scalar: each stands for a fixed JSON type and, for dates and times, a format.  The
two other kinds of field embed a value of a model or hold a list.
-/

namespace ModelSchema

/-- A kind whose values are single JSON values. -/
inductive ScalarKind where
  | string | int | float | bool | date | time | datetime
deriving DecidableEq, Repr

namespace ScalarKind

/-- All scalar kinds, in their fixed order. -/
def all : List ScalarKind := [string, int, float, bool, date, time, datetime]

/-- The name of a scalar kind in declarations. -/
def name : ScalarKind → String
  | string => "string"
  | int => "int"
  | float => "float"
  | bool => "bool"
  | date => "date"
  | time => "time"
  | datetime => "datetime"

/-- The scalar kind with a name; names are exact. -/
def ofName? (name : String) : Option ScalarKind := all.find? (·.name == name)

/-- The name of the kind as a constructor. -/
def constructorName : ScalarKind → String
  | string => "String"
  | int => "Int"
  | float => "Float"
  | bool => "Bool"
  | date => "Date"
  | time => "Time"
  | datetime => "DateTime"

/-- Every scalar kind is listed. -/
theorem mem_all (kind : ScalarKind) : kind ∈ all := by cases kind <;> decide

/-- A name determines its kind. -/
theorem ofName?_name (kind : ScalarKind) : ofName? kind.name = some kind := by
  cases kind <;> decide

end ScalarKind

/-- The kind of a field. -/
inductive FieldKind where
  | scalar (kind : ScalarKind)
  | embedded
  | list
deriving DecidableEq, Repr

namespace FieldKind

/-- All kinds of field, in their fixed order. -/
def all : List FieldKind := ScalarKind.all.map scalar ++ [embedded, list]

/-- The name of a kind in declarations and messages. -/
def name : FieldKind → String
  | scalar kind => kind.name
  | embedded => "embedded"
  | list => "list"

/-- The kind with a name; names are exact. -/
def ofName? (name : String) : Option FieldKind := all.find? (·.name == name)

/-- The scalar kind, if the kind is scalar. -/
def scalar? : FieldKind → Option ScalarKind
  | scalar kind => some kind
  | embedded => none
  | list => none

/-- Every kind is listed. -/
theorem mem_all (kind : FieldKind) : kind ∈ all := by
  cases kind with
  | scalar kind => cases kind <;> decide
  | embedded => decide
  | list => decide

/-- A name determines its kind. -/
theorem ofName?_name (kind : FieldKind) : ofName? kind.name = some kind := by
  cases kind with
  | scalar kind => cases kind <;> decide
  | embedded => decide
  | list => decide

end FieldKind

end ModelSchema
