/-!
# JSON pointers

A pointer names a place in a value: each step down is a slash and a reference token, in which `~`
is written `~0` and `/` is written `~1`.
-/

namespace ModelSchema

namespace JsonPointer

/-- A reference token as it is written. -/
def escape : List Char → List Char
  | [] => []
  | c :: rest =>
    if c = '~' then '~' :: '0' :: escape rest
    else if c = '/' then '~' :: '1' :: escape rest
    else c :: escape rest

/-- The text with every `~` and the given digit after it replaced by a character. -/
def replaceEscape (digit by' : Char) : List Char → List Char
  | [] => []
  | [c] => [c]
  | c :: d :: rest =>
    if c = '~' ∧ d = digit then by' :: replaceEscape digit by' rest
    else c :: replaceEscape digit by' (d :: rest)

/-- The reference token that a text stands for: slashes are restored before tildes. -/
def unescape (cs : List Char) : List Char :=
  replaceEscape '0' '~' (replaceEscape '1' '/' cs)

/-- The pointer with the given reference tokens. -/
def render (tokens : List String) : String :=
  String.join (tokens.map fun token => "/" ++ String.ofList (escape token.toList))

/-- The first reference token of a pointer; none if the pointer has no first step. -/
def firstSegment? (pointer : String) : Option String :=
  match pointer.toList with
  | '/' :: rest => some (String.ofList (unescape (rest.takeWhile (· ≠ '/'))))
  | _ => none

end JsonPointer

end ModelSchema
