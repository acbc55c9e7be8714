import ModelSchema.Unicode.Category

/-!
# Quoted text

Text in messages stands between double quotes and shows every character it holds: quotes,
backslashes and the usual controls have short escapes, and any other character that cannot be seen
on its own is written by its code.
-/

namespace ModelSchema

namespace Text

/-- A code point in braces, in lower-case hexadecimal digits. -/
def codePoint (n : Nat) : String := "\\u\x7b" ++ String.ofList (Nat.toDigits 16 n) ++ "\x7d"

/-- A character inside quoted text. -/
def shownChar (c : Char) : String :=
  if c = '"' then "\\\""
  else if c = '\\' then "\\\\"
  else if c = '\n' then "\\n"
  else if c = '\r' then "\\r"
  else if c = '\t' then "\\t"
  else if c = '\x00' then "\\0"
  else if c.toNat < 127 ∧ 32 ≤ c.toNat then String.singleton c
  else if Unicode.graphemeExtend.contains c.toNat ∨ !Unicode.isPrintable c.toNat then
    codePoint c.toNat
  else String.singleton c

/-- Text between double quotes. -/
def quoted (s : String) : String :=
  "\"" ++ String.join (s.toList.map shownChar) ++ "\""

end Text

end ModelSchema
