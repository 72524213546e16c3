import Switchyard.Text.Visibility

/-!
  Quoted text: a string between double quotes in which every character that could be mistaken or
  overlooked is escaped.  Quotes, backslashes and the common controls have short escapes; any other
  character without a visible form of its own is written as its code point in braces.
-/

namespace Switchyard.Text

/-- The digits of a number in base sixteen, lower case, without leading zeros. -/
def hexDigits (n : Nat) : List Char := Nat.toDigits 16 n

/-- The escape of one character inside double quotes. -/
def quoteChar (c : Char) : List Char :=
  if c = '"' then ['\\', '"']
  else if c = '\\' then ['\\', '\\']
  else if c = '\n' then ['\\', 'n']
  else if c = '\r' then ['\\', 'r']
  else if c = '\t' then ['\\', 't']
  else if c.toNat = 0 then ['\\', '0']
  else if CodeSet.extending.contains c || CodeSet.invisible.contains c then
    ['\\', 'u', '\x7b'] ++ hexDigits c.toNat ++ ['\x7d']
  else [c]

/-- The text between double quotes, with every doubtful character escaped. -/
def quote (s : String) : String :=
  String.ofList ('"' :: s.toList.flatMap quoteChar ++ ['"'])

/-- A list of items between square brackets, separated by a comma and a space. -/
def bracketed (items : List String) : String :=
  "[" ++ String.intercalate ", " items ++ "]"

/-- A named record with its fields, as `Name` followed by `field: value` pairs in braces. -/
def recordText (name : String) (fields : List (String × String)) : String :=
  name ++ " \x7b " ++ String.intercalate ", " (fields.map fun (k, v) => k ++ ": " ++ v) ++ " \x7d"

/-- An optional value that is shown as `None` or as `Some(..)`. -/
def optionText : Option String → String
  | none => "None"
  | some s => "Some(" ++ s ++ ")"

end Switchyard.Text
