/-!
  Tokens: the words of which methods and header names are made.
-/

namespace Switchyard.Http

/-- A letter of the basic alphabet, either case. -/
def isAsciiLetter (c : Char) : Bool := ('a' ≤ c && c ≤ 'z') || ('A' ≤ c && c ≤ 'Z')

/-- A decimal digit. -/
def isAsciiDigit (c : Char) : Bool := '0' ≤ c && c ≤ '9'

/-- A character that a token may hold. -/
def isTokenChar (c : Char) : Bool :=
  isAsciiLetter c || isAsciiDigit c || "!#$%&'*+-.^_|~".toList.contains c || c.toNat = 0x60

/-- A word of at least one token character. -/
def isToken (s : String) : Bool := !s.isEmpty && s.toList.all isTokenChar

/-- A letter in lower case; other characters stay. -/
def lowerChar (c : Char) : Char :=
  if 'A' ≤ c && c ≤ 'Z' then Char.ofNat (c.toNat + 32) else c

/-- A text with its basic letters in lower case. -/
def lowercase (s : String) : String := String.ofList (s.toList.map lowerChar)

end Switchyard.Http
