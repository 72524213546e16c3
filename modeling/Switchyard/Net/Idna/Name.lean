import Switchyard.Net.Idna.Context
import Switchyard.Net.Idna.Mapping
import Switchyard.Net.Idna.Punycode
import Switchyard.Text.Split

/-!
  Domain names in any script, and their forms in the basic alphabet.  A label with other characters is
  written behind four signs that mark it; such a label is read back before a name is checked, so a name
  has the same form whichever way it is given.
-/

namespace Switchyard.Net.Idna

/-- The signs in front of a label that is written in the basic alphabet. -/
def labelMark : List Char := "xn--".toList

/-- The label in its own script.  The written form of one without other characters is refused. -/
def readLabel? (label : List Char) : Option (List Char) :=
  if labelMark.isPrefixOf label then
    (Punycode.decode (label.drop labelMark.length)).filter fun read =>
      isSpelled read && read.any (0x80 ≤ ·.toNat)
  else some label

/-- The label in the basic alphabet. -/
def writeLabel (label : List Char) : List Char :=
  if label.all (·.toNat < 0x80) then label else labelMark ++ Punycode.encode label

/-- May a name have this label?  It does not begin with a character that belongs to the one before. -/
def labelFits (label : List Char) : Bool :=
  !label.head?.any marks.contains && joinersFit [] label

/-- The labels of a name in their own scripts. -/
def labels? (name : List Char) : Option (List (List Char)) :=
  (((spelling? name).map (Text.splitOn '.')).bind (·.mapM readLabel?)).filter fun labels =>
    labels.all labelFits && directionsAgree labels

/-- The form of a name in the basic alphabet. -/
def write? (name : List Char) : Option (List Char) :=
  (labels? name).map fun labels => Text.join '.' (labels.map writeLabel)

end Switchyard.Net.Idna
