/-
# Domain names

A domain name is a text of labels with points between them. It may be typed with any
characters, but a server is looked up by ASCII characters alone. So every character is
first mapped to what it stands for, and then every label with other characters is written
in Punycode behind `xn--`. A label may be typed in that form too. It is then read back,
because what it says has to be as sound as what is typed out.

Reading a name either gives the name to look up or refuses it. Names that give no address
are not refused: labels may be empty, of any length, and begin or end with a dash.
-/

import Keyspace.DomainName.Direction
import Keyspace.DomainName.Joiner
import Keyspace.DomainName.Mapping
import Keyspace.DomainName.Punycode
import Keyspace.Text.Mark

namespace Keyspace.DomainName

/-- The characters of ASCII. -/
def isAscii (c : Char) : Bool := c.toNat < 128

/-- ASCII characters that have no place in a name: controls, the space, and the signs that have a
meaning in a URL. -/
def isForbidden (c : Char) : Bool :=
  c.toNat ≤ 0x20 || c.toNat = 0x7f || "%#/:<>?@[\\]^|".toList.contains c

/-- What an ASCII label begins with if the rest of it is Punycode. -/
def punycodeMark : List Char := "xn--".toList

/-- A label in the characters that it shows, and in those that it is looked up by. -/
structure Label where
  shown : List Char
  ascii : List Char
deriving DecidableEq, Repr

namespace Label

/-- The label may stand in a name. -/
def isSound (label : Label) : Bool :=
  !label.shown.any isForbidden && !label.shown.head?.any (· ∈ Text.marks) && joinersFit label.shown

/-- Reads a label whose characters are mapped. What a label in Punycode says must be nothing that
could be said without, nor anything that would have been mapped. -/
def ofMapped? (text : List Char) : Option Label :=
  if punycodeMark.isPrefixOf text then do
    let shown ← Punycode.decode? (text.drop punycodeMark.length)
    if text.all isAscii ∧ !shown.all isAscii ∧ shown.all (· ∈ plainCharacters) ∧
        Text.compose shown = shown then
      return ⟨shown, text⟩
    else none
  else if text.all isAscii then some ⟨text, text⟩
  else (Punycode.encode? text).map fun digits => ⟨text, punycodeMark ++ digits⟩

end Label

/-- The characters of a name in composed form, each mapped. -/
def mapAll? (name : List Char) : Option (List Char) :=
  (name.mapM map?).map fun parts => Text.compose parts.flatten

/-- The labels of a name. -/
def labels? (name : List Char) : Option (List Label) := do
  let labels ← (Text.splitAll '.' (← mapAll? name)).mapM Label.ofMapped?
  let shown := labels.map Label.shown
  if labels.all Label.isSound ∧ (!shown.any turnsAround ∨ shown.all keepsDirection) then
    return labels
  else none

/-- The name in the characters that it is looked up by. -/
def toAscii? (name : List Char) : Option (List Char) :=
  (labels? name).map fun labels => ['.'].intercalate (labels.map Label.ascii)

end Keyspace.DomainName
