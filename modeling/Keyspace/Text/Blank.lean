/-
# Blank characters

The white space of Unicode, and texts with the white space at both ends removed.
-/

namespace Keyspace.Text

/-- White space: the five control characters from tab to carriage return, next line, and the
spaces and separators of Unicode. -/
def isBlank (c : Char) : Bool :=
  let n := c.toNat
  (9 ≤ n && n ≤ 13) || n == 0x20 || n == 0x85 || n == 0xa0 || n == 0x1680 ||
    (0x2000 ≤ n && n ≤ 0x200a) || n == 0x2028 || n == 0x2029 || n == 0x202f || n == 0x205f ||
    n == 0x3000

/-- The text without the white space at its start and at its end. -/
def trim (text : List Char) : List Char :=
  ((text.dropWhile isBlank).reverse.dropWhile isBlank).reverse

/-- There is nothing to remove from nothing. -/
@[simp]
theorem trim_nil : trim [] = [] := rfl

end Keyspace.Text
