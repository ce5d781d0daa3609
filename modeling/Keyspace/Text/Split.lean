/-
# Cutting a text at a separator
-/

namespace Keyspace.Text

/-- The text before and after the first `separator`, if there is one. -/
def splitOnce (separator : Char) : List Char → Option (List Char × List Char)
  | [] => none
  | c :: rest =>
    if c = separator then some ([], rest)
    else (splitOnce separator rest).map fun (before, after) => (c :: before, after)

/-- The parts between the separators. There is always one part more than separators. -/
def splitAll (separator : Char) : List Char → List (List Char)
  | [] => [[]]
  | c :: rest =>
    if c = separator then [] :: splitAll separator rest
    else
      match splitAll separator rest with
      | [] => [[c]]
      | part :: parts => (c :: part) :: parts

/-- The words of a text, which blanks stand between. -/
def words (text : List Char) : List (List Char) :=
  let (word, words) := text.foldr (fun c (word, words) =>
    if c.isWhitespace then ([], add word words) else (c :: word, words)) ([], [])
  add word words
where
  /-- Puts a word in front of others, unless it is empty. -/
  add (word : List Char) (words : List (List Char)) : List (List Char) :=
    if word.isEmpty then words else word :: words

/-- A cut loses nothing but the separator, which does not occur in front of the cut. -/
theorem splitOnce_eq_some {separator : Char} {text before after : List Char} :
    splitOnce separator text = some (before, after) ↔
      text = before ++ separator :: after ∧ separator ∉ before := by
  induction text generalizing before with
  | nil => simp [splitOnce]
  | cons c rest ih =>
    by_cases h : c = separator
    · subst h
      cases before <;> simp_all [splitOnce]
    · cases before with
      | nil => simp [splitOnce, h]
      | cons b before => simp [splitOnce, h, ih]; grind

end Keyspace.Text
