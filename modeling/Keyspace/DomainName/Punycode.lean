/-
# Punycode

Punycode writes a label of any characters with letters, digits and dashes alone. The
ASCII characters stand first and keep their order. Behind a dash follows where the others
go: they are put in one after another, in the order of their code points, and every
insertion is one number, counted from the insertion before it. Numbers are written with
the least digit first, and a digit below its threshold is the last. The thresholds adapt
to the numbers met so far, so that alike insertions take few digits.
-/

namespace Keyspace.DomainName.Punycode

/-! ## Digits -/

/-- The 36 digits are the small letters and then the digits of decimal numerals. -/
def digitChar (digit : Nat) : Char :=
  if digit < 26 then Char.ofNat ('a'.toNat + digit) else Char.ofNat ('0'.toNat + (digit - 26))

/-- The value of a digit. -/
def digitValue? (c : Char) : Option Nat :=
  if 'a' ≤ c ∧ c ≤ 'z' then some (c.toNat - 'a'.toNat)
  else if '0' ≤ c ∧ c ≤ '9' then some (c.toNat - '0'.toNat + 26)
  else none

/-- A digit below its threshold ends a number. -/
def threshold (bias place : Nat) : Nat :=
  max 1 (min 26 (36 * (place + 1) - bias))

theorem threshold_pos (bias place : Nat) : 0 < threshold bias place := by
  simp only [threshold]; omega

/-- The bias after a number with this value, when the label has `length` characters. -/
def adapt (value length : Nat) (first : Bool) : Nat :=
  let value := if first then value / 700 else value / 2
  go 0 (value + value / length)
where
  /-- Divides a value until it is small; every division counts. -/
  go (divisions value : Nat) : Nat :=
    if 455 < value then go (divisions + 1) (value / 35)
    else 36 * divisions + 36 * value / (value + 38)
  termination_by value
  decreasing_by exact Nat.div_lt_self (by omega) (by omega)

/-- The bias of the first number. -/
def initialBias : Nat := 72

/-- The first character that is put in comes behind ASCII. -/
def initialCode : Nat := 128

/-! ## Reading -/

/-- Reads a number: its value, and what stands behind it. Its places must fit into 32 bits. -/
def readNumber (bias place weight : Nat) : List Char → Option (Nat × List Char)
  | [] => none
  | c :: rest =>
    match digitValue? c with
    | none => none
    | some digit =>
      let limit := threshold bias place
      if UInt32.size ≤ weight then none
      else if digit < limit then some (digit * weight, rest)
      else
        (readNumber bias (place + 1) (weight * (36 - limit)) rest).map fun (value, rest) =>
          (digit * weight + value, rest)

/-- A number takes at least one digit. -/
theorem length_lt_of_readNumber {bias place weight value : Nat} {text rest : List Char}
    (h : readNumber bias place weight text = some (value, rest)) : rest.length < text.length := by
  induction text generalizing place weight value with
  | nil => simp [readNumber] at h
  | cons c text ih =>
    simp only [readNumber] at h
    split at h
    · simp at h
    · split at h
      · simp at h
      · split at h
        · simp_all
        · obtain ⟨⟨_, _⟩, read, same⟩ := Option.map_eq_some_iff.1 h
          obtain ⟨_, rfl⟩ := Prod.mk.inj same
          exact Nat.lt_succ_of_lt (ih read)

/-- Puts into `text` what the numbers in the rest of a label say. The last character put in was
`code`, and `position` is where the next one would go. -/
def insertAll (bias code position : Nat) (text label : List Char) : Option (List Char) :=
  match label with
  | [] => some text
  | c :: rest =>
    match read : readNumber bias 0 1 (c :: rest) with
    | none => none
    | some (value, left) =>
      have shorter := length_lt_of_readNumber read
      let length := text.length + 1
      let reached := position + value
      let code := code + reached / length
      if reached < UInt32.size ∧ code.isValidChar then
        let bias := adapt value length (text.all (·.toNat < initialCode))
        let inserted := text.insertIdx (reached % length) (Char.ofNat code)
        insertAll bias code (reached % length + 1) inserted left
      else none
  termination_by label.length
  decreasing_by exact shorter

/-- The most characters of a label that are read. -/
def readLimit : Nat := 2000

/-- Reads a label. A dash at its very start does not end the ASCII characters. -/
def decode? (label : List Char) : Option (List Char) :=
  let digits := (label.reverse.takeWhile (· ≠ '-')).reverse
  let ascii := label.take (label.length - digits.length - 1)
  if readLimit < label.length then none
  else if ascii.isEmpty then insertAll initialBias initialCode 0 [] label
  else insertAll initialBias initialCode 0 ascii digits

/-! ## Writing -/

/-- The digits of a number. -/
def writeNumber (bias place value : Nat) : List Char :=
  let limit := threshold bias place
  if value < limit then [digitChar value]
  else
    digitChar (limit + (value - limit) % (36 - limit)) ::
      writeNumber bias (place + 1) ((value - limit) / (36 - limit))
  termination_by value
  decreasing_by
    have := threshold_pos bias place
    have := Nat.div_le_self (value - threshold bias place) (36 - threshold bias place)
    omega

/-- How far a label is written. -/
structure Progress where
  /-- The digits written, the last number first. -/
  numbers : List (List Char)
  bias : Nat
  /-- The number that the next insertion would have. -/
  value : Nat
  /-- The count of characters that have their place. -/
  placed : Nat

/-- Passes over a character of the label while the characters `code` are put in. -/
def Progress.pass (ascii code : Nat) (progress : Progress) (c : Char) : Progress :=
  if c.toNat < code then { progress with value := progress.value + 1 }
  else if c.toNat = code then
    { numbers := writeNumber progress.bias 0 progress.value :: progress.numbers
      bias := adapt progress.value (progress.placed + 1) (progress.placed = ascii)
      value := 0
      placed := progress.placed + 1 }
  else progress

/-- Puts in the characters with the given code points, which ascend. `code` is the least that could
be put in next. -/
def writeAll (label : List Char) (ascii code : Nat) (progress : Progress) : List Nat → Progress
  | [] => progress
  | next :: codes =>
    let skipped := (next - code) * (progress.placed + 1)
    let progress :=
      label.foldl (Progress.pass ascii next) { progress with value := progress.value + skipped }
    writeAll label ascii (next + 1) { progress with value := progress.value + 1 } codes

/-- The most characters of a label that is written. -/
def writeLimit : Nat := 1000

/-- Writes a label. -/
def encode? (label : List Char) : Option (List Char) :=
  let ascii := label.filter (·.toNat < initialCode)
  let codes := ((label.map Char.toNat).filter (initialCode ≤ ·)).eraseDups.mergeSort
  let start : Progress := ⟨[], initialBias, 0, ascii.length⟩
  let progress := writeAll label ascii.length initialCode start codes
  if writeLimit < label.length then none
  else some ((if ascii.isEmpty then [] else ascii ++ ['-']) ++ progress.numbers.reverse.flatten)

end Keyspace.DomainName.Punycode
