/-
# Forms

A form says how values of a type are written as JSON, how they are read back, and how
they look when inspected. The three belong together: what a form writes, the same form
reads, and the names in an inspected value are those of the form.

A record is a form over fields. It is written as a map with the fields in their order;
an optional field without a value is left out. It may be read from a map with the
fields in any order, where unknown fields are passed over and no field may stand
twice, or from a list of the values alone.
-/

import Std.Data.ExtTreeMap
import Keyspace.Json.Skip

namespace Keyspace.Json

variable {α β : Type}

/-- How values are written, read and inspected. -/
structure Form (α : Type) where
  write : α → List UInt8
  read : Reader α
  inspect : α → String

namespace Reader

/-- Refuses the value that comes next, which should have been `expected`. A value that is not
JSON itself is refused for that. -/
def refuse (expected : String) : Reader α := do
  match ← peek with
  | none => throw .truncated
  | some b =>
    if b = ascii 'n' then
      exactly (utf8 "null")
      unsuitable (.wrongType .null expected)
    else if b = ascii 't' then
      exactly (utf8 "true")
      unsuitable (.wrongType (.boolean true) expected)
    else if b = ascii 'f' then
      exactly (utf8 "false")
      unsuitable (.wrongType (.boolean false) expected)
    else if b = ascii '-' ∨ isDigit b then
      unsuitable (.wrongType (← number).found expected)
    else if b = ascii '"' then
      unsuitable (.wrongType (.text (← quoted)) expected)
    else if b = ascii '[' then
      unsuitable (.wrongType .sequence expected)
    else if b = ascii '\x7b' then
      unsuitable (.wrongType .map expected)
    else throw .malformed

/-- Reads a text. -/
def text (expected : String) : Reader String := do
  match ← peek with
  | some b => if b = ascii '"' then quoted else refuse expected
  | none => refuse expected

/-- Reads a natural number of 32 bits. -/
def word : Reader UInt32 := do
  match ← peek with
  | none => throw .truncated
  | some b =>
    if b = ascii '-' ∨ isDigit b then
      let number ← number
      match number with
      | .natural n =>
        if n < UInt32.size then pure (UInt32.ofNat n)
        else unsuitable (.outOfRange number.found "u32")
      | .negative _ => unsuitable (.outOfRange number.found "u32")
      | .real _ => unsuitable (.wrongType number.found "u32")
    else refuse "u32"

/-- Reads the elements of a list up to the bracket that closes it. `elements` holds those already
read, the last first. Every element has at least one byte, so `bound` never cuts the list
short. -/
def elements (element : Reader α) (bound : List UInt8) (elements : List α) : Reader (List α) := do
  match bound with
  | [] => throw .truncated
  | _ :: bound =>
    if ← nextElement elements.isEmpty then
      let value ← element
      Reader.elements element bound (value :: elements)
    else
      skip
      pure elements.reverse

/-- Reads a list. -/
def list (element : Reader α) : Reader (List α) := do
  match ← peek with
  | some b =>
    if b = ascii '[' then
      skip
      fun input => elements element input [] input
    else refuse "a sequence"
  | none => refuse "a sequence"

/-- Reads the members of a map up to the brace that closes it. -/
def members (value : Reader α) (bound : List UInt8) (first : Bool)
    (entries : Std.ExtTreeMap String α) : Reader (Std.ExtTreeMap String α) := do
  match bound with
  | [] => throw .truncated
  | _ :: bound =>
    if ← nextMember first then
      let key ← quoted
      token (ascii ':')
      let value' ← value
      members value bound false (entries.insert key value')
    else
      skip
      pure entries

/-- Reads a map. Of a repeated key the last value counts. -/
def map (value : Reader α) : Reader (Std.ExtTreeMap String α) := do
  match ← peek with
  | some b =>
    if b = ascii '\x7b' then
      skip
      fun input => members value input true ∅ input
    else refuse "a map"
  | none => refuse "a map"

/-- Reads a value or `null`. -/
def optional (value : Reader α) : Reader (Option α) := do
  match ← peek with
  | some b =>
    if b = ascii 'n' then
      exactly (utf8 "null")
      pure none
    else some <$> value
  | none => some <$> value

/-- Reads a whole text, behind which only blanks may follow. -/
def decode (reader : Reader α) (input : List UInt8) : Except DecodeError α := do
  let (value, rest) ← reader input
  if (rest.dropWhile isBlank).isEmpty then pure value else throw .malformed

/-- Reads a value from the front of a text and disregards what follows. -/
def decodeFront (reader : Reader α) (input : List UInt8) : Except DecodeError α :=
  Prod.fst <$> reader input

end Reader

/-- Written items with commas between them. -/
def joined (items : List (List UInt8)) : List UInt8 :=
  [ascii ','].intercalate items

/-- A written member of a map. -/
def writeMember (key : String) (value : List UInt8) : List UInt8 :=
  writeQuoted key ++ ascii ':' :: value

/-- A written map. -/
def writeMap (members : List (List UInt8)) : List UInt8 :=
  ascii '\x7b' :: joined members ++ [ascii '\x7d']

namespace Form

/-- Texts. -/
def text : Form String where
  write := writeQuoted
  read := Reader.text "a string"
  inspect := Text.inspect

/-- Natural numbers of 32 bits. -/
def word : Form UInt32 where
  write n := utf8 (toString n.toNat)
  read := Reader.word
  inspect n := toString n.toNat

/-- Lists. -/
def list (form : Form α) : Form (List α) where
  write values := ascii '[' :: joined (values.map form.write) ++ [ascii ']']
  read := Reader.list form.read
  inspect values := Text.inspectList (values.map form.inspect)

/-- Maps from texts, in the order of their keys. -/
def map (form : Form α) : Form (Std.ExtTreeMap String α) where
  write entries :=
    writeMap (entries.toList.map fun (key, value) => writeMember key (form.write value))
  read := Reader.map form.read
  inspect entries :=
    Text.inspectMap (entries.toList.map fun (key, value) => (Text.inspect key, form.inspect value))

/-- The same texts for another type. -/
def via (form : Form α) (make : α → β) (back : β → α) : Form β where
  write value := form.write (back value)
  read := make <$> form.read
  inspect value := form.inspect (back value)

end Form

/-- A field of a record. `absent?` is the value that it has where it is left out, and `write?` the
written member, with none where it is left out. -/
structure Field (α : Type) where
  name : String
  read : Reader α
  absent? : Option α
  write? : α → Option (List UInt8)
  inspect : α → String

namespace Field

/-- A field that is always there. -/
def required (name : String) (form : Form α) : Field α where
  name := name
  read := form.read
  absent? := none
  write? value := some (writeMember name (form.write value))
  inspect := form.inspect

/-- A field that is left out where it has no value. Others may write `null` instead. -/
def optional (name : String) (form : Form α) : Field (Option α) where
  name := name
  read := Reader.optional form.read
  absent? := some none
  write? value := value.map fun value => writeMember name (form.write value)
  inspect value := Text.inspectOption (value.map form.inspect)

end Field

/-- The fields of a record, in order. Their values form the second type; while a record is read
from a map, the values met so far form the first. -/
inductive Fields : Type → Type → Type 1 where
  | nil : Fields Unit Unit
  | cons {ν μ ω : Type} (field : Field ν) (rest : Fields μ ω) :
    Fields (Option ν × μ) (ν × ω)

namespace Fields

/-- The number of fields. -/
def length {σ τ : Type} : Fields σ τ → Nat
  | nil => 0
  | cons _ rest => rest.length + 1

/-- No field met yet. -/
def unmet {σ τ : Type} : Fields σ τ → σ
  | nil => ()
  | cons _ rest => (none, rest.unmet)

/-- Reads the value of the field called `key` and puts it with those already met; none if there is
no such field. -/
def meet? {σ τ : Type} : Fields σ τ → String → σ → Option (Reader σ)
  | nil, _, _ => none
  | cons field rest, key, (met, others) =>
    if key = field.name then
      match met with
      | some _ => some (Reader.unsuitable (.duplicateField key))
      | none => some do
        Reader.token (ascii ':')
        let value ← field.read
        pure (some value, others)
    else (rest.meet? key others).map fun reader => do
      let others ← reader
      pure (met, others)

/-- The values of all fields, if none is missing. The first one missing is named. -/
def complete {σ τ : Type} : Fields σ τ → σ → Except DecodeError τ
  | nil, _ => .ok ()
  | cons field rest, (met, others) =>
    match met <|> field.absent? with
    | none => .error (.unsuitable (.missingField field.name))
    | some value => (rest.complete others).map fun values => (value, values)

/-- Reads the members of a map up to the brace that closes it. -/
def readMembers {σ τ : Type} (fields : Fields σ τ) (bound : List UInt8) (first : Bool) (met : σ) :
    Reader σ := do
  match bound with
  | [] => throw .truncated
  | _ :: bound =>
    if ← Reader.nextMember first then
      let key ← Reader.quoted
      let met ←
        match fields.meet? key met with
        | some reader => reader
        | none => do
          Reader.token (ascii ':')
          Reader.skipValue
          pure met
      fields.readMembers bound false met
    else pure met

/-- Reads the values of the fields in order, as elements of a list; `index` counts those already
read. A field that may be left out may be missing at the end. -/
def readElements {σ τ : Type} : Fields σ τ → Nat → (expected : String) → Reader τ
  | nil, _, _ => pure ()
  | cons field rest, index, expected => do
    let value ←
      if ← Reader.nextElement (index == 0) then field.read
      else
        match field.absent? with
        | some value => pure value
        | none => Reader.unsuitable (.tooShort index expected)
    let values ← rest.readElements (index + 1) expected
    pure (value, values)

/-- The written fields that are not left out. -/
def write {σ τ : Type} : Fields σ τ → τ → List (List UInt8)
  | nil, _ => []
  | cons field rest, (value, values) => (field.write? value).toList ++ rest.write values

/-- The names of the fields with their inspected values. -/
def inspect {σ τ : Type} : Fields σ τ → τ → List (String × String)
  | nil, _ => []
  | cons field rest, (value, values) => (field.name, field.inspect value) :: rest.inspect values

end Fields

namespace Form

/-- How a message describes a record that was expected as a list. -/
def describeElements (name : String) (count : Nat) : String :=
  "struct " ++ name ++ " with " ++ toString count ++ if count = 1 then " element" else " elements"

/-- Records with the given fields. -/
def record {σ τ : Type} (name : String) (fields : Fields σ τ) : Form τ where
  write values := writeMap (fields.write values)
  read := do
    match ← Reader.peek with
    | some b =>
      if b = ascii '[' then
        Reader.skip
        let values ← fields.readElements 0 (describeElements name fields.length)
        Reader.token (ascii ']')
        pure values
      else if b = ascii '\x7b' then
        Reader.skip
        let met ← fun input => fields.readMembers input true fields.unmet input
        let values ← fields.complete met
        Reader.skip
        pure values
      else Reader.refuse ("struct " ++ name)
    | none => Reader.refuse ("struct " ++ name)
  inspect values := Text.inspectRecord name (fields.inspect values)

/-- Variants that carry nothing, by their names. A variant is written as its name. It may also be
read from a map of its name to `null`. -/
def variant [DecidableEq α] (variants : List (String × α)) : Form α where
  write value := writeQuoted (nameOf value)
  read := do
    if (← Reader.peek) = some (ascii '\x7b') then
      Reader.skip
      let value ← named
      Reader.token (ascii ':')
      unit
      Reader.token (ascii '\x7d')
      pure value
    else named
  inspect := nameOf
where
  /-- The name of a variant. -/
  nameOf (value : α) : String := ((variants.find? (·.2 = value)).map (·.1)).getD ""
  /-- Reads the name of a variant, in place of which nothing but a text is understood. -/
  named : Reader α := do
    match ← Reader.peek with
    | none => throw .truncated
    | some b =>
      if b = ascii '"' then
        let name ← Reader.quoted
        match variants.lookup name with
        | some value => pure value
        | none => Reader.unsuitable (.unknownVariant name (variants.map (·.1)))
      else throw .malformed
  /-- Reads `null`. -/
  unit : Reader Unit := do
    match ← Reader.peek with
    | some b =>
      if b = ascii 'n' then Reader.exactly (utf8 "null") else Reader.refuse "unit"
    | none => Reader.refuse "unit"

end Form

end Keyspace.Json
