/-
# Forms read what they write

A form is lawful if it reads back every value that it wrote, from the front of any text
in which something follows that cannot belong to the value. Lists and maps of lawful
forms are lawful: the elements are read one by one, and after each of them a comma or the
closing bracket follows.
-/

import Mathlib
import Keyspace.Proofs.Json.Number
import Keyspace.Proofs.Json.Quoted
import Keyspace.Proofs.TreeMap

namespace Keyspace.Json

variable {α β : Type}

/-- What a form writes can be told from a closing bracket and from `null` by its first byte, and is
read back in front of whatever cannot belong to it. -/
structure Form.Lawful (form : Form α) : Prop where
  exists_head : ∀ value, ∃ b text, form.write value = b :: text ∧ isBlank b = false ∧
    b ≠ ascii ']' ∧ b ≠ ascii 'n'
  read_write : ∀ value {rest}, Delimited rest →
    form.read (form.write value ++ rest) = .ok (value, rest)

/-- Items with commas between them, and with one in front if they are not the first. -/
def separated : (first : Bool) → List (List UInt8) → List UInt8
  | true, items => joined items
  | false, items => items.flatMap (ascii ',' :: ·)

theorem separated_false_cons (item : List UInt8) (items : List (List UInt8)) :
    separated false (item :: items) = ascii ',' :: (item ++ separated false items) := rfl

theorem separated_true_cons (item : List UInt8) (items : List (List UInt8)) :
    separated true (item :: items) = item ++ separated false items := by
  show joined (item :: items) = _
  induction items generalizing item with
  | nil => simp [joined, separated]
  | cons next items ih =>
      rw [joined, List.intercalate_cons_cons, ← joined, ih, separated_false_cons]
      simp

theorem length_le_length_separated (items : List (List UInt8)) :
    items.length ≤ (separated false items).length := by
  induction items with
  | nil => exact Nat.le_refl 0
  | cons item items ih =>
      rw [separated_false_cons, List.length_cons, List.length_cons, List.length_append]
      omega

/-- A list has fewer items than bytes, its closing bracket counted. -/
theorem length_lt_length_joined (items : List (List UInt8)) (h : ∀ item ∈ items, item ≠ [])
    (close : UInt8) (rest : List UInt8) :
    items.length < (joined items ++ close :: rest).length := by
  have hle : items.length ≤ (joined items).length := by
    cases items with
    | nil => exact Nat.zero_le _
    | cons item items =>
        have hitem := List.length_pos_iff.mpr (h item List.mem_cons_self)
        have hitems := length_le_length_separated items
        rw [← separated, separated_true_cons, List.length_append, List.length_cons]
        omega
  rw [List.length_append, List.length_cons]
  omega

/-- What follows an element is a comma, or else what follows the list of them. -/
theorem delimited_separated (items : List (List UInt8)) {rest : List UInt8}
    (h : Delimited rest) : Delimited (separated false items ++ rest) := by
  cases items with
  | nil => exact h
  | cons item items => exact delimited_comma _

namespace Reader

variable {element value : Reader α} {input next rest : List UInt8} {b : UInt8}
  {bound : List UInt8}

theorem elements_goesOn {first : Bool} {read : List α} {found : α} (hfirst : read.isEmpty = first)
    (hnext : nextElement first input = .ok (true, next))
    (hfound : element next = .ok (found, rest)) :
    elements element (b :: bound) read input = elements element bound (found :: read) rest := by
  rw [elements, hfirst, bind_ok hnext]
  exact bind_ok hfound _

theorem elements_close (read : List α) :
    elements element (b :: bound) read (ascii ']' :: rest) = .ok (read.reverse, rest) := by
  rw [elements, bind_ok (nextElement_close _ rest)]
  rfl

theorem members_goesOn {first : Bool} {read : Std.ExtTreeMap String α} {key : String} {found : α}
    {after : List UInt8} (hnext : nextMember first input = .ok (true, next))
    (hkey : quoted next = .ok (key, ascii ':' :: after))
    (hfound : value after = .ok (found, rest)) :
    members value (b :: bound) first read input =
      members value bound false (read.insert key found) rest := by
  rw [members, bind_ok hnext]
  refine (bind_ok hkey _).trans ?_
  rw [bind_ok (token_cons rfl after)]
  exact bind_ok hfound _

theorem members_close (first : Bool) (read : Std.ExtTreeMap String α) :
    members value (b :: bound) first read (ascii '\x7d' :: rest) = .ok (read, rest) := by
  rw [members, bind_ok (nextMember_close first rest)]
  rfl

end Reader

section Member

variable (key : String) (value rest : List UInt8)

theorem writeMember_append : writeMember key value ++ rest =
    writeQuoted key ++ ascii ':' :: (value ++ rest) := by
  rw [writeMember, List.append_assoc, List.cons_append]

theorem quoted_writeMember :
    Reader.quoted (writeMember key value ++ rest) = .ok (key, ascii ':' :: (value ++ rest)) := by
  rw [writeMember_append, quoted_writeQuoted]

theorem nextMember_separated (first : Bool) (items : List (List UInt8)) :
    Reader.nextMember first (separated first (writeMember key value :: items) ++ rest) =
      .ok (true, writeMember key value ++ (separated false items ++ rest)) := by
  cases first with
  | true =>
      rw [separated_true_cons, List.append_assoc]
      exact Reader.nextMember_first _
  | false =>
      rw [separated_false_cons, List.cons_append, List.append_assoc]
      exact Reader.nextMember_comma _

end Member

namespace Form

/-! ## Texts and numbers -/

theorem lawful_text : text.Lawful where
  exists_head value := ⟨ascii '"', _, rfl, by decide⟩
  read_write value rest _ := by
    show Reader.text "a string" (writeQuoted value ++ rest) = _
    have hquoted := quoted_writeQuoted value rest
    rw [writeQuoted, List.cons_append, List.cons_append] at hquoted ⊢
    rw [Reader.text, Reader.bind_ok (Reader.peek_cons rfl _)]
    exact hquoted

theorem lawful_word : word.Lawful where
  exists_head value := by
    obtain ⟨b, text, hdecimal⟩ := List.exists_cons_of_ne_nil (decimal_ne_nil value.toNat)
    have hdigit : isDigit b := isDigit_of_mem_decimal (hdecimal ▸ List.mem_cons_self)
    refine ⟨b, text, (utf8_toString _).trans hdecimal, isBlank_of_isDigit hdigit, ?_, ?_⟩ <;>
    · rintro rfl
      cases hdigit
  read_write value rest h := by
    show Reader.word (utf8 (toString value.toNat) ++ rest) = _
    rw [utf8_toString, word_decimal value h]

/-! ## Lists -/

variable {form : Form α} {rest : List UInt8}

theorem Lawful.write_ne_nil (h : form.Lawful) (value : α) : form.write value ≠ [] := by
  obtain ⟨b, text, hwrite, -⟩ := h.exists_head value
  rw [hwrite]
  exact List.cons_ne_nil b text

theorem Lawful.nextElement_separated (h : form.Lawful) (first : Bool) (value : α)
    (items : List (List UInt8)) (rest : List UInt8) :
    Reader.nextElement first (separated first (form.write value :: items) ++ rest) =
      .ok (true, form.write value ++ (separated false items ++ rest)) := by
  obtain ⟨b, text, hwrite, hblank, hclose, -⟩ := h.exists_head value
  rw [hwrite]
  cases first with
  | true =>
      rw [separated_true_cons, List.append_assoc]
      exact Reader.nextElement_first hblank hclose _
  | false =>
      rw [separated_false_cons, List.cons_append, List.append_assoc]
      exact Reader.nextElement_comma hblank hclose _

/-- Elements are read one by one, up to the closing bracket. -/
theorem Lawful.elements_separated (h : form.Lawful) (values : List α) {first : Bool} {read : List α}
    (hfirst : read.isEmpty = first) {bound : List UInt8} (hbound : values.length < bound.length)
    (rest : List UInt8) :
    Reader.elements form.read bound read
        (separated first (values.map form.write) ++ ascii ']' :: rest) =
      .ok (read.reverse ++ values, rest) := by
  induction values generalizing first read bound with
  | nil =>
      obtain ⟨_, bound, rfl⟩ := List.exists_cons_of_length_pos (Nat.zero_lt_of_lt hbound)
      rw [List.append_nil]
      cases first <;> exact Reader.elements_close read
  | cons value values ih =>
      obtain ⟨_, bound, rfl⟩ := List.exists_cons_of_length_pos (Nat.zero_lt_of_lt hbound)
      have hvalue := h.read_write value
        (delimited_separated (values.map form.write) (delimited_bracket rest))
      rw [List.map_cons, Reader.elements_goesOn hfirst (h.nextElement_separated ..) hvalue,
        ih List.isEmpty_cons (Nat.lt_of_succ_lt_succ hbound), List.reverse_cons, List.append_assoc]
      rfl

theorem Lawful.list (h : form.Lawful) : (list form).Lawful where
  exists_head values := ⟨ascii '[', _, rfl, by decide⟩
  read_write values rest _ := by
    have hbound := length_lt_length_joined (values.map form.write) (by
      simpa using fun value _ => h.write_ne_nil value) (ascii ']') rest
    rw [List.length_map] at hbound
    show Reader.list form.read
      (ascii '[' :: joined (values.map form.write) ++ [ascii ']'] ++ rest) = _
    rw [List.cons_append, List.cons_append, List.append_assoc, Reader.list,
      Reader.bind_ok (Reader.peek_cons rfl _)]
    refine (Reader.bind_ok (Reader.skip_cons _ _) _).trans ?_
    exact h.elements_separated values List.isEmpty_nil hbound rest

/-! ## Maps -/

/-- The members of a map as they are written. -/
def writeEntries (form : Form α) (entries : List (String × α)) : List (List UInt8) :=
  entries.map fun (key, value) => writeMember key (form.write value)

theorem writeEntries_cons (key : String) (value : α) (entries : List (String × α)) :
    form.writeEntries ((key, value) :: entries) =
      writeMember key (form.write value) :: form.writeEntries entries := rfl

/-- Members are read one by one, up to the closing brace. -/
theorem Lawful.members_separated (h : form.Lawful) (entries : List (String × α)) (first : Bool)
    (read : Std.ExtTreeMap String α) {bound : List UInt8} (hbound : entries.length < bound.length)
    (rest : List UInt8) :
    Reader.members form.read bound first read
        (separated first (form.writeEntries entries) ++ ascii '\x7d' :: rest) =
      .ok (read.insertMany entries, rest) := by
  induction entries generalizing first read bound with
  | nil =>
      obtain ⟨_, bound, rfl⟩ := List.exists_cons_of_length_pos (Nat.zero_lt_of_lt hbound)
      cases first <;> exact Reader.members_close _ read
  | cons entry entries ih =>
      obtain ⟨_, bound, rfl⟩ := List.exists_cons_of_length_pos (Nat.zero_lt_of_lt hbound)
      obtain ⟨key, value⟩ := entry
      have hvalue := h.read_write value
        (delimited_separated (form.writeEntries entries) (delimited_brace rest))
      rw [writeEntries_cons,
        Reader.members_goesOn (nextMember_separated ..) (quoted_writeMember ..) hvalue,
        ih false _ (Nat.lt_of_succ_lt_succ hbound), Std.ExtTreeMap.insertMany_cons]

theorem Lawful.map (h : form.Lawful) : (map form).Lawful where
  exists_head values := ⟨ascii '\x7b', _, rfl, by decide⟩
  read_write entries rest _ := by
    have hbound := length_lt_length_joined (form.writeEntries entries.toList) (by
      intro item hitem
      obtain ⟨entry, -, rfl⟩ := List.mem_map.mp hitem
      simp [writeMember]) (ascii '\x7d') rest
    rw [writeEntries, List.length_map] at hbound
    show Reader.map form.read
      (ascii '\x7b' :: joined (form.writeEntries entries.toList) ++ [ascii '\x7d'] ++ rest) = _
    rw [List.cons_append, List.cons_append, List.append_assoc, Reader.map,
      Reader.bind_ok (Reader.peek_cons rfl _)]
    refine (Reader.bind_ok (Reader.skip_cons _ _) _).trans ?_
    refine (h.members_separated entries.toList true ∅ hbound rest).trans ?_
    rw [← Std.ExtTreeMap.ofList_eq_insertMany_empty, ofList_toList]

/-! ## Other types -/

theorem Lawful.via (h : form.Lawful) {make : α → β} {back : β → α}
    (hmake : ∀ value, make (back value) = value) : (form.via make back).Lawful where
  exists_head value := h.exists_head (back value)
  read_write value rest hrest := by
    refine (Reader.map_ok (h.read_write (back value) hrest) make).trans ?_
    rw [hmake]

end Form

end Keyspace.Json
