/-
# Records read what they write

A record is read member by member, and each member puts the value of one field with
those already met. While the members of some last fields are still to come, the values
met have the shape of the whole record around those of these fields, and a member of one
of them changes nothing around. Once all members are read, every field was met that is
not left out, and the fields left out have the values that they have then.
-/

import Mathlib
import Keyspace.Proofs.Json.Form

namespace Keyspace.Json

variable {α β σ τ : Type}

/-- A written field is read back, and a field is left out only for the value that it has then. -/
structure Field.Lawful (field : Field α) : Prop where
  read_write : ∀ {value member}, field.write? value = some member →
    ∃ text, member = writeMember field.name text ∧
      ∀ {rest}, Delimited rest → field.read (text ++ rest) = .ok (value, rest)
  absent : ∀ {value}, field.write? value = none → field.absent? = some value

theorem Field.lawful_required (name : String) {form : Form α} (h : form.Lawful) :
    (Field.required name form).Lawful where
  read_write := by
    rintro value _ ⟨⟩
    exact ⟨_, rfl, h.read_write value⟩
  absent := nofun

theorem Field.lawful_optional (name : String) {form : Form α} (h : form.Lawful) :
    (Field.optional name form).Lawful where
  read_write := by
    rintro (_ | value) member hmember
    · cases hmember
    · cases hmember
      refine ⟨_, rfl, fun {rest} hrest => ?_⟩
      obtain ⟨b, text, hwrite, hblank, -, hnull⟩ := h.exists_head value
      have hread := h.read_write value hrest
      rw [hwrite, List.cons_append] at hread ⊢
      show Reader.optional form.read _ = _
      rw [Reader.optional, Reader.bind_ok (Reader.peek_cons hblank _)]
      exact (congrFun (if_neg hnull) _).trans (Reader.map_ok hread some)
  absent := by
    rintro (_ | value) hnone
    · rfl
    · cases hnone

namespace Fields

/-- The names of the fields. -/
def names {σ τ : Type} : Fields σ τ → List String
  | nil => []
  | cons field rest => field.name :: rest.names

/-- All fields are lawful, and no two have the same name. -/
def Lawful {σ τ : Type} : Fields σ τ → Prop
  | nil => True
  | cons field rest => field.Lawful ∧ field.name ∉ rest.names ∧ rest.Lawful

theorem lawful_nil : Lawful nil := trivial

theorem Lawful.withField {ν : Type} {field : Field ν} {rest : Fields σ τ} (hrest : rest.Lawful)
    (hfield : field.Lawful) (hname : field.name ∉ rest.names) : (cons field rest).Lawful :=
  ⟨hfield, hname, hrest⟩

/-- What is met once all written members are read. -/
def written {σ τ : Type} : Fields σ τ → τ → σ
  | nil, _ => ()
  | cons field rest, (value, values) =>
    ((field.write? value).map fun _ => value, rest.written values)

/-- The fields that were left out complete what was met. -/
theorem Lawful.complete_written {fields : Fields σ τ} (h : fields.Lawful) (values : τ) :
    fields.complete (fields.written values) = .ok values := by
  induction fields with
  | nil => rfl
  | cons field rest ih =>
      obtain ⟨value, values⟩ := values
      obtain ⟨hfield, -, hrest⟩ := h
      have hvalue : (((field.write? value).map fun _ => value) <|> field.absent?) = some value := by
        cases hwrite : field.write? value with
        | none => exact hfield.absent hwrite
        | some member => rfl
      rw [written, complete, hvalue]
      simp only [ih hrest]
      rfl

section Cons

variable {ν : Type} {field : Field ν} {rest : Fields σ τ} {key : String}

/-- The first field is met with the value read behind the colon. -/
theorem meet?_first (others : σ) {value : ν} {input after : List UInt8}
    (h : field.read input = .ok (value, after)) :
    ∃ reader, (cons field rest).meet? field.name (none, others) = some reader ∧
      reader (ascii ':' :: input) = .ok ((some value, others), after) := by
  refine ⟨_, if_pos rfl, ?_⟩
  rw [Reader.bind_ok (Reader.token_cons rfl input), Reader.bind_ok h]
  rfl

/-- A later field is met among the others. -/
theorem meet?_of_ne (hne : key ≠ field.name) (met : Option ν) (others : σ) :
    (cons field rest).meet? key (met, others) =
      (rest.meet? key others).map (Prod.mk met <$> ·) := by
  cases met <;>
  · rw [meet?, if_neg hne]
    simp only [map_eq_pure_bind]

end Cons

theorem Lawful.ne_nil_of_mem_write {fields : Fields σ τ} (h : fields.Lawful) {values : τ}
    {member : List UInt8} (hmember : member ∈ fields.write values) : member ≠ [] := by
  induction fields with
  | nil => cases hmember
  | cons field rest ih =>
      obtain ⟨value, values⟩ := values
      obtain ⟨hfield, -, hrest⟩ := h
      rcases List.mem_append.mp hmember with hmember | hmember
      · obtain ⟨text, rfl, -⟩ := hfield.read_write (Option.mem_toList.mp hmember)
        simp [writeMember]
      · exact ih hrest hmember

theorem mem_names_of_meet? {fields : Fields σ τ} {key : String} {met : σ} {reader : Reader σ}
    (h : fields.meet? key met = some reader) : key ∈ fields.names := by
  induction fields with
  | nil => cases h
  | cons field rest ih =>
      obtain ⟨met, others⟩ := met
      by_cases hname : key = field.name
      · exact hname ▸ List.mem_cons_self
      · rw [meet?_of_ne hname, Option.map_eq_some_iff] at h
        obtain ⟨reader, hreader, -⟩ := h
        exact List.mem_cons_of_mem _ (ih hreader)

/-- The last fields of a record, when those in front of them were read: `around` puts what is met
of the last fields with what was met in front, and whatever one of the last fields meets, it meets
in the record. -/
structure LastOf {ρ κ : Type} (fields : Fields σ τ) (record : Fields ρ κ) (around : σ → ρ) :
    Prop where
  meet? : ∀ {key met reader}, fields.meet? key met = some reader →
    record.meet? key (around met) = some (around <$> reader)

theorem LastOf.refl (fields : Fields σ τ) : LastOf fields fields id where
  meet? h := by rw [id_map]; exact h

/-- Without its first field, whatever was met of it, the rest are the last fields. -/
theorem LastOf.tail {ρ κ ν : Type} {field : Field ν} {rest : Fields σ τ} {record : Fields ρ κ}
    {around : Option ν × σ → ρ} (h : LastOf (cons field rest) record around)
    (hname : field.name ∉ rest.names) (met : Option ν) :
    LastOf rest record fun others => around (met, others) where
  meet? {key others reader} hreader := by
    have hne : key ≠ field.name := fun heq => hname (heq ▸ mem_names_of_meet? hreader)
    have hcons : (cons field rest).meet? key (met, others) = some (Prod.mk met <$> reader) := by
      rw [meet?_of_ne hne, hreader]
      rfl
    rw [h.meet? hcons, Functor.map_map]

/-- A member whose field is met puts the value with the others. -/
theorem readMembers_goesOn {record : Fields σ τ} {first : Bool} {met met' : σ} {key : String}
    {reader : Reader σ} {b : UInt8} {bound input next after rest : List UInt8}
    (hnext : Reader.nextMember first input = .ok (true, next))
    (hkey : Reader.quoted next = .ok (key, after)) (hmeet : record.meet? key met = some reader)
    (hreader : reader after = .ok (met', rest)) :
    record.readMembers (b :: bound) first met input = record.readMembers bound false met' rest := by
  rw [readMembers, Reader.bind_ok hnext]
  refine (Reader.bind_ok hkey _).trans ?_
  rw [hmeet]
  exact Reader.bind_ok hreader _

theorem readMembers_close {record : Fields σ τ} (first : Bool) (met : σ) (b : UInt8)
    (bound rest : List UInt8) :
    record.readMembers (b :: bound) first met (ascii '\x7d' :: rest) =
      .ok (met, ascii '\x7d' :: rest) := by
  rw [readMembers, Reader.bind_ok (Reader.nextMember_close first rest)]
  rfl

/-- The members of the last fields are read one by one, up to the closing brace. -/
theorem Lawful.readMembers_separated {ρ κ : Type} {fields : Fields σ τ} {record : Fields ρ κ}
    {around : σ → ρ} (h : fields.Lawful) (hlast : LastOf fields record around) (values : τ)
    (first : Bool) {bound : List UInt8} (hbound : (fields.write values).length < bound.length)
    (rest : List UInt8) :
    record.readMembers bound first (around fields.unmet)
        (separated first (fields.write values) ++ ascii '\x7d' :: rest) =
      .ok (around (fields.written values), ascii '\x7d' :: rest) := by
  induction fields generalizing first bound with
  | nil =>
      obtain ⟨_, bound, rfl⟩ := List.exists_cons_of_length_pos (Nat.zero_lt_of_lt hbound)
      cases first <;> exact readMembers_close _ _ _ bound rest
  | cons field fields ih =>
      obtain ⟨value, values⟩ := values
      obtain ⟨hfield, hname, hfields⟩ := h
      cases hwrite : field.write? value with
      | none =>
          have hmembers : (cons field fields).write (value, values) = fields.write values := by
            rw [write, hwrite]
            rfl
          have hmet : (cons field fields).written (value, values) =
              (none, fields.written values) := by
            rw [written, hwrite]
            rfl
          rw [hmembers] at hbound ⊢
          rw [hmet]
          exact ih hfields (hlast.tail hname none) values first hbound
      | some member =>
          obtain ⟨text, rfl, hread⟩ := hfield.read_write hwrite
          have hmembers : (cons field fields).write (value, values) =
              writeMember field.name text :: fields.write values := by
            rw [write, hwrite]
            rfl
          have hmet : (cons field fields).written (value, values) =
              (some value, fields.written values) := by
            rw [written, hwrite]
            rfl
          rw [hmembers] at hbound ⊢
          rw [hmet]
          obtain ⟨_, bound, rfl⟩ := List.exists_cons_of_length_pos (Nat.zero_lt_of_lt hbound)
          obtain ⟨reader, hmeet, hreader⟩ := meet?_first fields.unmet
            (hread (delimited_separated (fields.write values) (delimited_brace rest)))
          have hunmet : (cons field fields).unmet = (none, fields.unmet) := rfl
          rw [hunmet, readMembers_goesOn (nextMember_separated ..) (quoted_writeMember ..)
            (hlast.meet? hmeet) (Reader.map_ok hreader around)]
          exact ih hfields (hlast.tail hname (some value)) values false
            (Nat.lt_of_succ_lt_succ hbound)

end Fields

/-- Records of lawful fields with different names are lawful. -/
theorem Form.lawful_record (name : String) {fields : Fields σ τ} (h : fields.Lawful) :
    (Form.record name fields).Lawful where
  exists_head values := ⟨ascii '\x7b', _, rfl, by decide⟩
  read_write values rest _ := by
    have hbound := length_lt_length_joined (fields.write values)
      (fun _ => h.ne_nil_of_mem_write) (ascii '\x7d') rest
    let members : Reader σ := fun input => fields.readMembers input true fields.unmet input
    have hmembers : members (joined (fields.write values) ++ ascii '\x7d' :: rest) =
        .ok (fields.written values, ascii '\x7d' :: rest) :=
      h.readMembers_separated (.refl fields) values true hbound rest
    have hcomplete : (liftM (fields.complete (fields.written values)) : Reader τ)
        (ascii '\x7d' :: rest) = .ok (values, ascii '\x7d' :: rest) := by
      rw [h.complete_written values]
      rfl
    show (Form.record name fields).read
      (ascii '\x7b' :: joined (fields.write values) ++ [ascii '\x7d'] ++ rest) = _
    rw [List.cons_append, List.cons_append, List.append_assoc, List.singleton_append,
      Form.record]
    show (Reader.peek >>= _) _ = _
    rw [Reader.bind_ok (Reader.peek_cons rfl _)]
    refine (Reader.bind_ok (Reader.skip_cons _ _) _).trans ?_
    show (members >>= _) _ = _
    rw [Reader.bind_ok hmembers]
    exact Reader.bind_ok hcomplete _

/-- Variants are lawful if every variant has a name of its own. -/
theorem Form.lawful_variant [DecidableEq α] {variants : List (String × α)}
    (h : ∀ value, variants.lookup (variant.nameOf variants value) = some value) :
    (Form.variant variants).Lawful where
  exists_head value := ⟨ascii '"', _, rfl, by decide⟩
  read_write value rest _ := by
    have hquoted := quoted_writeQuoted (variant.nameOf variants value) rest
    show (Form.variant variants).read (writeQuoted (variant.nameOf variants value) ++ rest) = _
    rw [writeQuoted, List.cons_append, List.cons_append] at hquoted ⊢
    show (Reader.peek >>= _) _ = _
    rw [Reader.bind_ok (Reader.peek_cons rfl _)]
    refine (congrFun (if_neg (by decide)) _).trans ?_
    rw [variant.named, Reader.bind_ok (Reader.peek_cons rfl _)]
    refine (Reader.bind_ok hquoted _).trans ?_
    rw [h value]
    rfl

end Keyspace.Json
