/-
# Messages are read back

The forms of all messages are lawful. So a body that was written for a request is read as
this request by whoever knows its verb, and the body of a response is read as this
response. The report of a failure is read back as well, whatever verb it answers.
-/

import Mathlib
import Keyspace.Message.Form
import Keyspace.Proofs.Json.Record

namespace Keyspace

open Json (Form Field Fields Reader delimited_nil)

variable {α β : Type}

/-! ## Shapes of bodies -/

theorem lawful_emptyForm (name : String) : (emptyForm name).Lawful :=
  Form.lawful_record name trivial

theorem lawful_singleForm (name field : String) {form : Form α} (h : form.Lawful) :
    (singleForm name field form).Lawful := by
  have hfields := Fields.lawful_nil.withField (Field.lawful_required field h) List.not_mem_nil
  exact (Form.lawful_record name hfields).via fun _ => rfl

theorem lawful_pairForm (name : String) {first second : String} (hne : first ≠ second)
    {form : Form α} (h : form.Lawful) {form' : Form β} (h' : form'.Lawful) :
    (pairForm name first form second form').Lawful := by
  have hsecond := Fields.lawful_nil.withField (Field.lawful_required second h') List.not_mem_nil
  have hfields := hsecond.withField (Field.lawful_required first h) fun hmem =>
    hne (List.mem_singleton.mp hmem)
  exact (Form.lawful_record name hfields).via fun _ => rfl

theorem lawful_textsForm : textsForm.Lawful := Form.lawful_text.list

theorem Shard.lawful_form : Shard.form.Lawful := by
  have hupper := Fields.lawful_nil.withField (Field.lawful_required "upper" Form.lawful_word)
    List.not_mem_nil
  have hfields := hupper.withField (Field.lawful_required "lower" Form.lawful_word) (by decide)
  exact (Form.lawful_record "Shard" hfields).via fun _ => rfl

theorem Assignment.lawful_form : Assignment.form.Lawful := by
  have hfields :=
    Fields.lawful_nil.withField (Field.lawful_required "servers" Shard.lawful_form.list.map)
    List.not_mem_nil
  exact (Form.lawful_record "ShardControllerConfig" hfields).via fun _ => rfl

namespace ErrorReport

theorem lawful_kindForm : kindForm.Lawful :=
  Form.lawful_variant fun kind => by cases kind <;> rfl

theorem lawful_form : form.Lawful := by
  have hkey := Fields.lawful_nil.withField (Field.lawful_optional "key" Form.lawful_text)
    List.not_mem_nil
  have hmessage := hkey.withField (Field.lawful_required "message" Form.lawful_text) (by decide)
  have hfields := hmessage.withField (Field.lawful_required "kind" lawful_kindForm) (by decide)
  exact (Form.lawful_record "ErrorResponse" hfields).via fun _ => rfl

end ErrorReport

/-! ## Requests and responses -/

/-- A form reads back what it wrote if nothing follows. -/
theorem Json.Form.Lawful.map_read_write {form : Form α} (h : form.Lawful) (value : α)
    (make : α → β) : (make <$> form.read) (form.write value) = .ok (make value, []) := by
  have hread := h.read_write value delimited_nil
  rw [List.append_nil] at hread
  exact Reader.map_ok hread make

/-- A form decodes what it wrote. -/
theorem Json.Form.Lawful.decode_write {form : Form α} (h : form.Lawful) (value : α) :
    form.read.decode (form.write value) = .ok value := by
  have hread := h.map_read_write value id
  rw [id_map] at hread
  rw [Reader.decode, hread]
  rfl

/-- The body of a request is read as this request. -/
theorem Request.read_body (request : Request) :
    Request.read request.verb request.body = .ok (request, []) := by
  cases request with
  | get key => exact (lawful_singleForm _ _ Form.lawful_text).map_read_write key _
  | delete key => exact (lawful_singleForm _ _ Form.lawful_text).map_read_write key _
  | put key value =>
      exact (lawful_pairForm _ (by decide) Form.lawful_text Form.lawful_text).map_read_write
        (key, value) _
  | append key value =>
      exact (lawful_pairForm _ (by decide) Form.lawful_text Form.lawful_text).map_read_write
        (key, value) _
  | multiGet keys => exact (lawful_singleForm _ _ lawful_textsForm).map_read_write keys _
  | multiPut keys values =>
      exact (lawful_pairForm _ (by decide) lawful_textsForm lawful_textsForm).map_read_write
        (keys, values) _
  | allKeys => exact (lawful_emptyForm _).map_read_write () _
  | query => exact (lawful_emptyForm _).map_read_write () _
  | move destination shards =>
      exact (lawful_pairForm _ (by decide) Form.lawful_text Shard.lawful_form.list).map_read_write
        (destination, shards) _

theorem Request.decodeFront_body (request : Request) :
    (Request.read request.verb).decodeFront request.body = .ok request := by
  rw [Reader.decodeFront, request.read_body]
  rfl

theorem Request.decode_body (request : Request) :
    (Request.read request.verb).decode request.body = .ok request := by
  rw [Reader.decode, request.read_body]
  rfl

/-- The body of a response is read as this response by whoever knows the verb that it answers. -/
theorem Response.read_body {response : Response} {verb : Verb}
    (h : response.verb? = some verb) : Response.read verb response.body = .ok (response, []) := by
  cases response with
  | error report => cases h
  | get value =>
      cases h
      exact (lawful_singleForm _ _ Form.lawful_text).map_read_write value _
  | delete value =>
      cases h
      exact (lawful_singleForm _ _ Form.lawful_text).map_read_write value _
  | multiGet values =>
      cases h
      exact (lawful_singleForm _ _ lawful_textsForm).map_read_write values _
  | allKeys keys =>
      cases h
      exact (lawful_singleForm _ _ lawful_textsForm).map_read_write keys _
  | query assignment =>
      cases h
      exact (lawful_singleForm _ _ Assignment.lawful_form).map_read_write assignment _
  | _ =>
      cases h
      exact (lawful_emptyForm _).map_read_write () _

theorem Response.decode_body {response : Response} {verb : Verb}
    (h : response.verb? = some verb) : Response.decode verb response.body = .ok response := by
  rw [decode, Reader.decode, read_body h]
  rfl

theorem ErrorReport.decode_write (report : ErrorReport) :
    form.read.decode (form.write report) = .ok report :=
  lawful_form.decode_write report

/-- What is written for a message is read back as the same message: the body of every request by
whoever knows its verb, as a whole or from the front of what arrived; the body of every response
by whoever knows the request that it answers; every report of a failure, with or without a key;
every shard, whatever its bounds; and every assignment, whatever its names and shards. -/
theorem messages_read_back :
    (∀ request : Request, (Request.read request.verb).decode request.body = .ok request ∧
      (Request.read request.verb).decodeFront request.body = .ok request) ∧
    (∀ (request : Request) (response : Response), response.verb? = some request.verb →
      Response.decode request.verb response.body = .ok response) ∧
    (∀ report : ErrorReport,
      ErrorReport.form.read.decode (ErrorReport.form.write report) = .ok report) ∧
    (∀ s : Shard, Shard.form.read.decode (Shard.form.write s) = .ok s) ∧
    ∀ a : Assignment, Assignment.form.read.decode (Assignment.form.write a) = .ok a :=
  ⟨fun request => ⟨request.decode_body, request.decodeFront_body⟩,
    fun _ _ => Response.decode_body, ErrorReport.decode_write, Shard.lawful_form.decode_write,
    Assignment.lawful_form.decode_write⟩

/-- An answer to a query in which one server has no name and a malformed shard, and another has a
name that has to be escaped. -/
theorem messages_read_back_escaped :
    let assignment : Assignment :=
      ⟨Std.ExtTreeMap.ofList [("", [⟨9, 3⟩, Shard.full]), ("\"\\\x01\n😀", [])]⟩
    (Response.query assignment).verb? = some Request.query.verb ∧
      Response.decode Request.query.verb (Response.query assignment).body =
        .ok (.query assignment) :=
  ⟨rfl, messages_read_back.2.1 .query _ rfl⟩

end Keyspace
