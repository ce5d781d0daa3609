/-
# Messages on the wire

The body of a message is a record whose shape depends on its verb alone. The endpoint
of a request tells its verb, and a response is read for the verb of the request that
it answers, so that no body names its own kind.
-/

import Keyspace.Message

namespace Keyspace

open Json (DecodeError Form Field Reader)

/-! ## Shapes of bodies -/

/-- Records without fields. -/
def emptyForm (name : String) : Form Unit := Form.record name .nil

/-- Records of a single field. -/
def singleForm {α : Type} (name field : String) (form : Form α) : Form α :=
  (Form.record name (.cons (.required field form) .nil)).via (·.1) (·, ())

/-- Records of two fields. -/
def pairForm {α β : Type} (name first : String) (form : Form α) (second : String) (form' : Form β) :
    Form (α × β) :=
  (Form.record name (.cons (.required first form) (.cons (.required second form') .nil))).via
    (fun (a, b, ()) => (a, b)) (fun (a, b) => (a, b, ()))

/-- Lists of texts. -/
def textsForm : Form (List String) := .list .text

namespace ErrorReport

/-- Categories of failures on the wire. -/
def kindForm : Form ErrorKind :=
  .variant [("NotFound", .notFound), ("Validation", .validation), ("Internal", .internal)]

/-- Reports of failures on the wire. The key is left out where there is none. -/
def form : Form ErrorReport :=
  (Form.record "ErrorResponse"
    (.cons (.required "kind" kindForm) (.cons (.required "message" .text)
      (.cons (.optional "key" .text) .nil)))).via
    (fun (kind, message, key, ()) => ⟨kind, message, key⟩)
    (fun report => (report.kind, report.message, report.key, ()))

end ErrorReport

/-! ## Requests -/

namespace Request

/-! The shape of the body for each verb. -/

def getForm : Form String := singleForm "GetRequest" "key" .text
def putForm : Form (String × String) := pairForm "PutRequest" "key" .text "value" .text
def appendForm : Form (String × String) := pairForm "AppendRequest" "key" .text "value" .text
def deleteForm : Form String := singleForm "DeleteRequest" "key" .text
def multiGetForm : Form (List String) := singleForm "MultiGetRequest" "keys" textsForm
def multiPutForm : Form (List String × List String) :=
  pairForm "MultiPutRequest" "keys" textsForm "values" textsForm
def allKeysForm : Form Unit := emptyForm "AllKeysRequest"
def queryForm : Form Unit := emptyForm "QueryRequest"
def moveForm : Form (String × List Shard) :=
  pairForm "MoveRequest" "dest_server" .text "shards" (.list Shard.form)

/-- The body of a request. -/
def body : Request → List UInt8
  | get key => getForm.write key
  | put key value => putForm.write (key, value)
  | append key value => appendForm.write (key, value)
  | delete key => deleteForm.write key
  | multiGet keys => multiGetForm.write keys
  | multiPut keys values => multiPutForm.write (keys, values)
  | allKeys => allKeysForm.write ()
  | query => queryForm.write ()
  | move destination shards => moveForm.write (destination, shards)

/-- Reads the body of a request of the given verb. -/
def read : Verb → Reader Request
  | .get => get <$> getForm.read
  | .put => (fun (key, value) => put key value) <$> putForm.read
  | .append => (fun (key, value) => append key value) <$> appendForm.read
  | .delete => delete <$> deleteForm.read
  | .multiGet => multiGet <$> multiGetForm.read
  | .multiPut => (fun (keys, values) => multiPut keys values) <$> multiPutForm.read
  | .allKeys => (fun () => allKeys) <$> allKeysForm.read
  | .query => (fun () => query) <$> queryForm.read
  | .move => (fun (destination, shards) => move destination shards) <$> moveForm.read

/-- A request with its structure. -/
def inspect : Request → String
  | get key => Text.inspectVariant "Get" (getForm.inspect key)
  | put key value => Text.inspectVariant "Put" (putForm.inspect (key, value))
  | append key value => Text.inspectVariant "Append" (appendForm.inspect (key, value))
  | delete key => Text.inspectVariant "Delete" (deleteForm.inspect key)
  | multiGet keys => Text.inspectVariant "MultiGet" (multiGetForm.inspect keys)
  | multiPut keys values => Text.inspectVariant "MultiPut" (multiPutForm.inspect (keys, values))
  | allKeys => Text.inspectVariant "AllKeys" (allKeysForm.inspect ())
  | query => Text.inspectVariant "Query" (queryForm.inspect ())
  | move destination shards => Text.inspectVariant "Move" (moveForm.inspect (destination, shards))

end Request

/-! ## Responses -/

namespace Response

/-! The shape of the body for each verb. -/

def getForm : Form String := singleForm "GetResponse" "value" .text
def putForm : Form Unit := emptyForm "PutResponse"
def appendForm : Form Unit := emptyForm "AppendResponse"
def deleteForm : Form String := singleForm "DeleteResponse" "value" .text
def multiGetForm : Form (List String) := singleForm "MultiGetResponse" "values" textsForm
def multiPutForm : Form Unit := emptyForm "MultiPutResponse"
def allKeysForm : Form (List String) := singleForm "AllKeysResponse" "keys" textsForm
def queryForm : Form Assignment := singleForm "QueryResponse" "config" Assignment.form
def moveForm : Form Unit := emptyForm "MoveResponse"

/-- The body of a response. -/
def body : Response → List UInt8
  | get value => getForm.write value
  | put => putForm.write ()
  | append => appendForm.write ()
  | delete value => deleteForm.write value
  | multiGet values => multiGetForm.write values
  | multiPut => multiPutForm.write ()
  | allKeys keys => allKeysForm.write keys
  | query assignment => queryForm.write assignment
  | move => moveForm.write ()
  | error report => ErrorReport.form.write report

/-- Reads the body of a response to a request of the given verb. -/
def read : Verb → Reader Response
  | .get => get <$> getForm.read
  | .put => (fun () => put) <$> putForm.read
  | .append => (fun () => append) <$> appendForm.read
  | .delete => delete <$> deleteForm.read
  | .multiGet => multiGet <$> multiGetForm.read
  | .multiPut => (fun () => multiPut) <$> multiPutForm.read
  | .allKeys => allKeys <$> allKeysForm.read
  | .query => query <$> queryForm.read
  | .move => (fun () => move) <$> moveForm.read

/-- Decodes the body of a successful response to a request of the given verb. -/
def decode (verb : Verb) (input : List UInt8) : Except DecodeError Response :=
  (read verb).decode input

/-- A response with its structure. -/
def inspect : Response → String
  | get value => Text.inspectVariant "Get" (getForm.inspect value)
  | put => Text.inspectVariant "Put" (putForm.inspect ())
  | append => Text.inspectVariant "Append" (appendForm.inspect ())
  | delete value => Text.inspectVariant "Delete" (deleteForm.inspect value)
  | multiGet values => Text.inspectVariant "MultiGet" (multiGetForm.inspect values)
  | multiPut => Text.inspectVariant "MultiPut" (multiPutForm.inspect ())
  | allKeys keys => Text.inspectVariant "AllKeys" (allKeysForm.inspect keys)
  | query assignment => Text.inspectVariant "Query" (queryForm.inspect assignment)
  | move => Text.inspectVariant "Move" (moveForm.inspect ())
  | error report => Text.inspectVariant "Error" (ErrorReport.form.inspect report)

end Response

end Keyspace
