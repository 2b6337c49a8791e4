import FieldRules.Form
import FieldRules.Platform.Address
import FieldRules.Service.Settings
import FieldRules.Service.Submission

/-!
# The service

The service answers three requests: whether it is well, which kinds of rules there are, and what is
wrong with the fields of a submission. A schema with too many fields is refused before it is looked
at. A schema that is wrong is refused with the field and the rule it is wrong at. A check that fails
otherwise is an error of the service, and so is a refusal that cannot be written.

A resource is found under its path, also with an end of line after it, and if there is none under the
path, under the path without the slashes at its end.

## Main definitions

* `Request`, `Content.write`, `Response` — requests and answers
* `Resource`, `Resource.find?` — what there is under the paths
* `Service.check` — the answer to a submission
* `Service.respond` — the answer to a request
* `Service.send` — the answer to a request that is yet to be written
-/

namespace FieldRules

/-- What a request is to bring along. -/
inductive Content where
  | absent
  | text (s : String)
  /-- A value that is to be written as a document. -/
  | value (v : Value)

/-- What a request brings along. -/
inductive Body where
  | absent
  | text (s : String)
  /-- A document. -/
  | document (v : Value)

/-- What a request brings along, if it can be written. -/
def Content.write (stack : Stack) : Content → Except Failure Body
  | .absent => .ok .absent
  | .text s => .ok (.text s)
  | .value v => (Document.ofValue stack.writtenLevels v).map .document

/-- A request for what is under a path. -/
structure Request where
  method : String
  path : List Char
  body : Body

/-- The answer to a request. -/
inductive Response where
  /-- A document. -/
  | document (status : Nat) (content : Value)
  /-- The body of the request is refused. -/
  | refused (faults : List Fault)
  | plain (status : Nat) (text : String)

namespace Service

/-- A mapping with names for keys. -/
def object (members : List (String × Value)) : Value :=
  .mapping (members.map fun entry => (.text entry.1, entry.2))

/-- An answer with a text for people. -/
def detail (status : Nat) (text : String) : Response :=
  .document status (object [("detail", .text text)])

/-- The answer to a schema that is wrong. -/
def schemaRefused (fault : SchemaFault) : Response :=
  .document 422 (object [("detail", .text fault.message),
    ("attribute", fault.field?.getD .null), ("rule_kind", fault.kind?.getD .null)])

/-- The answer to a schema with too many fields. -/
def tooManyFields (count : Nat) (limit : Int) : Response :=
  detail 413 ("Schema has " ++ toString count ++ " attributes (limit " ++ toString limit ++ ").")

/-- The answer where the service fails. -/
def broken : Response :=
  .plain 500 "Internal Server Error"

/-- Texts as a value. -/
def texts (items : List String) : Value :=
  .list (items.map .text)

/-- What is wrong with the fields of a submission. -/
def outcome (report : Report) (messages : List (String × Value)) : Value :=
  object [("valid", .bool (report.length = 0)), ("error_count", .int report.length),
    ("errors", object (report.groups.map fun group => (group.1, texts group.2))),
    ("messages", object messages)]

/-- The report on a submission, and the messages of the failing fields if it has any messages. -/
def checkForm (s : Surroundings) (submission : Submission) : Run Value := do
  let form ← Run.ofResult
    (Form.make .standard (.raw submission.rawSchema) submission.rawMessages .null)
  let report ← form.validate s (.mapping submission.fields)
  let messages ←
    if submission.messages.isEmpty then pure [] else form.errorMessages s report
  return outcome report messages

/-- The answer to a submission. -/
def check (s : Surroundings) (settings : Settings) (submission : Submission) : Response :=
  if settings.maxFields < submission.schema.length then
    tooManyFields submission.schema.length settings.maxFields
  else
    match (checkForm s submission).result with
    | .ok content => .document 200 content
    | .error (.schema fault) => schemaRefused fault
    | .error _ => broken

/-- The document in the body of a request, if the body is not empty. -/
def document? (stack : Stack) (body : Body) : Option Document.Outcome :=
  match body with
  | .absent => none
  | .text s =>
    if s.isEmpty then none
    else
      match Text.decode? s.toUTF8.toList with
      | none => some .undecodable
      | some decoded =>
        match Document.read stack.readLevels decoded.text with
        | .value v => some (if decoded.isHalved then .halved else .value v)
        | outcome => some outcome
  | .document v => some (if stack.readLevels < Document.levels v then .oversized else .value v)

/-- The answer that refuses a document. It repeats the values that it refuses. -/
def refuse (stack : Stack) (refusals : List Refusal) : Response :=
  if refusals.all fun refusal => Document.isRepeatable stack.repeatedLevels refusal.value then
    .refused (refusals.map Refusal.fault)
  else broken

/-- The answer to a submission in the body of a request. -/
def checkBody (s : Surroundings) (settings : Settings) (body : Body) : Response :=
  match document? s.stack body with
  | none => .refused [⟨.isMissing, Submission.place []⟩]
  | some .malformed => .refused [⟨.unreadableDocument, Submission.place []⟩]
  | some .oversized | some .undecodable | some .halved => detail 400 "There was an error parsing the body"
  | some (.value v) =>
    match Submission.ofDocument v with
    | .ok submission => check s settings submission
    | .error refusals => refuse s.stack refusals

/-- The answer to the question which kinds of rules there are. -/
def rules : Response :=
  match Library.standard.names with
  | .ok names => .document 200 (object [("rule_kinds", texts names)])
  | .error _ => broken

/-- The answer to the question whether the service is well. -/
def health (settings : Settings) : Response :=
  .document 200 (object [("status", .text "ok"), ("version", .text settings.version)])

end Service

/-- What the service has under its paths. -/
inductive Resource where
  | health
  | rules
  | validation
  /-- A page about the service. It is blank. -/
  | page

namespace Resource

/-- All resources with their paths. -/
def paths : List (String × Resource) :=
  [("/health", .health), ("/rules", .rules), ("/validate", .validation), ("/docs", .page),
    ("/docs/oauth2-redirect", .page), ("/openapi.json", .page), ("/redoc", .page)]

/-- The methods of the requests that a resource answers. -/
def methods : Resource → List String
  | .health | .rules => ["GET"]
  | .validation => ["POST"]
  | .page => ["GET", "HEAD"]

/-- The resource under a path, which an end of line may follow. -/
def at? (path : List Char) : Option Resource :=
  (paths.find? fun entry => entry.1.toList = path || entry.1.toList ++ ['\n'] = path).map Prod.snd

/-- The resource under a path, with slashes at its end or not. -/
def find? (path : List Char) : Option Resource :=
  (at? path).or (at? (Address.dropSlashes path))

end Resource

namespace Service

/-- What a resource answers to a request that it has a method for. -/
def answerOf (s : Surroundings) (settings : Settings) (body : Body) : Resource → Response
  | .health => health settings
  | .rules => rules
  | .validation => checkBody s settings body
  | .page => .plain 200 ""

/-- The status of an answer. -/
def status : Response → Nat
  | .document status _ => status
  | .refused _ => 422
  | .plain status _ => status

/-- The answer to a request. One that asks for the head of an answer gets no more. -/
def respond (s : Surroundings) (settings : Settings) (request : Request) : Response :=
  let method := String.ofList (Text.upperAscii request.method.toList)
  let response :=
    match Resource.find? request.path with
    | none => detail 404 "Not Found"
    | some resource =>
      if resource.methods.contains method then answerOf s settings request.body resource
      else detail 405 "Method Not Allowed"
  if method = "HEAD" then .plain (status response) "" else response

/-- The answer to a request that is yet to be written: what it brings along is written first, then its
address is read, and then this is reached. -/
def send (s : Surroundings) (settings : Settings) (method reference : String) (content : Content) :
    Except Failure Response := do
  let body ← content.write s.stack
  let address ← Address.read reference
  let path ← address.reach
  return respond s settings ⟨method, path, body⟩

end Service

end FieldRules
