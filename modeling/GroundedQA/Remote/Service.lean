import GroundedQA.Json.Decode
import GroundedQA.Json.Parser
import GroundedQA.Json.Printer
import GroundedQA.Provider
import GroundedQA.Remote.Http
import GroundedQA.Text.Blank
/-!
# Providers over the web

Embeddings and completions from a web service with the common JSON interface. Every call makes one
request and is never repeated; a reply that is no success is reported with the message in its body,
or with the whole body when that holds none. The embeddings of a reply carry the places of their
texts, by which they are put in order.
-/

namespace GroundedQA.Remote

open Json

/-- How to reach a service: the key that authorises requests, the root of its addresses where it is
not the standard one, and the model to be used. -/
structure Connection where
  apiKey : String
  baseUrl : Option String
  model : String
deriving DecidableEq, Repr

/-- The root of addresses when no other is given. -/
def standardBaseUrl : String := "https://api.openai.com/v1"

/-- What a service is asked for. -/
inductive Service where
  | embeddings
  | chat
deriving DecidableEq, Repr

/-- The name of a service in errors. -/
def Service.name : Service → String
  | .embeddings => "OpenAI embeddings"
  | .chat => "OpenAI chat"

/-- The path of a service under the root of addresses. -/
def Service.path : Service → String
  | .embeddings => "embeddings"
  | .chat => "chat/completions"

def Service.error (service : Service) (fault : Fault) : RetrievalError :=
  .provider service.name fault.message

namespace Connection

/-- The connection that environment variables describe; a blank root of addresses counts as none. -/
def fromEnvironment (environment : String → Option String) (model : String) :
    Except ConfigFault Connection :=
  match environment "OPENAI_API_KEY" with
  | none => .error .noApiKey
  | some apiKey =>
    .ok ⟨apiKey, (environment "OPENAI_BASE_URL").filter (!Text.blank ·), model⟩

/-- Key and model are there. -/
def check (connection : Connection) (service : Service) : Except ConfigFault Unit :=
  if Text.blank connection.apiKey then .error (.blankApiKey service.name)
  else if Text.blank connection.model then .error (.blankModel service.name)
  else .ok ()

def address (connection : Connection) (service : Service) : String :=
  let base := (connection.baseUrl.getD standardBaseUrl).toList
  .ofList ((base.reverse.dropWhile (· = '/')).reverse ++ '/' :: service.path.toList)

end Connection

/-! ## Exchanges -/

/-- The message of an error that a service reports. -/
def reportedMessage? (body : String) : Option String := do
  let [error] ← (← Json.parse? body).fields? [["error"]] | none
  let [message] ← (← error).fields? [["message"]] | none
  required? text? message

/-- What a reply says, as `read?` reads it. -/
def Reply.content {α : Type} (read? : Json → Option α) (reply : Reply) : Except Fault α :=
  if reply.isSuccess then
    match (Json.parse? reply.body).bind read? with
    | some content => .ok content
    | none => .error .unreadableReply
  else .error (.refused reply.status ((reportedMessage? reply.body).getD reply.body))

variable {σ α : Type}

/-- Posts a JSON value to a service and reads the reply. -/
def post (transport : Transport σ) (connection : Connection) (service : Service)
    (read? : Json → Option α) (body : Json) : Call σ α :=
  match Request.make (connection.address service) connection.apiKey body.render with
  | .error fault => throw (service.error fault)
  | .ok request => do
    match ← (transport request : StateM σ (Option Reply)) with
    | none => throw (service.error (.noReply request.address))
    | some reply =>
      match reply.content read? with
      | .ok content => return content
      | .error fault => throw (service.error fault)

/-! ## Embeddings -/

/-- What is asked for the embeddings of some texts. -/
def embeddingRequest (model : String) (texts : List String) (dimensions : Option Nat) : Json :=
  .record <| [("model", .text model), ("input", .texts texts)] ++
    (dimensions.map fun n => ("dimensions", .nat n)).toList

/-- An embedding in a reply, with the place of its text. -/
structure EmbeddingItem where
  embedding : List Float32
  index : Nat
deriving DecidableEq

def EmbeddingItem.ofJson? (j : Json) : Option EmbeddingItem := do
  let [embedding, index] ← j.fields? [["embedding"], ["index"]] | none
  return {
    embedding := ← required? (list? float32?) embedding
    index := ← defaulted? 0 word? index }

def embeddingItems? (j : Json) : Option (List EmbeddingItem) := do
  let [data] ← j.fields? [["data"]] | none
  required? (list? EmbeddingItem.ofJson?) data

/-- The embeddings in the order of their places, those of one place in the order of the reply. -/
def inOrder (items : List EmbeddingItem) : List (List Float32) :=
  (items.mergeSort fun a b => a.index ≤ b.index).map (·.embedding)

/-- A source of embeddings over the web. -/
structure EmbeddingService where
  connection : Connection
  dimensions : Nat
  /-- The length that is asked for, where it is not left to the model. -/
  requestedDimensions : Option Nat := none

namespace EmbeddingService

/-- The source whose model gives embeddings of the given length. -/
def make (connection : Connection) (dimensions : Nat) : Except ConfigFault EmbeddingService := do
  connection.check .embeddings
  return { connection, dimensions }

/-- Asks for embeddings of the given length. -/
def requesting (service : EmbeddingService) (dimensions : Nat) : EmbeddingService :=
  { service with dimensions, requestedDimensions := some dimensions }

/-- The embeddings of some texts, in their order; none are asked for when there are no texts. -/
def embedBatch (service : EmbeddingService) (transport : Transport σ) (texts : List String) :
    Call σ (List Embedding) := do
  if texts.isEmpty then return []
  let request := embeddingRequest service.connection.model texts service.requestedDimensions
  return inOrder (← post transport service.connection .embeddings embeddingItems? request)

def embed (service : EmbeddingService) (transport : Transport σ) (text : String) :
    Call σ Embedding := do
  match ← service.embedBatch transport [text] with
  | embedding :: _ => return embedding
  | [] => throw (Service.embeddings.error .noEmbedding)

/-- The source as a provider. -/
def toEmbedder (service : EmbeddingService) (transport : Transport σ) : Embedder σ where
  dimensions := service.dimensions
  embed := service.embed transport
  embedBatch := service.embedBatch transport

end EmbeddingService

/-! ## Completions -/

/-- What is asked for the completion of a prompt: it is the one message of a user, and the model is
to leave nothing to chance. -/
def chatRequest (model prompt : String) : Json :=
  .record [("model", .text model),
    ("messages", .array [.record [("role", .text "user"), ("content", .text prompt)]]),
    ("temperature", .float32 0)]

/-- The text of one choice of a reply, if it has one. -/
def choiceContent? (j : Json) : Option (Option String) := do
  let [message] ← j.fields? [["message"]] | none
  let [content] ← (← message).fields? [["content"]] | none
  defaulted? none (nullable? text?) content

/-- The texts of the choices of a reply. -/
def choices? (j : Json) : Option (List (Option String)) := do
  let [choices] ← j.fields? [["choices"]] | none
  required? (list? choiceContent?) choices

/-- A language model over the web. -/
structure ChatService where
  connection : Connection

namespace ChatService

def make (connection : Connection) : Except ConfigFault ChatService := do
  connection.check .chat
  return { connection }

/-- The completion of a prompt: the text of the first choice. -/
def complete (service : ChatService) (transport : Transport σ) (prompt : String) : Call σ String := do
  let request := chatRequest service.connection.model prompt
  match ← post transport service.connection .chat choices? request with
  | some content :: _ => return content
  | _ => throw (Service.chat.error .noCompletion)

def toModel (service : ChatService) (transport : Transport σ) : LanguageModel σ where
  complete := service.complete transport

end ChatService

end GroundedQA.Remote
