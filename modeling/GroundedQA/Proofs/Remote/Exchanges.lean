import GroundedQA.Proofs.Answering.Calls
import GroundedQA.Proofs.Json.Documents
import GroundedQA.Proofs.Json.Records
import GroundedQA.Proofs.Remote.Endpoint
/-!
# The exchanges of calls

What carries requests can be made to note its exchanges. Of a sequence of calls to services over the web it notes one
exchange for each call, in their order, but none for an empty batch (`Providers.session_exchanges`). The request says
what was asked, and the call comes to what its own reply says.
-/

namespace GroundedQA.Remote

open Json

variable {σ α : Type}

/-! ## What is sent -/

/-- An object without members but those of the given names. -/
def hasOnly (names : List String) : Json → Bool
  | .object members => members.all fun m => m.1.any names.contains
  | _ => false

theorem hasOnly_record (names : List String) (members : List (String × Json)) :
    hasOnly names (.record members) = members.all fun m => names.contains m.1 := by
  simp [hasOnly, record, member, Function.comp_def]

/-- What a service is asked for by those who want embeddings. -/
structure EmbeddingOrder where
  model : String
  texts : List String
  dimensions : Option Nat
deriving DecidableEq

/-- The order that a JSON value is, which has no other members. -/
def EmbeddingOrder.ofJson? (j : Json) : Option EmbeddingOrder := do
  let [model, input, dimensions] ← j.fields? [["model"], ["input"], ["dimensions"]] | none
  if !hasOnly ["model", "input", "dimensions"] j then none
  return {
    model := ← required? text? model
    texts := ← required? (list? text?) input
    dimensions := ← defaulted? none (fun n => (word? n).map some) dimensions }

/-- A message, with the part of who says it. -/
structure Message where
  role : String
  content : String
deriving DecidableEq

def Message.ofJson? (j : Json) : Option Message := do
  let [role, content] ← j.fields? [["role"], ["content"]] | none
  if !hasOnly ["role", "content"] j then none
  return ⟨← required? text? role, ← required? text? content⟩

/-- What a service is asked for by those who want a completion. -/
structure ChatOrder where
  model : String
  messages : List Message
  temperature : Float32
deriving DecidableEq

/-- The order that a JSON value is, which has no other members. -/
def ChatOrder.ofJson? (j : Json) : Option ChatOrder := do
  let [model, messages, temperature] ← j.fields? [["model"], ["messages"], ["temperature"]] | none
  if !hasOnly ["model", "messages", "temperature"] j then none
  return {
    model := ← required? text? model
    messages := ← required? (list? Message.ofJson?) messages
    temperature := ← required? float32? temperature }

theorem EmbeddingOrder.ofJson?_embeddingRequest (model : String) (texts : List String) {dimensions : Option Nat}
    (h : ∀ n ∈ dimensions, n < 2 ^ 64) :
    ofJson? (embeddingRequest model texts dimensions) = some ⟨model, texts, dimensions⟩ := by
  have htexts : list? text? (.texts texts) = some texts := mapM_map_self fun s _ => text?_text s
  have hfields : (embeddingRequest model texts dimensions).fields? [["model"], ["input"], ["dimensions"]] =
      some [some (.text model), some (.texts texts), dimensions.map .nat] := by
    rw [embeddingRequest, fields?_record]
    cases dimensions <;> rfl
  have honly : hasOnly ["model", "input", "dimensions"] (embeddingRequest model texts dimensions) := by
    rw [embeddingRequest, hasOnly_record]
    cases dimensions <;> rfl
  have hdimensions : defaulted? none (fun n => (word? n).map some) (dimensions.map .nat) = some dimensions := by
    cases dimensions with
    | none => rfl
    | some n => simp [defaulted?, word?_nat (h n rfl)]
  unfold ofJson?
  rw [hfields, honly]
  simp [required?, htexts, hdimensions]

theorem ChatOrder.ofJson?_chatRequest (model prompt : String) :
    ofJson? (chatRequest model prompt) = some ⟨model, [⟨"user", prompt⟩], 0⟩ := by
  have htemperature : float32? (.float32 0) = some 0 := float32?_float32 (by decide +kernel)
  have hmessage : Message.ofJson? (.record [("role", .text "user"), ("content", .text prompt)]) =
      some ⟨"user", prompt⟩ := rfl
  unfold ofJson? chatRequest
  rw [fields?_record, hasOnly_record]
  simp [memberOf?, required?, list?, hmessage, htemperature]

/-! ## What comes back -/

/-- What a call to a provider gives. -/
inductive Answer where
  | embedding (vector : Embedding)
  | embeddings (vectors : List Embedding)
  | text (completion : String)
deriving DecidableEq

/-- The answer in a reply to what was asked: its first embedding, all its embeddings, or the text of its first
choice. -/
def answer? : Asked → Json → Option Answer
  | .embed _, j => ((embeddingItems? j).bind fun items => (inOrder items).head?).map .embedding
  | .embedBatch _, j => (embeddingItems? j).map fun items => .embeddings (inOrder items)
  | .complete _, j => ((choices? j).bind fun choices => choices.head?.join).map .text

/-- The service that is asked. -/
def Service.of : Asked → Service
  | .embed _ | .embedBatch _ => .embeddings
  | .complete _ => .chat

/-- What a call comes to, as its own reply has it. -/
structure Concluded (asked : Asked) (reply? : Option Reply) (result : Except RetrievalError Answer) : Prop where
  ok_iff : ∀ answer, result = .ok answer ↔ ∃ reply ∈ reply?, (200 ≤ reply.status ∧ reply.status < 300) ∧
    (parse? reply.body).bind (answer? asked) = some answer
  error : ∀ e, result = .error e → ∃ message, e = .provider (Service.of asked).name message
  refused : ∀ reply ∈ reply?, ¬(200 ≤ reply.status ∧ reply.status < 300) →
    result = .error (.provider (Service.of asked).name
      s!"API returned {statusText reply.status}: {(reportedMessage? reply.body).getD reply.body}")

/-- What is read of a reply to an address, if there is one. -/
def received (read? : Json → Option α) (address : Address) : Option Reply → Except Fault α
  | none => .error (.noReply address)
  | some reply => reply.content read?

theorem Reply.isSuccess_iff (reply : Reply) : reply.isSuccess ↔ 200 ≤ reply.status ∧ reply.status < 300 := by
  simp [isSuccess]

theorem Reply.content_eq_ok_iff {read? : Json → Option α} {reply : Reply} {content : α} :
    reply.content read? = .ok content ↔
      (200 ≤ reply.status ∧ reply.status < 300) ∧ (parse? reply.body).bind read? = some content := by
  rw [← isSuccess_iff, Reply.content]
  split
  next hsuccess =>
    cases (parse? reply.body).bind read? with
    | none => simp
    | some x => simp [hsuccess]
  next hsuccess => simp [hsuccess]

theorem received_eq_ok_iff {read? : Json → Option α} {address : Address} {reply? : Option Reply} {content : α} :
    received read? address reply? = .ok content ↔ ∃ reply ∈ reply?, (200 ≤ reply.status ∧ reply.status < 300) ∧
      (parse? reply.body).bind read? = some content := by
  cases reply? with
  | none => simp [received]
  | some reply => simp [received, Reply.content_eq_ok_iff]

/-- A call that goes on from what it received is concluded when it ends with the answers of the replies. -/
theorem concluded_of_finish {asked : Asked} {read? : Json → Option α} {finish : α → Except Fault Answer}
    (h : ∀ j answer, answer? asked j = some answer ↔ ∃ x, read? j = some x ∧ finish x = .ok answer)
    (address : Address) (reply? : Option Reply) :
    Concluded asked reply? ((received read? address reply? >>= finish).mapError (Service.of asked).error) where
  ok_iff answer := by
    rw [mapError_eq_ok, bind_eq_ok]
    constructor
    · rintro ⟨x, hx, hfinish⟩
      obtain ⟨reply, hreply, hstatus, hread⟩ := received_eq_ok_iff.1 hx
      obtain ⟨j, hj, hread⟩ := Option.bind_eq_some_iff.1 hread
      exact ⟨reply, hreply, hstatus, Option.bind_eq_some_iff.2 ⟨j, hj, (h j answer).2 ⟨x, hread, hfinish⟩⟩⟩
    · rintro ⟨reply, hreply, hstatus, hread⟩
      obtain ⟨j, hj, hanswer⟩ := Option.bind_eq_some_iff.1 hread
      obtain ⟨x, hread, hfinish⟩ := (h j answer).1 hanswer
      exact ⟨x, received_eq_ok_iff.2 ⟨reply, hreply, hstatus, Option.bind_eq_some_iff.2 ⟨j, hj, hread⟩⟩, hfinish⟩
  error e he := by
    obtain ⟨fault, -, rfl⟩ := mapError_eq_error.1 he
    exact ⟨fault.message, rfl⟩
  refused reply hreply hstatus := by
    have hrefused : received read? address reply? =
        .error (.refused reply.status ((reportedMessage? reply.body).getD reply.body)) := by
      rw [Option.mem_def.1 hreply, received, Reply.content, if_neg (by rwa [Reply.isSuccess_iff])]
    rw [hrefused]
    rfl

/-! ## Calls -/

theorem post_run {connection : Connection} {service : Service} {body : Json} {request : Request}
    (h : Request.make (connection.address service) connection.apiKey body.render = .ok request)
    (transport : Transport σ) (read? : Json → Option α) (s : σ) :
    (post transport connection service read? body).run.run s =
      ((received read? request.address ((transport request).run s).1).mapError service.error,
        ((transport request).run s).2) := by
  have hcarried : (liftM (transport request) : Call σ (Option Reply)).run.run s =
      (.ok ((transport request).run s).1, ((transport request).run s).2) := rfl
  unfold post
  rw [h]
  dsimp only
  rw [run_bind, hcarried]
  dsimp only
  cases ((transport request).run s).1 with
  | none => rfl
  | some reply =>
    dsimp only [received]
    cases reply.content read? <;> rfl

/-- A call that goes on from a posted request without another one. -/
theorem post_bind_run {β : Type} {connection : Connection} {service : Service} {body : Json} {request : Request}
    (h : Request.make (connection.address service) connection.apiKey body.render = .ok request)
    (transport : Transport σ) (read? : Json → Option α) {next : α → Call σ β} {finish : α → Except Fault β}
    (hnext : ∀ x s, (next x).run.run s = ((finish x).mapError service.error, s)) (s : σ) :
    (post transport connection service read? body >>= next).run.run s =
      ((received read? request.address ((transport request).run s).1 >>= finish).mapError service.error,
        ((transport request).run s).2) := by
  rw [run_bind, post_run h]
  cases received read? request.address ((transport request).run s).1 with
  | error fault => rfl
  | ok x => exact hnext x _

/-- Two sources of answers over the web. -/
structure Providers where
  embeddings : EmbeddingService
  chat : ChatService

namespace Providers

variable (providers : Providers)

/-- Requests can be made to both, and lengths are whole numbers of 64 bits. -/
structure Valid : Prop where
  embeddings : providers.embeddings.connection.Valid
  chat : providers.chat.connection.Valid
  requestedDimensions : ∀ n ∈ providers.embeddings.requestedDimensions, n < 2 ^ 64

def connection : Asked → Connection
  | .embed _ | .embedBatch _ => providers.embeddings.connection
  | .complete _ => providers.chat.connection

/-- A call, as it is asked for. -/
def call (transport : Transport σ) : Asked → Call σ Answer
  | .embed text => Answer.embedding <$> providers.embeddings.embed transport text
  | .embedBatch texts => Answer.embeddings <$> providers.embeddings.embedBatch transport texts
  | .complete prompt => Answer.text <$> providers.chat.complete transport prompt

/-- One call after the other, whatever each comes to. -/
def session (transport : Transport σ) (calls : List Asked) : StateM σ (List (Except RetrievalError Answer)) :=
  calls.mapM fun asked => (providers.call transport asked).run

/-- The JSON text that says what is asked. -/
def order : Asked → Json
  | .embed text => embeddingRequest providers.embeddings.connection.model [text] providers.embeddings.requestedDimensions
  | .embedBatch texts =>
    embeddingRequest providers.embeddings.connection.model texts providers.embeddings.requestedDimensions
  | .complete prompt => chatRequest providers.chat.connection.model prompt

def request? (asked : Asked) : Except Fault Request :=
  Request.make ((providers.connection asked).address (.of asked)) (providers.connection asked).apiKey
    (providers.order asked).render

/-- A batch that is not empty is posted. -/
theorem embedBatch_eq (service : EmbeddingService) (transport : Transport σ) {texts : List String} (h : texts ≠ []) :
    service.embedBatch transport texts = inOrder <$> post transport service.connection .embeddings embeddingItems?
      (embeddingRequest service.connection.model texts service.requestedDimensions) := by
  have htexts : ¬texts.isEmpty := by simpa using h
  unfold EmbeddingService.embedBatch
  rw [if_neg htexts, map_eq_pure_bind]

theorem call_embedBatch {texts : List String} (h : texts ≠ []) (transport : Transport σ) :
    providers.call transport (.embedBatch texts) =
      post transport (providers.connection (.embedBatch texts)) (.of (.embedBatch texts)) embeddingItems?
        (providers.order (.embedBatch texts)) >>= fun items => pure (.embeddings (inOrder items)) := by
  rw [call, embedBatch_eq _ _ h, ← comp_map, map_eq_pure_bind]
  rfl

theorem call_embed (text : String) (transport : Transport σ) :
    providers.call transport (.embed text) =
      post transport (providers.connection (.embed text)) (.of (.embed text)) embeddingItems?
        (providers.order (.embed text)) >>= fun items => match inOrder items with
          | embedding :: _ => pure (.embedding embedding)
          | [] => throw ((Service.of (.embed text)).error .noEmbedding) := by
  rw [call, EmbeddingService.embed, embedBatch_eq _ _ (List.cons_ne_nil _ _), map_eq_pure_bind, bind_assoc,
    bind_map_left]
  refine bind_congr fun items => ?_
  cases inOrder items <;> rfl

theorem call_complete (prompt : String) (transport : Transport σ) :
    providers.call transport (.complete prompt) =
      post transport (providers.connection (.complete prompt)) (.of (.complete prompt)) choices?
        (providers.order (.complete prompt)) >>= fun choices => match choices with
          | some content :: _ => pure (.text content)
          | _ => throw ((Service.of (.complete prompt)).error .noCompletion) := by
  rw [call, ChatService.complete, map_eq_pure_bind, bind_assoc]
  refine bind_congr fun choices => ?_
  match choices with
  | [] | none :: _ | some _ :: _ => rfl

/-- A call without an exchange. -/
theorem call_embedBatch_nil (transport : Transport σ) (s : σ) :
    (providers.call transport (.embedBatch [])).run.run s = (.ok (.embeddings []), s) := rfl

variable {providers}

theorem Valid.connection (h : providers.Valid) (asked : Asked) : (providers.connection asked).Valid := by
  cases asked with
  | embed | embedBatch => exact h.embeddings
  | complete => exact h.chat

/-- A call posts the request, and comes to what the reply to it has. -/
def Posts (providers : Providers) (asked : Asked) (request : Request) : Prop :=
  ∃ conclude : Option Reply → Except RetrievalError Answer, (∀ reply?, Concluded asked reply? (conclude reply?)) ∧
    ∀ {σ : Type} (transport : Transport σ) (s : σ), (providers.call transport asked).run.run s =
      (conclude ((transport request).run s).1, ((transport request).run s).2)

theorem posts_of_finish {asked : Asked} {request : Request} (hrequest : providers.request? asked = .ok request)
    {read? : Json → Option α} {next : ∀ σ : Type, α → Call σ Answer} (finish : α → Except Fault Answer)
    (hcall : ∀ {σ : Type} (transport : Transport σ), providers.call transport asked =
      post transport (providers.connection asked) (.of asked) read? (providers.order asked) >>= next σ)
    (hnext : ∀ (σ : Type) (x : α) (s : σ),
      (next σ x).run.run s = ((finish x).mapError (Service.of asked).error, s))
    (hanswer : ∀ j answer, answer? asked j = some answer ↔ ∃ x, read? j = some x ∧ finish x = .ok answer) :
    providers.Posts asked request := by
  refine ⟨_, concluded_of_finish hanswer request.address, fun transport s => ?_⟩
  rw [hcall, post_bind_run hrequest transport read? (hnext _)]

/-- The first embedding, if there is one. -/
def firstEmbedding (items : List EmbeddingItem) : Except Fault Answer :=
  match inOrder items with
  | embedding :: _ => .ok (.embedding embedding)
  | [] => .error .noEmbedding

/-- The text of the first choice, if it has one. -/
def firstText : List (Option String) → Except Fault Answer
  | some content :: _ => .ok (.text content)
  | _ => .error .noCompletion

/-- Every call but that of an empty batch posts the request that says what is asked. -/
theorem posts_request {asked : Asked} (hasked : asked ≠ .embedBatch []) {request : Request}
    (hrequest : providers.request? asked = .ok request) : providers.Posts asked request := by
  cases asked with
  | embed text =>
    refine posts_of_finish hrequest firstEmbedding (providers.call_embed text) (fun σ items s => ?_) fun j answer => ?_
    · unfold firstEmbedding
      cases inOrder items <;> rfl
    · cases h : embeddingItems? j with
      | none => simp [answer?, h]
      | some items => cases hitems : inOrder items <;> simp [answer?, firstEmbedding, h, hitems]
  | embedBatch texts =>
    have htexts : texts ≠ [] := fun h => hasked (h ▸ rfl)
    refine posts_of_finish hrequest (fun items => .ok (.embeddings (inOrder items))) (providers.call_embedBatch htexts)
      (fun σ items s => rfl) fun j answer => ?_
    simp [answer?, Option.map_eq_some_iff]
  | complete prompt =>
    refine posts_of_finish hrequest firstText (providers.call_complete prompt) (fun σ choices s => ?_) fun j answer => ?_
    · match choices with
      | [] | none :: _ | some _ :: _ => rfl
    · cases h : choices? j with
      | none => simp [answer?, h]
      | some choices =>
        match choices with
        | [] | none :: _ | some _ :: _ => simp [answer?, firstText, h]

/-- A text orders what is asked. -/
def Orders (providers : Providers) (body : String) : Asked → Prop
  | .embed text => (parse? body).bind EmbeddingOrder.ofJson? =
    some ⟨providers.embeddings.connection.model, [text], providers.embeddings.requestedDimensions⟩
  | .embedBatch texts => (parse? body).bind EmbeddingOrder.ofJson? =
    some ⟨providers.embeddings.connection.model, texts, providers.embeddings.requestedDimensions⟩
  | .complete prompt => (parse? body).bind ChatOrder.ofJson? =
    some ⟨providers.chat.connection.model, [⟨"user", prompt⟩], 0⟩

/-- A request asks for what is asked, at the address of the service and with the key of its connection. -/
structure Sends (providers : Providers) (asked : Asked) (request : Request) : Prop where
  address : (Address.parse? ((providers.connection asked).address (.of asked))).map Address.anonymous =
    some request.address
  key : request.apiKey = (providers.connection asked).apiKey
  orders : providers.Orders request.body asked

theorem Valid.orders_render (h : providers.Valid) (asked : Asked) :
    providers.Orders (providers.order asked).render asked := by
  cases asked with
  | embed text | embedBatch texts =>
    rw [Orders, parse?_render]
    exact EmbeddingOrder.ofJson?_embeddingRequest _ _ h.requestedDimensions
  | complete prompt =>
    rw [Orders, parse?_render]
    exact ChatOrder.ofJson?_chatRequest _ prompt

/-- There is a request for whatever is asked. -/
theorem Valid.exists_request? (h : providers.Valid) (asked : Asked) :
    ∃ request, providers.request? asked = .ok request ∧ providers.Sends asked request := by
  obtain ⟨address, haddress, hmake⟩ := (h.connection asked).exists_make (.of asked)
  refine ⟨_, hmake _, ?_, rfl, h.orders_render asked⟩
  rw [haddress]
  rfl

end Providers

/-! ## Exchanges -/

/-- A request and the reply to it, if there was one. -/
structure Exchange where
  request : Request
  reply? : Option Reply
deriving DecidableEq, Repr

/-- What carries requests as the given transport does, and notes the exchanges. -/
def Transport.noted (transport : Transport σ) : Transport (σ × List Exchange) := fun request (s, log) =>
  let (reply?, s) := transport request s
  (reply?, s, log ++ [⟨request, reply?⟩])

theorem Transport.noted_run (transport : Transport σ) (request : Request) (s : σ) (log : List Exchange) :
    (transport.noted request).run (s, log) = (((transport request).run s).1, ((transport request).run s).2,
      log ++ [⟨request, ((transport request).run s).1⟩]) := rfl

namespace Providers

/-- The calls of a sequence with their exchanges and what they come to: one exchange for each call, in their order,
but none for an empty batch, which has an empty list of embeddings. -/
inductive Exchanged (providers : Providers) :
    List Asked → List Exchange → List (Except RetrievalError Answer) → Prop
  | nil : Exchanged providers [] [] []
  | quiet {calls log results} (rest : Exchanged providers calls log results) :
    Exchanged providers (.embedBatch [] :: calls) log (.ok (.embeddings []) :: results)
  | posted {asked calls exchange log result results} (asked_ne : asked ≠ .embedBatch [])
    (sends : providers.Sends asked exchange.request) (concluded : Concluded asked exchange.reply? result)
    (rest : Exchanged providers calls log results) :
    Exchanged providers (asked :: calls) (exchange :: log) (result :: results)

theorem session_cons_run (providers : Providers) (transport : Transport σ) (asked : Asked) (calls : List Asked) (s : σ) :
    (providers.session transport (asked :: calls)).run s =
      (((providers.call transport asked).run.run s).1 ::
          ((providers.session transport calls).run ((providers.call transport asked).run.run s).2).1,
        ((providers.session transport calls).run ((providers.call transport asked).run.run s).2).2) := by
  unfold session
  rw [List.mapM_cons]
  rfl

/-- Notes change nothing, and what is noted belongs to the calls. -/
theorem Valid.session_noted {providers : Providers} (h : providers.Valid) (transport : Transport σ) (calls : List Asked)
    (s : σ) (before : List Exchange) :
    ∃ log, (providers.session transport.noted calls).run (s, before) =
        (((providers.session transport calls).run s).1, ((providers.session transport calls).run s).2, before ++ log) ∧
      providers.Exchanged calls log ((providers.session transport calls).run s).1 := by
  induction calls generalizing s before with
  | nil => exact ⟨[], by rw [List.append_nil]; rfl, .nil⟩
  | cons asked calls ih =>
    rw [session_cons_run, session_cons_run]
    by_cases hasked : asked = .embedBatch []
    · subst hasked
      obtain ⟨log, hlog, hexchanged⟩ := ih s before
      rw [call_embedBatch_nil, call_embedBatch_nil, hlog]
      exact ⟨log, rfl, .quiet hexchanged⟩
    · obtain ⟨request, hrequest, hsends⟩ := h.exists_request? asked
      obtain ⟨conclude, hconcluded, hrun⟩ := posts_request hasked hrequest
      rw [hrun, hrun, transport.noted_run]
      obtain ⟨log, hlog, hexchanged⟩ := ih ((transport request).run s).2
        (before ++ [⟨request, ((transport request).run s).1⟩])
      rw [hlog, List.append_assoc, List.singleton_append]
      exact ⟨_, rfl, .posted hasked hsends (hconcluded _) hexchanged⟩

/-- What the calls of a sequence send and what they come to, whatever carries the requests. An empty batch sends
nothing and gives no embeddings. Every other call sends one request, in the order of the calls, which asks for what is
asked and nothing else; it comes to the answer in its own reply if this is a success that holds one, and to an error
in the name of its service otherwise, with the message of a reply that is no success or else the whole of it. A text
alone is sent as the batch of it is. -/
theorem session_exchanges {providers : Providers} (h : providers.Valid) (transport : Transport σ) (s : σ) :
    (∀ calls, ∃ log, (providers.session transport.noted calls).run (s, []) =
        (((providers.session transport calls).run s).1, ((providers.session transport calls).run s).2, log) ∧
      providers.Exchanged calls log ((providers.session transport calls).run s).1) ∧
    ∀ text, ((providers.session transport.noted [.embed text]).run (s, [])).2 =
      ((providers.session transport.noted [.embedBatch [text]]).run (s, [])).2 := by
  refine ⟨fun calls => h.session_noted transport calls s [], fun text => ?_⟩
  obtain ⟨request, hrequest, -⟩ := h.exists_request? (.embed text)
  have hbatch : providers.request? (.embedBatch [text]) = .ok request := hrequest
  obtain ⟨_, -, hembed⟩ := posts_request Asked.noConfusion hrequest
  obtain ⟨_, -, hbatch⟩ := posts_request (by simp) hbatch
  rw [session_cons_run, session_cons_run, hembed, hbatch]

/-- Replies that are given one after the other, whatever is sent. -/
def scripted : Transport (List (Option Reply)) := fun _ replies => (replies.head?.join, replies.tail)

/-- Both sources at the standard root. -/
def standard : Providers :=
  ⟨{ connection := ⟨"key", none, "small"⟩, dimensions := 1 }, ⟨⟨"key", none, "large"⟩⟩⟩

/-- A completion, a refusal, a reply without a choice, and no reply. -/
def mixedReplies : List (Option Reply) :=
  [some ⟨200, "\x7b\"choices\":[\x7b\"message\":\x7b\"content\":\"a\"\x7d\x7d]\x7d"⟩,
    some ⟨429, "\x7b\"error\":\x7b\"message\":\"slow\"\x7d\x7d"⟩,
    some ⟨200, "\x7b\"choices\":[]\x7d"⟩, none]

/-- The empty batch leaves the first reply to the completion after it. -/
theorem session_exchanges_mixed :
    standard.Valid ∧ ∃ log, standard.Exchanged [.embedBatch [], .complete "q", .embed "t", .complete "q", .embed "t"] log
      [.ok (.embeddings []), .ok (.text "a"),
        .error (.provider "OpenAI embeddings" "API returned 429 Too Many Requests: slow"),
        .error (.provider "OpenAI chat" "API returned no completion"),
        .error (.provider "OpenAI embeddings"
          "request failed: error sending request for url (https://api.openai.com/v1/embeddings)")] := by
  have hvalid : standard.Valid := ⟨.of_standard rfl rfl, .of_standard rfl rfl, by simp [standard]⟩
  obtain ⟨log, -, hlog⟩ := (session_exchanges hvalid scripted mixedReplies).1
    [.embedBatch [], .complete "q", .embed "t", .complete "q", .embed "t"]
  refine ⟨hvalid, log, ?_⟩
  convert hlog
  decide +kernel

end Providers

end GroundedQA.Remote
