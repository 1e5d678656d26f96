import GroundedQA.Error
import GroundedQA.Remote.Address
/-!
# Requests over HTTP

A request posts a JSON text to an address, with a key that authorises it. What carries requests is
given by what it does to a state of its own, and may bring a reply or fail to. No request is made
with a key that cannot stand in a header, or to an address that takes none.
-/

namespace GroundedQA.Remote

/-- A JSON text to be posted. -/
structure Request where
  address : Address
  apiKey : String
  body : String
deriving DecidableEq, Repr

/-- The header that authorises a request. -/
def Request.authorization (request : Request) : String := "Bearer " ++ request.apiKey

/-- What a server replies, with a body in UTF-8. Other bodies are not covered, nor those that begin with a
byte order mark: where a body is shown to the user it is decoded as the reply says, and where it is
read as JSON it has to be plain UTF-8. -/
structure Reply where
  status : Nat
  body : String
deriving DecidableEq, Repr

/-- What carries a request to its server, and the reply back if there is one. -/
abbrev Transport (σ : Type) := Request → StateM σ (Option Reply)

/-! ## Status codes -/

def Reply.isSuccess (reply : Reply) : Bool :=
  200 ≤ reply.status && reply.status < 300

/-- The standard phrases for status codes. -/
def statusPhrases : List (Nat × String) :=
  [(100, "Continue"), (101, "Switching Protocols"), (102, "Processing"), (200, "OK"),
  (201, "Created"), (202, "Accepted"), (203, "Non Authoritative Information"),
  (204, "No Content"), (205, "Reset Content"), (206, "Partial Content"), (207, "Multi-Status"),
  (208, "Already Reported"), (226, "IM Used"), (300, "Multiple Choices"),
  (301, "Moved Permanently"), (302, "Found"), (303, "See Other"), (304, "Not Modified"),
  (305, "Use Proxy"), (307, "Temporary Redirect"), (308, "Permanent Redirect"),
  (400, "Bad Request"), (401, "Unauthorized"), (402, "Payment Required"), (403, "Forbidden"),
  (404, "Not Found"), (405, "Method Not Allowed"), (406, "Not Acceptable"),
  (407, "Proxy Authentication Required"), (408, "Request Timeout"), (409, "Conflict"),
  (410, "Gone"), (411, "Length Required"), (412, "Precondition Failed"),
  (413, "Payload Too Large"), (414, "URI Too Long"), (415, "Unsupported Media Type"),
  (416, "Range Not Satisfiable"), (417, "Expectation Failed"), (418, "I'm a teapot"),
  (421, "Misdirected Request"), (422, "Unprocessable Entity"), (423, "Locked"),
  (424, "Failed Dependency"), (425, "Too Early"), (426, "Upgrade Required"),
  (428, "Precondition Required"), (429, "Too Many Requests"),
  (431, "Request Header Fields Too Large"), (451, "Unavailable For Legal Reasons"),
  (500, "Internal Server Error"), (501, "Not Implemented"), (502, "Bad Gateway"),
  (503, "Service Unavailable"), (504, "Gateway Timeout"), (505, "HTTP Version Not Supported"),
  (506, "Variant Also Negotiates"), (507, "Insufficient Storage"), (508, "Loop Detected"),
  (510, "Not Extended"), (511, "Network Authentication Required")]

/-- A status code with its phrase. -/
def statusText (status : Nat) : String :=
  Number.decimal status ++ " " ++ (statusPhrases.lookup status).getD "<unknown status code>"

/-! ## Faults -/

/-- Why a call to a web service fails. -/
inductive Fault where
  | noRequest
  | unsuitableAddress (address : Address)
  | noReply (address : Address)
  | refused (status : Nat) (detail : String)
  | unreadableReply
  | noEmbedding
  | noCompletion
deriving DecidableEq, Repr

def Fault.message : Fault → String
  | .noRequest => "request failed: builder error"
  | .unsuitableAddress address =>
    s!"request failed: builder error for url ({address.render})"
  | .noReply address => s!"request failed: error sending request for url ({address.render})"
  | .refused status detail => s!"API returned {statusText status}: {detail}"
  | .unreadableReply => "failed to parse response: error decoding response body"
  | .noEmbedding => "API returned empty response"
  | .noCompletion => "API returned no completion"

/-! ## Making requests -/

/-- Control characters, tab apart, may not stand in a header. -/
def fitsHeader (key : String) : Bool :=
  key.toList.all fun c => c = '\t' || 0x20 ≤ c.toNat && c.toNat ≠ 0x7F

/-- The longest address that a request can be made to, in bytes. -/
def longestAddress : Nat := 65534

/-- Requests are made to addresses of the schemes `http` and `https` that are not too long and whose
host has no quotation marks or braces. -/
def Address.takesRequests (address : Address) : Bool :=
  (address.scheme = "http" || address.scheme = "https") &&
    address.render.utf8ByteSize ≤ longestAddress &&
    !address.renderAuthority.toList.any "\"`\x7b\x7d".toList.contains

/-- A request made of its parts. The address must lead to a host before the key is looked at, and take
requests after that. A name and a password that the address gives are left out: they are sent beside
the key, as a second header of authorisation, which is not among the parts of a request here. -/
def Request.make (address apiKey body : String) : Except Fault Request :=
  match Address.parse? address with
  | none => .error .noRequest
  | some address =>
    let address := address.anonymous
    if !address.hasHost then .error (.unsuitableAddress address)
    else if !fitsHeader apiKey then .error .noRequest
    else if !address.takesRequests then .error (.unsuitableAddress address)
    else .ok ⟨address, apiKey, body⟩

end GroundedQA.Remote
