import Converge.Api.Error
import Converge.Codec.Parser
import Converge.Codec.Record

/-!
# Answers of a cluster

An answer has a status and a body. An error status makes the body a report of what went wrong; a
report that cannot be read is replaced by one that shows the body as it came. Any other body is
parsed by the codec of what was asked for.
-/

namespace Converge

/-- An answer to a request. -/
structure Response where
  status : Nat
  body : String

/-- The common phrases for error statuses. -/
def statusPhrases : List (Nat × String) :=
  [ (400, "Bad Request"), (401, "Unauthorized"), (402, "Payment Required"), (403, "Forbidden"),
    (404, "Not Found"), (405, "Method Not Allowed"), (406, "Not Acceptable"),
    (407, "Proxy Authentication Required"), (408, "Request Timeout"), (409, "Conflict"),
    (410, "Gone"), (411, "Length Required"), (412, "Precondition Failed"),
    (413, "Payload Too Large"), (414, "URI Too Long"), (415, "Unsupported Media Type"),
    (416, "Range Not Satisfiable"), (417, "Expectation Failed"), (418, "I'm a teapot"),
    (421, "Misdirected Request"), (422, "Unprocessable Entity"), (423, "Locked"),
    (424, "Failed Dependency"), (425, "Too Early"), (426, "Upgrade Required"),
    (428, "Precondition Required"), (429, "Too Many Requests"),
    (431, "Request Header Fields Too Large"), (451, "Unavailable For Legal Reasons"),
    (500, "Internal Server Error"), (501, "Not Implemented"), (502, "Bad Gateway"),
    (503, "Service Unavailable"), (504, "Gateway Timeout"), (505, "HTTP Version Not Supported"),
    (506, "Variant Also Negotiates"), (507, "Insufficient Storage"), (508, "Loop Detected"),
    (510, "Not Extended"), (511, "Network Authentication Required") ]

/-- A status with its phrase. -/
def statusText (status : Nat) : String :=
  let phrase := ((statusPhrases.find? fun entry => entry.1 == status).map (·.2)).getD
    "<unknown status code>"
  s!"{status} {phrase}"

namespace ApiStatus

/-- The JSON form of a report. -/
def codec : Codec ApiStatus :=
  .record "ErrorResponse"
    (.field (.required "status" .text) <|
      .field (.defaulted "message" .text "") <|
      .field (.defaulted "reason" .text "") <|
      .field (.required "code" .uint16) .done)
    (fun (status, message, reason, code, ()) => ⟨status, message, reason, code⟩)
    (fun ⟨status, message, reason, code⟩ => (status, message, reason, code, ()))

/-- The report in the body of an answer with an error status. -/
def ofBody (status : Nat) (body : String) : ApiStatus :=
  match codec.parse body with
  | .ok report => report
  | .error _ => ⟨statusText status, Text.quoted body, "Failed to parse error data", .ofNat status⟩

end ApiStatus

namespace Response

/-- Whether the status of an answer is an error. -/
def isError (response : Response) : Bool := 400 ≤ response.status && response.status < 600

/-- The value in the body of an answer. -/
def decode {α : Type} (codec : Codec α) (response : Response) : Except ApiError α :=
  if response.isError then .error (.refused (.ofBody response.status response.body))
  else (codec.parse response.body).mapError .unreadableBody

end Response

end Converge
