import Converge.Codec.DecodeError
import Converge.Json.Reader

/-!
# Errors of the interface of a cluster

What can go wrong in a request to a cluster: the request cannot be sent, the cluster answers with
an error status, the body of an answer cannot be read, or a group that is listed has no version.
-/

namespace Converge

/-- What a cluster says of a request that it does not fulfil. -/
structure ApiStatus where
  status : String
  message : String
  reason : String
  code : UInt16
  deriving DecidableEq

/-- A status with all its parts. -/
def ApiStatus.text (status : ApiStatus) : String :=
  let quotedStatus := Text.quoted status.status
  let quotedMessage := Text.quoted status.message
  let quotedReason := Text.quoted status.reason
  let head := s!"ApiError: {status.message}: {status.reason} (ErrorResponse \x7b status: "
  head ++ quotedStatus ++ ", message: " ++ quotedMessage ++ ", reason: " ++ quotedReason ++
    s!", code: {status.code} \x7d)"

/-- Why a request fails. -/
inductive ApiError where
  | refused (status : ApiStatus)
  | emptyName
  | invalidAddress
  | invalidListAddress
  | unreadableBody (error : Json.TextError DecodeError)
  | emptyGroup (name : String)
  deriving DecidableEq

/-- The wording of an error. -/
def ApiError.message : ApiError → String
  | refused status => status.text
  | emptyName =>
    "Failed to build request: failed to validate request: A non-empty name is required"
  | invalidAddress =>
    "Failed to build request: failed to build request: invalid uri character"
  | invalidListAddress => "HttpError: invalid uri character"
  | unreadableBody error => s!"Error deserializing response: {error.message DecodeError.message}"
  | emptyGroup name => s!"Error from discovery: Empty Api Group: {name}"

end Converge
