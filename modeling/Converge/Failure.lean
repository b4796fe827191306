import Converge.Api.Error

/-!
# Failures of a pass

Why a pass over an instance ends without a plan. A failure tells, as far as it can, the instance,
the field of its specification and the kind of object that it is about. What may pass by itself is
worth another try; what stays wrong until someone changes the specification or the cluster is not.
-/

namespace Converge

/-- Why a pass fails. -/
inductive Failure where
  /-- The cluster did not fulfil a request. -/
  | cluster (error : ApiError)
  /-- The specification is wrong or incomplete. -/
  | invalid (owner message : String) (field : Option String)
  /-- The cluster does not serve a kind that the specification asks for. -/
  | unavailable (owner kind : String)
  /-- The state of an object could not be read. -/
  | unreadable (kind owner message : String)
  /-- An object does not have the form of its kind. -/
  | malformed (message : String) (kind : Option String)
  /-- Something else went wrong. -/
  | internal (message context : String)
  deriving DecidableEq

namespace Failure

/-- The name of what a failure is about when nothing better is known. -/
def unknown : String := "unknown"

/-- A fault of one field of a specification. -/
def invalidField (owner field message : String) : Failure := invalid owner message (some field)

/-- The wording of a failure. -/
def message : Failure → String
  | cluster error => s!"kubernetes error: {error.message}"
  | invalid owner message _ => s!"validation error for {owner}: {message}"
  | unavailable owner kind =>
    s!"{kind} is not available on this cluster (required by {owner})"
  | unreadable kind owner message => s!"failed to fetch {kind} for {owner}: {message}"
  | malformed message _ => s!"serialization error: {message}"
  | internal message context => s!"internal error [{context}]: {message}"

/-- Whether the same pass may succeed later without any change. -/
def isRetryable : Failure → Bool
  | cluster _ | unreadable .. | internal .. => true
  | invalid .. | unavailable .. | malformed .. => false

/-- The instance that a failure is about. -/
def owner? : Failure → Option String
  | invalid owner .. | unavailable owner _ | unreadable _ owner _ => some owner
  | cluster _ | malformed .. | internal .. => none

/-- The field of the specification that a failure is about. -/
def field? : Failure → Option String
  | invalid _ _ field => field
  | cluster _ | unavailable .. | unreadable .. | malformed .. | internal .. => none

/-- The kind of object that a failure is about. -/
def kind? : Failure → Option String
  | unavailable _ kind | unreadable kind .. => some kind
  | malformed _ kind => kind
  | cluster _ | invalid .. | internal .. => none

end Failure

end Converge
