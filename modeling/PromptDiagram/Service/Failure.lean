import PromptDiagram.Json.Printer

/-!
# Failures of the service

The two ways in which a well-formed request comes to nothing: the renderer is not known, or the
prompt has no nodes. Clients get the failure as JSON, with its members in ascending order.
-/

namespace PromptDiagram.Service

open Json

/-- Why a request comes to nothing. -/
inductive Failure where
  | noNodes
  | unknownRenderer (name : String)
  deriving DecidableEq

namespace Failure

/-- A failure in words. -/
def message : Failure → String
  | .noNodes => "no nodes recognized"
  | .unknownRenderer name => "unknown renderer: " ++ name

/-- The code of a failure. -/
def code : Failure → String
  | .noNodes => "E_NO_NODES_RECOGNIZED"
  | .unknownRenderer _ => "E_UNKNOWN_RENDERER"

/-- Whether a second try may succeed: never, since both depend on the request alone. -/
def isRetryable (_ : Failure) : Bool := false

/-- The status that a failure is answered with. -/
def status (_ : Failure) : Nat := 400

/-- The body that a failure is answered with. -/
def body (failure : Failure) : Value :=
  .object [("code", .text failure.code), ("detail", .text failure.message),
    ("message", .text failure.message), ("retryable", .bool failure.isRetryable)]

end Failure
end PromptDiagram.Service
