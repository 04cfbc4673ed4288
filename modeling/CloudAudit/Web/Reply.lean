import CloudAudit.Error
import CloudAudit.Web.Call
/-!
# Replies

What goes back over the network: a status and a body. Every error of the service has its status;
errors that are not the caller's doing are told in full, with their kind.
-/
set_option autoImplicit false

namespace CloudAudit.Web

inductive Body where
  | empty
  | json (value : Json)
  | plain (text : String)
  deriving Repr, Inhabited

/-- What goes back to a caller. -/
structure Reply where
  status : Nat
  body : Body
  deriving Repr, Inhabited

/-- An error as callers see it. -/
structure Failure where
  status : Nat
  message : String
  deriving DecidableEq, Repr

namespace Failure

def ofError : AuditError → Failure
  | .accessDenied detail => ⟨403, detail⟩
  | .unauthenticated detail => ⟨401, detail⟩
  | .invalidInput detail => ⟨400, detail⟩
  | .notFound detail => ⟨404, detail⟩
  | other => ⟨500, other.message⟩

/-- The failure of something that is told by its outermost description. -/
def ofContext (description : String) : Failure :=
  ⟨500, description⟩

def reply (failure : Failure) : Reply :=
  ⟨failure.status, .json (.object [("error", .object
    [("message", .string failure.message), ("status", .number failure.status)])])⟩

end Failure

namespace Reply

def found {α : Type} [Wire α] (value : α) : Reply :=
  ⟨200, .json (write value)⟩

def created {α : Type} [Wire α] (value : α) : Reply :=
  ⟨201, .json (write value)⟩

def noContent : Reply :=
  ⟨204, .empty⟩

def withoutBody (reply : Reply) : Reply :=
  ⟨reply.status, .empty⟩

end Reply

def Rejection.reply : Rejection → Reply
  | .unknownPath => ⟨404, .empty⟩
  | .wrongMethod => ⟨405, .empty⟩
  | .unreadablePath => ⟨400, .plain "the path is not text"⟩
  | .unreadableQuery => ⟨400, .plain "the query cannot be read"⟩
  | .otherMedia => ⟨415, .plain "the body has to be application/json"⟩
  | .unreadableBody .malformed => ⟨400, .plain "the body is not JSON"⟩
  | .unreadableBody .mistyped => ⟨422, .plain "the body is JSON of another shape"⟩

end CloudAudit.Web
