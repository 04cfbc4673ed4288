import CloudAudit.Error
import CloudAudit.Text.Blank
/-!
# Callers

Who a caller is: the email address that came with the request.
-/
set_option autoImplicit false

namespace CloudAudit.Identity

def isEmail (candidate : String) : Bool :=
  match Text.cutAt '@' candidate.toList with
  | some (user, domain) => !user.isEmpty && domain.contains '.'
  | none => false

def authenticate (presented : Option String) : Except AuditError String :=
  match presented with
  | some text =>
    let email := Text.trim text
    if isEmail email then .ok email else .error (.unauthenticated "malformed caller identity")
  | none => .error (.unauthenticated "no caller identity")

end CloudAudit.Identity
