import CloudAudit.Service
import CloudAudit.Web.Reply
/-!
# The service over the network

Answering one request. A run that a request starts goes on after the reply.
-/
set_option autoImplicit false

namespace CloudAudit.Web

def Call.perform (deployment : Deployment) (caller : Option String) : Call → Act Reply
  | .health => return ⟨200, .json (.object [("status", .string "ok")])⟩
  | .collectAndScan groups => Reply.found <$> Service.collectAndScan deployment groups
  | .collectAndScanAll => Reply.found <$> Service.collectAndScanAll deployment
  | .status collectId scanId => do
    let status ← Pipeline.status collectId scanId
    return Reply.found status
  | .listObservations groups => Reply.found <$> Service.listObservations deployment groups
  | .createObservation observation => Reply.created <$> Service.createObservation observation
  | .listExceptions pageSize pageToken =>
    Reply.found <$> Service.listExceptions deployment caller pageSize pageToken
  | .createException wish => Reply.created <$> Service.createException deployment caller wish
  | .getException uuid => Reply.found <$> Service.getException deployment caller uuid
  | .updateException uuid wish =>
    Reply.found <$> Service.updateException deployment caller uuid wish
  | .deleteException uuid => do
    Service.deleteException deployment caller uuid
    return .noContent

def fullReply (deployment : Deployment) (request : Request) : Work Reply :=
  match Call.ofRequest request with
  | .error rejection => return rejection.reply
  | .ok call => do
    match ← (call.perform deployment request.caller?).run with
    | .ok reply => return reply
    | .error error => return (Failure.ofError error).reply

/-- Answer a request. A reply to `HEAD` has no body. -/
def handle (deployment : Deployment) (request : Request) : Work Reply := do
  let reply ← fullReply deployment request
  return if request.method = .head then reply.withoutBody else reply

end CloudAudit.Web
