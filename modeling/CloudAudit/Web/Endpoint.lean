import CloudAudit.Web.Request
/-!
# Endpoints

The paths that the service answers at, and the methods of each.
-/
set_option autoImplicit false

namespace CloudAudit.Web

inductive Endpoint where
  | health
  | collectAndScan
  | collectAndScanAll
  | status
  | observations
  | exceptions
  /-- One exception; the segment of the path that names it, as written. -/
  | exception (segment : String)
  deriving DecidableEq, Repr, Inhabited

namespace Endpoint

/-- The endpoint of the segments of a path. The last segment of an exception is not empty. -/
def ofSegments? : List String → Option Endpoint
  | ["", "healthz"] => some .health
  | ["", "api", "v1", "collect-and-scan"] => some .collectAndScan
  | ["", "api", "v1", "collect-and-scan", "all"] => some .collectAndScanAll
  | ["", "api", "v1", "status"] => some .status
  | ["", "api", "v1", "observations"] => some .observations
  | ["", "api", "v1", "exceptions"] => some .exceptions
  | ["", "api", "v1", "exceptions", segment] =>
    if segment.isEmpty then none else some (.exception segment)
  | _ => none

def ofPath? (path : String) : Option Endpoint :=
  ofSegments? ((Text.pieces '/' path.toList).map String.ofList)

end Endpoint

end CloudAudit.Web
