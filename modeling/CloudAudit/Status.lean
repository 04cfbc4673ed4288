import CloudAudit.Wire.Record
/-!
# Statuses

How far a request is, what a run covers, and what an entry of the operation log says.
-/
set_option autoImplicit false

namespace CloudAudit

/-- How far a request is. -/
inductive RequestStatus where
  | unknown
  | running
  | alreadyRunning
  | done
  | cancelled
  deriving DecidableEq, Repr, Inhabited

namespace RequestStatus

def tag : RequestStatus → String
  | .unknown => "UNKNOWN"
  | .running => "RUNNING"
  | .alreadyRunning => "ALREADY_RUNNING"
  | .done => "DONE"
  | .cancelled => "CANCELLED"

def ofTag? : String → Option RequestStatus
  | "UNKNOWN" => some .unknown
  | "RUNNING" => some .running
  | "ALREADY_RUNNING" => some .alreadyRunning
  | "DONE" => some .done
  | "CANCELLED" => some .cancelled
  | _ => none

def isTerminal : RequestStatus → Bool
  | .done | .cancelled => true
  | _ => false

end RequestStatus

instance : Wire RequestStatus where
  write status := .string status.tag
  read := Wire.readName RequestStatus.ofTag?

/-- What a run covers: every known group, or the groups asked for. -/
inductive ScanType where
  | full
  | selected
  deriving DecidableEq, Repr, Inhabited

namespace ScanType

def tag : ScanType → String
  | .full => "FULL"
  | .selected => "PARTIAL"

def ofTag? : String → Option ScanType
  | "FULL" => some .full
  | "PARTIAL" => some .selected
  | _ => none

end ScanType

instance : Wire ScanType where
  write scanType := .string scanType.tag
  read := Wire.readName ScanType.ofTag?

/-- The two kinds of work that a run does. -/
inductive OperationKind where
  | collect
  | scan
  deriving DecidableEq, Repr, Inhabited

namespace OperationKind

def tag : OperationKind → String
  | .collect => "collect"
  | .scan => "scan"

def ofTag? : String → Option OperationKind
  | "collect" => some .collect
  | "scan" => some .scan
  | _ => none

end OperationKind

instance : Wire OperationKind where
  write kind := .string kind.tag
  read := Wire.readName OperationKind.ofTag?

/-- What an entry of the operation log says about its operation. -/
inductive OperationStatus where
  | started
  | cancelled
  | completed
  | failed
  deriving DecidableEq, Repr, Inhabited

namespace OperationStatus

def tag : OperationStatus → String
  | .started => "STARTED"
  | .cancelled => "CANCELLED"
  | .completed => "COMPLETED"
  | .failed => "FAILED"

def ofTag? : String → Option OperationStatus
  | "STARTED" => some .started
  | "CANCELLED" => some .cancelled
  | "COMPLETED" => some .completed
  | "FAILED" => some .failed
  | _ => none

end OperationStatus

instance : Wire OperationStatus where
  write status := .string status.tag
  read := Wire.readName OperationStatus.ofTag?

end CloudAudit
