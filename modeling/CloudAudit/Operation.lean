import CloudAudit.Status
/-!
# The operation log

An `Operation` records that a collection or a scan of one resource group reached a status.
-/
set_option autoImplicit false

namespace CloudAudit

structure Operation where
  id : String
  resourceGroup : String
  kind : OperationKind
  statusTime : Instant
  status : OperationStatus
  deriving DecidableEq, Repr, Inhabited

instance : Wire Operation where
  write operation :=
    .object
      [("id", write operation.id),
       ("resource_group", write operation.resourceGroup),
       ("kind", write operation.kind),
       ("status_time", write operation.statusTime),
       ("status", write operation.status)]
  read draft := do
    let fields ← Wire.recordFields false
      [Wire.needed String "id",
       Wire.needed String "resource_group",
       Wire.needed OperationKind "kind",
       Wire.needed Instant "status_time",
       Wire.needed OperationStatus "status"] draft
    return {
      id := ← Wire.field fields "id"
      resourceGroup := ← Wire.field fields "resource_group"
      kind := ← Wire.field fields "kind"
      statusTime := ← Wire.field fields "status_time"
      status := ← Wire.field fields "status" }

end CloudAudit
