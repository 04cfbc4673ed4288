import CloudAudit.Status
import CloudAudit.Resource
import CloudAudit.Observation
/-!
# Requests and answers of the service

The values that callers exchange with the service.
-/
set_option autoImplicit false

namespace CloudAudit

structure CollectId where
  text : String
  deriving DecidableEq, Repr, Inhabited

instance : Wire CollectId where
  write id := write id.text
  read draft := (read draft : Except Fault String).map CollectId.mk

structure ScanId where
  text : String
  deriving DecidableEq, Repr, Inhabited

instance : Wire ScanId where
  write id := write id.text
  read draft := (read draft : Except Fault String).map ScanId.mk

structure RunRequest where
  resourceGroupNames : List String := []
  deriving DecidableEq, Repr, Inhabited

instance : Wire RunRequest where
  write request := .object [("resource_group_names", write request.resourceGroupNames)]
  read draft := do
    let fields ← Wire.recordFields false
      [Wire.optional (List String) "resource_group_names"] draft
    return { resourceGroupNames := ← Wire.fieldOr fields "resource_group_names" [] }

structure RunIds where
  collectId : CollectId
  scanId : ScanId
  deriving DecidableEq, Repr, Inhabited

instance : Wire RunIds where
  write ids := .object [("collect_id", write ids.collectId), ("scan_id", write ids.scanId)]
  read draft := do
    let fields ← Wire.recordFields false
      [Wire.needed CollectId "collect_id", Wire.needed ScanId "scan_id"] draft
    return {
      collectId := ← Wire.field fields "collect_id"
      scanId := ← Wire.field fields "scan_id" }

/-- How far the two halves of a run are. -/
structure RunStatus where
  collectStatus : RequestStatus
  scanStatus : RequestStatus
  deriving DecidableEq, Repr, Inhabited

instance : Wire RunStatus where
  write status :=
    .object
      [("collect_status", write status.collectStatus), ("scan_status", write status.scanStatus)]
  read draft := do
    let fields ← Wire.recordFields false
      [Wire.needed RequestStatus "collect_status", Wire.needed RequestStatus "scan_status"] draft
    return {
      collectStatus := ← Wire.field fields "collect_status"
      scanStatus := ← Wire.field fields "scan_status" }

/-- A rule's name and the kinds of resources that it looks at. -/
structure RuleInfo where
  name : String
  acceptedKinds : List ResourceKind
  deriving DecidableEq, Repr, Inhabited

instance : Wire RuleInfo where
  write info := .object [("name", write info.name), ("accepted_kinds", write info.acceptedKinds)]
  read draft := do
    let fields ← Wire.recordFields false
      [Wire.needed String "name", Wire.needed (List ResourceKind) "accepted_kinds"] draft
    return {
      name := ← Wire.field fields "name"
      acceptedKinds := ← Wire.field fields "accepted_kinds" }

/-- The observations of one rule. -/
structure RuleObservations where
  rule : String
  observations : List Observation
  deriving DecidableEq, Repr, Inhabited

instance : Wire RuleObservations where
  write entry := .object [("rule", write entry.rule), ("observations", write entry.observations)]
  read draft := do
    let fields ← Wire.recordFields false
      [Wire.needed String "rule", Wire.needed (List Observation) "observations"] draft
    return {
      rule := ← Wire.field fields "rule"
      observations := ← Wire.field fields "observations" }

/-- The observations of one resource group by rule. -/
structure GroupObservations where
  resourceGroupName : String
  rulesObservations : List RuleObservations
  deriving DecidableEq, Repr, Inhabited

instance : Wire GroupObservations where
  write entry :=
    .object
      [("resource_group_name", write entry.resourceGroupName),
       ("rules_observations", write entry.rulesObservations)]
  read draft := do
    let fields ← Wire.recordFields false
      [Wire.needed String "resource_group_name",
       Wire.needed (List RuleObservations) "rules_observations"] draft
    return {
      resourceGroupName := ← Wire.field fields "resource_group_name"
      rulesObservations := ← Wire.field fields "rules_observations" }

end CloudAudit
