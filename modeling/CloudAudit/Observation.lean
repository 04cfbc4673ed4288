import CloudAudit.Wire.Record
/-!
# Observations

What a rule or a person found on a resource, how severe it is, how much the resource matters, and
what to do about it.
-/
set_option autoImplicit false

namespace CloudAudit

/-- How severe a finding is, from informational to critical. -/
inductive Severity where
  | info
  | low
  | medium
  | high
  | critical
  deriving DecidableEq, Repr, Inhabited

namespace Severity

def tag : Severity → String
  | .info => "INFO"
  | .low => "LOW"
  | .medium => "MEDIUM"
  | .high => "HIGH"
  | .critical => "CRITICAL"

def ofTag? : String → Option Severity
  | "INFO" => some .info
  | "LOW" => some .low
  | "MEDIUM" => some .medium
  | "HIGH" => some .high
  | "CRITICAL" => some .critical
  | _ => none

end Severity

instance : Wire Severity where
  write severity := .string severity.tag
  read := Wire.readName Severity.ofTag?

/-- How much harm can come from a resource group. -/
inductive Impact where
  | low
  | medium
  | high
  deriving DecidableEq, Repr

namespace Impact

instance : Inhabited Impact := ⟨.medium⟩

def tag : Impact → String
  | .low => "LOW"
  | .medium => "MEDIUM"
  | .high => "HIGH"

def ofTag? : String → Option Impact
  | "LOW" => some .low
  | "MEDIUM" => some .medium
  | "HIGH" => some .high
  | _ => none

end Impact

instance : Wire Impact where
  write impact := .string impact.tag
  read := Wire.readName Impact.ofTag?

/-- What is wrong and what to do about it. -/
structure Remediation where
  description : String := ""
  recommendation : String := ""
  deriving DecidableEq, Repr, Inhabited

instance : Wire Remediation where
  write remediation :=
    .object
      [("description", write remediation.description),
       ("recommendation", write remediation.recommendation)]
  read draft := do
    let fields ← Wire.recordFields false
      [Wire.needed String "description", Wire.needed String "recommendation"] draft
    return {
      description := ← Wire.field fields "description"
      recommendation := ← Wire.field fields "recommendation" }

/-- The resource that an observation is about. -/
structure ResourceRef where
  name : String
  resourceGroupName : String := ""
  uid : Option String := none
  deriving DecidableEq, Repr, Inhabited

instance : Wire ResourceRef where
  write target :=
    .object
      [("name", write target.name),
       ("resource_group_name", write target.resourceGroupName),
       ("uid", write target.uid)]
  read draft := do
    let fields ← Wire.recordFields false
      [Wire.needed String "name",
       Wire.optional String "resource_group_name",
       Wire.optional (Option String) "uid"] draft
    return {
      name := ← Wire.field fields "name"
      resourceGroupName := ← Wire.fieldOr fields "resource_group_name" ""
      uid := ← Wire.fieldOr fields "uid" none }

/-- A finding on a resource. -/
structure Observation where
  uid : String := ""
  name : String
  resourceRef : ResourceRef
  collectionId : Option String := none
  scanId : Option String := none
  timestamp : Option Instant := none
  expectedValue : Option String := none
  observedValue : Option String := none
  remediation : Remediation := {}
  severity : Severity := .info
  impact : Impact := .medium
  riskScore : Severity := .info
  deriving DecidableEq, Repr, Inhabited

namespace Observation

def groupName (observation : Observation) : String :=
  observation.resourceRef.resourceGroupName

def columns : List Wire.Column :=
  [Wire.optional String "uid",
   Wire.needed String "name",
   Wire.needed ResourceRef "resource_ref",
   Wire.optional (Option String) "collection_id",
   Wire.optional (Option String) "scan_id",
   Wire.optional (Option Instant) "timestamp",
   Wire.optional (Option String) "expected_value",
   Wire.optional (Option String) "observed_value",
   Wire.optional Remediation "remediation",
   Wire.optional Severity "severity",
   Wire.optional Impact "impact",
   Wire.optional Severity "risk_score"]

end Observation

instance : Wire Observation where
  write observation :=
    .object
      [("uid", write observation.uid),
       ("name", write observation.name),
       ("resource_ref", write observation.resourceRef),
       ("collection_id", write observation.collectionId),
       ("scan_id", write observation.scanId),
       ("timestamp", write observation.timestamp),
       ("expected_value", write observation.expectedValue),
       ("observed_value", write observation.observedValue),
       ("remediation", write observation.remediation),
       ("severity", write observation.severity),
       ("impact", write observation.impact),
       ("risk_score", write observation.riskScore)]
  read draft := do
    let fields ← Wire.recordFields false Observation.columns draft
    return {
      uid := ← Wire.fieldOr fields "uid" ""
      name := ← Wire.field fields "name"
      resourceRef := ← Wire.field fields "resource_ref"
      collectionId := ← Wire.fieldOr fields "collection_id" none
      scanId := ← Wire.fieldOr fields "scan_id" none
      timestamp := ← Wire.fieldOr fields "timestamp" none
      expectedValue := ← Wire.fieldOr fields "expected_value" none
      observedValue := ← Wire.fieldOr fields "observed_value" none
      remediation := ← Wire.fieldOr fields "remediation" {}
      severity := ← Wire.fieldOr fields "severity" .info
      impact := ← Wire.fieldOr fields "impact" .medium
      riskScore := ← Wire.fieldOr fields "risk_score" .info }

end CloudAudit
