import CloudAudit.Resource
import CloudAudit.Observation
/-!
# Risk

How much a resource group matters follows from classification labels on it or on what stands above
it; how risky a finding is follows from that and from its severity.
-/
set_option autoImplicit false

namespace CloudAudit

namespace Severity

def raised : Severity → Severity
  | .info => .low
  | .low => .medium
  | .medium => .high
  | .high => .critical
  | .critical => .critical

def lowered : Severity → Severity
  | .critical => .high
  | .high => .medium
  | .medium => .low
  | .low => .info
  | .info => .info

def weighted (severity : Severity) : Impact → Severity
  | .high => severity.raised
  | .medium => severity
  | .low => severity.lowered

end Severity

namespace Impact

def exceeds : Impact → Impact → Bool
  | .high, .high => false
  | .high, _ => true
  | .medium, .low => true
  | _, _ => false

end Impact

abbrev Hierarchy := Table Resource

namespace Hierarchy

def ofResources (resources : List Resource) : Hierarchy :=
  .ofList (resources.map fun resource => (resource.name, resource))

/-- Labels with more of them added; a label that is already there stays. -/
def addLabels (merged more : Table String) : Table String :=
  more.entries.foldl
    (fun merged label =>
      if merged.contains label.1 then merged else merged.insert label.1 label.2) merged

/-- Labels merged with those of the resources from a name upwards by their parents. The walk ends at
an empty name, a name that is not among `left`, or one already visited; each step takes one name
from `left`. -/
def mergeFrom (hierarchy : Hierarchy) (left : List String) (merged : Table String)
    (name : String) : Table String :=
  if name.isEmpty then merged
  else if _member : name ∈ left then
    match hierarchy.get? name with
    | some resource =>
      mergeFrom hierarchy (left.erase name) (addLabels merged resource.labels) resource.parent
    | none => merged
  else merged
termination_by left.length
decreasing_by
  have := List.length_erase_of_mem _member
  have := List.length_pos_of_mem _member
  omega

def mergedLabels (hierarchy : Hierarchy) (group : String) : Table String :=
  hierarchy.mergeFrom hierarchy.names Table.empty group

def isTruthy (value : String) : Bool :=
  let normal := Text.lower (Text.trim value)
  normal == "yes" || normal == "true"

def classifications : List (String × Impact) :=
  [("employee_data", .medium), ("customer_data", .high)]

def classified? (labels : Table String) (label : String) (impact : Impact) :
    Option (Impact × String) :=
  match labels.get? label with
  | some value => if isTruthy value then some (impact, label ++ "=" ++ value) else none
  | none => none

/-- The greatest of the impacts found, the first of equal ones. -/
def greatest : Option (Impact × String) → List (Impact × String) → Option (Impact × String)
  | best, [] => best
  | none, found :: more => greatest (some found) more
  | some best, found :: more =>
    greatest (some (if found.1.exceeds best.1 then found else best)) more

/-- The impact of a group, and the label that decides it: medium without one. -/
def impact (hierarchy : Hierarchy) (group : String) : Impact × Option String :=
  let labels := hierarchy.mergedLabels group
  let found := classifications.filterMap fun entry => classified? labels entry.1 entry.2
  match greatest none found with
  | some (impact, reason) => (impact, some reason)
  | none => (.medium, none)

end Hierarchy

end CloudAudit
