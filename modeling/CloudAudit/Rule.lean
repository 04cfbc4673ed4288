import CloudAudit.Error
import CloudAudit.Report
import CloudAudit.Contacts
/-!
# Rules

A rule looks at one resource of a kind that it accepts and answers what is wrong with it, or fails.
What it answers has neither identifier nor time; a scan adds them. Any such check can be a rule: the
service comes with three.
-/
set_option autoImplicit false

namespace CloudAudit

/-- A check of single resources of some kinds, which may fail on a resource. -/
structure Rule where
  info : RuleInfo
  check : Resource → Except AuditError (List Observation)
  deriving Inhabited

namespace Rule

def name (rule : Rule) : String :=
  rule.info.name

def acceptedKinds (rule : Rule) : List ResourceKind :=
  rule.info.acceptedKinds

def finding (name : String) (resource : Resource) (observed expected : String)
    (remediation : Remediation) (severity : Severity) : Observation where
  name
  resourceRef := ⟨resource.name, resource.resourceGroupName, some resource.uid⟩
  collectionId := resource.collectionUid
  expectedValue := some expected
  observedValue := some observed
  remediation
  severity
  impact := .medium
  riskScore := severity

def basicRoleName : String := "HUMAN_WITH_OVERPRIVILEGED_BASIC_ROLE"

def basicRoleFinding (resource : Resource) (role principal : String) : Observation :=
  finding basicRoleName resource (principal ++ " has " ++ role)
    "no basic roles for human accounts"
    { description :=
        principal ++ " holds the basic role " ++ role ++ " on " ++ resource.name ++ "."
      recommendation :=
        "Replace " ++ role ++ " for " ++ principal
          ++ " with a predefined role granting only the permissions needed." }
    .high

def isHuman (principal : String) : Bool :=
  "user:".toList.isPrefixOf principal.toList

def isBasic (permission : Permission) : Bool :=
  permission.roleName == "owner" || permission.roleName == "editor"

/-- Human accounts must not own or edit a resource group. -/
def humanWithBasicRole : Rule where
  info := ⟨basicRoleName, [.resourceGroup]⟩
  check resource :=
    .ok ((resource.permissions.filter isBasic).flatMap fun permission =>
      (permission.principals.filter isHuman).map fun principal =>
        basicRoleFinding resource permission.role principal)

/-- Whether a resource has a contact label that is not empty. -/
def hasContactLabel (resource : Resource) : Bool :=
  contactLabels.any fun key =>
    match resource.labels.get? key with
    | some value => !value.isEmpty
    | none => false

def missingLabelsName : String := "MISSING_CONTACT_LABELS"

def missingLabels (resource : Resource) : Observation :=
  finding missingLabelsName resource "no contact labels" "contact1 or contact2 label set"
    { description := resource.name ++ " has no contact labels."
      recommendation := "Set the contact1 label to the owner of this resource group." }
    .low

/-- Resource groups need a contact label. -/
def missingContactLabels : Rule where
  info := ⟨missingLabelsName, [.resourceGroup]⟩
  check resource := .ok (if hasContactLabel resource then [] else [missingLabels resource])

def isPublic (resource : Resource) : Bool :=
  resource.permissions.any fun permission =>
    permission.principals.any fun principal =>
      principal == "allUsers" || principal == "allAuthenticatedUsers"

def publicBucketName : String := "BUCKET_IS_PUBLIC"

def openBucket (resource : Resource) : Observation :=
  finding publicBucketName resource "public" "private"
    { description := "Bucket " ++ resource.name ++ " is accessible to anyone."
      recommendation := "Remove allUsers and allAuthenticatedUsers from the bucket policy." }
    .critical

/-- Buckets must not be open to anyone. -/
def publicBucket : Rule where
  info := ⟨publicBucketName, [.bucket]⟩
  check resource := .ok (if isPublic resource then [openBucket resource] else [])

/-- A check that cannot be evaluated on any resource. -/
def alwaysFails : Rule where
  info := ⟨"ALWAYS_FAILS", [.resourceGroup, .bucket]⟩
  check _ := .error (.invalidInput "broken")

def builtin : List Rule :=
  [humanWithBasicRole, missingContactLabels, publicBucket]

end Rule

end CloudAudit
