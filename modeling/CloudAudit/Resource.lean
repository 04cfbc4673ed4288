import CloudAudit.Table
import CloudAudit.Wire.Record
/-!
# Resources

What a collection knows of the cloud: resource groups, and the accounts, buckets, networks and
databases inside them, with their labels and the policies that grant roles on them.
-/
set_option autoImplicit false

namespace CloudAudit

inductive ResourceKind where
  | resourceGroup
  | serviceAccount
  | bucket
  | network
  | database
  deriving DecidableEq, Repr, Inhabited

namespace ResourceKind

def tag : ResourceKind → String
  | .resourceGroup => "resource_group"
  | .serviceAccount => "service_account"
  | .bucket => "bucket"
  | .network => "network"
  | .database => "database"

def ofTag? : String → Option ResourceKind
  | "resource_group" => some .resourceGroup
  | "service_account" => some .serviceAccount
  | "bucket" => some .bucket
  | "network" => some .network
  | "database" => some .database
  | _ => none

def title : ResourceKind → String
  | .resourceGroup => "ResourceGroup"
  | .serviceAccount => "ServiceAccount"
  | .bucket => "Bucket"
  | .network => "Network"
  | .database => "Database"

end ResourceKind

instance : Wire ResourceKind where
  write kind := .string kind.tag
  read := Wire.readName ResourceKind.ofTag?

structure Permission where
  role : String
  principals : List String
  deriving DecidableEq, Repr, Inhabited

namespace Permission

def roleName (permission : Permission) : String :=
  Text.dropLeading "roles/" permission.role

end Permission

instance : Wire Permission where
  write permission :=
    .object [("role", write permission.role), ("principals", write permission.principals)]
  read draft := do
    let fields ← Wire.recordFields false
      [Wire.needed String "role", Wire.optional (List String) "principals"] draft
    return {
      role := ← Wire.field fields "role"
      principals := ← Wire.fieldOr fields "principals" [] }

structure IamPolicy where
  permissions : List Permission
  deriving DecidableEq, Repr, Inhabited

instance : Wire IamPolicy where
  write policy := .object [("permissions", write policy.permissions)]
  read draft := do
    let fields ← Wire.recordFields false [Wire.optional (List Permission) "permissions"] draft
    return { permissions := ← Wire.fieldOr fields "permissions" [] }

abbrev Labels := Table String

/-- The fields of an object as labels; of a repeated key the last value stays. -/
def Labels.readFields (labels : Labels) : List (Option String × Draft) → Except Fault Labels
  | [] => .ok labels
  | (none, _) :: _ => .error .malformed
  | (some key, value) :: fields =>
    match (read value : Except Fault String) with
    | .ok text => Labels.readFields (labels.insert key text) fields
    | .error fault => .error fault

instance : Wire Labels where
  write labels := .object (labels.entries.map fun entry => (entry.1, write entry.2))
  read
    | .object fields closed => do
      let labels ← Labels.readFields Table.empty fields
      Wire.ending closed
      return labels
    | other => .error other.mismatch

/-- A resource, and the collection that last saw it. -/
structure Resource where
  name : String
  uid : String := ""
  displayName : String := ""
  parent : String := ""
  resourceGroupName : String
  kind : ResourceKind
  collectionUid : Option String := none
  timestamp : Option Instant := none
  labels : Labels := Table.empty
  iamPolicy : Option IamPolicy := none
  deriving DecidableEq, Repr, Inhabited

namespace Resource

/-- A resource group: it belongs to itself and has no parent. -/
def group (name : String) : Resource where
  name
  uid := name
  displayName := name
  resourceGroupName := name
  kind := .resourceGroup

/-- A resource inside a group, which is also its parent. -/
def member (name group : String) (kind : ResourceKind) : Resource where
  name
  uid := name
  displayName := name
  parent := group
  resourceGroupName := group
  kind

def withLabel (resource : Resource) (key value : String) : Resource :=
  { resource with labels := resource.labels.insert key value }

/-- The permissions of a resource; none without a policy. -/
def permissions (resource : Resource) : List Permission :=
  match resource.iamPolicy with
  | some policy => policy.permissions
  | none => []

/-- A resource with one more permission at the end of its policy. -/
def withPermission (resource : Resource) (permission : Permission) : Resource :=
  { resource with iamPolicy := some ⟨resource.permissions ++ [permission]⟩ }

def isGroup (resource : Resource) : Bool :=
  resource.kind == .resourceGroup

def columns : List Wire.Column :=
  [Wire.needed String "name",
   Wire.optional String "uid",
   Wire.optional String "display_name",
   Wire.optional String "parent",
   Wire.needed String "resource_group_name",
   Wire.needed ResourceKind "kind",
   Wire.optional (Option String) "collection_uid",
   Wire.optional (Option Instant) "timestamp",
   Wire.optional Labels "labels",
   Wire.optional (Option IamPolicy) "iam_policy"]

end Resource

instance : Wire Resource where
  write resource :=
    .object
      [("name", write resource.name),
       ("uid", write resource.uid),
       ("display_name", write resource.displayName),
       ("parent", write resource.parent),
       ("resource_group_name", write resource.resourceGroupName),
       ("kind", write resource.kind),
       ("collection_uid", write resource.collectionUid),
       ("timestamp", write resource.timestamp),
       ("labels", write resource.labels),
       ("iam_policy", write resource.iamPolicy)]
  read draft := do
    let fields ← Wire.recordFields false Resource.columns draft
    return {
      name := ← Wire.field fields "name"
      uid := ← Wire.fieldOr fields "uid" ""
      displayName := ← Wire.fieldOr fields "display_name" ""
      parent := ← Wire.fieldOr fields "parent" ""
      resourceGroupName := ← Wire.field fields "resource_group_name"
      kind := ← Wire.field fields "kind"
      collectionUid := ← Wire.fieldOr fields "collection_uid" none
      timestamp := ← Wire.fieldOr fields "timestamp" none
      labels := ← Wire.fieldOr fields "labels" Table.empty
      iamPolicy := ← Wire.fieldOr fields "iam_policy" none }

/-- The resources that a collection can find. -/
structure Inventory where
  resources : List Resource
  deriving DecidableEq, Repr, Inhabited

instance : Wire Inventory where
  write inventory := .object [("resources", write inventory.resources)]
  read draft := do
    let fields ← Wire.recordFields false [Wire.optional (List Resource) "resources"] draft
    return { resources := ← Wire.fieldOr fields "resources" [] }

end CloudAudit
