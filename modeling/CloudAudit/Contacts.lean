import CloudAudit.Resource
import CloudAudit.Settings
/-!
# Contacts

The people responsible for a resource group: the members of the organisation that hold an
administrative role on it, and whoever its contact labels name.
-/
set_option autoImplicit false

namespace CloudAudit

def contactLabels : List String := ["contact1", "contact2"]

structure ContactResolver where
  orgSuffix : String
  adminRoles : List String
  labelPattern : Pattern
  labelTemplate : Pattern.Template
  deriving Repr, Inhabited

namespace ContactResolver

def usualAdminRoles : List String := ["owner", "editor", "iam.securityAdmin"]

/-- A configured role as policies name it: trimmed, and without one leading `roles/`. -/
def normalRole (role : String) : String :=
  Text.dropLeading "roles/" (Text.trim role)

def ofSettings (settings : NotificationSettings) : Except AuditError ContactResolver :=
  match Pattern.compile? settings.labelPattern with
  | some pattern =>
    .ok {
      orgSuffix := settings.orgSuffix
      adminRoles :=
        (usualAdminRoles ++ settings.additionalAdminRoles.map normalRole).filter
          fun role => !role.isEmpty
      labelPattern := pattern
      labelTemplate := .ofText settings.labelTemplate }
  | none => .error (.configuration "label to email pattern")

/-- A label with the matches of the pattern replaced, and every underscore left over turned into a
dot. -/
def labelToEmail (resolver : ContactResolver) (label : String) : String :=
  .ofList ((resolver.labelPattern.replaceAll resolver.labelTemplate label).toList.map
    fun c => if c == '_' then '.' else c)

def isMember (resolver : ContactResolver) (principal : String) : Bool :=
  resolver.orgSuffix.toList.isSuffixOf principal.toList

def address (principal : String) : String :=
  match Text.cutAt ':' principal.toList with
  | some (_, rest) => .ofList rest
  | none => principal

def admins (resolver : ContactResolver) (group : Resource) : List String :=
  (group.permissions.filter fun permission =>
      resolver.adminRoles.contains permission.roleName).flatMap fun permission =>
    (permission.principals.filter resolver.isMember).map address

def labelled (resolver : ContactResolver) (group : Resource) : List String :=
  contactLabels.filterMap fun key =>
    match group.labels.get? key with
    | some value => if value.isEmpty then none else some (resolver.labelToEmail value)
    | none => none

/-- The contacts of a resource group, each once and in ascending order. -/
def contacts (resolver : ContactResolver) (group : Resource) : List String :=
  (NameSet.ofNames ((resolver.admins group ++ resolver.labelled group).filter
    fun contact => !contact.isEmpty)).names

end ContactResolver

end CloudAudit
