import CloudAudit.Rule
import CloudAudit.Contacts
/-!
# Deployments

What is fixed while the service runs: the inventory, who collects, which rules run, who notifies,
and which groups callers own.
-/
set_option autoImplicit false

namespace CloudAudit

inductive CollectorKind where
  /-- Serve the inventory. -/
  | plain
  /-- Fail every call. -/
  | unreachable
  /-- Fail every snapshot and serve the rest. -/
  | failingSnapshot
  /-- Report an observation for each group after its snapshot. -/
  | observing
  /-- Wait for a permit before each snapshot and use it up. -/
  | gated
  deriving DecidableEq, Repr, Inhabited

inductive NotifierKind where
  /-- Deliver what no exception silences, and keep exceptions. -/
  | keeping
  /-- Refuse every delivery, and know no exceptions. -/
  | rejecting
  /-- Deliver everything as it is, and know no exceptions. -/
  | bare
  deriving DecidableEq, Repr, Inhabited

inductive Access where
  /-- The given groups, or every known one when none is given. -/
  | owned (groups : List String)
  /-- Ownership cannot be found out. -/
  | broken
  deriving DecidableEq, Repr, Inhabited

/-- What is fixed while the service runs. -/
structure Deployment where
  inventory : Inventory
  collector : CollectorKind := .plain
  rules : List Rule := Rule.builtin
  notifier : NotifierKind := .keeping
  access : Access := .owned []
  contacts : ContactResolver
  notificationInterval : Duration
  sourceSystem : String
  deriving Inhabited

namespace Deployment

def make (settings : Settings) (inventory : Inventory) (collector : CollectorKind)
    (rules : List Rule) (notifier : NotifierKind) (access : Access) :
    Except AuditError Deployment := do
  settings.validate
  let contacts ← ContactResolver.ofSettings settings.notifications
  return {
    inventory, collector, rules, notifier, access, contacts
    notificationInterval := settings.notifications.interval
    sourceSystem := settings.notifications.sourceSystem }

end Deployment

end CloudAudit
