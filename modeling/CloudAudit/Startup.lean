import CloudAudit.Deployment
/-!
# Starting up

From an inventory file and settings to a deployment. The inventory is loaded first.
-/
set_option autoImplicit false

namespace CloudAudit

/-- What is known of the inventory file before starting. -/
inductive InventoryFile where
  /-- No file is set; there are no resources. -/
  | unset
  /-- The file cannot be read, for a reason. -/
  | unreadable (path reason : String)
  /-- The text of the file. -/
  | text (path content : String)
  deriving DecidableEq, Repr

/-- Why the service does not start. -/
inductive StartupError where
  | inventory (path : String) (cause : AuditError)
  | service (cause : AuditError)
  deriving DecidableEq, Repr

namespace StartupError

def activity : StartupError → String
  | .inventory .. => "failed to load inventory"
  | .service _ => "failed to initialise posture service"

def cause : StartupError → AuditError
  | .inventory _ cause => cause
  | .service cause => cause

/-- The outermost description of what failed. -/
def message : StartupError → String
  | .inventory path cause => (inventory path cause).activity ++ " " ++ path
  | .service cause => (service cause).activity

end StartupError

def Inventory.ofText (text : String) : Except AuditError Inventory :=
  match (Wire.ofText text : Except Fault Inventory) with
  | .ok inventory => .ok inventory
  | .error .malformed => .error (.serialization "the inventory is not JSON")
  | .error .mistyped => .error (.serialization "the inventory is JSON of another shape")

def InventoryFile.load : InventoryFile → Except StartupError Inventory
  | .unset => .ok ⟨[]⟩
  | .unreadable path reason => .error (.inventory path (.io reason))
  | .text path content => (Inventory.ofText content).mapError (StartupError.inventory path)

namespace Deployment

def plain (settings : Settings) (inventory : Inventory) (owned : List String) :
    Except StartupError Deployment :=
  (make settings inventory .plain Rule.builtin .keeping (.owned owned)).mapError
    StartupError.service

def start (settings : Settings) (file : InventoryFile) (owned : List String) :
    Except StartupError Deployment := do
  plain settings (← file.load) owned

end Deployment

end CloudAudit
