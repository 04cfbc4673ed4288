import CloudAudit.Proofs.Requests.Accounts
/-!
# Requests one after the other

Where every request ended, nobody holds a group: the next request is granted all that it asks for,
and when it has ended all requests read done.
-/
set_option autoImplicit false

namespace CloudAudit

/-- Nobody holds a group, and every request ended. -/
structure ClaimTable.Idle (table : ClaimTable) : Prop where
  sound : table.Sound
  free : ∀ group, table.holder? group = none
  ended : ∀ id status, table.statuses.get? id = some status → status = .done

namespace ClaimTable.Idle

variable {table : ClaimTable}

theorem empty : ({} : ClaimTable).Idle where
  sound := sound_empty
  free group := rfl
  ended := by
    intro id status found
    cases found

theorem granted (idle : table.Idle) (id : String) (groups : List String) :
    (table.add id groups).1 = groups.eraseDups := by
  have everything : groups.filter (table.isFree id) = groups := by
    rw [List.filter_eq_self]
    intro group _
    simp [isFree, idle.free group]
  rw [add_granted, everything]

theorem worked (idle : table.Idle) (id : String) (groups : List String) :
    ((table.add id groups).2.finish id groups).Idle where
  sound := (idle.sound.add id groups).finish id groups
  free := by
    intro group
    have known : (table.add id groups).2.Registered id :=
      (add_registered id groups id).2 (.inr rfl)
    rw [finish_holder?, add_holder?, idle.free]
    by_cases asked : group ∈ groups
    · simp [asked, known]
    · simp [asked]
  ended := by
    intro other status found
    rw [finish_statuses] at found
    split at found
    · exact (Option.some.inj found).symm
    · rename_i notEnded
      have known : (table.add id groups).2.Registered id :=
        (add_registered id groups id).2 (.inr rfl)
      have distinct : other ≠ id := fun same => notEnded ⟨known, same⟩
      rw [add_statuses, if_neg distinct] at found
      exact idle.ended other status found

theorem status_done (idle : table.Idle) {id : String} (known : table.Registered id) :
    (table.status id).1 = .done := by
  rcases (status_resolves idle.sound.tracked known).2 with ⟨-, other, -, runs⟩ | ⟨done, -⟩
  · cases idle.ended other _ runs
  · exact done

end ClaimTable.Idle

namespace Requests

/-- Nobody holds a group, for collecting or for scanning. -/
def Idle (requests : Requests) : Prop :=
  ∀ kind, (requests.table kind).Idle

/-- The requests after one that was registered has ended. -/
def worked (requests : Requests) (kind : OperationKind) (id : String) (groups : List String) :
    Requests :=
  (requests.add kind id groups).2.finish kind id groups

theorem worked_table (requests : Requests) (kind other : OperationKind) (id : String)
    (groups : List String) :
    (requests.worked kind id groups).table other =
      if other = kind then ((requests.table kind).add id groups).2.finish id groups
      else requests.table other := by
  rw [worked, finish_table, add_table, add_table]
  by_cases same : other = kind
  · rw [if_pos same, if_pos same, if_pos rfl]
  · rw [if_neg same, if_neg same, if_neg same]

theorem Idle.worked {requests : Requests} (idle : requests.Idle) (kind : OperationKind)
    (id : String) (groups : List String) : (requests.worked kind id groups).Idle := by
  intro other
  rw [worked_table]
  split
  · exact (idle kind).worked id groups
  · exact idle other

theorem worked_registered (requests : Requests) (kind other : OperationKind)
    (id name : String) (groups : List String) :
    (requests.worked kind id groups).Registered other name ↔
      requests.Registered other name ∨ (other, name) = (kind, id) := by
  rw [worked, finish_registered, add_registered]

theorem Idle.granted {requests : Requests} (idle : requests.Idle) (kind : OperationKind)
    (id : String) (groups : List String) :
    (requests.add kind id groups).1 = groups.eraseDups :=
  (idle kind).granted id groups

theorem Idle.status_done {requests : Requests} (idle : requests.Idle) {kind : OperationKind}
    {id : String} (known : requests.Registered kind id) : (requests.status kind id).1 = .done :=
  (idle kind).status_done known

end Requests

end CloudAudit
