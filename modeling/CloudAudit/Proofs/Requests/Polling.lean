import CloudAudit.Proofs.Requests.Likeness
/-!
# Asking changes no answer

A question about the status of a request may settle what is stored, of this request and of others.
No later answer shows it: any of these questions can be left out of a run, and every other call gets
the answer that it got with them.
-/
set_option autoImplicit false

namespace CloudAudit

theorem Table.size_map {α β : Type} (table : Table α) (function : α → β) :
    (table.map function).size = table.size := by
  simp [size, map]

namespace ClaimTable.Alike

variable {one other : ClaimTable} (alike : Alike (fun _ => True) (fun _ => True) one other)
include alike

theorem claims_eq : other.claims = one.claims :=
  Table.ext_get? fun group => alike.holders group trivial

theorem size_statuses : other.statuses.size = one.statuses.size := by
  have same : other.statuses.map RequestStatus.settled =
      one.statuses.map RequestStatus.settled := by
    refine Table.ext_get? fun id => ?_
    rw [Table.get?_map, Table.get?_map, alike.statuses id trivial]
  rw [← Table.size_map other.statuses RequestStatus.settled, same, Table.size_map]

end ClaimTable.Alike

/-- Whether a call asks for the status of a request. -/
def RequestCall.isPoll : RequestCall → Bool
  | .status .. => true
  | _ => false

namespace RequestDesk

/-- Whether two desks hold the same claims and agree about all requests and groups. -/
structure Twins (one other : RequestDesk) : Prop
    extends Agrees (fun _ => True) (fun _ => True) one other where
  held : other.held = one.held

theorem releaseClaim_alike {one other : Requests}
    (alike : Requests.Alike (fun _ => True) (fun _ => True) one other) (claim : Option Claim) :
    Requests.Alike (fun _ => True) (fun _ => True) (releaseClaim claim one)
      (releaseClaim claim other) := by
  cases claim with
  | none => exact alike
  | some claim => exact alike.setTables ((alike claim.kind).finish trivial)

theorem held_of_direct {desk : RequestDesk} {call : RequestCall} (direct : call.isDirect = true) :
    (desk.call call).2.held = desk.held := by
  cases call with
  | add | finish | status | dependencies | holder => rfl
  | acquire | release | summary => cases direct

namespace Twins

variable {one other : RequestDesk} (twins : Twins one other)
include twins

theorem acquire (name : String) (kind : OperationKind) (id : String) (groups : List String) :
    (other.call (.acquire name kind id groups)).1 = (one.call (.acquire name kind id groups)).1 ∧
      Twins (one.call (.acquire name kind id groups)).2
        (other.call (.acquire name kind id groups)).2 := by
  have granted : ((other.requests.table kind).add id groups).1 =
      ((one.requests.table kind).add id groups).1 :=
    (twins.alike kind).add_granted_eq fun _ _ => trivial
  have added : Requests.Alike (fun _ => True) (fun _ => True) (one.requests.add kind id groups).2
      (other.requests.add kind id groups).2 :=
    twins.alike.setTables ((twins.alike kind).add trivial fun _ _ => trivial)
  have claim : (Claim.acquire other.requests kind id groups).1 =
      (Claim.acquire one.requests kind id groups).1 :=
    congrArg (Claim.mk kind id groups) granted
  refine ⟨congrArg RequestReply.names granted, ⟨call_sound twins.soundOne _,
    call_sound twins.soundOther _, ?_⟩, ?_⟩
  · rw [call_requests, call_requests, twins.held]
    exact releaseClaim_alike added (one.held.get? name)
  · have heldAfter : ∀ desk : RequestDesk, (desk.call (.acquire name kind id groups)).2.held =
        desk.held.insert name (Claim.acquire desk.requests kind id groups).1 := fun _ => rfl
    rw [heldAfter, heldAfter, claim, twins.held]

theorem release (name : String) :
    (other.call (.release name)).1 = (one.call (.release name)).1 ∧
      Twins (one.call (.release name)).2 (other.call (.release name)).2 := by
  have reply : ∀ desk : RequestDesk,
      (desk.call (.release name)).1 = .released (desk.held.get? name).isSome := fun _ => rfl
  have heldAfter : ∀ desk : RequestDesk,
      (desk.call (.release name)).2.held = desk.held.erase name := fun _ => rfl
  refine ⟨by rw [reply, reply, twins.held], ⟨call_sound twins.soundOne _,
    call_sound twins.soundOther _, ?_⟩, by rw [heldAfter, heldAfter, twins.held]⟩
  rw [call_requests, call_requests, twins.held]
  exact releaseClaim_alike twins.alike (one.held.get? name)

theorem summary_eq : other.requests.summary = one.requests.summary := by
  have collect := twins.alike .collect
  have scan := twins.alike .scan
  have claims : other.requests.collect.claims = one.requests.collect.claims ∧
      other.requests.scan.claims = one.requests.scan.claims :=
    ⟨collect.claims_eq, scan.claims_eq⟩
  have sizes : other.requests.collect.statuses.size = one.requests.collect.statuses.size ∧
      other.requests.scan.statuses.size = one.requests.scan.statuses.size :=
    ⟨collect.size_statuses, scan.size_statuses⟩
  unfold Requests.summary
  rw [claims.1, claims.2, sizes.1, sizes.2]

theorem call (call : RequestCall) :
    (other.call call).1 = (one.call call).1 ∧ Twins (one.call call).2 (other.call call).2 := by
  by_cases direct : call.isDirect = true
  · obtain ⟨same, agrees⟩ :=
      twins.toAgrees.together direct (fun _ _ => trivial) (fun _ _ => trivial)
    refine ⟨same, agrees, ?_⟩
    rw [held_of_direct direct, held_of_direct direct, twins.held]
  · cases call with
    | acquire name kind id groups => exact twins.acquire name kind id groups
    | release name => exact twins.release name
    | summary => exact ⟨congrArg RequestReply.summary twins.summary_eq, twins⟩
    | add | finish | status | dependencies | holder => exact absurd rfl direct

theorem poll {call : RequestCall} (isPoll : call.isPoll = true) :
    Twins (one.call call).2 other := by
  cases call with
  | status kind id => exact ⟨twins.toAgrees.poll kind id, twins.held⟩
  | _ => cases isPoll

end Twins

/-- Whatever calls are made from the start, questions about statuses can be left out wherever they
stand: every call that is still made gets the answer that it got among all of them. -/
theorem polling_is_invisible (calls : List (Bool × RequestCall))
    (polls : ∀ call ∈ marked false calls, call.isPoll = true) :
    marked true (replies {} calls) = (run {} (marked true calls)).1 := by
  refine (run_marked true calls ?_ ?_ (⟨.start _ _, rfl⟩ : Twins {} {})).1
  · exact fun call _ one other twins => twins.call call
  · exact fun call member one other twins => twins.poll (polls call (mem_marked.2 member))

/-- A request that waits for another one is asked about before and after that one ends. -/
def watched : List (Bool × RequestCall) :=
  [(true, .add .scan "first" ["g1", "g2"]),
   (true, .add .scan "second" ["g1", "g1"]),
   (false, .status .scan "second"),
   (true, .finish .scan "first" ["g1"]),
   (false, .status .scan "second"),
   (true, .dependencies .scan "second"),
   (true, .add .scan "first" ["g2", "g3"]),
   (true, .status .scan "second")]

theorem second_unwatched :
    (∀ call ∈ marked false watched, call.isPoll = true) ∧
      marked true (replies {} watched) = (run {} (marked true watched)).1 := by
  have polls : ∀ call ∈ marked false watched, call.isPoll = true := by decide
  exact ⟨polls, polling_is_invisible watched polls⟩

end RequestDesk

end CloudAudit
