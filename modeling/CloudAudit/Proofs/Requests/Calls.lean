import CloudAudit.Proofs.Requests.Resolution
/-!
# Statuses after any calls

Whatever calls were made on the requests from the start, in any order and with any arguments, a
status says no more and no less than what is recorded: unknown for a request that nobody registered,
running if one that it depends on is stored as running, and done otherwise.
-/
set_option autoImplicit false

namespace CloudAudit

/-! ## Reachable tables -/

/-- What holds of the tables that calls lead to. -/
structure ClaimTable.Sound (table : ClaimTable) : Prop where
  tracked : ClaimTable.Tracked table.dependencies table.statuses
  holders : ∀ group id, table.holder? group = some id → table.Registered id

namespace ClaimTable

theorem sound_empty : ({} : ClaimTable).Sound where
  tracked :=
    { stored := by intro id status found; simp at found
      known := by intro id other edge; simp [blockers] at edge }
  holders := by intro group id held; simp [holder?] at held

section Steps

variable {table : ClaimTable} (id : String) (groups : List String)

theorem add_registered (other : String) :
    (table.add id groups).2.Registered other ↔ table.Registered other ∨ other = id := by
  rw [registered_iff, add_statuses, registered_iff]
  by_cases same : other = id <;> simp [same]

theorem finish_registered (other : String) :
    (table.finish id groups).Registered other ↔ table.Registered other := by
  rw [registered_iff, registered_iff, finish_statuses]
  by_cases ended : table.Registered id ∧ other = id
  · have known : ∃ status, table.statuses.get? other = some status :=
      (registered_iff table other).1 (ended.2 ▸ ended.1)
    simp only [if_pos ended, known, iff_true]
    exact ⟨.done, rfl⟩
  · rw [if_neg ended]

/-- Asking leaves the requests as they are but for promoting some to done. -/
theorem status_settles (tracked : Tracked table.dependencies table.statuses) :
    Settles table.statuses (table.status id).2.statuses := by
  by_cases known : table.Registered id
  · exact (status_resolves tracked known).1
  · rw [(status_of_unregistered table id known).2]
    exact Settles.refl table.statuses

theorem status_registered (tracked : Tracked table.dependencies table.statuses) (other : String) :
    (table.status id).2.Registered other ↔ table.Registered other := by
  rw [Registered, (status_settles id tracked).contains_eq, Registered]

theorem Sound.add (sound : table.Sound) : (table.add id groups).2.Sound where
  tracked :=
    { stored := by
        intro other status found
        rw [add_statuses] at found
        by_cases same : other = id
        · rw [if_pos same] at found
          split at found <;> simp_all
        · rw [if_neg same] at found
          exact sound.tracked.stored other status found
      known := by
        intro name other edge
        have recorded := (mem_add_dependencies table id groups name other).1 edge
        refine (add_registered id groups other).2 (Or.inl ?_)
        rcases recorded with before | ⟨_, _, group, _, held⟩
        · exact sound.tracked.known name other before
        · exact sound.holders group other held }
  holders := by
    intro group other held
    rw [add_holder?] at held
    rw [add_registered]
    cases before : table.holder? group with
    | none =>
      rw [before] at held
      split at held
      · exact Or.inr (by simpa using held.symm)
      · cases held
    | some owner =>
      simp only [before, Option.getD_some, ite_self] at held
      exact Or.inl (sound.holders group other (before.trans held))

theorem Sound.finish (sound : table.Sound) : (table.finish id groups).Sound where
  tracked :=
    { stored := by
        intro other status found
        rw [finish_statuses] at found
        split at found
        · exact Or.inr (Or.inr (Option.some.inj found).symm)
        · exact sound.tracked.stored other status found
      known := by
        intro name other edge
        refine (finish_registered id groups other).2 (sound.tracked.known name other ?_)
        have recorded := finish_dependenciesOf table id groups name
        rw [dependenciesOf_eq_blockers, dependenciesOf_eq_blockers] at recorded
        exact recorded ▸ edge }
  holders := by
    intro group other held
    rw [finish_holder?] at held
    rw [finish_registered]
    split at held
    · cases held
    · exact sound.holders group other held

theorem Sound.status (sound : table.Sound) : (table.status id).2.Sound where
  tracked := sound.tracked.of_settles (status_settles id sound.tracked)
  holders := by
    intro group other held
    rw [status_registered id sound.tracked]
    exact sound.holders group other held

end Steps

end ClaimTable

/-! ## Tables of both kinds -/

namespace Requests

/-- What holds of the requests that calls lead to. -/
def Sound (requests : Requests) : Prop :=
  ∀ kind, (requests.table kind).Sound

/-- Whether a request of a kind was ever registered. -/
def Registered (requests : Requests) (kind : OperationKind) (id : String) : Prop :=
  (requests.table kind).Registered id

theorem table_setTable (requests : Requests) (kind other : OperationKind) (table : ClaimTable) :
    (requests.setTable kind table).table other =
      if other = kind then table else requests.table other := by
  cases kind <;> cases other <;> rfl

section Steps

variable {requests : Requests} (kind other : OperationKind) (id : String) (groups : List String)

theorem add_table :
    (requests.add kind id groups).2.table other =
      if other = kind then ((requests.table kind).add id groups).2 else requests.table other :=
  table_setTable requests kind other _

theorem finish_table :
    (requests.finish kind id groups).table other =
      if other = kind then (requests.table kind).finish id groups else requests.table other :=
  table_setTable requests kind other _

theorem status_table :
    (requests.status kind id).2.table other =
      if other = kind then ((requests.table kind).status id).2 else requests.table other :=
  table_setTable requests kind other _

theorem finish_dependenciesOf (name : String) :
    ((requests.finish kind id groups).table other).dependenciesOf name =
      (requests.table other).dependenciesOf name := by
  rw [finish_table]
  by_cases same : other = kind
  · rw [if_pos same, same, ClaimTable.finish_dependenciesOf]
  · rw [if_neg same]

theorem Sound.setTable (sound : requests.Sound) {table : ClaimTable} (new : table.Sound) :
    (requests.setTable kind table).Sound := by
  intro other
  rw [table_setTable]
  split
  · exact new
  · exact sound other

theorem Sound.add (sound : requests.Sound) : (requests.add kind id groups).2.Sound :=
  sound.setTable kind ((sound kind).add id groups)

theorem Sound.finish (sound : requests.Sound) : (requests.finish kind id groups).Sound :=
  sound.setTable kind ((sound kind).finish id groups)

theorem Sound.status (sound : requests.Sound) : (requests.status kind id).2.Sound :=
  sound.setTable kind ((sound kind).status id)

theorem add_registered (name : String) :
    (requests.add kind id groups).2.Registered other name ↔
      requests.Registered other name ∨ (other, name) = (kind, id) := by
  rw [Registered, add_table, Registered]
  by_cases same : other = kind
  · subst same
    simp [ClaimTable.add_registered]
  · simp [same]

theorem finish_registered (name : String) :
    (requests.finish kind id groups).Registered other name ↔ requests.Registered other name := by
  rw [Registered, finish_table, Registered]
  by_cases same : other = kind
  · subst same
    simp [ClaimTable.finish_registered]
  · simp [same]

theorem status_registered (sound : requests.Sound) (name : String) :
    (requests.status kind id).2.Registered other name ↔ requests.Registered other name := by
  rw [Registered, status_table, Registered]
  by_cases same : other = kind
  · subst same
    simp [ClaimTable.status_registered id (sound other).tracked]
  · simp [same]

end Steps

end Requests

/-! ## Calls -/

namespace RequestCall

/-- The request that a call registers. -/
def registers : RequestCall → Option (OperationKind × String)
  | .add kind id _ | .acquire _ kind id _ => some (kind, id)
  | _ => none

end RequestCall

/-- The requests that calls register, in their order. -/
def registrations (calls : List RequestCall) : List (OperationKind × String) :=
  calls.filterMap RequestCall.registers

namespace RequestDesk

/-- The desk after calls from the start. -/
def after (calls : List RequestCall) : RequestDesk :=
  (run {} calls).2

theorem run_cons (desk : RequestDesk) (call : RequestCall) (calls : List RequestCall) :
    run desk (call :: calls) =
      ((desk.call call).1 :: (run (desk.call call).2 calls).1,
        (run (desk.call call).2 calls).2) := rfl

theorem run_append (desk : RequestDesk) (first second : List RequestCall) :
    (run desk (first ++ second)).2 = (run (run desk first).2 second).2 := by
  induction first generalizing desk with
  | nil => rfl
  | cons call calls ih =>
    rw [List.cons_append, run_cons, run_cons]
    exact ih (desk.call call).2

theorem sound_releaseClaim {requests : Requests} (sound : requests.Sound) (claim : Option Claim) :
    (releaseClaim claim requests).Sound := by
  cases claim with
  | none => exact sound
  | some claim => exact sound.finish claim.kind claim.id claim.requested

theorem registered_releaseClaim (claim : Option Claim) (requests : Requests)
    (kind : OperationKind) (id : String) :
    (releaseClaim claim requests).Registered kind id ↔ requests.Registered kind id := by
  cases claim with
  | none => rfl
  | some claim => exact Requests.finish_registered claim.kind kind claim.id claim.requested id

theorem releaseClaim_dependenciesOf (claim : Option Claim) (requests : Requests)
    (kind : OperationKind) (id : String) :
    ((releaseClaim claim requests).table kind).dependenciesOf id =
      (requests.table kind).dependenciesOf id := by
  cases claim with
  | none => rfl
  | some claim => exact Requests.finish_dependenciesOf claim.kind kind claim.id claim.requested id

theorem call_requests (desk : RequestDesk) (call : RequestCall) :
    (desk.call call).2.requests =
      match call with
      | .add kind id groups => (desk.requests.add kind id groups).2
      | .finish kind id groups => desk.requests.finish kind id groups
      | .status kind id => (desk.requests.status kind id).2
      | .acquire name kind id groups =>
        releaseClaim (desk.held.get? name) (desk.requests.add kind id groups).2
      | .release name => releaseClaim (desk.held.get? name) desk.requests
      | .dependencies .. | .holder .. | .summary => desk.requests := by
  cases call <;> rfl

theorem call_sound {desk : RequestDesk} (sound : desk.requests.Sound) (call : RequestCall) :
    (desk.call call).2.requests.Sound := by
  rw [call_requests]
  cases call with
  | add kind id groups => exact sound.add kind id groups
  | finish kind id groups => exact sound.finish kind id groups
  | status kind id => exact sound.status kind id
  | acquire name kind id groups => exact sound_releaseClaim (sound.add kind id groups) _
  | release name => exact sound_releaseClaim sound _
  | dependencies | holder | summary => exact sound

theorem call_registered {desk : RequestDesk} (sound : desk.requests.Sound) (call : RequestCall)
    (kind : OperationKind) (id : String) :
    (desk.call call).2.requests.Registered kind id ↔
      desk.requests.Registered kind id ∨ call.registers = some (kind, id) := by
  rw [call_requests]
  cases call with
  | add other name groups =>
    rw [Requests.add_registered, RequestCall.registers, Option.some.injEq,
      eq_comm (a := (kind, id))]
  | finish other name groups => simp [Requests.finish_registered, RequestCall.registers]
  | status other name => simp [Requests.status_registered _ _ _ sound, RequestCall.registers]
  | acquire holder other name groups =>
    rw [registered_releaseClaim, Requests.add_registered, RequestCall.registers, Option.some.injEq,
      eq_comm (a := (kind, id))]
  | release holder => simp [registered_releaseClaim, RequestCall.registers]
  | dependencies | holder | summary => simp [RequestCall.registers]

theorem run_sound {desk : RequestDesk} (sound : desk.requests.Sound) (calls : List RequestCall) :
    (run desk calls).2.requests.Sound := by
  induction calls generalizing desk with
  | nil => exact sound
  | cons call calls ih => exact ih (call_sound sound call)

theorem run_registered {desk : RequestDesk} (sound : desk.requests.Sound)
    (calls : List RequestCall) (kind : OperationKind) (id : String) :
    (run desk calls).2.requests.Registered kind id ↔
      desk.requests.Registered kind id ∨ (kind, id) ∈ registrations calls := by
  induction calls generalizing desk with
  | nil => simp [run, registrations]
  | cons call calls ih =>
    rw [run_cons, ih (call_sound sound call), call_registered sound call]
    simp only [registrations, List.mem_filterMap, List.mem_cons, exists_eq_or_imp, or_assoc]

theorem sound_start : ({} : RequestDesk).requests.Sound := by
  intro kind
  cases kind <;> exact ClaimTable.sound_empty

theorem after_sound (calls : List RequestCall) : (after calls).requests.Sound :=
  run_sound sound_start calls

theorem after_registered (calls : List RequestCall) (kind : OperationKind) (id : String) :
    (after calls).requests.Registered kind id ↔ (kind, id) ∈ registrations calls := by
  have unknown : ¬ ({} : RequestDesk).requests.Registered kind id := by
    cases kind <;> simp [Requests.Registered, ClaimTable.Registered, Requests.table, Table.contains]
  rw [after, run_registered sound_start]
  simp [unknown]

/-! ## Statuses -/

theorem status_ne_cancelled {table : ClaimTable} (sound : table.Sound) (id : String) :
    (table.status id).1 ≠ .cancelled ∧ (table.status id).1 ≠ .alreadyRunning := by
  by_cases known : table.Registered id
  · rcases (ClaimTable.status_resolves sound.tracked known).2 with ⟨runs, _⟩ | ⟨done, _⟩
    · simp [runs]
    · simp [done]
  · simp [(ClaimTable.status_of_unregistered table id known).1]

theorem reply_ne_cancelled {desk : RequestDesk} (sound : desk.requests.Sound)
    (calls : List RequestCall) :
    ∀ reply ∈ (run desk calls).1,
      reply ≠ .status .cancelled ∧ reply ≠ .status .alreadyRunning := by
  induction calls generalizing desk with
  | nil => intro reply member; cases member
  | cons call calls ih =>
    intro reply member
    rw [run_cons] at member
    rcases List.mem_cons.1 member with same | later
    · subst same
      cases call with
      | status kind id =>
        have answer : (desk.call (.status kind id)).1 =
          .status ((desk.requests.table kind).status id).1 := rfl
        simpa [answer] using status_ne_cancelled (sound kind) id
      | _ => simp [RequestDesk.call]
    · exact ih (call_sound sound call) reply later

/-- After any calls a status is unknown exactly for a request that was never registered; of a
registered one it is running exactly if some request that it depends on, itself included, is stored
as running, and done otherwise. No call ever answers that a request is cancelled or already
running. -/
theorem status_of_any_calls (calls : List RequestCall) (kind : OperationKind) (id : String) :
    (∃ answer, ((after calls).call (.status kind id)).1 = .status answer ∧
      (answer = .unknown ↔ (kind, id) ∉ registrations calls) ∧
      ((kind, id) ∈ registrations calls →
        (answer = .running ↔
          ∃ other, ((after calls).requests.table kind).Reaches id other ∧
            ((after calls).requests.table kind).statuses.get? other = some .running) ∧
        (answer ≠ .running → answer = .done))) ∧
    ∀ reply ∈ (run {} calls).1,
      reply ≠ .status .cancelled ∧ reply ≠ .status .alreadyRunning := by
  refine ⟨⟨(((after calls).requests.table kind).status id).1, rfl, ?_⟩,
    reply_ne_cancelled sound_start calls⟩
  have registered := after_registered calls kind id
  by_cases known : ((after calls).requests.table kind).Registered id
  · have member := registered.1 known
    rcases (ClaimTable.status_resolves (after_sound calls kind).tracked known).2 with
      ⟨runs, found⟩ | ⟨done, notFound⟩
    · simp [runs, found, member]
    · rw [done]
      simpa [member] using notFound
  · have fresh : (kind, id) ∉ registrations calls := fun member => known (registered.2 member)
    simp [(ClaimTable.status_of_unregistered _ id known).1, fresh]

end RequestDesk

end CloudAudit
