import CloudAudit.Proofs.Requests.Calls
/-!
# Tables that answer alike

What a table answers about some requests depends neither on what it stores about others nor on
whether a request that counts as done is stored as done already. Tables that agree that far answer
alike and go on doing so, whatever else happens to one of them.
-/
set_option autoImplicit false

namespace CloudAudit

/-- A status as it counts: a request that only waits for others counts as done. -/
def RequestStatus.settled : RequestStatus → RequestStatus
  | .alreadyRunning => .done
  | status => status

namespace ClaimTable

theorem map_settled_eq_running (stored : Option RequestStatus) :
    stored.map RequestStatus.settled = some .running ↔ stored = some .running := by
  rcases stored with _ | (_ | _ | _ | _ | _) <;> simp [RequestStatus.settled]

theorem Settles.map_settled {statuses after : Table RequestStatus}
    (settles : Settles statuses after) (id : String) :
    (after.get? id).map RequestStatus.settled = (statuses.get? id).map RequestStatus.settled := by
  rcases settles id with same | ⟨waited, ended⟩
  · rw [same]
  · rw [waited, ended]
    rfl

theorem dependenciesOf_congr {one other : ClaimTable} {id : String}
    (same : ∀ blocker, blocker ∈ other.dependenciesOf id ↔ blocker ∈ one.dependenciesOf id) :
    other.dependenciesOf id = one.dependenciesOf id := by
  have names : ∀ table : ClaimTable,
      table.dependenciesOf id = ((table.dependencies.get? id).getD Table.empty).names := by
    intro table
    rw [dependenciesOf]
    cases table.dependencies.get? id <;> rfl
  rw [names, names] at same ⊢
  exact Table.names_eq_of_mem_iff same

/-- Whether two tables agree about some requests and some groups, which belong together: in the
first table no other request holds one of these groups, or stands in the way of one of these
requests. -/
structure Alike (ids groups : String → Prop) (one other : ClaimTable) : Prop where
  holders : ∀ group, groups group → other.holder? group = one.holder? group
  dependencies : ∀ id, ids id → other.dependenciesOf id = one.dependenciesOf id
  statuses : ∀ id, ids id →
    (other.statuses.get? id).map RequestStatus.settled =
      (one.statuses.get? id).map RequestStatus.settled
  holdersWithin : ∀ group id, groups group → one.holder? group = some id → ids id
  dependenciesWithin : ∀ id blocker, ids id → blocker ∈ one.dependenciesOf id → ids blocker

namespace Alike

variable {ids groups : String → Prop} {one other : ClaimTable}

theorem empty (ids groups : String → Prop) : Alike ids groups {} {} where
  holders _ _ := rfl
  dependencies _ _ := rfl
  statuses _ _ := rfl
  holdersWithin group id _ held := by simp [holder?] at held
  dependenciesWithin id blocker _ edge := by simp [dependenciesOf] at edge

variable (alike : Alike ids groups one other) {id : String} {asked : List String}
include alike

/-! ## The status of a request -/

theorem registered_iff (own : ids id) : other.Registered id ↔ one.Registered id := by
  have stored := congrArg Option.isSome (alike.statuses id own)
  rw [Option.isSome_map, Option.isSome_map] at stored
  rw [Registered, Registered, Table.contains, Table.contains, stored]

theorem running_iff (own : ids id) :
    other.statuses.get? id = some .running ↔ one.statuses.get? id = some .running := by
  rw [← map_settled_eq_running, alike.statuses id own, map_settled_eq_running]

/-- No way along dependencies leads out of the requests that belong together. -/
theorem reaches_iff (own : ids id) (last : String) :
    other.Reaches id last ↔ one.Reaches id last := by
  constructor
  · intro reaches
    induction reaches using Relation.ReflTransGen.head_induction_on with
    | refl => exact .refl
    | @head start next edge _ ih =>
      rw [alike.dependencies start own] at edge
      exact (ih (alike.dependenciesWithin start next own edge)).head edge
  · intro reaches
    induction reaches using Relation.ReflTransGen.head_induction_on with
    | refl => exact .refl
    | @head start next edge _ ih =>
      have kept := alike.dependencies start own
      exact (ih (alike.dependenciesWithin start next own edge)).head (kept ▸ edge)

theorem within_of_reaches (own : ids id) {last : String} (reaches : one.Reaches id last) :
    ids last := by
  induction reaches with
  | refl => exact own
  | tail _ edge ih => exact alike.dependenciesWithin _ _ ih edge

theorem status_eq (soundOne : one.Sound) (soundOther : other.Sound) (own : ids id) :
    (other.status id).1 = (one.status id).1 := by
  have registered := alike.registered_iff own
  by_cases known : one.Registered id
  · have running : (∃ last, other.Reaches id last ∧ other.statuses.get? last = some .running) ↔
        ∃ last, one.Reaches id last ∧ one.statuses.get? last = some .running := by
      refine exists_congr fun last => ?_
      rw [alike.reaches_iff own]
      exact and_congr_right fun reaches =>
        alike.running_iff (alike.within_of_reaches own reaches)
    have verdictOther :=
      (status_resolves soundOther.tracked (registered.2 known)).2.congr running
    rcases (status_resolves soundOne.tracked known).2 with ⟨runs, found⟩ | ⟨done, notFound⟩
    · rcases verdictOther with ⟨runsToo, -⟩ | ⟨-, notFound⟩
      · rw [runs, runsToo]
      · exact absurd found notFound
    · rcases verdictOther with ⟨-, found⟩ | ⟨doneToo, -⟩
      · exact absurd found notFound
      · rw [done, doneToo]
  · rw [(status_of_unregistered one id known).1,
      (status_of_unregistered other id (mt registered.1 known)).1]

/-- Statuses that are settled are not noticed, on either side. -/
theorem settle {first second : Table RequestStatus} (settlesOne : Settles one.statuses first)
    (settlesOther : Settles other.statuses second) :
    Alike ids groups { one with statuses := first } { other with statuses := second } where
  holders := alike.holders
  dependencies := alike.dependencies
  statuses id own := by
    rw [settlesOne.map_settled, settlesOther.map_settled]
    exact alike.statuses id own
  holdersWithin := alike.holdersWithin
  dependenciesWithin := alike.dependenciesWithin

/-- What changes about other requests and other groups in the first table is not noticed. -/
theorem of_kept {after : ClaimTable}
    (holders : ∀ group, groups group → after.holder? group = one.holder? group)
    (dependencies : ∀ id, ids id → after.dependenciesOf id = one.dependenciesOf id)
    (statuses : ∀ id, ids id → after.statuses.get? id = one.statuses.get? id) :
    Alike ids groups after other where
  holders group within := (alike.holders group within).trans (holders group within).symm
  dependencies id within := (alike.dependencies id within).trans (dependencies id within).symm
  statuses id within := by
    rw [statuses id within]
    exact alike.statuses id within
  holdersWithin group id within held :=
    alike.holdersWithin group id within ((holders group within).symm.trans held)
  dependenciesWithin id blocker within edge := by
    rw [dependencies id within] at edge
    exact alike.dependenciesWithin id blocker within edge

/-! ## Registering a request -/

theorem add_granted_eq (ownGroups : ∀ group ∈ asked, groups group) :
    (other.add id asked).1 = (one.add id asked).1 := by
  rw [add_granted, add_granted]
  congr 1
  refine List.filter_congr fun group member => ?_
  rw [isFree, isFree, alike.holders group (ownGroups group member)]

theorem add (own : ids id) (ownGroups : ∀ group ∈ asked, groups group) :
    Alike ids groups (one.add id asked).2 (other.add id asked).2 where
  holders group within := by
    rw [add_holder?, add_holder?, alike.holders group within]
  dependencies name within := by
    refine dependenciesOf_congr fun blocker => ?_
    rw [mem_add_dependencies, mem_add_dependencies, alike.dependencies name within]
    refine or_congr_right (and_congr_right fun _ => and_congr_right fun _ => ?_)
    refine exists_congr fun group => and_congr_right fun member => ?_
    rw [alike.holders group (ownGroups group member)]
  statuses name within := by
    rw [add_statuses, add_statuses, alike.add_granted_eq ownGroups]
    split
    · rfl
    · exact alike.statuses name within
  holdersWithin group name within held := by
    rw [add_holder?] at held
    cases before : one.holder? group with
    | none =>
      rw [before] at held
      split at held
      · obtain rfl : id = name := by simpa using held
        exact own
      · cases held
    | some owner =>
      simp only [before, Option.getD_some, ite_self] at held
      exact alike.holdersWithin group name within (before.trans held)
  dependenciesWithin name blocker within edge := by
    rcases (mem_add_dependencies one id asked name blocker).1 edge with
      before | ⟨-, -, group, member, held⟩
    · exact alike.dependenciesWithin name blocker within before
    · exact alike.holdersWithin group blocker (ownGroups group member) held

theorem add_elsewhere (foreign : ¬ ids id) (foreignGroups : ∀ group ∈ asked, ¬ groups group) :
    Alike ids groups (one.add id asked).2 other := by
  apply alike.of_kept
  · intro group within
    rw [add_holder?, if_neg fun member => foreignGroups group member within]
  · intro name within
    refine dependenciesOf_congr fun blocker => ?_
    rw [mem_add_dependencies]
    constructor
    · rintro (before | ⟨rfl, -⟩)
      · exact before
      · exact absurd within foreign
    · exact .inl
  · intro name within
    have distinct : name ≠ id := fun same => foreign (same ▸ within)
    rw [add_statuses, if_neg distinct]

/-! ## Ending a request -/

theorem finish (own : ids id) : Alike ids groups (one.finish id asked) (other.finish id asked) where
  holders group within := by
    rw [finish_holder?, finish_holder?, alike.holders group within]
    simp only [alike.registered_iff own]
  dependencies name within := by
    rw [finish_dependenciesOf, finish_dependenciesOf, alike.dependencies name within]
  statuses name within := by
    rw [finish_statuses, finish_statuses]
    simp only [alike.registered_iff own]
    split
    · rfl
    · exact alike.statuses name within
  holdersWithin group name within held := by
    rw [finish_holder?] at held
    split at held
    · cases held
    · exact alike.holdersWithin group name within held
  dependenciesWithin name blocker within edge := by
    rw [finish_dependenciesOf] at edge
    exact alike.dependenciesWithin name blocker within edge

theorem finish_elsewhere (foreign : ¬ ids id) (foreignGroups : ∀ group ∈ asked, ¬ groups group) :
    Alike ids groups (one.finish id asked) other := by
  apply alike.of_kept
  · intro group within
    rw [finish_holder?, if_neg fun freed => foreignGroups group freed.2.1 within]
  · intro name _
    rw [finish_dependenciesOf]
  · intro name within
    have running : ¬ (one.Registered id ∧ name = id) := fun ended => foreign (ended.2 ▸ within)
    rw [finish_statuses, if_neg running]

end Alike

end ClaimTable

/-! ## Tables of both kinds -/

namespace Requests

theorem setTable_table (requests : Requests) (kind : OperationKind) :
    requests.setTable kind (requests.table kind) = requests := by
  cases kind <;> rfl

def Alike (ids groups : OperationKind × String → Prop) (one other : Requests) : Prop :=
  ∀ kind, ClaimTable.Alike (fun id => ids (kind, id)) (fun group => groups (kind, group))
    (one.table kind) (other.table kind)

namespace Alike

variable {ids groups : OperationKind × String → Prop} {one other : Requests}

theorem empty (ids groups : OperationKind × String → Prop) : Alike ids groups {} {} := by
  intro kind
  cases kind <;> exact ClaimTable.Alike.empty _ _

variable (alike : Alike ids groups one other) {kind : OperationKind}
include alike

theorem setTables {first second : ClaimTable}
    (tables : ClaimTable.Alike (fun id => ids (kind, id)) (fun group => groups (kind, group))
      first second) :
    Alike ids groups (one.setTable kind first) (other.setTable kind second) := by
  intro which
  rw [table_setTable, table_setTable]
  by_cases same : which = kind
  · subst same
    rw [if_pos rfl, if_pos rfl]
    exact tables
  · rw [if_neg same, if_neg same]
    exact alike which

theorem setTable {first : ClaimTable}
    (tables : ClaimTable.Alike (fun id => ids (kind, id)) (fun group => groups (kind, group))
      first (other.table kind)) :
    Alike ids groups (one.setTable kind first) other := by
  have both := alike.setTables tables
  rwa [setTable_table] at both

end Alike

end Requests

/-! ## Calls -/

namespace RequestCall

/-- Whether a call is made on the requests themselves and on no claim. -/
def isDirect : RequestCall → Bool
  | .acquire .. | .release .. | .summary => false
  | _ => true

def ids : RequestCall → List (OperationKind × String)
  | .add kind id _ | .finish kind id _ | .status kind id | .dependencies kind id
  | .acquire _ kind id _ => [(kind, id)]
  | .holder .. | .release .. | .summary => []

def groups : RequestCall → List (OperationKind × String)
  | .add kind _ groups | .finish kind _ groups | .acquire _ kind _ groups =>
    groups.map fun group => (kind, group)
  | .holder kind group => [(kind, group)]
  | .status .. | .dependencies .. | .release .. | .summary => []

end RequestCall

/-- Whether two desks that calls lead to agree about some requests and groups. -/
structure RequestDesk.Agrees (ids groups : OperationKind × String → Prop)
    (one other : RequestDesk) : Prop where
  soundOne : one.requests.Sound
  soundOther : other.requests.Sound
  alike : Requests.Alike ids groups one.requests other.requests

namespace RequestDesk.Agrees

variable {ids groups : OperationKind × String → Prop} {one other : RequestDesk}

theorem start (ids groups : OperationKind × String → Prop) : Agrees ids groups {} {} :=
  ⟨sound_start, sound_start, Requests.Alike.empty ids groups⟩

variable (agrees : Agrees ids groups one other)
include agrees

theorem poll (kind : OperationKind) (id : String) :
    Agrees ids groups (one.call (.status kind id)).2 other :=
  ⟨call_sound agrees.soundOne _, agrees.soundOther,
    agrees.alike.setTable ((agrees.alike kind).settle
      (ClaimTable.status_settles id (agrees.soundOne kind).tracked) (ClaimTable.Settles.refl _))⟩

variable {call : RequestCall} (direct : call.isDirect = true)
include direct

/-- A call about requests and groups that two desks agree about gets the same answer from both, and
they agree afterwards. -/
theorem together (named : ∀ place ∈ call.ids, ids place)
    (asked : ∀ place ∈ call.groups, groups place) :
    (other.call call).1 = (one.call call).1 ∧
      Agrees ids groups (one.call call).2 (other.call call).2 := by
  obtain ⟨soundOne, soundOther, alike⟩ := agrees
  suffices both : (other.call call).1 = (one.call call).1 ∧
      Requests.Alike ids groups (one.call call).2.requests (other.call call).2.requests from
    ⟨both.1, call_sound soundOne call, call_sound soundOther call, both.2⟩
  cases call with
  | add kind id requested =>
    have own : ids (kind, id) := named _ (by simp [RequestCall.ids])
    have ownGroups : ∀ group ∈ requested, groups (kind, group) :=
      fun group member => asked _ (List.mem_map.2 ⟨group, member, rfl⟩)
    exact ⟨congrArg RequestReply.names ((alike kind).add_granted_eq ownGroups),
      alike.setTables ((alike kind).add own ownGroups)⟩
  | finish kind id requested =>
    have own : ids (kind, id) := named _ (by simp [RequestCall.ids])
    exact ⟨rfl, alike.setTables ((alike kind).finish own)⟩
  | status kind id =>
    have own : ids (kind, id) := named _ (by simp [RequestCall.ids])
    have polled := (alike kind).settle (ClaimTable.status_settles id (soundOne kind).tracked)
      (ClaimTable.status_settles id (soundOther kind).tracked)
    have sameStatus := (alike kind).status_eq (soundOne kind) (soundOther kind) own
    exact ⟨congrArg RequestReply.status sameStatus, alike.setTables polled⟩
  | dependencies kind id =>
    have own : ids (kind, id) := named _ (by simp [RequestCall.ids])
    exact ⟨congrArg RequestReply.names ((alike kind).dependencies id own), alike⟩
  | holder kind group =>
    have ownGroup : groups (kind, group) := asked _ (by simp [RequestCall.groups])
    exact ⟨congrArg RequestReply.holder ((alike kind).holders group ownGroup), alike⟩
  | acquire | release | summary => cases direct

/-- A call about other requests and other groups that only the first desk gets is not noticed. -/
theorem elsewhere (named : ∀ place ∈ call.ids, ¬ ids place)
    (asked : ∀ place ∈ call.groups, ¬ groups place) :
    Agrees ids groups (one.call call).2 other := by
  have sound := call_sound agrees.soundOne call
  have alike := agrees.alike
  cases call with
  | add kind id requested =>
    have foreign : ¬ ids (kind, id) := named _ (by simp [RequestCall.ids])
    have foreignGroups : ∀ group ∈ requested, ¬ groups (kind, group) :=
      fun group member => asked _ (List.mem_map.2 ⟨group, member, rfl⟩)
    exact ⟨sound, agrees.soundOther,
      alike.setTable ((alike kind).add_elsewhere foreign foreignGroups)⟩
  | finish kind id requested =>
    have foreign : ¬ ids (kind, id) := named _ (by simp [RequestCall.ids])
    have foreignGroups : ∀ group ∈ requested, ¬ groups (kind, group) :=
      fun group member => asked _ (List.mem_map.2 ⟨group, member, rfl⟩)
    exact ⟨sound, agrees.soundOther,
      alike.setTable ((alike kind).finish_elsewhere foreign foreignGroups)⟩
  | status kind id => exact agrees.poll kind id
  | dependencies | holder => exact agrees
  | acquire | release | summary => cases direct

end RequestDesk.Agrees

/-! ## Some of the calls of a run -/

def marked {α : Type} (mark : Bool) (entries : List (Bool × α)) : List α :=
  entries.filterMap fun entry => if entry.1 = mark then some entry.2 else none

theorem mem_marked {α : Type} {mark : Bool} {entries : List (Bool × α)} {value : α} :
    value ∈ marked mark entries ↔ (mark, value) ∈ entries := by
  simp [marked]

namespace RequestDesk

def replies (desk : RequestDesk) (calls : List (Bool × RequestCall)) :
    List (Bool × RequestReply) :=
  (calls.map (·.1)).zip (desk.run (calls.map (·.2))).1

/-- Desks that a relation keeps together reply alike to the calls that both get, if no other call
takes the first one away from the relation. -/
theorem run_marked {related : RequestDesk → RequestDesk → Prop} (mark : Bool)
    (calls : List (Bool × RequestCall))
    (together : ∀ call, (mark, call) ∈ calls → ∀ one other, related one other →
      (other.call call).1 = (one.call call).1 ∧ related (one.call call).2 (other.call call).2)
    (alone : ∀ call, (!mark, call) ∈ calls → ∀ one other, related one other →
      related (one.call call).2 other)
    {one other : RequestDesk} (start : related one other) :
    marked mark (one.replies calls) = (other.run (marked mark calls)).1 ∧
      related (one.run (calls.map (·.2))).2 (other.run (marked mark calls)).2 := by
  induction calls generalizing one other with
  | nil => exact ⟨rfl, start⟩
  | cons entry calls ih =>
    obtain ⟨which, call⟩ := entry
    have later := @ih (fun call member => together call (List.mem_cons_of_mem _ member))
      (fun call member => alone call (List.mem_cons_of_mem _ member))
    by_cases kept : which = mark
    · subst kept
      obtain ⟨same, next⟩ := together call List.mem_cons_self one other start
      obtain ⟨replied, ended⟩ := later next
      have first : marked which ((which, call) :: calls) = call :: marked which calls := by
        simp [marked]
      rw [first, run_cons, ← replied, same]
      exact ⟨by simp [marked, replies, run_cons], ended⟩
    · obtain rfl : which = !mark := by
        cases which <;> cases mark <;> simp_all
      obtain ⟨replied, ended⟩ := later (alone call List.mem_cons_self one other start)
      have first : marked mark ((!mark, call) :: calls) = marked mark calls := by
        simp [marked]
      rw [first, ← replied]
      exact ⟨by simp [marked, replies, run_cons], ended⟩

end RequestDesk

end CloudAudit
