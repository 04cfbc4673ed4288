import Mathlib
import CloudAudit.Proofs.Requests.Exclusion
/-!
# Done stays done

What a registered request depends on is settled when it is registered, and nothing that has ended
runs again. So a request that is done stays done, and it is done only when all the work that it was
promised has been given back: its own, that of the requests in its way, and that of the requests in
theirs.
-/
set_option autoImplicit false

namespace CloudAudit

namespace ClaimTable

/-- A table in which the requests of an earlier one depend on the same requests as before, and none
of them runs that did not run then. -/
structure Extends (earlier later : ClaimTable) : Prop where
  registered : ∀ id, earlier.Registered id → later.Registered id
  dependencies : ∀ id other, earlier.Registered id →
    (other ∈ later.dependenciesOf id ↔ other ∈ earlier.dependenciesOf id)
  running : ∀ id, earlier.Registered id →
    later.statuses.get? id = some .running → earlier.statuses.get? id = some .running

namespace Extends

variable {earlier middle later table : ClaimTable} (id : String) (groups : List String)

theorem refl (table : ClaimTable) : Extends table table :=
  ⟨fun _ known => known, fun _ _ _ => Iff.rfl, fun _ _ runs => runs⟩

theorem trans (first : Extends earlier middle) (second : Extends middle later) :
    Extends earlier later where
  registered name known := second.registered name (first.registered name known)
  dependencies name other known :=
    (second.dependencies name other (first.registered name known)).trans
      (first.dependencies name other known)
  running name known runs :=
    first.running name known (second.running name (first.registered name known) runs)

theorem add (fresh : ¬ table.Registered id) : Extends table (table.add id groups).2 where
  registered name known := (add_registered id groups name).2 (Or.inl known)
  dependencies name other known := by
    rw [mem_add_dependencies]
    constructor
    · rintro (before | ⟨same, _⟩)
      · exact before
      · exact absurd (same ▸ known) fresh
    · exact Or.inl
  running name known runs := by
    have distinct : name ≠ id := by
      rintro rfl
      exact fresh known
    rwa [add_statuses, if_neg distinct] at runs

theorem finish : Extends table (table.finish id groups) where
  registered name known := (finish_registered id groups name).2 known
  dependencies name other _ := by rw [finish_dependenciesOf]
  running name _ runs := by
    rw [finish_statuses] at runs
    split at runs
    · cases runs
    · exact runs

theorem status (sound : table.Sound) : Extends table (table.status id).2 where
  registered name known := (status_registered id sound.tracked name).2 known
  dependencies name other _ := by rw [status_dependenciesOf]
  running name _ runs := ((status_settles id sound.tracked).running_iff name).1 runs

end Extends

theorem registered_of_reaches {table : ClaimTable} (sound : table.Sound) {id other : String}
    (known : table.Registered id) (reaches : table.Reaches id other) : table.Registered other := by
  cases reaches with
  | refl => exact known
  | tail _ edge => exact sound.tracked.known _ other edge

/-- What a request depends on, at once or through others, was settled when it was registered. -/
theorem Extends.reaches_iff {earlier later : ClaimTable} (extends_ : Extends earlier later)
    (sound : earlier.Sound) {id : String} (known : earlier.Registered id) (other : String) :
    later.Reaches id other ↔ earlier.Reaches id other := by
  constructor
  · intro reaches
    induction reaches with
    | refl => exact .refl
    | tail _ edge ih =>
      have knownMiddle := registered_of_reaches sound known ih
      exact ih.tail ((extends_.dependencies _ _ knownMiddle).1 edge)
  · intro reaches
    induction reaches with
    | refl => exact .refl
    | tail before edge ih =>
      have knownMiddle := registered_of_reaches sound known before
      exact ih.tail ((extends_.dependencies _ _ knownMiddle).2 edge)

theorem status_eq_done_iff {table : ClaimTable} (sound : table.Sound) (id : String) :
    (table.status id).1 = .done ↔
      table.Registered id ∧
        ∀ other, table.Reaches id other → table.statuses.get? other ≠ some .running := by
  by_cases known : table.Registered id
  · rcases (status_resolves sound.tracked known).2 with ⟨runs, found⟩ | ⟨done, notFound⟩
    · obtain ⟨other, reaches, running⟩ := found
      simp only [runs, reduceCtorEq, false_iff, not_and]
      exact fun _ ended => ended other reaches running
    · simp only [done, known, true_and, true_iff]
      exact fun other reaches running => notFound ⟨other, reaches, running⟩
  · simp [(status_of_unregistered table id known).1, known]

theorem Extends.done {earlier later : ClaimTable} (extends_ : Extends earlier later)
    (soundEarlier : earlier.Sound) (soundLater : later.Sound) {id : String}
    (done : (earlier.status id).1 = .done) : (later.status id).1 = .done := by
  obtain ⟨known, ended⟩ := (status_eq_done_iff soundEarlier id).1 done
  refine (status_eq_done_iff soundLater id).2 ⟨extends_.registered id known, ?_⟩
  intro other reaches running
  have reached := (extends_.reaches_iff soundEarlier known other).1 reaches
  have knownOther := registered_of_reaches soundEarlier known reached
  exact ended other reached (extends_.running other knownOther running)

end ClaimTable

namespace Requests

/-- Requests that extend earlier ones for both kinds. -/
def Extends (earlier later : Requests) : Prop :=
  ∀ kind, ClaimTable.Extends (earlier.table kind) (later.table kind)

namespace Extends

variable {earlier middle later requests : Requests} (kind : OperationKind) (id : String)
  (groups : List String)

theorem refl (requests : Requests) : Extends requests requests :=
  fun other => ClaimTable.Extends.refl (requests.table other)

theorem trans (first : Extends earlier middle) (second : Extends middle later) :
    Extends earlier later :=
  fun other => (first other).trans (second other)

theorem setTable {table : ClaimTable} (extended : ClaimTable.Extends (requests.table kind) table) :
    Extends requests (requests.setTable kind table) := by
  intro other
  rw [table_setTable]
  by_cases same : other = kind
  · rw [if_pos same, same]
    exact extended
  · rw [if_neg same]
    exact ClaimTable.Extends.refl _

theorem add (fresh : ¬ requests.Registered kind id) :
    Extends requests (requests.add kind id groups).2 :=
  setTable kind (ClaimTable.Extends.add id groups fresh)

theorem finish : Extends requests (requests.finish kind id groups) :=
  setTable kind (ClaimTable.Extends.finish id groups)

theorem status (sound : requests.Sound) : Extends requests (requests.status kind id).2 :=
  setTable kind (ClaimTable.Extends.status id (sound kind))

end Extends

end Requests

namespace RequestDesk

theorem releaseClaim_extends (claim : Option Claim) (requests : Requests) :
    Requests.Extends requests (releaseClaim claim requests) := by
  cases claim with
  | none => exact Requests.Extends.refl requests
  | some claim => exact Requests.Extends.finish claim.kind claim.id claim.requested

theorem call_extends {desk : RequestDesk} (sound : desk.requests.Sound) (call : RequestCall)
    (fresh : ∀ kind id, call.registers = some (kind, id) → ¬ desk.requests.Registered kind id) :
    Requests.Extends desk.requests (desk.call call).2.requests := by
  rw [call_requests]
  cases call with
  | add kind id groups => exact Requests.Extends.add kind id groups (fresh kind id rfl)
  | finish kind id groups => exact Requests.Extends.finish kind id groups
  | status kind id => exact Requests.Extends.status kind id sound
  | acquire name kind id groups =>
    exact (Requests.Extends.add kind id groups (fresh kind id rfl)).trans
      (releaseClaim_extends _ _)
  | release name => exact releaseClaim_extends _ _
  | dependencies | holder | summary => exact Requests.Extends.refl _

/-- Every later point of a history extends every earlier one. -/
theorem after_extends {first : List RequestCall} (second : List RequestCall)
    (history : ClaimHistory (first ++ second)) :
    Requests.Extends (after first).requests (after (first ++ second)).requests := by
  induction second using List.reverseRecOn with
  | nil =>
    rw [List.append_nil]
    exact Requests.Extends.refl _
  | append_singleton calls call ih =>
    rw [← List.append_assoc] at history ⊢
    rw [after_append_singleton]
    exact (ih history.left).trans
      (call_extends (after_sound _) call (fresh_of_history history))

/-! ## The work behind a request -/

/-- Whether a claim covers a group for a request that is being registered: it is the claim that the
request takes itself, or one in force of the request in its way. -/
def Covers (desk : RequestDesk) (taken : Claim) (group : String) (cover : Claim) : Prop :=
  group ∈ cover.granted ∧ (cover = taken ∨ cover ∈ desk.live taken.kind)

theorem exists_covers {desk : RequestDesk} (balanced : desk.Balanced) (kind : OperationKind)
    (id : String) (groups : List String) (fresh : ¬ desk.requests.Registered kind id)
    {group : String} (asked : group ∈ groups) :
    ∃ cover, Covers desk (Claim.acquire desk.requests kind id groups).1 group cover := by
  rw [balanced.granted_eq kind id groups fresh]
  by_cases free : ∀ claim ∈ desk.live kind, group ∉ claim.granted
  · exact ⟨_, (mem_uncovered_iff _ groups group).2 ⟨asked, free⟩, Or.inl rfl⟩
  · push Not at free
    obtain ⟨cover, member, granted⟩ := free
    exact ⟨cover, granted, Or.inr member⟩

/-- The request of a claim that covers a group is the registered one or stands in its way. -/
theorem reaches_cover {desk : RequestDesk} (balanced : desk.Balanced) (name : String)
    (kind : OperationKind) (id : String) (groups : List String)
    (fresh : ¬ desk.requests.Registered kind id) {group : String} (asked : group ∈ groups)
    {cover : Claim}
    (covers : Covers desk (Claim.acquire desk.requests kind id groups).1 group cover) :
    cover.kind = kind ∧
      ((desk.call (.acquire name kind id groups)).2.requests.table kind).Reaches id cover.id := by
  obtain ⟨granted, rfl | member⟩ := covers
  · exact ⟨rfl, .refl⟩
  · have inForce : cover ∈ desk.live kind := member
    have holds := (balanced.holder?_eq_some_iff kind group cover.id).2
      ⟨cover, inForce, rfl, granted⟩
    exact ⟨((mem_live_iff desk kind cover).1 inForce).2,
      .single (acquire_dependenciesOf balanced.sound name fresh asked holds)⟩

theorem exists_acquire {calls : List RequestCall} (history : ClaimHistory calls)
    {kind : OperationKind} {id : String} (known : (after calls).requests.Registered kind id) :
    ∃ before name groups rest, calls = before ++ .acquire name kind id groups :: rest := by
  obtain ⟨call, member, registers⟩ :=
    List.mem_filterMap.1 ((after_registered calls kind id).1 known)
  obtain ⟨before, rest, split⟩ := List.append_of_mem member
  have guarded := history.guarded call member
  cases call with
  | acquire name other found groups =>
    cases registers
    exact ⟨before, name, groups, rest, split⟩
  | add => cases guarded
  | _ => cases registers

/-- A request that answers that it is done is done for good. Every request that it depends on,
itself included, was registered by taking a claim; each group that it asked for was then covered by
a claim, its own or that of a request in its way, and all these claims have been given back. -/
theorem done_is_final (calls : List RequestCall) (history : ClaimHistory calls)
    (kind : OperationKind) (id : String)
    (done : ((after calls).call (.status kind id)).1 = .status .done) :
    (∀ other, ((after calls).requests.table kind).Reaches id other →
      (∃ before name groups rest, calls = before ++ .acquire name kind other groups :: rest) ∧
      ∀ before name groups rest, calls = before ++ .acquire name kind other groups :: rest →
        ∀ group ∈ groups,
          let taken := (Claim.acquire (after before).requests kind other groups).1
          (∃ cover, Covers (after before) taken group cover) ∧
            ∀ cover, Covers (after before) taken group cover → ¬ (after calls).Holds cover) ∧
    ∀ more, ClaimHistory (calls ++ more) →
      ((after (calls ++ more)).call (.status kind id)).1 = .status .done := by
  have balanced := after_balanced history
  have answer : (((after calls).requests.table kind).status id).1 = .done := by
    injection done
  obtain ⟨known, ended⟩ := (ClaimTable.status_eq_done_iff (balanced.sound kind) id).1 answer
  refine ⟨?_, ?_⟩
  · intro other reaches
    have knownOther := ClaimTable.registered_of_reaches (balanced.sound kind) known reaches
    refine ⟨exists_acquire history knownOther, ?_⟩
    intro before name groups rest split group asked
    have historyBefore : ClaimHistory (before ++ .acquire name kind other groups :: rest) :=
      split ▸ history
    have balancedBefore := after_balanced historyBefore.left
    have fresh := fresh_of_history historyBefore kind other rfl
    refine ⟨exists_covers balancedBefore kind other groups fresh asked, ?_⟩
    intro cover covers held
    obtain ⟨sameKind, reachesCover⟩ :=
      reaches_cover balancedBefore name kind other groups fresh asked covers
    -- The way to the cover was laid when `other` was registered, and is still there.
    have sinceThen : Requests.Extends
        ((after before).call (.acquire name kind other groups)).2.requests
        (after calls).requests := by
      rw [split, List.append_cons] at history ⊢
      rw [← after_append_singleton]
      exact after_extends rest history
    have soundThen := call_sound balancedBefore.sound (.acquire name kind other groups)
    have knownThen := (call_registered balancedBefore.sound (.acquire name kind other groups) kind
      other).2 (Or.inr rfl)
    have stillReaches :=
      ((sinceThen kind).reaches_iff (soundThen kind) knownThen cover.id).2 reachesCover
    have runs := balanced.accounts.running cover held (List.ne_nil_of_mem covers.1)
    rw [sameKind] at runs
    exact ended cover.id (reaches.trans stillReaches) runs
  · intro more historyMore
    have later := (after_extends more historyMore kind).done (balanced.sound kind)
      (after_sound (calls ++ more) kind) answer
    exact congrArg RequestReply.status later

theorem overlapping_done :
    ClaimHistory (overlapping ++ [.release "second"]) ∧
      ((after (overlapping ++ [.release "second"])).call (.status .collect "c2")).1 =
        .status .done ∧
      ∀ more, ClaimHistory (overlapping ++ [.release "second"] ++ more) →
        ((after (overlapping ++ [.release "second"] ++ more)).call (.status .collect "c2")).1 =
          .status .done := by
  have history : ClaimHistory (overlapping ++ [.release "second"]) := ⟨by decide, by decide⟩
  have done : ((after (overlapping ++ [.release "second"])).call (.status .collect "c2")).1 =
      .status .done := by cbv
  exact ⟨history, done, (done_is_final _ history .collect "c2" done).2⟩

end RequestDesk

end CloudAudit
