import CloudAudit.Proofs.Requests.Accounts
import Mathlib.Data.List.Induction
/-!
# One request a group

Histories of claims that are taken and given back in any order, with questions in between. At every
point of such a history the claims in force say exactly who holds what.
-/
set_option autoImplicit false

namespace CloudAudit

/-- Whether a call takes or gives back a claim, or only asks. -/
def RequestCall.isGuarded : RequestCall → Bool
  | .add .. | .finish .. => false
  | _ => true

/-- Calls that take and give back claims and ask, where no request takes a claim twice. -/
structure ClaimHistory (calls : List RequestCall) : Prop where
  guarded : ∀ call ∈ calls, call.isGuarded = true
  once : (registrations calls).Nodup

namespace ClaimHistory

theorem left {first second : List RequestCall} (history : ClaimHistory (first ++ second)) :
    ClaimHistory first where
  guarded call member := history.guarded call (List.mem_append_left second member)
  once := by
    have once := history.once
    rw [registrations, List.filterMap_append] at once
    exact once.of_append_left

end ClaimHistory

namespace RequestDesk

def Holds (desk : RequestDesk) (claim : Claim) : Prop :=
  ∃ name, desk.held.get? name = some claim

def live (desk : RequestDesk) (kind : OperationKind) : List Claim :=
  desk.held.values.filter fun claim => claim.kind == kind

theorem mem_live_iff (desk : RequestDesk) (kind : OperationKind) (claim : Claim) :
    claim ∈ desk.live kind ↔ desk.Holds claim ∧ claim.kind = kind := by
  rw [live, List.mem_filter, Table.mem_values_iff, Holds, beq_iff_eq]

/-- What the claims of a desk account for, each being held under one name. -/
structure Balanced (desk : RequestDesk) : Prop where
  sound : desk.requests.Sound
  accounts : Accounts desk.requests desk.Holds
  oneName : ∀ name other claim, desk.held.get? name = some claim →
    desk.held.get? other = some claim → name = other

theorem balanced_start : ({} : RequestDesk).Balanced where
  sound := sound_start
  accounts :=
    { registered := by rintro claim ⟨name, found⟩; simp at found
      unique := by rintro one other ⟨name, found⟩; simp at found
      holders := by
        intro kind group id
        have unheld : (({} : RequestDesk).requests.table kind).holder? group = none := by
          cases kind <;> rfl
        simp [unheld, Holds]
      distinct := by rintro claim ⟨name, found⟩; simp at found
      requested := by rintro claim ⟨name, found⟩; simp at found
      running := by rintro claim ⟨name, found⟩; simp at found }
  oneName := by intro name other claim found; simp at found

theorem Balanced.acquire {desk : RequestDesk} (balanced : desk.Balanced) (name : String)
    (kind : OperationKind) (id : String) (groups : List String)
    (fresh : ¬ desk.requests.Registered kind id) :
    (desk.call (.acquire name kind id groups)).2.Balanced where
  sound := call_sound balanced.sound _
  accounts := by
    have taken := balanced.accounts.acquire kind id groups balanced.sound fresh
    refine (taken.releaseClaim (desk.held.get? name)
      (fun found held => Or.inr ⟨name, held⟩)).congr ?_
    generalize claimIs : (Claim.acquire desk.requests kind id groups).1 = claim
    have heldAfter : (desk.call (.acquire name kind id groups)).2.held =
        desk.held.insert name claim := by rw [← claimIs]; rfl
    have new : ∀ other, desk.held.get? other ≠ some claim := by
      intro other held
      have known := balanced.accounts.registered claim ⟨other, held⟩
      rw [← claimIs] at known
      exact fresh known
    intro other
    simp only [Holds, heldAfter, Table.get?_insert]
    constructor
    · rintro ⟨rfl | ⟨place, held⟩, kept⟩
      · exact ⟨name, if_pos rfl⟩
      · refine ⟨place, ?_⟩
        rw [if_neg fun same : place = name => kept (same ▸ held)]
        exact held
    · rintro ⟨place, held⟩
      by_cases same : place = name
      · rw [if_pos same, Option.some.injEq] at held
        subst held
        exact ⟨Or.inl rfl, new name⟩
      · rw [if_neg same] at held
        exact ⟨Or.inr ⟨place, held⟩,
          fun replaced => same (balanced.oneName place name other held replaced)⟩
  oneName := by
    have heldAfter : (desk.call (.acquire name kind id groups)).2.held =
        desk.held.insert name (Claim.acquire desk.requests kind id groups).1 := rfl
    have new : ∀ place,
        desk.held.get? place ≠ some (Claim.acquire desk.requests kind id groups).1 :=
      fun place held => fresh (balanced.accounts.registered _ ⟨place, held⟩)
    intro one other claim first second
    rw [heldAfter, Table.get?_insert] at first second
    split at first <;> split at second
    · simp_all
    · exact absurd (second.trans first.symm) (new other)
    · exact absurd (first.trans second.symm) (new one)
    · exact balanced.oneName one other claim first second

theorem Balanced.release {desk : RequestDesk} (balanced : desk.Balanced) (name : String) :
    (desk.call (.release name)).2.Balanced where
  sound := call_sound balanced.sound _
  accounts := by
    refine (balanced.accounts.releaseClaim (desk.held.get? name)
      (fun found held => ⟨name, held⟩)).congr ?_
    have heldAfter : (desk.call (.release name)).2.held = desk.held.erase name := rfl
    intro other
    simp only [Holds, heldAfter, Table.get?_erase]
    constructor
    · rintro ⟨⟨place, held⟩, kept⟩
      refine ⟨place, ?_⟩
      rw [if_neg fun same : place = name => kept (same ▸ held)]
      exact held
    · rintro ⟨place, held⟩
      split at held
      · cases held
      · rename_i same
        exact ⟨⟨place, held⟩, fun gone => same (balanced.oneName place name other held gone)⟩
  oneName := by
    have heldAfter : (desk.call (.release name)).2.held = desk.held.erase name := rfl
    intro one other claim first second
    rw [heldAfter, Table.get?_erase] at first second
    split at first <;> split at second
    · cases first
    · cases first
    · cases second
    · exact balanced.oneName one other claim first second

theorem Balanced.call {desk : RequestDesk} (balanced : desk.Balanced) (call : RequestCall)
    (guarded : call.isGuarded = true)
    (fresh : ∀ kind id, call.registers = some (kind, id) → ¬ desk.requests.Registered kind id) :
    (desk.call call).2.Balanced := by
  cases call with
  | add | finish => cases guarded
  | status kind id =>
    exact ⟨call_sound balanced.sound _, balanced.accounts.status balanced.sound kind id,
      balanced.oneName⟩
  | acquire name kind id groups => exact balanced.acquire name kind id groups (fresh kind id rfl)
  | release name => exact balanced.release name
  | dependencies | holder | summary => exact balanced

theorem after_append_singleton (calls : List RequestCall) (call : RequestCall) :
    after (calls ++ [call]) = ((after calls).call call).2 :=
  run_append {} calls [call]

theorem fresh_of_history {first second : List RequestCall} {call : RequestCall}
    (history : ClaimHistory (first ++ call :: second)) (kind : OperationKind) (id : String)
    (registers : call.registers = some (kind, id)) :
    ¬ (after first).requests.Registered kind id := by
  intro known
  have once := history.once
  rw [registrations, List.filterMap_append, List.filterMap_cons, registers] at once
  have before : (kind, id) ∈ first.filterMap RequestCall.registers :=
    (after_registered first kind id).1 known
  exact (List.disjoint_of_nodup_append once) before (by simp)

theorem after_balanced {calls : List RequestCall} (history : ClaimHistory calls) :
    (after calls).Balanced := by
  induction calls using List.reverseRecOn with
  | nil => exact balanced_start
  | append_singleton calls call ih =>
    rw [after_append_singleton]
    exact (ih history.left).call call (history.guarded call (by simp)) (fresh_of_history history)

/-! ## What the claims in force say -/

theorem Balanced.live_nodup {desk : RequestDesk} (balanced : desk.Balanced)
    (kind : OperationKind) : (desk.live kind).Nodup := by
  refine List.Nodup.filter _ ?_
  rw [Table.values, List.Nodup, List.pairwise_map]
  refine desk.held.ascending.imp_of_mem ?_
  intro one other oneHeld otherHeld below same
  have first := (Table.get?_eq_some_iff desk.held one.1 one.2).2 oneHeld
  have second := (Table.get?_eq_some_iff desk.held other.1 other.2).2 otherHeld
  have sameName := balanced.oneName one.1 other.1 one.2 first (same ▸ second)
  exact String.lt_irrefl _ (sameName ▸ below)

theorem Balanced.holder?_eq_some_iff {desk : RequestDesk} (balanced : desk.Balanced)
    (kind : OperationKind) (group id : String) :
    (desk.requests.table kind).holder? group = some id ↔
      ∃ claim ∈ desk.live kind, claim.id = id ∧ group ∈ claim.granted := by
  rw [balanced.accounts.holders]
  simp only [mem_live_iff, and_assoc]

theorem Balanced.holder?_eq_none_iff {desk : RequestDesk} (balanced : desk.Balanced)
    (kind : OperationKind) (group : String) :
    (desk.requests.table kind).holder? group = none ↔
      ∀ claim ∈ desk.live kind, group ∉ claim.granted := by
  rw [Option.eq_none_iff_forall_ne_some]
  constructor
  · intro unheld claim member granted
    exact unheld claim.id
      ((balanced.holder?_eq_some_iff kind group claim.id).2 ⟨claim, member, rfl, granted⟩)
  · intro uncovered id held
    obtain ⟨claim, member, _, granted⟩ := (balanced.holder?_eq_some_iff kind group id).1 held
    exact uncovered claim member granted

/-- The requested groups that no claim covers, each once and in the order of the request. -/
def uncovered (claims : List Claim) (groups : List String) : List String :=
  (groups.filter fun group => !claims.any fun claim => claim.granted.contains group).eraseDups

theorem mem_uncovered_iff (claims : List Claim) (groups : List String) (group : String) :
    group ∈ uncovered claims groups ↔
      group ∈ groups ∧ ∀ claim ∈ claims, group ∉ claim.granted := by
  simp [uncovered]

theorem Balanced.granted_eq {desk : RequestDesk} (balanced : desk.Balanced)
    (kind : OperationKind) (id : String) (groups : List String)
    (fresh : ¬ desk.requests.Registered kind id) :
    (Claim.acquire desk.requests kind id groups).1 =
      ⟨kind, id, groups, uncovered (desk.live kind) groups⟩ := by
  have granted : ((desk.requests.table kind).add id groups).1 =
      uncovered (desk.live kind) groups := by
    rw [ClaimTable.add_granted, uncovered]
    congr 1
    apply List.filter_congr
    intro group _
    rw [Bool.eq_iff_iff, Accounts.isFree_of_unregistered (balanced.sound kind) fresh,
      balanced.holder?_eq_none_iff]
    simp
  rw [← granted]
  rfl

/-- A request that finds a group held depends on the holder from then on. -/
theorem acquire_dependenciesOf {desk : RequestDesk} (sound : desk.requests.Sound) (name : String)
    {kind : OperationKind} {id : String} (fresh : ¬ desk.requests.Registered kind id)
    {groups : List String} {group owner : String} (asked : group ∈ groups)
    (holds : (desk.requests.table kind).holder? group = some owner) :
    owner ∈ ((desk.call (.acquire name kind id groups)).2.requests.table
      kind).dependenciesOf id := by
  have foreign : owner ≠ id := by
    rintro rfl
    exact fresh ((sound kind).holders group owner holds)
  rw [call_requests, releaseClaim_dependenciesOf, Requests.add_table, if_pos rfl,
    ClaimTable.mem_add_dependencies]
  exact Or.inr ⟨rfl, foreign, group, asked, holds⟩

/-- In every history a group is held by a request exactly if a claim in force of that request was
granted it. No claim names a group twice and no two claims of a kind have one in common. A new
request is granted what no claim covers, and depends on whoever holds the rest. Without claims in
force nothing is held. -/
theorem claims_account_for_holders (calls : List RequestCall) (history : ClaimHistory calls)
    (kind : OperationKind) :
    (∀ group id, ((after calls).requests.table kind).holder? group = some id ↔
      ∃ claim ∈ (after calls).live kind, claim.id = id ∧ group ∈ claim.granted) ∧
    (∀ claim ∈ (after calls).live kind, claim.granted.Nodup) ∧
    ((after calls).live kind).Pairwise (fun one other => one.granted.Disjoint other.granted) ∧
    (∀ name id groups, (kind, id) ∉ registrations calls →
      let granted := uncovered ((after calls).live kind) groups
      let next := (after calls).call (.acquire name kind id groups)
      next.1 = .names granted ∧
        next.2.held.get? name = some ⟨kind, id, groups, granted⟩ ∧
        ∀ group ∈ groups, group ∉ granted →
          ∃ owner, ((after calls).requests.table kind).holder? group = some owner ∧
            owner ∈ (next.2.requests.table kind).dependenciesOf id) ∧
    ((after calls).live kind = [] →
      ∀ group, ((after calls).requests.table kind).holder? group = none) := by
  have balanced := after_balanced history
  refine ⟨balanced.holder?_eq_some_iff kind, ?_, ?_, ?_, ?_⟩
  · intro claim member
    exact balanced.accounts.distinct claim ((mem_live_iff _ kind claim).1 member).1
  · refine (balanced.live_nodup kind).imp_of_mem ?_
    intro one other oneLive otherLive distinct
    obtain ⟨oneHeld, oneKind⟩ := (mem_live_iff _ kind one).1 oneLive
    obtain ⟨otherHeld, otherKind⟩ := (mem_live_iff _ kind other).1 otherLive
    exact balanced.accounts.disjoint oneHeld otherHeld (oneKind.trans otherKind.symm) distinct
  · intro name id groups new
    have fresh : ¬ (after calls).requests.Registered kind id :=
      fun known => new ((after_registered calls kind id).1 known)
    have claimIs := balanced.granted_eq kind id groups fresh
    refine ⟨?_, ?_, ?_⟩
    · have reply : ((after calls).call (.acquire name kind id groups)).1 =
          .names (Claim.acquire (after calls).requests kind id groups).1.granted := rfl
      rw [reply, claimIs]
    · have heldAfter : ((after calls).call (.acquire name kind id groups)).2.held =
          (after calls).held.insert name
            (Claim.acquire (after calls).requests kind id groups).1 := rfl
      rw [heldAfter, Table.get?_insert_self, claimIs]
    · intro group asked notGranted
      have held : ((after calls).requests.table kind).holder? group ≠ none := by
        rw [ne_eq, balanced.holder?_eq_none_iff]
        exact fun free => notGranted ((mem_uncovered_iff _ groups group).2 ⟨asked, free⟩)
      obtain ⟨owner, holds⟩ := Option.ne_none_iff_exists'.1 held
      exact ⟨owner, holds, acquire_dependenciesOf balanced.sound name fresh asked holds⟩
  · intro unclaimed group
    rw [balanced.holder?_eq_none_iff, unclaimed]
    simp

/-- Two requests that overlap, the second of which names a group twice; the first then gives back
its claim on all that it asked for. -/
def overlapping : List RequestCall :=
  [.acquire "first" .collect "c1" ["g1", "g2"],
   .acquire "second" .collect "c2" ["g2", "g3", "g3"],
   .status .collect "c2",
   .release "first"]

theorem overlapping_accounts :
    ClaimHistory overlapping ∧
      ∀ group, ((after overlapping).requests.table .collect).holder? group = some "c2" ↔
        ∃ claim ∈ (after overlapping).live .collect, claim.id = "c2" ∧ group ∈ claim.granted := by
  have history : ClaimHistory overlapping := ⟨by decide, by decide⟩
  exact ⟨history, fun group =>
    (claims_account_for_holders overlapping history .collect).1 group "c2"⟩

end RequestDesk

end CloudAudit
