import CloudAudit.Proofs.Requests.Calls
import Mathlib.Data.List.Nodup
/-!
# Who holds which group

As long as no request takes a claim twice, the claims that were taken and not yet given back account
for every group that is held: each group is held by the one request whose claim was granted it, so
that no two requests of a kind ever work on one group, and nothing stays held without a claim.
-/
set_option autoImplicit false

namespace CloudAudit

/-- What the claims in force say about the requests. -/
structure Accounts (requests : Requests) (live : Claim → Prop) : Prop where
  registered : ∀ claim, live claim → requests.Registered claim.kind claim.id
  unique : ∀ one other, live one → live other → one.kind = other.kind → one.id = other.id →
    one = other
  holders : ∀ kind group id, (requests.table kind).holder? group = some id ↔
    ∃ claim, live claim ∧ claim.kind = kind ∧ claim.id = id ∧ group ∈ claim.granted
  distinct : ∀ claim, live claim → claim.granted.Nodup
  requested : ∀ claim, live claim → ∀ group ∈ claim.granted, group ∈ claim.requested
  running : ∀ claim, live claim → claim.granted ≠ [] →
    (requests.table claim.kind).statuses.get? claim.id = some .running

theorem nodup_eraseDups (names : List String) : names.eraseDups.Nodup := by
  induction length : names.length using Nat.strongRecOn generalizing names with
  | _ size ih =>
    cases names with
    | nil => simp
    | cons name names =>
      rw [List.eraseDups_cons, List.nodup_cons]
      refine ⟨by simp, ih _ ?_ _ rfl⟩
      have := List.length_filter_le (fun other => !other == name) names
      rw [← length, List.length_cons]
      omega

namespace Accounts

variable {requests : Requests} {live : Claim → Prop}

theorem congr {other : Claim → Prop} (accounts : Accounts requests live)
    (same : ∀ claim, live claim ↔ other claim) : Accounts requests other :=
  (funext fun claim => propext (same claim) : live = other) ▸ accounts

theorem disjoint (accounts : Accounts requests live) {one other : Claim} (oneLive : live one)
    (otherLive : live other) (kind : one.kind = other.kind) (distinct : one ≠ other) :
    one.granted.Disjoint other.granted := by
  intro group inOne inOther
  have byOne := (accounts.holders one.kind group one.id).2 ⟨one, oneLive, rfl, rfl, inOne⟩
  have byOther := (accounts.holders one.kind group other.id).2
    ⟨other, otherLive, kind.symm, rfl, inOther⟩
  have sameId : one.id = other.id := Option.some.inj (byOne.symm.trans byOther)
  exact distinct (accounts.unique one other oneLive otherLive kind sameId)

theorem status (accounts : Accounts requests live) (sound : requests.Sound) (kind : OperationKind)
    (id : String) : Accounts (requests.status kind id).2 live where
  registered claim held :=
    (Requests.status_registered kind claim.kind id sound claim.id).2
      (accounts.registered claim held)
  unique := accounts.unique
  holders := by
    intro other group name
    rw [← accounts.holders other group name, Requests.status_table]
    by_cases same : other = kind
    · rw [if_pos same, same, ClaimTable.status_holder?]
    · rw [if_neg same]
  distinct := accounts.distinct
  requested := accounts.requested
  running := by
    intro claim held granted
    have runs := accounts.running claim held granted
    rw [Requests.status_table]
    by_cases same : claim.kind = kind
    · rw [if_pos same, (ClaimTable.status_settles id (sound kind).tracked).running_iff, ← same]
      exact runs
    · rw [if_neg same]
      exact runs

/-! ## Taking a claim -/

section Acquire

variable (kind : OperationKind) (id : String) (groups : List String)

theorem isFree_of_unregistered {table : ClaimTable} (sound : table.Sound) {id : String}
    (fresh : ¬ table.Registered id) (group : String) :
    table.isFree id group = true ↔ table.holder? group = none := by
  rw [ClaimTable.isFree_iff]
  cases held : table.holder? group with
  | none => simp
  | some owner =>
    have known := sound.holders group owner held
    simp only [Option.some.injEq, forall_eq', reduceCtorEq, iff_false]
    rintro rfl
    exact fresh known

theorem mem_granted_iff (sound : requests.Sound) (fresh : ¬ requests.Registered kind id)
    (group : String) :
    group ∈ (Claim.acquire requests kind id groups).1.granted ↔
      group ∈ groups ∧ (requests.table kind).holder? group = none := by
  have granted : (Claim.acquire requests kind id groups).1.granted =
      ((requests.table kind).add id groups).1 := rfl
  rw [granted, ClaimTable.add_granted, List.mem_eraseDups, List.mem_filter,
    isFree_of_unregistered (sound kind) fresh]

/-- After a claim is taken, a group is held as before or by the new claim. -/
theorem acquire_holder?_iff (sound : requests.Sound) (fresh : ¬ requests.Registered kind id)
    (other : OperationKind) (group name : String) :
    ((Claim.acquire requests kind id groups).2.table other).holder? group = some name ↔
      (requests.table other).holder? group = some name ∨
        other = kind ∧ name = id ∧ group ∈ (Claim.acquire requests kind id groups).1.granted := by
  have tableAfter : (Claim.acquire requests kind id groups).2.table other = _ :=
    Requests.add_table kind other id groups
  rw [mem_granted_iff kind id groups sound fresh, tableAfter]
  by_cases same : other = kind
  · subst same
    rw [if_pos rfl, ClaimTable.add_holder?]
    cases before : (requests.table other).holder? group with
    | none => by_cases asked : group ∈ groups <;> simp [asked, eq_comm]
    | some owner => simp
  · simp [same]

theorem acquire (accounts : Accounts requests live) (sound : requests.Sound)
    (fresh : ¬ requests.Registered kind id) :
    Accounts (Claim.acquire requests kind id groups).2 fun claim =>
      claim = (Claim.acquire requests kind id groups).1 ∨ live claim := by
  have tableAfter : ∀ other, (Claim.acquire requests kind id groups).2.table other = _ :=
    fun other => Requests.add_table kind other id groups
  have grantedIs : (Claim.acquire requests kind id groups).1.granted =
      ((requests.table kind).add id groups).1 := rfl
  have foreign : ∀ claim, live claim → claim.kind = kind → claim.id ≠ id := by
    rintro claim held rfl rfl
    exact fresh (accounts.registered claim held)
  constructor
  case registered =>
    intro claim held
    refine (Requests.add_registered kind claim.kind id groups claim.id).2 ?_
    rcases held with rfl | held
    · exact Or.inr rfl
    · exact Or.inl (accounts.registered claim held)
  case unique =>
    intro one other oneLive otherLive sameKind sameId
    rcases oneLive with rfl | oneLive <;> rcases otherLive with rfl | otherLive
    · rfl
    · exact absurd sameId.symm (foreign other otherLive sameKind.symm)
    · exact absurd sameId (foreign one oneLive sameKind)
    · exact accounts.unique one other oneLive otherLive sameKind sameId
  case holders =>
    intro other group name
    rw [acquire_holder?_iff kind id groups sound fresh, accounts.holders]
    constructor
    · rintro (⟨claim, held, rest⟩ | ⟨rfl, rfl, member⟩)
      · exact ⟨claim, Or.inr held, rest⟩
      · exact ⟨_, Or.inl rfl, rfl, rfl, member⟩
    · rintro ⟨claim, rfl | held, sameKind, sameId, member⟩
      · exact Or.inr ⟨sameKind.symm, sameId.symm, member⟩
      · exact Or.inl ⟨claim, held, sameKind, sameId, member⟩
  case distinct =>
    rintro claim (rfl | held)
    · rw [grantedIs, ClaimTable.add_granted]
      exact nodup_eraseDups _
    · exact accounts.distinct claim held
  case requested =>
    rintro claim (rfl | held) group member
    · exact ((mem_granted_iff kind id groups sound fresh group).1 member).1
    · exact accounts.requested claim held group member
  case running =>
    rintro claim (rfl | held) notEmpty
    · have kindIs : (Claim.acquire requests kind id groups).1.kind = kind := rfl
      have idIs : (Claim.acquire requests kind id groups).1.id = id := rfl
      rw [tableAfter, if_pos kindIs, idIs, ClaimTable.add_statuses, if_pos rfl, ← grantedIs,
        if_neg notEmpty]
    · have runs := accounts.running claim held notEmpty
      rw [tableAfter]
      by_cases same : claim.kind = kind
      · rw [if_pos same, ClaimTable.add_statuses, if_neg (foreign claim held same), ← same]
        exact runs
      · rw [if_neg same]
        exact runs

end Acquire

/-! ## Giving a claim back -/

/-- After a claim is given back, a group is held as before unless the request of the claim held it.
-/
theorem release_holder?_iff {claim : Claim} (known : requests.Registered claim.kind claim.id)
    (kind : OperationKind) (group name : String) :
    ((claim.release requests).table kind).holder? group = some name ↔
      (requests.table kind).holder? group = some name ∧
        ¬ (kind = claim.kind ∧ name = claim.id ∧ group ∈ claim.requested) := by
  have tableAfter : (claim.release requests).table kind = _ :=
    Requests.finish_table claim.kind kind claim.id claim.requested
  rw [tableAfter]
  by_cases same : kind = claim.kind
  · subst same
    rw [if_pos rfl, ClaimTable.finish_holder?]
    by_cases freed : group ∈ claim.requested ∧
        (requests.table claim.kind).holder? group = some claim.id
    · rw [if_pos ⟨known, freed⟩, freed.2]
      simp [freed.1, eq_comm]
    · rw [if_neg fun ended => freed ended.2]
      refine ⟨fun holds => ⟨holds, ?_⟩, And.left⟩
      rintro ⟨_, rfl, asked⟩
      exact freed ⟨asked, holds⟩
  · simp [same]

theorem release (accounts : Accounts requests live) {claim : Claim} (held : live claim) :
    Accounts (claim.release requests) fun other => live other ∧ other ≠ claim := by
  have known := accounts.registered claim held
  have tableAfter : ∀ kind, (claim.release requests).table kind = _ :=
    fun kind => Requests.finish_table claim.kind kind claim.id claim.requested
  constructor
  case registered =>
    rintro other ⟨otherLive, _⟩
    exact (Requests.finish_registered claim.kind other.kind claim.id claim.requested other.id).2
      (accounts.registered other otherLive)
  case unique =>
    rintro one other ⟨oneLive, _⟩ ⟨otherLive, _⟩
    exact accounts.unique one other oneLive otherLive
  case holders =>
    intro kind group id
    rw [release_holder?_iff known, accounts.holders]
    constructor
    · rintro ⟨⟨other, otherLive, rfl, rfl, member⟩, notFreed⟩
      refine ⟨other, ⟨otherLive, ?_⟩, rfl, rfl, member⟩
      rintro rfl
      exact notFreed ⟨rfl, rfl, accounts.requested other held group member⟩
    · rintro ⟨other, ⟨otherLive, different⟩, rfl, rfl, member⟩
      refine ⟨⟨other, otherLive, rfl, rfl, member⟩, ?_⟩
      -- The claim given back is the only one of its request, so the other one is of another.
      rintro ⟨sameKind, sameId, _⟩
      exact different (accounts.unique other claim otherLive held sameKind sameId)
  case distinct => exact fun other kept => accounts.distinct other kept.1
  case requested => exact fun other kept => accounts.requested other kept.1
  case running =>
    rintro other ⟨otherLive, different⟩ notEmpty
    have runs := accounts.running other otherLive notEmpty
    rw [tableAfter]
    by_cases same : other.kind = claim.kind
    · have distinctId : other.id ≠ claim.id :=
        fun sameId => different (accounts.unique other claim otherLive held same sameId)
      rw [if_pos same, ClaimTable.finish_statuses, if_neg fun ended => distinctId ended.2, ← same]
      exact runs
    · rw [if_neg same]
      exact runs

theorem releaseClaim (accounts : Accounts requests live) (claim : Option Claim)
    (held : ∀ found, claim = some found → live found) :
    Accounts (RequestDesk.releaseClaim claim requests) fun other =>
      live other ∧ claim ≠ some other := by
  cases claim with
  | none => exact accounts.congr (by simp)
  | some claim =>
    exact (accounts.release (held claim rfl)).congr fun other => by simp [eq_comm]

end Accounts

end CloudAudit
