import CloudAudit.Proofs.Requests.Claiming
import Mathlib.Logic.Relation
/-!
# What the status walk finds

The walk behind a status goes from request to request along dependencies, never through one that is
under way, and stops at the first that runs. Where every stored status is one of a request that was
registered, it answers that a request runs exactly if a running one can be reached: a way that comes
back to a request can be cut short there.
-/
set_option autoImplicit false

namespace CloudAudit.ClaimTable

/-- The requests that stood in the way of a request. -/
def blockers (dependencies : Table NameSet) (id : String) : List String :=
  match dependencies.get? id with
  | some found => found.names
  | none => []

theorem dependenciesOf_eq_blockers (table : ClaimTable) (id : String) :
    table.dependenciesOf id = blockers table.dependencies id := rfl

/-- Whether a request depends on another one, at once or through others. -/
def Reaches (table : ClaimTable) : String → String → Prop :=
  Relation.ReflTransGen fun id other => other ∈ table.dependenciesOf id

/-! ## Ways -/

/-- Ways along dependencies that leave only requests of a list. -/
inductive Walk (dependencies : Table NameSet) (fresh : List String) : String → String → Prop where
  | here (id : String) : Walk dependencies fresh id id
  | along {id next last : String} (member : id ∈ fresh) (edge : next ∈ blockers dependencies id)
      (rest : Walk dependencies fresh next last) : Walk dependencies fresh id last

section Ways

variable {dependencies : Table NameSet} {fresh : List String} {start last : String}

theorem Walk.of_erase {cut : String} (walk : Walk dependencies (fresh.erase cut) start last) :
    Walk dependencies fresh start last := by
  induction walk with
  | here id => exact .here id
  | along member edge _ ih => exact .along (List.mem_of_mem_erase member) edge ih

/-- A way either never leaves a request or has an end that starts behind it and never does. -/
theorem Walk.cut_at (walk : Walk dependencies fresh start last) (cut : String) :
    Walk dependencies (fresh.erase cut) start last ∨
      ∃ next ∈ blockers dependencies cut, Walk dependencies (fresh.erase cut) next last := by
  induction walk with
  | here id => exact Or.inl (.here id)
  | @along id next last member edge rest ih =>
    rcases ih with avoids | behind
    · by_cases same : id = cut
      · exact Or.inr ⟨next, same ▸ edge, avoids⟩
      · exact Or.inl (.along ((List.mem_erase_of_ne same).2 member) edge avoids)
    · exact Or.inr behind

/-- Whether a walk that may leave the requests of a list gets to one that is stored as running. -/
def Finds (dependencies : Table NameSet) (fresh : List String) (statuses : Table RequestStatus)
    (start : String) : Prop :=
  ∃ last, Walk dependencies fresh start last ∧ statuses.get? last = some .running

theorem finds_of_not_mem {statuses : Table RequestStatus} (underWay : start ∉ fresh) :
    Finds dependencies fresh statuses start ↔ statuses.get? start = some .running := by
  constructor
  · rintro ⟨last, walk, runs⟩
    cases walk with
    | here => exact runs
    | along member => exact absurd member underWay
  · exact fun runs => ⟨start, .here start, runs⟩

theorem finds_of_mem {statuses : Table RequestStatus} (member : start ∈ fresh) :
    Finds dependencies fresh statuses start ↔
      statuses.get? start = some .running ∨
        ∃ next ∈ blockers dependencies start,
          Finds dependencies (fresh.erase start) statuses next := by
  constructor
  · rintro ⟨last, walk, runs⟩
    rcases walk.cut_at start with avoids | ⟨next, edge, behind⟩
    · cases avoids with
      | here => exact Or.inl runs
      | along _ edge rest => exact Or.inr ⟨_, edge, last, rest, runs⟩
    · exact Or.inr ⟨next, edge, last, behind, runs⟩
  · rintro (runs | ⟨next, edge, last, walk, runs⟩)
    · exact ⟨start, .here start, runs⟩
    · exact ⟨last, .along member edge walk.of_erase, runs⟩

end Ways

/-! ## Stored statuses during a walk -/

/-- Statuses that differ in nothing but requests without a claim of their own that count as done. -/
def Settles (statuses after : Table RequestStatus) : Prop :=
  ∀ name, after.get? name = statuses.get? name ∨
    statuses.get? name = some .alreadyRunning ∧ after.get? name = some .done

namespace Settles

variable {statuses middle after : Table RequestStatus}

theorem refl (statuses : Table RequestStatus) : Settles statuses statuses :=
  fun _ => Or.inl rfl

theorem trans (first : Settles statuses middle) (second : Settles middle after) :
    Settles statuses after := by
  intro name
  rcases first name with same | ⟨waited, ended⟩
  · rcases second name with again | ⟨waited, ended⟩
    · exact Or.inl (again.trans same)
    · exact Or.inr ⟨same ▸ waited, ended⟩
  · rcases second name with again | ⟨waits, _⟩
    · exact Or.inr ⟨waited, again.trans ended⟩
    · rw [ended] at waits
      cases waits

theorem running_iff (settles : Settles statuses after) (name : String) :
    after.get? name = some .running ↔ statuses.get? name = some .running := by
  rcases settles name with same | ⟨waited, ended⟩
  · rw [same]
  · simp [waited, ended]

theorem contains_eq (settles : Settles statuses after) (name : String) :
    after.contains name = statuses.contains name := by
  rcases settles name with same | ⟨waited, ended⟩
  · simp only [Table.contains, same]
  · simp [Table.contains, waited, ended]

theorem finds_iff (settles : Settles statuses after) (dependencies : Table NameSet)
    (fresh : List String) (start : String) :
    Finds dependencies fresh after start ↔ Finds dependencies fresh statuses start := by
  simp only [Finds, settles.running_iff]

end Settles

/-- Whether all stored statuses are of registered requests that nothing cancelled, and all
dependencies lead to registered ones. -/
structure Tracked (dependencies : Table NameSet) (statuses : Table RequestStatus) : Prop where
  stored : ∀ id status, statuses.get? id = some status →
    status = .running ∨ status = .alreadyRunning ∨ status = .done
  known : ∀ id other, other ∈ blockers dependencies id → statuses.contains other = true

theorem Tracked.of_settles {dependencies : Table NameSet} {statuses after : Table RequestStatus}
    (tracked : Tracked dependencies statuses) (settles : Settles statuses after) :
    Tracked dependencies after := by
  constructor
  · intro id status found
    rcases settles id with same | ⟨_, ended⟩
    · exact tracked.stored id status (same ▸ found)
    · rw [ended] at found
      exact Or.inr (Or.inr (Option.some.inj found).symm)
  · intro id other edge
    rw [settles.contains_eq]
    exact tracked.known id other edge

/-! ## The walk -/

def Verdict (answer : RequestStatus) (found : Prop) : Prop :=
  answer = .running ∧ found ∨ answer = .done ∧ ¬ found

theorem Verdict.congr {answer : RequestStatus} {found other : Prop} (same : found ↔ other)
    (verdict : Verdict answer found) : Verdict answer other := by
  rwa [Verdict, ← same]

/-- What a walk from a request over the requests of a list has to answer and to leave. -/
def Resolves (dependencies : Table NameSet) (fresh : List String)
    (statuses : Table RequestStatus) (id : String) : Prop :=
  Settles statuses (resolve dependencies fresh statuses id).2 ∧
    Verdict (resolve dependencies fresh statuses id).1 (Finds dependencies fresh statuses id)

theorem resolveThrough_resolves (dependencies : Table NameSet) (fresh : List String)
    (resolves : ∀ statuses id, Tracked dependencies statuses → statuses.contains id = true →
      Resolves dependencies fresh statuses id) (id : String) (settled : RequestStatus)
    (ended : settled = .running ∨ settled = .done) (names : List String) :
    ∀ statuses, Tracked dependencies statuses →
      (∀ name ∈ names, statuses.contains name = true) →
      Settles statuses (resolveThrough dependencies fresh statuses id settled names).2 ∧
        Verdict (resolveThrough dependencies fresh statuses id settled names).1
          (settled = .running ∨ ∃ name ∈ names, Finds dependencies fresh statuses name) := by
  induction names with
  | nil =>
    intro statuses _ _
    rw [resolveThrough]
    refine ⟨Settles.refl statuses, ?_⟩
    rcases ended with runs | done
    · exact Or.inl ⟨runs, Or.inl runs⟩
    · exact Or.inr ⟨done, by simp [done]⟩
  | cons name names ih =>
    intro statuses tracked known
    obtain ⟨settles, verdict⟩ := resolves statuses name tracked (known name (by simp))
    rw [resolveThrough]
    cases walked : resolve dependencies fresh statuses name with
    | mk answer after =>
      simp only [walked] at settles verdict
      rcases verdict with ⟨runs, found⟩ | ⟨done, notFound⟩
      · subst runs
        exact ⟨settles, Or.inl ⟨rfl, Or.inr ⟨name, by simp, found⟩⟩⟩
      · subst done
        have stillKnown : ∀ later ∈ names, after.contains later = true := by
          intro later member
          rw [settles.contains_eq]
          exact known later (by simp [member])
        obtain ⟨settlesRest, verdictRest⟩ := ih after (tracked.of_settles settles) stillKnown
        refine ⟨settles.trans settlesRest, verdictRest.congr ?_⟩
        simp only [settles.finds_iff, List.mem_cons, exists_eq_or_imp, notFound, false_or]

theorem length_erase_lt {fresh : List String} {id : String} (member : id ∈ fresh) :
    (fresh.erase id).length < fresh.length := by
  rw [List.length_erase_of_mem member]
  exact Nat.sub_one_lt_of_lt (List.length_pos_of_mem member)

/-- A registered request that is not cancelled counts as done if it has no claim of its own, and is
then found through its dependencies unless it is under way. -/
theorem resolve_of_stored (dependencies : Table NameSet) (fresh : List String)
    (statuses : Table RequestStatus) (id : String) {stored : RequestStatus}
    (found : statuses.get? id = some stored) (notUnknown : stored ≠ .unknown)
    (notCancelled : stored ≠ .cancelled) :
    resolve dependencies fresh statuses id =
      let settled : RequestStatus := if stored = .alreadyRunning then .done else stored
      let statuses := if stored = .alreadyRunning then statuses.insert id .done else statuses
      if id ∈ fresh then
        resolveThrough dependencies (fresh.erase id) statuses id settled
          (blockers dependencies id)
      else (settled, statuses) := by
  rw [resolve, found]
  cases stored with
  | unknown => exact absurd rfl notUnknown
  | cancelled => exact absurd rfl notCancelled
  | running => rfl
  | alreadyRunning => rfl
  | done => rfl

theorem resolve_resolves (dependencies : Table NameSet) (size : Nat) :
    ∀ fresh : List String, fresh.length = size → ∀ statuses id,
      Tracked dependencies statuses → statuses.contains id = true →
      Resolves dependencies fresh statuses id := by
  -- On the number of requests that are not under way: a step into a request takes it out.
  induction size using Nat.strongRecOn with
  | _ size ih =>
    intro fresh length statuses id tracked known
    obtain ⟨stored, found⟩ := (Table.contains_iff statuses id).1 known
    have kinds := tracked.stored id stored found
    have equation := resolve_of_stored dependencies fresh statuses id found
      (by rintro rfl; simp at kinds) (by rintro rfl; simp at kinds)
    generalize settledIs :
      (if stored = .alreadyRunning then RequestStatus.done else stored) = settled at equation
    generalize afterIs :
      (if stored = .alreadyRunning then statuses.insert id .done else statuses) = after at equation
    have ended : settled = .running ∨ settled = .done := by
      rcases kinds with rfl | rfl | rfl <;> simp [← settledIs]
    have runs : settled = .running ↔ statuses.get? id = some .running := by
      rcases kinds with rfl | rfl | rfl <;> simp [← settledIs, found]
    have settles : Settles statuses after := by
      intro name
      by_cases waits : stored = .alreadyRunning
      · rw [← afterIs, if_pos waits, Table.get?_insert]
        by_cases same : name = id
        · exact Or.inr ⟨by rw [same, found, waits], if_pos same⟩
        · exact Or.inl (if_neg same)
      · rw [← afterIs, if_neg waits]
        exact Or.inl rfl
    rw [Resolves, equation]
    by_cases member : id ∈ fresh
    · have shorter : (fresh.erase id).length < size := length ▸ length_erase_lt member
      have stillTracked := tracked.of_settles settles
      obtain ⟨settlesRest, verdict⟩ := resolveThrough_resolves dependencies (fresh.erase id)
        (ih _ shorter (fresh.erase id) rfl) id settled ended (blockers dependencies id) after
        stillTracked (fun name edge => stillTracked.known id name edge)
      simp only [if_pos member]
      refine ⟨settles.trans settlesRest, verdict.congr ?_⟩
      simp only [finds_of_mem member, runs, settles.finds_iff]
    · simp only [if_neg member]
      refine ⟨settles, ?_⟩
      rw [finds_of_not_mem member, ← runs]
      rcases ended with running | done
      · exact Or.inl ⟨running, running⟩
      · exact Or.inr ⟨done, by simp [done]⟩

/-! ## The status of a request -/

section Status

variable (table : ClaimTable) (id : String)

theorem status_eq_resolve :
    table.status id =
      ((resolve table.dependencies table.statuses.names table.statuses id).1,
        { table with
          statuses := (resolve table.dependencies table.statuses.names table.statuses id).2 }) := by
  have all : (table.statuses.names.filter fun name => !([] : List String).contains name) =
      table.statuses.names := List.filter_eq_self.2 (by simp)
  simp only [status, statusOnPath, all]

@[simp] theorem status_holder? (group : String) :
    (table.status id).2.holder? group = table.holder? group := rfl

@[simp] theorem status_dependenciesOf (name : String) :
    (table.status id).2.dependenciesOf name = table.dependenciesOf name := rfl

theorem status_of_unregistered (unknown : ¬ table.Registered id) :
    (table.status id).1 = .unknown ∧ (table.status id).2.statuses = table.statuses := by
  have absent : table.statuses.get? id = none := by
    simpa [Registered, Table.contains] using unknown
  rw [status_eq_resolve, resolve, absent]
  exact ⟨rfl, rfl⟩

variable {table id}

theorem walk_iff_reaches (tracked : Tracked table.dependencies table.statuses)
    (known : table.Registered id) (other : String) :
    Walk table.dependencies table.statuses.names id other ↔ table.Reaches id other := by
  constructor
  · intro walk
    induction walk with
    | here id => exact .refl
    | along _ edge _ ih => exact (ih (tracked.known _ _ edge)).head edge
  · intro reaches
    induction reaches using Relation.ReflTransGen.head_induction_on with
    | refl => exact .here other
    | @head id next edge _ ih =>
      exact .along ((Table.mem_names_iff _ _).2 known) edge (ih (tracked.known _ _ edge))

theorem status_resolves (tracked : Tracked table.dependencies table.statuses)
    (known : table.Registered id) :
    Settles table.statuses (table.status id).2.statuses ∧
      Verdict (table.status id).1
        (∃ other, table.Reaches id other ∧ table.statuses.get? other = some .running) := by
  obtain ⟨settles, verdict⟩ := resolve_resolves table.dependencies _ table.statuses.names rfl
    table.statuses id tracked known
  rw [status_eq_resolve]
  refine ⟨settles, verdict.congr ?_⟩
  simp only [Finds, walk_iff_reaches tracked known]

end Status

end CloudAudit.ClaimTable
