import CloudAudit.Proofs.Runs.Engagement
/-!
# Where no run is under way

Whatever failed on the way, a run that is over has given back its claims. So when no run is under
way, no group is held, and every accepted run reads done, unless it could not get the group records:
then it reads unknown, and has changed nothing at all.
-/
set_option autoImplicit false

namespace CloudAudit

namespace Requests

variable {requests : Requests} {kind : OperationKind} {id : String}

theorem status_unregistered (unknown : ¬ requests.Registered kind id) :
    requests.status kind id = (.unknown, requests) := by
  obtain ⟨answer, same⟩ := ClaimTable.status_of_unregistered _ id unknown
  have table : ((requests.table kind).status id).2 = requests.table kind := by
    rw [ClaimTable.status_eq_resolve] at same ⊢
    simp only at same ⊢
    rw [same]
  have unchanged : requests.setTable kind (requests.table kind) = requests := by
    cases kind <;> rfl
  simp only [status, answer, table, unchanged]

theorem finish_unregistered (unknown : ¬ requests.Registered kind id) (groups : List String) :
    requests.finish kind id groups = requests := by
  rw [finish, ClaimTable.finish_unregistered _ id groups unknown]
  cases kind <;> rfl

theorem not_registered_start (kind : OperationKind) (id : String) :
    ¬ ({} : Requests).Registered kind id := by
  cases kind <;> simp [Registered, ClaimTable.Registered, table, Table.contains]

end Requests

namespace Pipeline

theorem status_run (collectId scanId : String) (books : Books) :
    ((status collectId scanId).run books).1 =
      ⟨(books.requests.status .collect collectId).1, (books.requests.status .scan scanId).1⟩ :=
  rfl

theorem preCollect_unreachable {deployment : Deployment}
    (unreachable : deployment.collector = .unreachable) (collectId : String) (books : Books) :
    (preCollect deployment collectId).run.run books = (.error Collector.unreachable, books) := by
  have records : (Collector.groupRecords deployment none).run.run books =
      (.error Collector.unreachable, books) := by
    rw [Collector.groupRecords, unreachable]
    rfl
  rw [preCollect, ExceptT.run_bind, StateT.run_bind, records]
  rfl

theorem step_unreachable {deployment : Deployment}
    (unreachable : deployment.collector = .unreachable) {run : Run} {books : Books}
    (starting : run.phase = .starting)
    (unknown : ∀ kind id, ¬ books.requests.Registered kind id) :
    (step deployment run).run books = ({ run with phase := .finished }, books) := by
  have known := preCollect_unreachable unreachable run.collectId books
  have abandoned : (abandon run).run books = ((), books) := by
    have same := Requests.finish_unregistered (unknown .collect run.collectId) run.groups
    have again := Requests.finish_unregistered (unknown .scan run.scanId) run.groups
    change ((), { books with requests := _ }) = ((), books)
    rw [same, again]
  simp only [step, starting, StateT.run_bind, known]
  change ((do abandon run; return { run with phase := .finished } : Work Run).run books) = _
  rw [StateT.run_bind, abandoned]
  rfl

end Pipeline

/-- Where the cloud cannot be reached, no run asks for anything or changes anything. -/
structure Stranded (deployment : Deployment) (past : List Moment) (runs : List Run)
    (requests : Requests) (_supply : Supply) : Prop where
  nothing : requests = {}
  idle : ∀ run ∈ runs, run.phase = .starting ∨ run.phase = .finished
  unchanged : ∀ moment ∈ past, moment.left deployment = moment.books

namespace Stranded

variable {deployment : Deployment}

theorem unknown {past : List Moment} {runs : List Run} {requests : Requests} {supply : Supply}
    (stranded : Stranded deployment past runs requests supply) (kind : OperationKind)
    (id : String) : ¬ requests.Registered kind id := by
  rw [stranded.nothing]
  exact Requests.not_registered_start kind id

theorem start (supply : Supply) : Stranded deployment [] [] {} supply :=
  ⟨rfl, by simp, by simp⟩

theorem step {past : List Moment} {run : Run} {others : List Run} {books : Books}
    (unreachable : deployment.collector = .unreachable)
    (stranded : Stranded deployment past (run :: others) books.requests books.supply) :
    Stranded deployment (past ++ [⟨run, books⟩])
      (((Pipeline.step deployment run).run books).1 :: others)
      ((Pipeline.step deployment run).run books).2.requests
      ((Pipeline.step deployment run).run books).2.supply := by
  obtain ⟨first, rest⟩ := List.forall_mem_cons.1 stranded.idle
  have ran : (Pipeline.step deployment run).run books =
      ({ run with phase := .finished }, books) := by
    rcases first with starting | finished
    · exact Pipeline.step_unreachable unreachable starting stranded.unknown
    · obtain ⟨collectId, scanId, groups, phase⟩ := run
      obtain rfl : phase = .finished := finished
      rfl
  constructor
  case nothing =>
    rw [ran]
    exact stranded.nothing
  case idle =>
    rw [ran]
    exact List.forall_mem_cons.2 ⟨.inr rfl, rest⟩
  case unchanged =>
    intro moment member
    rcases List.mem_append.1 member with isPast | now
    · exact stranded.unchanged moment isPast
    · rw [List.mem_singleton] at now
      subst now
      rw [Moment.left, ran]

theorem carried (unreachable : deployment.collector = .unreachable) :
    Carried deployment (Stranded deployment) where
  perm stranded same :=
    { stranded with idle := fun run member => stranded.idle run (same.mem_iff.2 member) }
  step := step unreachable
  leave stranded _ :=
    { stranded with idle := fun run member => stranded.idle run (List.mem_cons_of_mem _ member) }
  status stranded kind id := by
    rw [Requests.status_unregistered (stranded.unknown kind id)]
    exact stranded
  minted stranded _ := { stranded with }
  starts stranded _ groups :=
    { stranded with idle := List.forall_mem_cons.2 ⟨.inl rfl, stranded.idle⟩ }

end Stranded

namespace Engaged

variable {past : List Moment} {requests : Requests} {supply : Supply}

theorem free (engaged : Engaged past [] requests supply) (kind : OperationKind)
    (group : String) : (requests.table kind).holder? group = none := by
  rw [Option.eq_none_iff_forall_ne_some]
  intro id held
  obtain ⟨claim, live, -⟩ := (engaged.accounts.holders kind group id).1 held
  simp [Live] at live

theorem status_done (engaged : Engaged past [] requests supply) {run : Run}
    (known : run ∈ met past []) (kind : OperationKind) :
    (requests.status kind (run.id kind)).1 = .done := by
  refine (ClaimTable.status_eq_done_iff (engaged.sound kind) (run.id kind)).2 ⟨?_, ?_⟩
  · rcases engaged.followed run known with ⟨other, isRun, -⟩ | registered
    · cases isRun
    · exact registered kind
  · intro other _ runs
    obtain ⟨claim, live, -⟩ := engaged.running kind other runs
    simp [Live] at live

end Engaged

section

variable {deployment : Deployment} {supply : Supply} {events : List Event}
  (nobody : ((Books.fresh supply).after deployment events).underWay = [])
include nobody

/-- Where no run is under way, every accepted run went through its first phase. -/
theorem Books.accepted_began {run : Run}
    (accepted : run ∈ (Books.fresh supply).accepted deployment events) :
    run.phase = .starting ∧
      ∃ moment ∈ (Books.fresh supply).moments deployment events, moment.run = run := by
  obtain ⟨starting, begun⟩ := Books.accepted_begun deployment events _ run accepted
  refine ⟨starting, begun.resolve_left ?_⟩
  simp [nobody]

theorem Books.accepted_done (reachable : deployment.collector ≠ .unreachable)
    (lasting : ((Books.fresh supply).after deployment events).supply.minted ≤ 2 ^ 128) {run : Run}
    (accepted : run ∈ (Books.fresh supply).accepted deployment events) :
    ((Pipeline.status run.collectId run.scanId).run
      ((Books.fresh supply).after deployment events)).1 = ⟨.done, .done⟩ := by
  have engaged := (Engaged.carried reachable).after (Engaged.start supply) lasting
  rw [nobody] at engaged
  obtain ⟨-, moment, isMoment, rfl⟩ := accepted_began nobody accepted
  have done := engaged.status_done (met_of_moment isMoment)
  rw [Pipeline.status_run]
  exact congrArg₂ RunStatus.mk (done .collect) (done .scan)

end

/-- Where no run is under way, no group is held. Every accepted run then reads done if it got the
group records; if it did not, it reads unknown, and none of its phases changed anything. -/
theorem nothing_left_behind (deployment : Deployment) (supply : Supply) (events : List Event)
    (lasting : ((Books.fresh supply).after deployment events).supply.minted ≤ 2 ^ 128)
    (nobody : ((Books.fresh supply).after deployment events).underWay = []) :
    (∀ kind group,
      (((Books.fresh supply).after deployment events).requests.table kind).holder? group = none) ∧
    ∀ run ∈ (Books.fresh supply).accepted deployment events, run.phase = .starting ∧
      ∃ moment ∈ (Books.fresh supply).moments deployment events, moment.run = run ∧
        match ((Pipeline.preCollect deployment run.collectId).run.run moment.books).1 with
        | .ok _ =>
          ((Pipeline.status run.collectId run.scanId).run
            ((Books.fresh supply).after deployment events)).1 = ⟨.done, .done⟩
        | .error _ =>
          ((Pipeline.status run.collectId run.scanId).run
            ((Books.fresh supply).after deployment events)).1 = ⟨.unknown, .unknown⟩ ∧
          ∀ other ∈ (Books.fresh supply).moments deployment events,
            other.run.collectId = run.collectId → other.left deployment = other.books := by
  by_cases unreachable : deployment.collector = .unreachable
  · have stranded := (Stranded.carried unreachable).after (Stranded.start supply) lasting
    refine ⟨?_, ?_⟩
    · intro kind group
      rw [stranded.nothing]
      cases kind <;> rfl
    · intro run accepted
      obtain ⟨starting, moment, isMoment, same⟩ := Books.accepted_began nobody accepted
      refine ⟨starting, moment, isMoment, same, ?_⟩
      rw [Pipeline.preCollect_unreachable unreachable, Pipeline.status_run,
        Requests.status_unregistered (stranded.unknown .collect run.collectId),
        Requests.status_unregistered (stranded.unknown .scan run.scanId)]
      exact ⟨rfl, fun other isOther _ => stranded.unchanged other isOther⟩
  · refine ⟨?_, ?_⟩
    · have engaged := (Engaged.carried unreachable).after (Engaged.start supply) lasting
      rw [nobody] at engaged
      exact engaged.free
    · intro run accepted
      obtain ⟨starting, moment, isMoment, same⟩ := Books.accepted_began nobody accepted
      refine ⟨starting, moment, isMoment, same, ?_⟩
      rw [Collector.preCollect_reachable unreachable]
      exact Books.accepted_done nobody unreachable lasting accepted

/-! ## Overlapping runs that fail -/

namespace Overlap

def deployment : Deployment where
  inventory := ⟨[Resource.group "g1", Resource.group "g2"]⟩
  collector := .gated
  contacts := default
  notificationInterval := .zero
  sourceSystem := "CloudAudit"

def supply : Supply := { now := ⟨0, 0⟩ }

/-- The second run finds a group of the first one held, and its own resources are not stored. -/
def events : List Event :=
  [.call none (.collectAndScan ["g1"]), .turn 0, .turn 0,
    .call none (.collectAndScan ["g2", "g1"]), .turn 1, .turn 1,
    .disturb (fun _ call => call == .batchCreateResources) false, .permit 2, .settle]

theorem nothing_left :
    ((Books.fresh supply).accepted deployment events).length = 2 ∧
      ((Books.fresh supply).after deployment events).underWay = [] ∧
      ∀ run ∈ (Books.fresh supply).accepted deployment events, run.phase = .starting ∧
        ∃ moment ∈ (Books.fresh supply).moments deployment events, moment.run = run ∧
          match ((Pipeline.preCollect deployment run.collectId).run.run moment.books).1 with
          | .ok _ =>
            ((Pipeline.status run.collectId run.scanId).run
              ((Books.fresh supply).after deployment events)).1 = ⟨.done, .done⟩
          | .error _ =>
            ((Pipeline.status run.collectId run.scanId).run
              ((Books.fresh supply).after deployment events)).1 = ⟨.unknown, .unknown⟩ ∧
            ∀ other ∈ (Books.fresh supply).moments deployment events,
              other.run.collectId = run.collectId → other.left deployment = other.books := by
  have nobody : ((Books.fresh supply).after deployment events).underWay = [] := by
    decide +kernel
  refine ⟨by decide +kernel, nobody, ?_⟩
  exact (nothing_left_behind deployment supply events (by decide +kernel) nobody).2

end Overlap

end CloudAudit
