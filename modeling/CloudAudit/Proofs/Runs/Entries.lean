import CloudAudit.Proofs.Runs.Logging
/-!
# Started and completed

As long as the store takes every entry, the operation log says of the work of a run on a group
nothing, that it started, or that it started and then that it is complete. A collection that is
complete has stored its snapshot, and a scan that is over is complete.
-/
set_option autoImplicit false

namespace CloudAudit

/-! ## What the log says of a group -/

/-- The statuses that entries give for the work under an identifier on a group, in their order. -/
def statusesOf (entries : List Operation) (id group : String) (kind : OperationKind) :
    List OperationStatus :=
  (entries.filter fun entry =>
    entry.id == id && entry.resourceGroup == group && entry.kind == kind).map Operation.status

section

variable {entries others : List Operation} {id group : String} {kind : OperationKind}

theorem statusesOf_append :
    statusesOf (entries ++ others) id group kind =
      statusesOf entries id group kind ++ statusesOf others id group kind := by
  rw [statusesOf, List.filter_append, List.map_append]
  rfl

theorem statusesOf_eq_nil
    (foreign : ∀ entry ∈ entries,
      ¬ (entry.id = id ∧ entry.resourceGroup = group ∧ entry.kind = kind)) :
    statusesOf entries id group kind = [] := by
  rw [statusesOf, List.map_eq_nil_iff, List.filter_eq_nil_iff]
  intro entry member
  simpa [and_assoc] using foreign entry member

theorem statusesOf_stamped (status : OperationStatus) {groups : List String}
    (distinct : groups.Nodup) (clock : Clock) :
    statusesOf (Books.stamped id kind status clock groups) id group kind =
      if group ∈ groups then [status] else [] := by
  induction groups generalizing clock with
  | nil => rfl
  | cons first more ih =>
    obtain ⟨notAgain, distinct⟩ := List.nodup_cons.1 distinct
    have rest := ih distinct clock.turned
    rw [Books.stamped, ← List.singleton_append, statusesOf_append, rest]
    by_cases same : first = group
    · subst same
      rw [if_neg notAgain, if_pos List.mem_cons_self]
      simp [statusesOf]
    · have elsewhere :
          statusesOf [⟨id, first, kind, clock.reading, status⟩] id group kind = [] := by
        simp [statusesOf, same]
      rw [elsewhere, List.nil_append]
      simp [Ne.symm same]

end

theorem Books.statusesOf_added (books : Books) {id : String} {groups : List String}
    {kind : OperationKind} {status : OperationStatus}
    (taken : (books.logWrite id groups kind status).failed = false) (distinct : groups.Nodup)
    (group : String) :
    statusesOf (books.logWrite id groups kind status).added id group kind =
      if group ∈ groups then [status] else [] := by
  rw [LogWrite.added, taken, if_neg Bool.false_ne_true]
  exact statusesOf_stamped status distinct _

/-! ## What work asks the store to log -/

/-- Whether the store was asked to log nothing of work on groups, that it started, or that it
started and that it is complete. -/
inductive Reporting (id : String) (groups : List String) (kind : OperationKind) :
    List LogWrite → Prop
  | nothing : Reporting id groups kind []
  | start (first : Books) : Reporting id groups kind [first.logWrite id groups kind .started]
  | whole (first last : Books) :
    Reporting id groups kind
      [first.logWrite id groups kind .started, last.logWrite id groups kind .completed]

namespace Reporting

variable {id : String} {groups : List String} {kind : OperationKind} {writes : List LogWrite}
  (reporting : Reporting id groups kind writes)
include reporting

theorem own {entry : Operation} (added : entry ∈ writes.flatMap LogWrite.added) :
    entry.id = id ∧ entry.kind = kind ∧ entry.resourceGroup ∈ groups := by
  obtain ⟨write, isWrite, member⟩ := List.mem_flatMap.1 added
  have ofWrite : ∃ (books : Books) (status : OperationStatus),
      write = books.logWrite id groups kind status := by
    cases reporting with
    | nothing => cases isWrite
    | start first => exact ⟨first, .started, List.mem_singleton.1 isWrite⟩
    | whole first last =>
      rcases List.mem_pair.1 isWrite with same | same
      · exact ⟨first, .started, same⟩
      · exact ⟨last, .completed, same⟩
  obtain ⟨books, status, rfl⟩ := ofWrite
  obtain ⟨sameId, sameKind, -, covered⟩ := books.mem_added id groups kind status member
  exact ⟨sameId, sameKind, covered⟩

theorem statuses (taken : ∀ write ∈ writes, write.failed = false) (distinct : groups.Nodup)
    (group : String) :
    statusesOf (writes.flatMap LogWrite.added) id group kind ∈
      [[], [.started], [.started, .completed]] := by
  cases reporting with
  | nothing => exact List.mem_cons_self
  | start first =>
    rw [List.flatMap_singleton, first.statusesOf_added (taken _ List.mem_cons_self) distinct]
    split <;> simp
  | whole first last =>
    rw [List.flatMap_cons, List.flatMap_singleton, statusesOf_append,
      first.statusesOf_added (taken _ List.mem_cons_self) distinct,
      last.statusesOf_added (taken _ (List.mem_cons_of_mem _ List.mem_cons_self)) distinct]
    split <;> simp

end Reporting

theorem Collector.logWrites_reporting (deployment : Deployment) (collectId : String)
    (groups : List String) (skeletons : List Resource) (books : Books) :
    Reporting collectId groups .collect
      (logWrites deployment collectId groups skeletons books) := by
  rw [logWrites]
  split
  · rename_i start begins
    rw [snapshotWrites]
    split
    · exact .whole start _
    · exact .start start
  · exact .nothing

namespace Moment

variable (deployment : Deployment) {moment : Moment}

theorem logWrites_of_idle (idle : ∀ kind, moment.run.phase.due? kind = none) :
    moment.logWrites deployment = [] := by
  unfold logWrites
  split
  · rename_i snapshots
    have due := idle .collect
    rw [snapshots] at due
    cases due
  · rename_i checks
    have due := idle .scan
    rw [checks] at due
    cases due
  · rfl

theorem logWrites_reporting {kind : OperationKind} {claim : Claim}
    (due : moment.run.phase.due? kind = some claim) :
    Reporting (moment.run.id kind) claim.granted kind (moment.logWrites deployment) := by
  cases kind with
  | collect =>
    obtain ⟨skeletons, snapshots⟩ := Phase.eq_snapshotting due
    rw [logWrites, snapshots]
    simp only
    split
    · exact .nothing
    · exact Collector.logWrites_reporting deployment _ _ _ _
  | scan =>
    obtain ⟨skeletons, collected, checks⟩ := Phase.eq_checking due
    rw [logWrites, checks]
    simp only
    split
    · exact .nothing
    · exact .whole _ _

theorem own_of_logged {entry : Operation} (added : entry ∈ moment.logged deployment) :
    ∃ claim, moment.run.phase.due? entry.kind = some claim ∧
      entry.id = moment.run.id entry.kind ∧ entry.resourceGroup ∈ claim.granted := by
  by_cases idle : ∀ kind, moment.run.phase.due? kind = none
  · rw [logged, logWrites_of_idle deployment idle] at added
    cases added
  · obtain ⟨kind, works⟩ := not_forall.1 idle
    obtain ⟨claim, due⟩ := Option.ne_none_iff_exists'.1 works
    obtain ⟨sameId, rfl, granted⟩ := (logWrites_reporting deployment due).own added
    exact ⟨claim, due, sameId, granted⟩

end Moment

/-! ## Once -/

section

variable {deployment : Deployment} {past : List Moment} {id group : String} {kind : OperationKind}

theorem statusesOf_logged_eq_nil
    (foreign : ∀ moment ∈ past, moment.run.phase.due? kind ≠ none → moment.run.id kind ≠ id) :
    statusesOf (past.flatMap (Moment.logged deployment)) id group kind = [] := by
  refine statusesOf_eq_nil ?_
  rintro entry member ⟨rfl, -, rfl⟩
  obtain ⟨moment, isMoment, added⟩ := List.mem_flatMap.1 member
  obtain ⟨claim, due, sameId, -⟩ := Moment.own_of_logged deployment added
  exact foreign moment isMoment (by simp [due]) sameId.symm

/-- Where no kind of work is done twice for a run, the log says of it what the phase adds that does
it. -/
theorem statusesOf_logged (once : past.Pairwise fun one other => ¬ one.WorksLike other)
    {work : Moment} (isWork : work ∈ past) (works : work.run.phase.due? kind ≠ none) :
    statusesOf (past.flatMap (Moment.logged deployment)) (work.run.id kind) group kind =
      statusesOf (work.logged deployment) (work.run.id kind) group kind := by
  obtain ⟨before, after, rfl⟩ := List.append_of_mem isWork
  obtain ⟨-, fromWork, fromBefore⟩ := List.pairwise_append.1 once
  have earlier : statusesOf (before.flatMap (Moment.logged deployment)) (work.run.id kind) group
      kind = [] := by
    refine statusesOf_logged_eq_nil fun moment isBefore alsoWorks same => ?_
    exact fromBefore moment isBefore work List.mem_cons_self ⟨kind, alsoWorks, works, same⟩
  have later : statusesOf (after.flatMap (Moment.logged deployment)) (work.run.id kind) group
      kind = [] := by
    refine statusesOf_logged_eq_nil fun moment isAfter alsoWorks same => ?_
    exact (List.pairwise_cons.1 fromWork).1 moment isAfter ⟨kind, works, alsoWorks, same.symm⟩
  rw [List.flatMap_append, List.flatMap_cons, statusesOf_append, statusesOf_append, earlier, later,
    List.nil_append, List.append_nil]

/-- Of each piece of work the log says nothing, that it started, or that it started and is
complete. -/
theorem statusesOf_logged_cases (once : past.Pairwise fun one other => ¬ one.WorksLike other)
    (distinct : ∀ moment ∈ past, ∀ kind claim, moment.run.phase.due? kind = some claim →
      claim.granted.Nodup)
    (taken : ∀ moment ∈ past, ∀ write ∈ moment.logWrites deployment, write.failed = false) :
    statusesOf (past.flatMap (Moment.logged deployment)) id group kind ∈
      [[], [.started], [.started, .completed]] := by
  by_cases worked : ∃ work ∈ past, work.run.phase.due? kind ≠ none ∧ work.run.id kind = id
  · obtain ⟨work, isWork, works, rfl⟩ := worked
    obtain ⟨claim, due⟩ := Option.ne_none_iff_exists'.1 works
    rw [statusesOf_logged once isWork works]
    exact (Moment.logWrites_reporting deployment due).statuses (taken work isWork)
      (distinct work isWork kind claim due) group
  · rw [statusesOf_logged_eq_nil]
    · exact List.mem_cons_self
    · intro moment isMoment works same
      exact worked ⟨moment, isMoment, works, same⟩

end

/-! ## Complete collections -/

namespace Collector

variable {deployment : Deployment} {collectId : String} {groups : List String}
  {skeletons : List Resource} {books : Books} {entry : Operation}
  (completed : entry.status = .completed)
include completed

/-- An entry that says that snapshots are complete comes after they were kept. -/
theorem kept_of_completed
    (added : entry ∈
      (snapshotWrites deployment collectId groups skeletons books).flatMap LogWrite.added) :
    ∃ kept, (keepAll deployment collectId groups skeletons).run.run books = (.ok (), kept) := by
  rw [snapshotWrites, List.flatMap_cons] at added
  rcases List.mem_append.1 added with atStart | atEnd
  · obtain ⟨-, -, started, -⟩ := books.mem_added collectId groups .collect .started atStart
    rw [started] at completed
    cases completed
  · cases ran : (keepAll deployment collectId groups skeletons).run.run books with
    | mk answer kept =>
      cases answer with
      | ok _ => exact ⟨kept, rfl⟩
      | error error =>
        rw [ran] at atEnd
        cases atEnd

/-- Where the log says that a collection is complete, all its groups have resources, and the
snapshots of them came to the store. -/
theorem collect_completed
    (added : entry ∈ (logWrites deployment collectId groups
      (knownTo deployment.inventory collectId) books).flatMap LogWrite.added) :
    (∀ group ∈ groups, members deployment.inventory group ≠ []) ∧
    ∃ now, ∀ group,
      ((collect deployment collectId groups
        (knownTo deployment.inventory collectId)).run.run books).2.store.resourcesOf group =
      books.store.resourcesOf group ++
        (snapshots deployment.inventory collectId now groups).filter
          fun snapshot => snapshot.resourceGroupName == group := by
  have collected :=
    collect_begun deployment collectId groups (knownTo deployment.inventory collectId) books
  rw [logWrites] at added
  cases begins : begun deployment books with
  | none =>
    rw [begins] at added
    cases added
  | some start =>
    rw [begins] at added collected
    obtain ⟨kept, ran⟩ := kept_of_completed completed added
    obtain ⟨now, stored, keeps, made, -⟩ := keepAll_store deployment collectId groups
      (knownTo deployment.inventory collectId) start
    rw [ran] at keeps made
    obtain ⟨populated, rfl⟩ := batch_eq_ok_iff.1 made
    obtain ⟨⟨found, reported⟩, -⟩ := collected
    refine ⟨populated, now, fun group => ?_⟩
    calc ((collect deployment collectId groups
            (knownTo deployment.inventory collectId)).run.run books).2.store.resourcesOf group
        = ((keepSnapshots deployment collectId groups
            (knownTo deployment.inventory collectId)).run.run start).2.store.resourcesOf group := by
          rw [reported]
          rfl
      _ = kept.store.resourcesOf group := by rw [(keepSnapshots_ends _ _ _ _ _).1, ran]
      _ = _ := by
          rw [keeps, Store.resourcesOf_addResources, start.logGroups_resourcesOf,
            (begun_same begins).1]
          rfl

end Collector

def Store.HasSnapshot (store : Store) (inventory : Inventory) (collectId group : String) : Prop :=
  ∃ now, ((Collector.members inventory group).map (Collector.retagged collectId now)).Sublist
    (store.taggedIn collectId group)

namespace Moment

variable {deployment : Deployment} {moment : Moment} {entry : Operation}

/-- A phase that logs that a collection is complete leaves the snapshot in the store, as long as no
resource of the group bears the name of another group. -/
theorem left_hasSnapshot (knows : moment.run.Knows deployment.inventory)
    (added : entry ∈ moment.logged deployment) (collects : entry.kind = .collect)
    (completed : entry.status = .completed) :
    Collector.members deployment.inventory entry.resourceGroup ≠ [] ∧
    ((∀ resource ∈ Collector.members deployment.inventory entry.resourceGroup,
        Collector.Unmixed deployment.inventory resource) →
      (moment.left deployment).store.HasSnapshot deployment.inventory entry.id
        entry.resourceGroup) := by
  obtain ⟨claim, due, sameId, granted⟩ := own_of_logged deployment added
  rw [collects] at due sameId
  have snapshots := knows.eq_snapshotting due
  rw [logged, logWrites_snapshotting deployment granted snapshots] at added
  obtain ⟨populated, now, stored⟩ := Collector.collect_completed completed added
  refine ⟨populated entry.resourceGroup granted, fun unmixed => ⟨now, ?_⟩⟩
  rw [left_snapshotting snapshots granted, sameId]
  rw [← Collector.unmixedMembers_eq unmixed]
  exact Collector.sublist_taggedIn (stored entry.resourceGroup) granted

end Moment

/-! ## Scans that are over -/

theorem Delegated.worked_of_gone {past : List Moment} {runs : List Run} {requests : Requests}
    {supply : Supply} (delegated : Delegated past runs requests supply) {ask : Moment}
    (isAsk : ask ∈ past) {kind : OperationKind} (asks : ask.run.phase.asks? = some kind)
    (gone : ∀ run ∈ runs, run.id kind ≠ ask.run.id kind) {group : String}
    (granted : group ∈
      (Claim.acquire ask.books.requests kind (ask.run.id kind) ask.run.groups).1.granted) :
    ∃ work ∈ past, ∃ claim, work.run.phase.due? kind = some claim ∧
      work.run.id kind = ask.run.id kind ∧ group ∈ claim.granted := by
  have engaged := delegated.engaged
  have asked := (Claim.acquire_isOf ask.books.requests kind ask.run).granted group granted
  have found : (Claim.acquire ask.books.requests kind (ask.run.id kind) ask.run.groups).1.granted =
      _ := (ask.books.requests.table kind).add_granted (ask.run.id kind) ask.run.groups
  rw [found, List.mem_eraseDups, List.mem_filter, ClaimTable.isFree_iff] at granted
  have itself : ask.worker kind group = ask.run.id kind := by
    rw [Moment.worker]
    cases held : (ask.books.requests.table kind).holder? group with
    | none => rfl
    | some owner => exact granted.2 owner held
  obtain ⟨claim, rfl, isOwn, covered, live | ⟨work, isWork, due⟩⟩ :=
    delegated.undertaken ask isAsk kind asks group asked
  · -- A claim in force belongs to a run under way.
    obtain ⟨run, isRun, kind, held⟩ := live
    have ofRun := engaged.own run (met_of_run isRun) kind claim held
    obtain rfl := ofRun.sort
    exact absurd (ofRun.owner.symm.trans (isOwn.trans itself)) (gone run isRun)
  · have ofWork := engaged.own work.run (met_of_moment isWork) claim.kind claim
      (Phase.claim?_of_due? due)
    exact ⟨work, isWork, claim, due, ofWork.owner.symm.trans (isOwn.trans itself), covered⟩

theorem Moment.statuses_of_scan {deployment : Deployment} {work : Moment} {claim : Claim}
    (due : work.run.phase.due? .scan = some claim) (distinct : claim.granted.Nodup)
    (taken : ∀ write ∈ work.logWrites deployment, write.failed = false) {group : String}
    (granted : group ∈ claim.granted) :
    statusesOf (work.logged deployment) (work.run.id .scan) group .scan =
      [.started, .completed] := by
  obtain ⟨skeletons, collected, checks⟩ := Phase.eq_checking due
  have writes := logWrites_checking deployment granted checks
  rw [logged, writes]
  rw [writes] at taken
  obtain ⟨first, rest⟩ := List.forall_mem_cons.1 taken
  have last := rest _ List.mem_cons_self
  rw [Scan.logWrites, List.flatMap_cons, List.flatMap_singleton, statusesOf_append]
  change statusesOf _ work.run.scanId group .scan ++ statusesOf _ work.run.scanId group .scan = _
  rw [Books.statusesOf_added _ first distinct, Books.statusesOf_added _ last distinct,
    if_pos granted, if_pos granted]
  rfl

/-! ## In every history -/

section

variable {deployment : Deployment} {supply : Supply} {events : List Event}
  (lasting : ((Books.fresh supply).after deployment events).supply.minted ≤ 2 ^ 128)
include lasting

theorem Moment.phase_of_unreachable (unreachable : deployment.collector = .unreachable) :
    ∀ moment ∈ (Books.fresh supply).moments deployment events,
      moment.run.phase = .starting ∨ moment.run.phase = .finished := by
  intro moment isMoment
  obtain ⟨-, each⟩ := ((Stranded.carried unreachable).throughout []).after
    ⟨Stranded.start supply, fun _ _ _ split => by simp at split⟩ lasting
  obtain ⟨before, later, split⟩ := List.append_of_mem isMoment
  obtain ⟨others, stranded⟩ := each before moment later split
  exact stranded.idle moment.run List.mem_cons_self

theorem Moment.logged_of_unreachable (unreachable : deployment.collector = .unreachable) :
    ((Books.fresh supply).moments deployment events).flatMap (Moment.logged deployment) = [] := by
  rw [List.flatMap_eq_nil_iff]
  intro moment isMoment
  rw [logged, logWrites_of_idle deployment, List.flatMap_nil]
  intro kind
  rcases phase_of_unreachable lasting unreachable moment isMoment with phase | phase <;>
    rw [phase] <;> cases kind <;> rfl

theorem Moment.hasSnapshot_after (reachable : deployment.collector ≠ .unreachable)
    {moment : Moment} (isPast : moment ∈ (Books.fresh supply).moments deployment events)
    {entry : Operation} (added : entry ∈ moment.logged deployment)
    (collects : entry.kind = .collect) (completed : entry.status = .completed) :
    Collector.members deployment.inventory entry.resourceGroup ≠ [] ∧
    ((∀ resource ∈ Collector.members deployment.inventory entry.resourceGroup,
        Collector.Unmixed deployment.inventory resource) →
      ((Books.fresh supply).after deployment events).store.HasSnapshot deployment.inventory entry.id
        entry.resourceGroup) := by
  have knows := knows_met reachable lasting moment.run (met_of_moment isPast)
  obtain ⟨populated, stored⟩ := left_hasSnapshot knows added collects completed
  refine ⟨populated, fun unmixed => ?_⟩
  obtain ⟨now, found⟩ := stored unmixed
  exact ⟨now, found.trans (taggedIn_kept isPast _ _)⟩

end

/-- The operation log, flushed or not, is what the phases of all runs added to it, in their order.
Where it says that a collection of a group is complete, the store has the snapshot, unless some
resource there bears the name of another group. As long as the store takes every entry, the log says
of each piece of work nothing, that it started, or that it started and then that it is complete; and
it says that a scan is complete of each group that was granted to it, once the run is gone. -/
theorem operation_log_accounts (deployment : Deployment) (supply : Supply) (events : List Event) :
    let past := (Books.fresh supply).moments deployment events
    let books := (Books.fresh supply).after deployment events
    let log := books.store.operations ++ books.store.pending
    log = past.flatMap (Moment.logged deployment) ∧
    (books.supply.minted ≤ 2 ^ 128 →
      (∀ entry ∈ log, entry.kind = .collect → entry.status = .completed →
        Collector.members deployment.inventory entry.resourceGroup ≠ [] ∧
        ((∀ resource ∈ Collector.members deployment.inventory entry.resourceGroup,
            Collector.Unmixed deployment.inventory resource) →
          books.store.HasSnapshot deployment.inventory entry.id entry.resourceGroup)) ∧
      ((∀ moment ∈ past, ∀ write ∈ moment.logWrites deployment, write.failed = false) →
        (∀ id group kind,
          statusesOf log id group kind ∈ [[], [.started], [.started, .completed]]) ∧
        ∀ ask ∈ past, ask.run.phase.asks? = some .scan →
          (∀ run ∈ books.underWay, run.scanId ≠ ask.run.scanId) →
          ∀ group ∈
              (Claim.acquire ask.books.requests .scan ask.run.scanId ask.run.groups).1.granted,
            statusesOf log ask.run.scanId group .scan = [.started, .completed])) := by
  intro past books log
  have added : log = past.flatMap (Moment.logged deployment) :=
    Books.journal_after deployment supply events
  refine ⟨added, fun lasting => ?_⟩
  rw [added]
  by_cases unreachable : deployment.collector = .unreachable
  · rw [Moment.logged_of_unreachable lasting unreachable]
    refine ⟨by simp, fun _ => ⟨fun _ _ _ => List.mem_cons_self, ?_⟩⟩
    intro ask isAsk asks
    rcases Moment.phase_of_unreachable lasting unreachable ask isAsk with phase | phase <;>
      rw [phase] at asks <;> cases asks
  · have delegated := (Delegated.carried unreachable).after (Delegated.start supply) lasting
    have once := ((WorksOnce.carried deployment).after (WorksOnce.start supply) lasting).once
    have distinct : ∀ moment ∈ past, ∀ kind claim, moment.run.phase.due? kind = some claim →
        claim.granted.Nodup := by
      intro moment isPast kind claim due
      exact (delegated.engaged.own moment.run (met_of_moment isPast) kind claim
        (Phase.claim?_of_due? due)).distinct
    refine ⟨?_, fun taken => ⟨fun id group kind => ?_, ?_⟩⟩
    · intro entry isEntry collects completed
      obtain ⟨moment, isPast, isAdded⟩ := List.mem_flatMap.1 isEntry
      exact Moment.hasSnapshot_after lasting unreachable isPast isAdded collects completed
    · exact statusesOf_logged_cases once distinct taken
    · intro ask isAsk asks gone group granted
      obtain ⟨work, isWork, claim, due, sameId, covered⟩ :=
        delegated.worked_of_gone isAsk asks gone granted
      have works : work.run.phase.due? .scan ≠ none := by simp [due]
      have same : work.run.id .scan = ask.run.scanId := sameId
      rw [← same, statusesOf_logged once isWork works]
      exact Moment.statuses_of_scan due (distinct work isWork .scan claim due)
        (taken work isWork) covered

namespace Overlap

def unflushed : List Event :=
  [.call none (.collectAndScan ["g1"]), .turn 0, .turn 0,
    .call none (.collectAndScan ["g2", "g1"]), .turn 1, .turn 1,
    .disturb (fun _ call => call == .flushOpsLog) false, .permit 2, .settle]

theorem unflushed_played :
    ((Books.fresh supply).after deployment unflushed).supply.minted ≤ 2 ^ 128 ∧
    ((Books.fresh supply).after deployment unflushed).underWay = [] ∧
    ((Books.fresh supply).after deployment unflushed).store.operations = [] ∧
    (∀ moment ∈ (Books.fresh supply).moments deployment unflushed,
      ∀ write ∈ moment.logWrites deployment, write.failed = false) ∧
    (∃ entry ∈ ((Books.fresh supply).after deployment unflushed).store.pending,
      entry.kind = .collect ∧ entry.status = .completed ∧ entry.id = second.collectId ∧
        entry.resourceGroup = "g2") ∧
    (∀ resource ∈ Collector.members deployment.inventory "g2",
      Collector.Unmixed deployment.inventory resource) ∧
    ∃ ask ∈ (Books.fresh supply).moments deployment unflushed,
      ask.run.phase.asks? = some .scan ∧ ask.run.scanId = second.scanId ∧
        "g2" ∈ (Claim.acquire ask.books.requests .scan ask.run.scanId
          ask.run.groups).1.granted := by
  decide +kernel

theorem second_run_logged :
    ((Books.fresh supply).after deployment unflushed).store.pending =
      ((Books.fresh supply).moments deployment unflushed).flatMap (Moment.logged deployment) ∧
    ((Books.fresh supply).after deployment unflushed).store.HasSnapshot deployment.inventory
      second.collectId "g2" ∧
    statusesOf ((Books.fresh supply).after deployment unflushed).store.pending second.scanId "g2"
      .scan = [.started, .completed] := by
  obtain ⟨lasting, nobody, flushed, taken, ⟨entry, isEntry, collects, completed, isSecond, onGroup⟩,
    unmixed, ask, isAsk, asks, sameId, granted⟩ := unflushed_played
  obtain ⟨added, accounts⟩ := operation_log_accounts deployment supply unflushed
  obtain ⟨complete, reported⟩ := accounts lasting
  have stored := complete entry (List.mem_append_right _ isEntry) collects completed
  have statuses := (reported taken).2 ask isAsk asks (by simp [nobody]) "g2" granted
  rw [flushed, List.nil_append] at added statuses
  rw [isSecond, onGroup] at stored
  rw [sameId] at statuses
  exact ⟨added, stored.2 unmixed, statuses⟩

end Overlap

namespace Collector.Namesake

def events : List Event := [.call none (.collectAndScan ["g1"]), .settle]

theorem played :
    ((Books.fresh Overlap.supply).after deployment events).supply.minted ≤ 2 ^ 128 ∧
    (∀ moment ∈ (Books.fresh Overlap.supply).moments deployment events,
      ∀ write ∈ moment.logWrites deployment, write.failed = false) ∧
    ∃ entry ∈ ((Books.fresh Overlap.supply).after deployment events).store.journal,
      entry.kind = .collect ∧ entry.status = .completed ∧
        (((Books.fresh Overlap.supply).after deployment events).store.taggedIn entry.id
          entry.resourceGroup).length <
            (members deployment.inventory entry.resourceGroup).length := by
  decide +kernel

end Collector.Namesake

/-- The log says that the collection of the first group is complete, and the bucket there that bears
the name of the second group is not in the store. -/
theorem complete_collection_lacks_bucket :
    ¬ ∀ (deployment : Deployment) (supply : Supply) (events : List Event) (entry : Operation),
      ((Books.fresh supply).after deployment events).supply.minted ≤ 2 ^ 128 →
      (∀ moment ∈ (Books.fresh supply).moments deployment events,
        ∀ write ∈ moment.logWrites deployment, write.failed = false) →
      entry ∈ ((Books.fresh supply).after deployment events).store.journal →
      entry.kind = .collect → entry.status = .completed →
      ((Books.fresh supply).after deployment events).store.HasSnapshot deployment.inventory entry.id
        entry.resourceGroup := by
  intro complete
  obtain ⟨lasting, taken, entry, isEntry, collects, completed, lacks⟩ := Collector.Namesake.played
  obtain ⟨now, found⟩ := complete Collector.Namesake.deployment Overlap.supply
    Collector.Namesake.events entry lasting taken isEntry collects completed
  have length := found.length_le
  rw [List.length_map] at length
  exact absurd lacks (Nat.not_lt_of_le length)

end CloudAudit
