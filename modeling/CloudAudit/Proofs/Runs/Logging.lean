import CloudAudit.Proofs.Listing.Reports
import CloudAudit.Proofs.World.Refusals
import CloudAudit.Proofs.Runs.Delegation
import CloudAudit.Proofs.Runs.Phases
/-!
# What the operation log says

The operation log is what the phases of all runs added to it, in their order, and flushes lose none
of it. As long as the store takes all that is to be added, each run says of each group that was
granted to it that its work started and, if it got that far, that it is complete.
-/
set_option autoImplicit false

namespace CloudAudit

/-- Entries that the store is asked to add to the operation log, and whether it fails to. -/
structure LogWrite where
  entries : List Operation
  failed : Bool

def LogWrite.added (write : LogWrite) : List Operation :=
  if write.failed then [] else write.entries

namespace Books

def logWrite (books : Books) (id : String) (groups : List String) (kind : OperationKind)
    (status : OperationStatus) : LogWrite where
  entries := stamped id kind status books.supply.toClock groups
  failed := (books.ticked groups.length).failsAt .addOperationLog

section

variable (books : Books) (id : String) (groups : List String) (kind : OperationKind)
  (status : OperationStatus)

theorem logGroups_journal :
    ((logGroups id groups kind status).run.run books).2.store.journal =
      books.store.journal ++ (books.logWrite id groups kind status).added := by
  rw [logGroups_run, log_run, LogWrite.added, logWrite]
  split
  · exact (List.append_nil _).symm
  · exact (List.append_assoc _ _ _).symm

theorem logGroups_resourcesOf (group : String) :
    ((logGroups id groups kind status).run.run books).2.store.resourcesOf group =
      books.store.resourcesOf group := by
  rw [logGroups_run, log_run]
  split <;> rfl

theorem mem_added {entry : Operation}
    (member : entry ∈ (books.logWrite id groups kind status).added) :
    entry.id = id ∧ entry.kind = kind ∧ entry.status = status ∧ entry.resourceGroup ∈ groups := by
  rw [LogWrite.added] at member
  split at member
  · cases member
  · obtain ⟨same, covered⟩ := eq_of_mem_stamped member
    exact ⟨congrArg Operation.id same, congrArg Operation.kind same,
      congrArg Operation.status same, covered⟩

end

end Books

/-! ## What a phase adds -/

namespace Collector

variable (deployment : Deployment) (collectId : String) (groups : List String)
  (skeletons : List Resource) (books : Books)

/-- Collect groups and keep their snapshots, all but the last entries in the operation log. -/
def keepAll : Act Unit := do
  Books.logGroups collectId groups .collect .started
  let now ← Books.readClock
  let snapshots ←
    Books.settled (batch deployment.inventory (byName skeletons) collectId now groups)
  let _ ← Books.addResources snapshots
  return ()

theorem keepSnapshots_eq :
    keepSnapshots deployment collectId groups skeletons =
      (keepAll deployment collectId groups skeletons >>= fun _ =>
        Books.logGroups collectId groups .collect .completed) := by
  simp only [keepSnapshots, keepAll, bind_assoc, pure_bind]

theorem keepSnapshots_ends :
    (∀ group,
      ((keepSnapshots deployment collectId groups skeletons).run.run books).2.store.resourcesOf
          group =
        ((keepAll deployment collectId groups skeletons).run.run books).2.store.resourcesOf
          group) ∧
    ((keepSnapshots deployment collectId groups skeletons).run.run books).2.supply.now.notBefore
        ((keepAll deployment collectId groups skeletons).run.run books).2.supply.now = true := by
  rw [keepSnapshots_eq]
  cases ran : (keepAll deployment collectId groups skeletons).run.run books with
  | mk answer kept =>
    cases answer with
    | error error =>
      rw [Books.bind_run_error ran]
      exact ⟨fun _ => rfl, Instant.notBefore_refl _⟩
    | ok _ =>
      rw [Books.bind_run_ok ran]
      exact ⟨kept.logGroups_resourcesOf collectId groups .collect .completed,
        (Grows.steady.logGroups collectId groups .collect .completed kept).clock⟩

/-- What keeping the snapshots of groups asks the store to log: that it started, and that it is
complete once the snapshots are kept. -/
def snapshotWrites : List LogWrite :=
  books.logWrite collectId groups .collect .started ::
    match (keepAll deployment collectId groups skeletons).run.run books with
    | (.ok _, kept) => [kept.logWrite collectId groups .collect .completed]
    | (.error _, _) => []

/-- Besides the entries of its start, keeping the snapshots of groups puts them into the store if it
succeeds, and else nothing. They bear the instant of a clock reading in between. -/
theorem keepAll_store :
    ∃ now added,
      ((keepAll deployment collectId groups skeletons).run.run books).2.store =
        ((Books.logGroups collectId groups .collect .started).run.run books).2.store.addResources
          added ∧
      (match ((keepAll deployment collectId groups skeletons).run.run books).1 with
      | .ok _ => batch deployment.inventory (byName skeletons) collectId now groups = .ok added
      | .error _ => added = []) ∧
      (added ≠ [] → now.notBefore books.supply.reading = true ∧
        ((keepAll deployment collectId groups skeletons).run.run books).2.supply.now.notBefore now =
          true) := by
  have becomes := (Grows.steady.logGroups collectId groups .collect .started books).becomes
  rw [keepAll]
  cases ran : (Books.logGroups collectId groups .collect .started).run.run books with
  | mk answer started =>
    rw [ran] at becomes
    cases answer with
    | error error =>
      rw [Books.bind_run_error ran]
      exact ⟨books.supply.now, [], rfl, rfl, nofun⟩
    | ok _ =>
      rw [Books.bind_run_ok ran, Books.bind_run_ok started.readClock_run]
      cases made : batch deployment.inventory (byName skeletons) collectId
          started.supply.reading groups with
      | error error => exact ⟨books.supply.now, [], rfl, rfl, nofun⟩
      | ok snapshots =>
        have keeping := (started.ticked 1).addResources_run snapshots
        rw [Books.bind_run_ok ((started.ticked 1).settled_run (.ok snapshots))]
        split at keeping
        · rw [Books.bind_run_error keeping]
          exact ⟨books.supply.now, [], rfl, rfl, nofun⟩
        · rw [Books.bind_run_ok keeping]
          exact ⟨started.supply.reading, snapshots, rfl, made, fun _ =>
            ⟨becomes.reading_notBefore, Instant.notBefore_refl _⟩⟩

theorem keepAll_journal :
    ((keepAll deployment collectId groups skeletons).run.run books).2.store.journal =
      books.store.journal ++ (books.logWrite collectId groups .collect .started).added := by
  obtain ⟨now, added, stored, -⟩ := keepAll_store deployment collectId groups skeletons books
  rw [stored]
  exact books.logGroups_journal collectId groups .collect .started

theorem keepSnapshots_journal :
    ((keepSnapshots deployment collectId groups skeletons).run.run books).2.store.journal =
      books.store.journal ++
        (snapshotWrites deployment collectId groups skeletons books).flatMap LogWrite.added := by
  have begun := keepAll_journal deployment collectId groups skeletons books
  rw [keepSnapshots_eq, snapshotWrites, List.flatMap_cons, ← List.append_assoc, ← begun]
  cases ran : (keepAll deployment collectId groups skeletons).run.run books with
  | mk answer kept =>
    cases answer with
    | error error =>
      rw [Books.bind_run_error ran]
      exact (List.append_nil _).symm
    | ok _ =>
      rw [Books.bind_run_ok ran, List.flatMap_singleton]
      exact kept.logGroups_journal collectId groups .collect .completed

/-- A collection adds one batch of snapshots to the store, or nothing, whatever fails. The snapshots
bear the instant of a clock reading in between. -/
theorem collect_adds :
    ∃ now added,
      (added = [] ∨
        batch deployment.inventory (byName skeletons) collectId now groups = .ok added) ∧
      (∀ group,
        ((collect deployment collectId groups skeletons).run.run books).2.store.resourcesOf group =
          books.store.resourcesOf group ++
            added.filter fun snapshot => snapshot.resourceGroupName == group) ∧
      (added ≠ [] → now.notBefore books.supply.reading = true ∧
        ((collect deployment collectId groups skeletons).run.run books).2.supply.now.notBefore now =
          true) := by
  have collected := collect_begun deployment collectId groups skeletons books
  cases begins : begun deployment books with
  | none =>
    rw [begins] at collected
    refine ⟨books.supply.now, [], .inl rfl, fun group => ?_, nofun⟩
    rw [collected, List.filter_nil, List.append_nil]
  | some start =>
    rw [begins] at collected
    obtain ⟨⟨found, reported⟩, sameSupply⟩ := collected
    obtain ⟨sameStore, -, startSupply⟩ := begun_same begins
    obtain ⟨now, added, keeps, made, stamped⟩ :=
      keepAll_store deployment collectId groups skeletons start
    obtain ⟨ended, clock⟩ := keepSnapshots_ends deployment collectId groups skeletons start
    refine ⟨now, added, ?_, fun group => ?_, fun nonempty => ?_⟩
    · split at made
      · exact .inr made
      · exact .inl made
    · rw [reported]
      refine (ended group).trans ?_
      rw [keeps, Store.resourcesOf_addResources, start.logGroups_resourcesOf, sameStore]
    · obtain ⟨began, past⟩ := stamped nonempty
      rw [startSupply] at began
      rw [sameSupply]
      exact ⟨began, Instant.notBefore_trans clock past⟩

def logWrites : List LogWrite :=
  match begun deployment books with
  | some start => snapshotWrites deployment collectId groups skeletons start
  | none => []

theorem collect_journal :
    ((collect deployment collectId groups skeletons).run.run books).2.store.journal =
      books.store.journal ++
        (logWrites deployment collectId groups skeletons books).flatMap LogWrite.added := by
  have collected := collect_begun deployment collectId groups skeletons books
  rw [logWrites]
  cases begins : begun deployment books with
  | none =>
    rw [begins] at collected
    rw [collected]
    exact (List.append_nil _).symm
  | some start =>
    rw [begins] at collected
    obtain ⟨⟨added, stored⟩, -⟩ := collected
    rw [stored, ← (begun_same begins).1]
    exact keepSnapshots_journal deployment collectId groups skeletons start

end Collector

namespace Scan

variable (deployment : Deployment) (scanId collectId : String) (groups : List String)
  (skeletons : List Resource) (books : Books)

def logWrites : List LogWrite :=
  [books.logWrite scanId groups .scan .started,
   ((judge deployment scanId collectId groups skeletons).run books).2.logWrite scanId groups .scan
     .completed]

/-- What a scan does between its last listing and its last entry in the operation log. -/
def weigh (outcomes : List Outcome) (records : Except AuditError (List Resource)) :
    Work (List Observation × List AuditError) := do
  let (records, recordErrors) : List Resource × List AuditError :=
    match records with
    | .ok records => (records, [])
    | .error error => ([], [error])
  let (observations, errors) ←
    keepOutcomes (hierarchy skeletons records) scanId collectId outcomes
  return (observations, recordErrors ++ errors)

theorem weigh_store (outcomes : List Outcome) (records : Except AuditError (List Resource)) :
    ∃ added, ((weigh scanId collectId skeletons outcomes records).run books).2.store =
      books.store.addObservations added := by
  obtain ⟨added, stores, -⟩ := keepOutcomes_stores
    (hierarchy skeletons (records.toOption.getD [])) scanId collectId outcomes books
  refine ⟨added, ?_⟩
  cases records <;> exact stores.store

theorem judge_store :
    ∃ added, ((judge deployment scanId collectId groups skeletons).run books).2.store =
      ((logStatus scanId groups .started).run books).2.store.addObservations added := by
  let started := ((logStatus scanId groups .started).run books).2
  let checked := (deployment.rules.mapM fun rule =>
    checkRule rule collectId groups skeletons).run started
  let listed := (resourcesFor collectId groups [.resourceGroup] skeletons).run.run checked.2
  have sameStore : listed.2.store = started.store :=
    (quiet_sameStore.resourcesFor collectId groups [.resourceGroup] skeletons checked.2).trans
      (quiet_sameStore.mapM
        (fun rule => quiet_sameStore.checkRule rule collectId groups skeletons)
        deployment.rules started)
  have ran : (judge deployment scanId collectId groups skeletons).run books =
      (weigh scanId collectId skeletons checked.1 listed.1).run listed.2 := rfl
  obtain ⟨added, stored⟩ :=
    weigh_store scanId collectId skeletons listed.2 checked.1 listed.1
  exact ⟨added, by rw [ran, stored, sameStore]⟩

theorem judge_journal :
    ((judge deployment scanId collectId groups skeletons).run books).2.store.journal =
      books.store.journal ++ (books.logWrite scanId groups .scan .started).added := by
  obtain ⟨added, stored⟩ := judge_store deployment scanId collectId groups skeletons books
  rw [stored]
  exact books.logGroups_journal scanId groups .scan .started

theorem checkRules_journal :
    ((checkRules deployment scanId collectId groups skeletons).run books).2.store.journal =
      books.store.journal ++
        (logWrites deployment scanId collectId groups skeletons books).flatMap LogWrite.added := by
  rw [checkRules_eq, logWrites, List.flatMap_cons, List.flatMap_singleton, ← List.append_assoc,
    ← judge_journal]
  exact Books.logGroups_journal _ scanId groups .scan .completed

end Scan

namespace Moment

def logWrites (deployment : Deployment) (moment : Moment) : List LogWrite :=
  match moment.run.phase with
  | .snapshotting skeletons claim =>
    if claim.granted.isEmpty then []
    else
      Collector.logWrites deployment moment.run.collectId claim.granted skeletons moment.books
  | .checking skeletons _ claim =>
    if claim.granted.isEmpty then []
    else
      Scan.logWrites deployment moment.run.scanId moment.run.collectId claim.granted skeletons
        moment.books
  | _ => []

section

variable (deployment : Deployment) {moment : Moment} {skeletons : List Resource} {claim : Claim}
  {group : String} (granted : group ∈ claim.granted)
include granted

theorem logWrites_snapshotting (snapshots : moment.run.phase = .snapshotting skeletons claim) :
    moment.logWrites deployment =
      Collector.logWrites deployment moment.run.collectId claim.granted skeletons moment.books := by
  rw [logWrites, snapshots]
  exact if_neg (by simp [List.ne_nil_of_mem granted])

theorem logWrites_checking {collected : List Observation}
    (checks : moment.run.phase = .checking skeletons collected claim) :
    moment.logWrites deployment =
      Scan.logWrites deployment moment.run.scanId moment.run.collectId claim.granted skeletons
        moment.books := by
  rw [logWrites, checks]
  exact if_neg (by simp [List.ne_nil_of_mem granted])

end

def logged (deployment : Deployment) (moment : Moment) : List Operation :=
  (moment.logWrites deployment).flatMap LogWrite.added

variable (deployment : Deployment)

theorem left_journal_of_idle {run : Run} {books : Books}
    (idle : ∀ kind, run.phase.due? kind = none) :
    (left deployment ⟨run, books⟩).store.journal = books.store.journal := by
  obtain ⟨collectId, scanId, groups, phase⟩ := run
  cases phase with
  | starting =>
    have known : ((Pipeline.preCollect deployment collectId).run.run books).2 = books := by
      by_cases unreachable : deployment.collector = .unreachable
      · rw [Pipeline.preCollect_unreachable unreachable]
      · rw [Collector.preCollect_reachable unreachable]
    simp only [left, Pipeline.step, StateT.run_bind]
    cases ran : (Pipeline.preCollect deployment collectId).run.run books with
    | mk answer after =>
      obtain rfl : after = books := by rw [← known, ran]
      cases answer <;> rfl
  | claimingCollect | releasingCollect | claimingScan | finished => rfl
  | snapshotting skeletons claim => cases idle .collect
  | checking skeletons collected claim => cases idle .scan
  | gathering skeletons =>
    obtain ⟨collected, ran⟩ :=
      Pipeline.step_gathering deployment books collectId scanId groups skeletons
    rw [left, ran]
    rfl
  | releasingScan collected scanned claim =>
    rw [left, Pipeline.step_releasingScan]
  | flushing collected scanned =>
    change (Books.flush.run.run books).2.store.journal = _
    rw [Books.flush, Books.attempt_bind_run]
    split
    · rfl
    · exact books.store.journal_flush
  | dispatching collected scanned =>
    obtain ⟨after, ran, undisturbed⟩ :=
      Pipeline.step_dispatching deployment books collectId scanId groups collected scanned
    rw [left, ran, undisturbed.store]

/-- Each phase adds to the operation log what it asked the store to log and the store took. -/
theorem left_journal (moment : Moment) :
    (moment.left deployment).store.journal =
      moment.books.store.journal ++ moment.logged deployment := by
  obtain ⟨⟨collectId, scanId, groups, phase⟩, books⟩ := moment
  rw [logged, logWrites]
  cases phase with
  | snapshotting skeletons claim =>
    obtain ⟨kind, id, requested, granted⟩ := claim
    cases granted with
    | nil => exact (List.append_nil _).symm
    | cons first more =>
      exact Collector.collect_journal deployment collectId (first :: more) skeletons books
  | checking skeletons collected claim =>
    obtain ⟨kind, id, requested, granted⟩ := claim
    cases granted with
    | nil => exact (List.append_nil _).symm
    | cons first more =>
      exact Scan.checkRules_journal deployment scanId collectId (first :: more) skeletons books
  | _ =>
    rw [left_journal_of_idle deployment (by intro kind; cases kind <;> rfl)]
    exact (List.append_nil _).symm

end Moment

/-! ## What calls add -/

theorem Service.createObservation_journal (report : Observation) (books : Books) :
    ((createObservation report).run.run books).2.store.journal = books.store.journal := by
  cases ran : (createObservation report).run.run books with
  | mk answer after =>
    cases answer with
    | ok created =>
      rw [(createObservation_ok ran).store]
      rfl
    | error error =>
      rcases createObservation_error ran with
        ⟨_, _, rfl⟩ | ⟨-, -, _, _, _, _, _, rfl⟩
      · rfl
      · rfl

theorem Web.Call.perform_journal (deployment : Deployment) (caller : Option String)
    (call : Web.Call) (books : Books) :
    ((call.perform deployment caller).run.run books).2.store.journal = books.store.journal := by
  have quiet : Quiet fun old new => new.store.journal = old.store.journal :=
    .of_view (fun books => books.store.journal) fun _ _ _ _ _ _ => rfl
  cases asks : call.asksForRun with
  | false =>
    exact quiet.perform Service.createObservation_journal (fun _ _ _ => rfl) deployment caller
      asks books
  | true =>
    rcases call.perform_run deployment caller asks books with same | refused | ⟨groups, started⟩
    · rw [same]
    · rw [refused]
      rfl
    · rw [started]
      rfl

/-! ## The whole operation log -/

theorem journal_lasting (deployment : Deployment) (start : Books) :
    Lasting deployment fun past _ books =>
      books.store.journal = start.store.journal ++ past.flatMap (Moment.logged deployment) where
  step := by
    intro past before after run books known _
    have added := Moment.left_journal deployment ⟨run, books⟩
    rw [List.flatMap_append, List.flatMap_singleton, ← List.append_assoc, ← known]
    exact added
  leave known _ := known
  underWay known _ := known
  permits known _ := known
  disturb known _ _ := known
  call caller request known := (request.perform_journal _ caller _).trans known

/-- The operation log is what all phases added to it, one after the other. -/
theorem Books.journal_after (deployment : Deployment) (supply : Supply) (events : List Event) :
    ((Books.fresh supply).after deployment events).store.journal =
      ((Books.fresh supply).moments deployment events).flatMap (Moment.logged deployment) := by
  have start : (Books.fresh supply).store.journal =
      (Books.fresh supply).store.journal ++ [].flatMap (Moment.logged deployment) := rfl
  exact (journal_lasting deployment (Books.fresh supply)).after events start

end CloudAudit
