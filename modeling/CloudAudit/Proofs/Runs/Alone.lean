import CloudAudit.Proofs.Collect.Snapshots
import CloudAudit.Proofs.Requests.Idle
import CloudAudit.Proofs.Scan.Completing
import CloudAudit.Proofs.Scan.Findings
/-!
# A run that nothing interrupts

What the phases of one run come to when no other run is under way and nothing fails: the run gets
every group that it asks for, stores their snapshots and the findings of its rules on them, and
flushes the operation log.
-/
set_option autoImplicit false

namespace CloudAudit.Pipeline

/-! ## Going on -/

theorem advance_stopped {deployment : Deployment} {run : Run} {books : Books}
    (stops : (run.isFinished || isWaiting deployment books run) = true) (steps : Nat) :
    (advance deployment steps run).run books = (run, books) := by
  cases steps with
  | zero => rfl
  | succ steps =>
    simp only [advance, StateT.run_bind, StateT.run_get, pure_bind]
    rw [if_pos stops]
    rfl

theorem advance_succ {deployment : Deployment} {run : Run} {books : Books}
    (goesOn : ¬ (run.isFinished || isWaiting deployment books run) = true) (steps : Nat) :
    (advance deployment (steps + 1) run).run books =
      (advance deployment steps ((step deployment run).run books).1).run
        ((step deployment run).run books).2 := by
  simp only [advance, StateT.run_bind, StateT.run_get, pure_bind]
  rw [if_neg goesOn]
  rfl

theorem advance_add (deployment : Deployment) (first second : Nat) (run : Run) (books : Books) :
    (advance deployment (first + second) run).run books =
      (advance deployment second ((advance deployment first run).run books).1).run
        ((advance deployment first run).run books).2 := by
  induction first generalizing run books with
  | zero =>
    rw [Nat.zero_add]
    rfl
  | succ first ih =>
    by_cases stops : (run.isFinished || isWaiting deployment books run) = true
    · rw [advance_stopped stops, advance_stopped stops, advance_stopped stops]
    · rw [Nat.succ_add, advance_succ stops, advance_succ stops, ih]

theorem isWaiting_plain {deployment : Deployment} (plain : deployment.collector = .plain)
    (books : Books) (run : Run) : isWaiting deployment books run = false := by
  rw [isWaiting, plain]
  cases run.phase <;> rfl

theorem advance_step {deployment : Deployment} (plain : deployment.collector = .plain)
    {run next : Run} {books after : Books} (underWay : run.isFinished = false)
    (stepped : (step deployment run).run books = (next, after)) (steps : Nat) :
    (advance deployment (steps + 1) run).run books = (advance deployment steps next).run after := by
  have goesOn : ¬ (run.isFinished || isWaiting deployment books run) = true := by
    rw [underWay, isWaiting_plain plain]
    exact Bool.false_ne_true
  rw [advance_succ goesOn, stepped]

/-! ## Collecting -/

section

variable {deployment : Deployment} {books : Books} (collectId scanId : String)
  (groups : List String)

theorem claim_run (idle : books.requests.Idle) (kind : OperationKind) (id : String) :
    (Books.claim kind id groups).run books =
      (⟨kind, id, groups, groups.eraseDups⟩,
        { books with requests := (books.requests.add kind id groups).2 }) := by
  have claimed : (Books.claim kind id groups).run books =
      (⟨kind, id, groups, (books.requests.add kind id groups).1⟩,
        { books with requests := (books.requests.add kind id groups).2 }) := rfl
  rw [claimed, idle.granted]

theorem step_starting (plain : deployment.collector = .plain) :
    (step deployment ⟨collectId, scanId, groups, .starting⟩).run books =
      (⟨collectId, scanId, groups,
          .claimingCollect (Collector.knownTo deployment.inventory collectId)⟩, books) := by
  simp only [step, StateT.run_bind, Collector.preCollect_run plain]
  rfl

theorem step_claimingCollect (idle : books.requests.Idle) (skeletons : List Resource) :
    (step deployment ⟨collectId, scanId, groups, .claimingCollect skeletons⟩).run books =
      (⟨collectId, scanId, groups,
          .snapshotting skeletons ⟨.collect, collectId, groups, groups.eraseDups⟩⟩,
        { books with requests := (books.requests.add .collect collectId groups).2 }) := by
  simp only [step, StateT.run_bind, claim_run groups idle]
  rfl

/-- What a collection leaves behind. -/
structure Collected (inventory : Inventory) (collectId : String) (groups : List String)
    (books after : Books) : Prop where
  fails : after.fails = books.fails
  observations : after.store.observations = books.store.observations
  operations : after.store.operations = books.store.operations
  pending : ∃ entries, after.store.pending = books.store.pending ++ entries ∧
    ∀ entry ∈ entries, entry.kind = .collect ∧ entry.resourceGroup ∈ groups
  resources : ∃ now, ∀ group, after.store.resourcesOf group = books.store.resourcesOf group ++
    (Collector.snapshots inventory collectId now groups).filter
      fun snapshot => snapshot.resourceGroupName == group

theorem collecting_sameRequests : Collecting fun old new => new.requests = old.requests :=
  .of_view Books.requests fun _ _ _ _ _ _ _ => rfl

theorem Collected.nothing (inventory : Inventory) (collectId : String) (books : Books) :
    Collected inventory collectId [] books books where
  fails := rfl
  observations := rfl
  operations := rfl
  pending := ⟨[], (List.append_nil _).symm, by simp⟩
  resources := ⟨default, fun _ => (List.append_nil _).symm⟩

theorem Collected.pending_nil {inventory : Inventory} {collectId : String}
    {groups : List String} {after : Books}
    (collected : Collected inventory collectId groups books after) (nothing : groups = [])
    (flushed : books.store.pending = []) : after.store.pending = [] := by
  obtain ⟨entries, pending, own⟩ := collected.pending
  rw [pending, flushed, List.nil_append, List.eq_nil_iff_forall_not_mem]
  intro entry member
  have covered := (own entry member).2
  rw [nothing] at covered
  cases covered

theorem collect_collected {groups : List String} (plain : deployment.collector = .plain)
    (reliable : books.Reliable)
    (populated : ∀ group ∈ groups, Collector.members deployment.inventory group ≠ []) :
    ∃ after,
      (Collector.collect deployment collectId groups
        (Collector.knownTo deployment.inventory collectId)).run.run books = (.ok (), after) ∧
      Collected deployment.inventory collectId groups books after := by
  obtain ⟨after, clock, ran, stored⟩ := Collector.collect_run plain reliable collectId populated
  have sameFails := steady_sameFails.toCollecting.collect deployment collectId groups
    (Collector.knownTo deployment.inventory collectId) books
  rw [ran] at sameFails
  refine ⟨after, ran, ⟨sameFails, (congrArg Store.observations stored).trans rfl,
    (congrArg Store.operations stored).trans rfl, ?pending, ?resources⟩⟩
  case pending =>
    rw [stored]
    refine ⟨_, List.append_assoc _ _ _, ?_⟩
    exact fun entry member => (Books.own_of_mem_stamped_append member).2
  case resources =>
    refine ⟨clock.now, fun group => ?_⟩
    rw [stored]
    exact Store.resourcesOf_addResources _ _ group

theorem step_snapshotting (plain : deployment.collector = .plain) (reliable : books.Reliable)
    {claim : Claim}
    (populated : ∀ group ∈ claim.granted, Collector.members deployment.inventory group ≠ []) :
    ∃ after,
      (step deployment ⟨collectId, scanId, groups,
          .snapshotting (Collector.knownTo deployment.inventory collectId) claim⟩).run books =
        (⟨collectId, scanId, groups,
            .releasingCollect (Collector.knownTo deployment.inventory collectId) claim⟩, after) ∧
      after.requests = books.requests ∧
      Collected deployment.inventory collectId claim.granted books after := by
  obtain ⟨kind, id, requested, granted⟩ := claim
  cases granted with
  | nil => exact ⟨books, rfl, rfl, Collected.nothing _ _ _⟩
  | cons first more =>
    obtain ⟨after, ran, collected⟩ := collect_collected collectId plain reliable populated
    have sameRequests := collecting_sameRequests.collect deployment collectId (first :: more)
      (Collector.knownTo deployment.inventory collectId) books
    rw [ran] at sameRequests
    refine ⟨after, ?_, sameRequests, collected⟩
    simp only [step, List.isEmpty_cons, Bool.not_false, if_true, StateT.run_bind, ran]
    rfl

theorem step_releasingCollect (skeletons : List Resource) (claim : Claim) :
    (step deployment ⟨collectId, scanId, groups, .releasingCollect skeletons claim⟩).run books =
      (⟨collectId, scanId, groups, .gathering skeletons⟩,
        { books with requests := claim.release books.requests }) :=
  rfl

theorem step_gathering (deployment : Deployment) (books : Books) (collectId scanId : String)
    (groups : List String) (skeletons : List Resource) :
    ∃ collected,
      (step deployment ⟨collectId, scanId, groups, .gathering skeletons⟩).run books =
        (⟨collectId, scanId, groups, .claimingScan skeletons collected⟩, books.counted) := by
  have listed : ∃ answer,
      (gathered ⟨collectId, scanId, groups, .gathering skeletons⟩).run.run books =
        (answer, books.counted) := by
    rw [gathered, Books.listObservations_run]
    split
    · exact ⟨_, rfl⟩
    · exact ⟨_, rfl⟩
  obtain ⟨answer, listed⟩ := listed
  simp only [step, orNone, StateT.run_bind, listed]
  cases answer with
  | ok found => exact ⟨found, rfl⟩
  | error error => exact ⟨[], rfl⟩

/-- The first half of a run that nothing interrupts. -/
theorem advance_collects {groups : List String} (plain : deployment.collector = .plain)
    (reliable : books.Reliable) (idle : books.requests.Idle)
    (populated : ∀ group ∈ groups, Collector.members deployment.inventory group ≠ []) :
    ∃ after collected,
      (advance deployment 5 ⟨collectId, scanId, groups, .starting⟩).run books =
        (⟨collectId, scanId, groups,
            .claimingScan (Collector.knownTo deployment.inventory collectId) collected⟩, after) ∧
      after.requests = books.requests.worked .collect collectId groups ∧
      Collected deployment.inventory collectId groups.eraseDups books after := by
  let known := Collector.knownTo deployment.inventory collectId
  let claim : Claim := ⟨.collect, collectId, groups, groups.eraseDups⟩
  let claimed : Books :=
    { books with requests := (books.requests.add .collect collectId groups).2 }
  have claimedReliable : claimed.Reliable := reliable.of_fails rfl
  have found : ∀ group ∈ claim.granted, Collector.members deployment.inventory group ≠ [] := by
    intro group member
    exact populated group (List.mem_eraseDups.1 member)
  obtain ⟨kept, snapshotted, sameRequests, collected⟩ :=
    step_snapshotting collectId scanId groups plain claimedReliable found
  let released : Books := { kept with requests := claim.release kept.requests }
  obtain ⟨listed, gathers⟩ := step_gathering deployment released collectId scanId groups known
  refine ⟨released.counted, listed, ?_, ?_, ?_⟩
  · calc (advance deployment 5 ⟨collectId, scanId, groups, .starting⟩).run books
      _ = (advance deployment 4 ⟨collectId, scanId, groups, .claimingCollect known⟩).run books :=
          advance_step plain rfl (step_starting _ _ _ plain) 4
      _ = (advance deployment 3 ⟨collectId, scanId, groups, .snapshotting known claim⟩).run
            claimed := advance_step plain rfl (step_claimingCollect _ _ _ idle known) 3
      _ = (advance deployment 2 ⟨collectId, scanId, groups, .releasingCollect known claim⟩).run
            kept := advance_step plain rfl snapshotted 2
      _ = (advance deployment 1 ⟨collectId, scanId, groups, .gathering known⟩).run released :=
          advance_step plain rfl (step_releasingCollect _ _ _ known claim) 1
      _ = _ := advance_step plain rfl gathers 0
  · change kept.requests.finish .collect collectId groups = _
    rw [sameRequests]
    rfl
  · exact { collected with }

/-! ## Scanning -/

/-- What a scan leaves behind that is done with its rules at an instant. -/
structure Scanned (deployment : Deployment) (collectId scanId : String) (groups : List String)
    (skeletons : List Resource) (done : Instant) (books after : Books) : Prop where
  fails : after.fails = books.fails
  resources : after.store.resources = books.store.resources
  clock : after.supply.now.notBefore done = true
  journal : ∃ entries, after.store.journal = books.store.journal ++ entries ∧
    (∀ entry ∈ entries, entry.id = scanId ∧ entry.resourceGroup ∈ groups) ∧
    ∀ group ∈ groups, ∃ entry ∈ entries,
      entry.completes group = true ∧ entry.statusTime.notBefore done = true
  observations : ∃ added,
    (∀ group, after.store.stored group =
      books.store.stored group ++ added.filter (Store.isFiled group)) ∧
    Made books.supply.reading done
      (Scan.findings deployment books.store scanId collectId groups skeletons) added

theorem step_claimingScan (idle : books.requests.Idle) (skeletons : List Resource)
    (collected : List Observation) :
    (step deployment ⟨collectId, scanId, groups, .claimingScan skeletons collected⟩).run books =
      (⟨collectId, scanId, groups,
          .checking skeletons collected ⟨.scan, scanId, groups, groups.eraseDups⟩⟩,
        { books with requests := (books.requests.add .scan scanId groups).2 }) := by
  simp only [step, StateT.run_bind, claim_run groups idle]
  rfl

theorem Scanned.nothing (deployment : Deployment) (collectId : String)
    (skeletons : List Resource) (books : Books) :
    Scanned deployment collectId scanId [] skeletons books.supply.now books books where
  fails := rfl
  resources := rfl
  clock := Instant.notBefore_refl _
  journal := ⟨[], (List.append_nil _).symm, by simp, by simp⟩
  observations := by
    have nobody : Scan.findings deployment books.store scanId collectId [] skeletons = [] := by
      simp [Scan.findings, Scan.sightOf, Scan.judged]
    rw [nobody]
    exact ⟨[], fun _ => (List.append_nil _).symm, Made.nil _ _⟩

theorem checkRules_scanned (filed : books.store.Filed) (reliable : books.Reliable)
    {groups : List String} (distinct : groups.Nodup) (skeletons : List Resource) :
    ∃ done, Scanned deployment collectId scanId groups skeletons done books
      ((Scan.checkRules deployment scanId collectId groups skeletons).run books).2 := by
  obtain ⟨added, clock, stored, later, made⟩ :=
    Scan.checkRules_stores filed reliable distinct deployment scanId collectId skeletons
  refine ⟨clock.now, ?fails, (congrArg Store.resources stored).trans rfl, later, ?journal, added,
    ?observations, made⟩
  case fails =>
    exact steady_sameFails.toScanning.checkRules deployment scanId collectId groups skeletons books
  case journal =>
    let started := Books.stamped scanId .scan .started books.supply.toClock groups
    let completed := Books.stamped scanId .scan .completed clock groups
    refine ⟨started ++ completed, ?_, ?_, ?_⟩
    · rw [Store.journal, stored]
      change books.store.operations ++ (books.store.pending ++ started ++ completed) = _
      rw [Store.journal, List.append_assoc, List.append_assoc]
    · intro entry member
      obtain ⟨sameScan, -, covered⟩ := Books.own_of_mem_stamped_append member
      exact ⟨sameScan, covered⟩
    · intro group covered
      obtain ⟨time, found⟩ := Books.mem_stamped covered scanId .scan .completed clock
      have dated := (Dated.stamped scanId .scan .completed clock groups).within _ found
      exact ⟨_, List.mem_append_right _ found, by simp [Operation.completes],
        Instant.notBefore_trans dated.1 clock.reading_notBefore⟩
  case observations =>
    intro group
    rw [stored]
    exact Store.stored_addObservations _ _ group

theorem step_checking (deployment : Deployment) (filed : books.store.Filed)
    (reliable : books.Reliable) (skeletons : List Resource) (collected : List Observation)
    {claim : Claim} (distinct : claim.granted.Nodup) :
    ∃ scanned done after,
      (step deployment
          ⟨collectId, scanId, groups, .checking skeletons collected claim⟩).run books =
        (⟨collectId, scanId, groups, .releasingScan collected scanned claim⟩, after) ∧
      after.requests = books.requests ∧ (claim.granted = [] → after = books) ∧
      Scanned deployment collectId scanId claim.granted skeletons done books after := by
  obtain ⟨kind, id, requested, granted⟩ := claim
  cases granted with
  | nil => exact ⟨[], _, books, rfl, rfl, fun _ => rfl, Scanned.nothing _ _ _ _ _⟩
  | cons first more =>
    let scan := Scan.checkRules deployment scanId collectId (first :: more) skeletons
    obtain ⟨done, scanned⟩ := checkRules_scanned collectId scanId filed reliable distinct skeletons
    refine ⟨(scan.run books).1.1, done, (scan.run books).2, rfl, ?_, ?_, scanned⟩
    · exact collecting_sameRequests.toScanning.checkRules _ _ _ _ _ _
    · intro nobody
      cases nobody

theorem step_releasingScan (collected scanned : List Observation) (claim : Claim) :
    (step deployment
        ⟨collectId, scanId, groups, .releasingScan collected scanned claim⟩).run books =
      (⟨collectId, scanId, groups,
          if claim.granted.isEmpty then .dispatching collected [] else .flushing collected scanned⟩,
        { books with requests := claim.release books.requests }) := by
  obtain ⟨kind, id, requested, granted⟩ := claim
  cases granted <;> rfl

theorem step_flushing (reliable : books.Reliable) (collected scanned : List Observation) :
    (step deployment ⟨collectId, scanId, groups, .flushing collected scanned⟩).run books =
      (⟨collectId, scanId, groups, .dispatching collected scanned⟩,
        { books.counted with store := books.store.flush }) := by
  simp only [step, StateT.run_bind, reliable.flush]
  rfl

theorem step_dispatching (deployment : Deployment) (books : Books) (collectId scanId : String)
    (groups : List String) (collected scanned : List Observation) :
    ∃ after,
      (step deployment ⟨collectId, scanId, groups, .dispatching collected scanned⟩).run books =
        (⟨collectId, scanId, groups, .finished⟩, after) ∧ Undisturbed books after := by
  refine ⟨_, rfl, ?_⟩
  have notifies := Undisturbed.quiet.bind (Undisturbed.quiet.announce deployment collected)
    fun _ => Undisturbed.quiet.announce deployment scanned
  exact notifies books

/-- The last phases of a run. Without groups nothing is flushed, so the log has to be flushed
before. -/
theorem advance_ends (plain : deployment.collector = .plain) (reliable : books.Reliable)
    (collected scanned : List Observation) {claim : Claim}
    (flushed : claim.granted = [] → books.store.pending = []) :
    ∃ after,
      (advance deployment 3
          ⟨collectId, scanId, groups, .releasingScan collected scanned claim⟩).run books =
        (⟨collectId, scanId, groups, .finished⟩, after) ∧
      Undisturbed
        { books with store := books.store.flush, requests := claim.release books.requests }
        after := by
  let released : Books := { books with requests := claim.release books.requests }
  have gaveBack : (step deployment
      ⟨collectId, scanId, groups, .releasingScan collected scanned claim⟩).run books =
        (_, released) :=
    step_releasingScan collectId scanId groups collected scanned claim
  have releases := advance_step plain rfl gaveBack 2
  by_cases nothing : claim.granted = []
  · obtain ⟨after, dispatches, undisturbed⟩ :=
      step_dispatching deployment released collectId scanId groups collected []
    refine ⟨after, ?_, ?_⟩
    · rw [releases, nothing, List.isEmpty_nil, if_pos rfl, advance_step plain rfl dispatches,
        advance_stopped rfl]
    · have unchanged : books.store.flush = books.store := by
        rw [Store.flush, flushed nothing, List.append_nil, ← flushed nothing]
      rw [unchanged]
      exact undisturbed
  · let moved : Books := { released.counted with store := released.store.flush }
    have releasedReliable : released.Reliable := reliable.of_fails rfl
    obtain ⟨after, dispatches, undisturbed⟩ :=
      step_dispatching deployment moved collectId scanId groups collected scanned
    refine ⟨after, ?_, ?_⟩
    · rw [releases, if_neg (by simpa using nothing),
        advance_step plain rfl (step_flushing _ _ _ releasedReliable _ _),
        advance_step plain rfl dispatches]
      rfl
    · exact { undisturbed with }

/-- The second half of a run that nothing interrupts. -/
theorem advance_scans (plain : deployment.collector = .plain) (filed : books.store.Filed)
    (reliable : books.Reliable) (idle : books.requests.Idle) (skeletons : List Resource)
    (collected : List Observation)
    (flushed : groups.eraseDups = [] → books.store.pending = []) :
    ∃ done after,
      (advance deployment 5
          ⟨collectId, scanId, groups, .claimingScan skeletons collected⟩).run books =
        (⟨collectId, scanId, groups, .finished⟩, after) ∧
      after.requests = books.requests.worked .scan scanId groups ∧
      after.store.pending = [] ∧
      Scanned deployment collectId scanId groups.eraseDups skeletons done books after := by
  let claim : Claim := ⟨.scan, scanId, groups, groups.eraseDups⟩
  let claimed : Books := { books with requests := (books.requests.add .scan scanId groups).2 }
  have claimedReliable : claimed.Reliable := reliable.of_fails rfl
  have filedStill : claimed.store.Filed := filed
  have distinct : claim.granted.Nodup := nodup_eraseDups groups
  obtain ⟨scanned, done, kept, checked, sameRequests, untouched, scans⟩ :=
    step_checking collectId scanId groups deployment filedStill claimedReliable skeletons collected
      distinct
  have keptReliable : kept.Reliable := claimedReliable.of_fails scans.fails
  have flushedStill : claim.granted = [] → kept.store.pending = [] := by
    intro nothing
    rw [untouched nothing]
    exact flushed nothing
  obtain ⟨after, ends, undisturbed⟩ :=
    advance_ends collectId scanId groups plain keptReliable collected scanned flushedStill
  refine ⟨done, after, ?_, ?_, ?_, ?_⟩
  · rw [advance_step plain rfl (step_claimingScan _ _ _ idle skeletons collected),
      advance_step plain rfl checked, ends]
  · rw [undisturbed.requests]
    change kept.requests.finish .scan scanId groups = _
    rw [sameRequests]
    rfl
  · rw [undisturbed.store]
    rfl
  · obtain ⟨entries, logged, own, complete⟩ := scans.journal
    obtain ⟨added, stored, made⟩ := scans.observations
    refine ⟨undisturbed.fails.trans scans.fails, ?_,
      Instant.notBefore_trans undisturbed.clock scans.clock, ⟨entries, ?_, own, complete⟩, added,
      ?_, made⟩
    · rw [undisturbed.store]
      exact scans.resources
    · rw [undisturbed.store, Store.journal_flush]
      exact logged
    · intro group
      rw [undisturbed.store]
      exact stored group

end

/-! ## The whole run -/

/-- What a run leaves behind that nothing interrupts and that is done with its rules at an
instant. -/
structure Ran (deployment : Deployment) (run : Run) (done : Instant) (books after : Books) :
    Prop where
  fails : after.fails = books.fails
  underWay : after.underWay = []
  clock : after.supply.now.notBefore done = true
  requests : after.requests =
    (books.requests.worked .collect run.collectId run.groups).worked .scan run.scanId run.groups
  flushed : after.store.pending = []
  operations : ∃ entries, after.store.operations = books.store.operations ++ entries ∧
    (∀ group, ∀ entry ∈ entries, entry.completes group = true →
      entry.id = run.scanId ∧ group ∈ run.groups) ∧
    ∀ group ∈ run.groups, ∃ entry ∈ entries,
      entry.completes group = true ∧ entry.statusTime.notBefore done = true
  resources : ∃ now, ∀ group, after.store.resourcesOf group = books.store.resourcesOf group ++
    (Collector.snapshots deployment.inventory run.collectId now run.groups.eraseDups).filter
      fun snapshot => snapshot.resourceGroupName == group
  observations : ∃ added,
    (∀ group, after.store.stored group =
      books.store.stored group ++ added.filter (Store.isFiled group)) ∧
    Made books.supply.reading done
      (Scan.findings deployment after.store run.scanId run.collectId run.groups.eraseDups
        (Collector.knownTo deployment.inventory run.collectId))
      added

theorem settle_nobody (deployment : Deployment) {books : Books} (nobody : books.underWay = []) :
    ((settle deployment).run books).2 = books := by
  obtain ⟨store, requests, exceptions, deliveries, underWay, permits, supply, calls, fails,
    loses⟩ := books
  simp only at nobody
  subst nobody
  rfl

theorem settle_alone {deployment : Deployment} {run finished : Run} {books after : Books}
    (alone : books.underWay = [run])
    (advanced : (advance deployment run.phase.left run).run books = (finished, after))
    (ended : finished.isFinished = true) :
    ((settle deployment).run books).2 = { after with underWay := [] } := by
  have runs : (([run].mapM (proceed deployment)).run books) = ([finished], after) := by
    rw [List.mapM_cons, StateT.run_bind, proceed, advanced]
    rfl
  simp only [settle, StateT.run_bind, StateT.run_get, pure_bind, alone, runs]
  change { after with underWay := [finished].filter fun run => !run.isFinished } = _
  rw [List.filter_cons_of_neg (by simp [ended]), List.filter_nil]

theorem Ran.of_halves {deployment : Deployment} {run : Run} {done : Instant}
    {books middle after : Books} (flushed : books.store.pending = [])
    (becomes : books.supply.Becomes middle.supply.toClock)
    (collected :
      Collected deployment.inventory run.collectId run.groups.eraseDups books middle)
    (collectRequests : middle.requests = books.requests.worked .collect run.collectId run.groups)
    (scanned : Scanned deployment run.collectId run.scanId run.groups.eraseDups
      (Collector.knownTo deployment.inventory run.collectId) done middle after)
    (scanRequests : after.requests = middle.requests.worked .scan run.scanId run.groups)
    (flushedAfter : after.store.pending = []) :
    Ran deployment run done books { after with underWay := [] } where
  fails := scanned.fails.trans collected.fails
  underWay := rfl
  clock := scanned.clock
  requests := by rw [scanRequests, collectRequests]
  flushed := flushedAfter
  operations := by
    obtain ⟨started, pending, collecting⟩ := collected.pending
    obtain ⟨entries, logged, own, complete⟩ := scanned.journal
    rw [Store.journal, flushedAfter, List.append_nil, Store.journal, collected.operations,
      pending, flushed, List.nil_append, List.append_assoc] at logged
    refine ⟨started ++ entries, logged, ?_, ?_⟩
    · intro group entry member completes
      simp only [Operation.completes, Bool.and_eq_true, beq_iff_eq] at completes
      obtain ⟨⟨scans, -⟩, rfl⟩ := completes
      rcases List.mem_append.1 member with isCollect | isScan
      · rw [(collecting entry isCollect).1] at scans
        cases scans
      · exact ⟨(own entry isScan).1, List.mem_eraseDups.1 (own entry isScan).2⟩
    · intro group covered
      obtain ⟨entry, member, completes⟩ := complete group (List.mem_eraseDups.2 covered)
      exact ⟨entry, List.mem_append_right _ member, completes⟩
  resources := by
    obtain ⟨now, snapshots⟩ := collected.resources
    refine ⟨now, fun group => ?_⟩
    rw [← snapshots, Store.resourcesOf, Store.resourcesOf, scanned.resources]
  observations := by
    obtain ⟨added, stored, made⟩ := scanned.observations
    refine ⟨added, ?_, ?_⟩
    · intro group
      have sameStored : middle.store.stored group = books.store.stored group := by
        rw [Store.stored, collected.observations, Store.stored]
      rw [← sameStored]
      exact stored group
    · have sameSight := Scan.sightOf_congr scanned.resources
      rw [Scan.findings, sameSight]
      exact made.widen becomes.reading_notBefore (Instant.notBefore_refl _)

theorem settle_ran {deployment : Deployment} (plain : deployment.collector = .plain)
    {books : Books} (reliable : books.Reliable) (filed : books.store.Filed)
    (idle : books.requests.Idle) (flushed : books.store.pending = [])
    {collectId scanId : String} {groups : List String}
    (alone : books.underWay = [⟨collectId, scanId, groups, .starting⟩])
    (populated : ∀ group ∈ groups, Collector.members deployment.inventory group ≠ []) :
    ∃ done, Ran deployment ⟨collectId, scanId, groups, .starting⟩ done books
      ((settle deployment).run books).2 := by
  obtain ⟨middle, found, collects, collectRequests, collected⟩ :=
    advance_collects collectId scanId plain reliable idle populated
  have middleFiled : middle.store.Filed := by
    obtain ⟨now, snapshots⟩ := collected.resources
    exact filed.append snapshots
  have middleIdle : middle.requests.Idle := by
    rw [collectRequests]
    exact idle.worked _ _ _
  obtain ⟨done, after, scans, scanRequests, flushedAfter, scanned⟩ :=
    advance_scans collectId scanId groups plain middleFiled (reliable.of_fails collected.fails)
      middleIdle _ found fun nothing => collected.pending_nil nothing flushed
  have advanced : (advance deployment 10 ⟨collectId, scanId, groups, .starting⟩).run books =
      (⟨collectId, scanId, groups, .finished⟩, after) := by
    have both := advance_add deployment 5 5 ⟨collectId, scanId, groups, .starting⟩ books
    rw [collects] at both
    exact both.trans scans
  have grows := Grows.steady.toRunning.advance deployment 5
    ⟨collectId, scanId, groups, .starting⟩ books
  rw [collects] at grows
  rw [settle_alone alone advanced rfl]
  exact ⟨done,
    .of_halves flushed grows.becomes collected collectRequests scanned scanRequests flushedAfter⟩

end CloudAudit.Pipeline
