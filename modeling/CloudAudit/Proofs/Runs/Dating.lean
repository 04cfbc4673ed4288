import CloudAudit.Proofs.Runs.Starting
import CloudAudit.Proofs.Scan.Findings
import CloudAudit.Proofs.World.Moments
/-!
# When observations are dated

An observation that is stored is dated, if at all, no earlier than what was stored before. So no
dated observation is stored twice where the clock ticks.
-/
set_option autoImplicit false

namespace CloudAudit

/-- Whether an observation is not dated, or not before one instant and not after another one. -/
def Observation.DatedIn (start stop : Instant) (observation : Observation) : Prop :=
  ∀ time, observation.timestamp = some time →
    time.notBefore start = true ∧ stop.notBefore time = true

theorem Observation.DatedIn.widen {start stop earlier later : Instant} {observation : Observation}
    (dated : observation.DatedIn start stop) (before : start.notBefore earlier = true)
    (after : later.notBefore stop = true) : observation.DatedIn earlier later := by
  intro time stamped
  obtain ⟨young, past⟩ := dated time stamped
  exact ⟨Instant.notBefore_trans young before, Instant.notBefore_trans after past⟩

/-- Later books whose further observations are dated in between. -/
structure Dates (old new : Books) : Prop where
  becomes : old.supply.Becomes new.supply.toClock
  observations : ∀ group, ∃ added, new.store.stored group = old.store.stored group ++ added ∧
    ∀ observation ∈ added, observation.DatedIn old.supply.reading new.supply.now

namespace Dates

theorem clock {old new : Books} (dates : Dates old new) :
    new.supply.now.notBefore old.supply.now = true :=
  dates.becomes.now_notBefore

theorem unchanged {old new : Books} (becomes : old.supply.Becomes new.supply.toClock)
    (same : new.store.observations = old.store.observations) : Dates old new where
  becomes := becomes
  observations group := ⟨[], by simp [Store.stored, same], by simp⟩

theorem trans {first second third : Books} (one : Dates first second) (two : Dates second third) :
    Dates first third where
  becomes := one.becomes.trans two.becomes
  observations group := by
    obtain ⟨added, addedEq, dated⟩ := one.observations group
    obtain ⟨more, moreEq, moreDated⟩ := two.observations group
    refine ⟨added ++ more, by rw [moreEq, addedEq, List.append_assoc], ?_⟩
    intro observation member
    rcases List.mem_append.1 member with isOld | isNew
    · exact (dated observation isOld).widen (Instant.notBefore_refl _) two.clock
    · exact (moreDated observation isNew).widen one.becomes.reading_notBefore
        (Instant.notBefore_refl _)

theorem of_undisturbed {old new : Books} (same : Undisturbed old new) : Dates old new :=
  unchanged same.becomes (congrArg Store.observations same.store)

theorem quiet : Quiet Dates where
  refl _ := unchanged (.refl _) rfl
  trans := trans
  readClock books := of_undisturbed (Undisturbed.quiet.readClock books)
  mintId books := of_undisturbed (Undisturbed.quiet.mintId books)
  attempt call books := of_undisturbed (Undisturbed.quiet.attempt call books)
  changeExceptions _ _ := unchanged (.refl _) rfl
  changeDeliveries _ _ := unchanged (.refl _) rfl
  changePermits _ _ := unchanged (.refl _) rfl

theorem logGroups (id : String) (groups : List String) (kind : OperationKind)
    (status : OperationStatus) :
    Along Dates (Books.logGroups id groups kind status).run := by
  intro books
  refine unchanged (Grows.steady.logGroups id groups kind status books).becomes ?_
  rw [Books.logGroups_run, Books.log_run]
  split <;> rfl

/-- Storing a batch that was dated since some earlier books. -/
theorem keep {old books new : Books} (dates : Dates old books) {batch : List Observation}
    (stored : new.store = books.store.addObservations batch)
    (becomes : books.supply.Becomes new.supply.toClock)
    (dated : ∀ observation ∈ batch, observation.DatedIn old.supply.reading new.supply.now) :
    Dates old new where
  becomes := dates.becomes.trans becomes
  observations group := by
    obtain ⟨added, addedEq, within⟩ := dates.observations group
    refine ⟨added ++ batch.filter (Store.isFiled group), ?_, ?_⟩
    · rw [stored, Store.stored_addObservations, addedEq, List.append_assoc]
    · intro observation member
      rcases List.mem_append.1 member with isOld | isNew
      · exact (within observation isOld).widen (Instant.notBefore_refl _) becomes.now_notBefore
      · exact dated observation (List.mem_filter.1 isNew).1

/-! ## Where observations come from -/

theorem checkRule_dated (rule : Rule) (collectId : String) (groups : List String)
    (skeletons : List Resource) (books : Books) :
    ∀ observation ∈ ((Scan.checkRule rule collectId groups skeletons).run books).1.observations,
      observation.DatedIn books.supply.reading
        ((Scan.checkRule rule collectId groups skeletons).run books).2.supply.now := by
  have becomes := (quiet.resourcesFor collectId groups rule.acceptedKinds skeletons books).becomes
  rw [Scan.checkRule, StateT.run_bind]
  cases ran : (Scan.resourcesFor collectId groups rule.acceptedKinds skeletons).run.run books with
  | mk answer middle =>
    rw [ran] at becomes
    cases answer with
    | ok resources =>
      intro observation member time stamped
      obtain ⟨made, dated, young, past⟩ :=
        (Scan.checkResources_made rule resources middle).within observation member
      obtain rfl : made = time := Option.some.inj (dated.symm.trans stamped)
      exact ⟨Instant.notBefore_trans young becomes.reading_notBefore, past⟩
    | error error =>
      intro observation member
      cases member

theorem outcomes_dated (rules : List Rule) (collectId : String) (groups : List String)
    (skeletons : List Resource) (books : Books) :
    ∀ observation ∈ ((rules.mapM fun rule =>
        Scan.checkRule rule collectId groups skeletons).run books).1.flatMap
          Scan.Outcome.observations,
      observation.DatedIn books.supply.reading ((rules.mapM fun rule =>
        Scan.checkRule rule collectId groups skeletons).run books).2.supply.now := by
  induction rules generalizing books with
  | nil =>
    intro observation member
    cases member
  | cons rule rules ih =>
    have first := checkRule_dated rule collectId groups skeletons books
    have begun := (quiet.checkRule rule collectId groups skeletons books).becomes
    have rest := ih ((Scan.checkRule rule collectId groups skeletons).run books).2
    have ended := (quiet.mapM (fun rule => quiet.checkRule rule collectId groups skeletons) rules
      ((Scan.checkRule rule collectId groups skeletons).run books).2).clock
    rw [List.mapM_cons]
    intro observation member
    rcases List.mem_append.1 member with isFirst | isRest
    · exact (first observation isFirst).widen (Instant.notBefore_refl _) ended
    · exact (rest observation isRest).widen begun.reading_notBefore (Instant.notBefore_refl _)

theorem checkRules (deployment : Deployment) (scanId collectId : String) (groups : List String)
    (skeletons : List Resource) :
    Along Dates (Scan.checkRules deployment scanId collectId groups skeletons) := by
  intro books
  let started := ((Scan.logStatus scanId groups .started).run books).2
  let checked := (deployment.rules.mapM fun rule =>
    Scan.checkRule rule collectId groups skeletons).run started
  let listed := (Scan.resourcesFor collectId groups [.resourceGroup] skeletons).run.run checked.2
  have logs : ∀ status, Along Dates (Scan.logStatus scanId groups status) := fun status =>
    quiet.bind (logGroups scanId groups .scan status) fun _ => quiet.pure _
  have toStart := logs .started books
  have toChecked := quiet.mapM (fun rule => quiet.checkRule rule collectId groups skeletons)
    deployment.rules started
  have toListed := quiet.resourcesFor collectId groups [.resourceGroup] skeletons checked.2
  obtain ⟨added, kept, stores, after, -⟩ :=
    Scan.conclude_stores scanId collectId groups skeletons checked.1 listed.1 listed.2
  have result : (Scan.checkRules deployment scanId collectId groups skeletons).run books =
      (Scan.conclude scanId collectId groups skeletons checked.1 listed.1).run listed.2 := rfl
  rw [result, after]
  refine trans ?_ (logs .completed kept)
  have sameClock : listed.2.supply.Becomes kept.supply.toClock := by
    rw [stores.supply]
    exact .refl _
  refine keep (toStart.trans (toChecked.trans toListed)) stores.store sameClock ?_
  intro observation member
  obtain ⟨plain, isPlain, rfl⟩ := List.mem_map.1 (stores.sublist.subset member)
  have dated := outcomes_dated deployment.rules collectId groups skeletons started plain isPlain
  exact Observation.DatedIn.widen dated toStart.becomes.reading_notBefore
    (Instant.notBefore_trans sameClock.now_notBefore toListed.clock)

theorem keepSnapshots (deployment : Deployment) (collectId : String) (groups : List String)
    (skeletons : List Resource) :
    Along Dates (Collector.keepSnapshots deployment collectId groups skeletons).run := by
  have keeps : ∀ batch, Along Dates (Books.addResources batch).run := by
    intro batch
    refine quiet.act_bind (quiet.attempt _) fun _ => quiet.act_bind ?_ fun _ => quiet.act_pure _
    exact fun books => unchanged (.refl _) rfl
  refine quiet.act_bind (logGroups _ _ _ _) fun _ => ?_
  refine quiet.act_bind (quiet.act_lift quiet.readClock) fun now => ?_
  refine quiet.act_bind (quiet.settled _) fun snapshots => ?_
  exact quiet.act_bind (keeps _) fun _ => logGroups _ _ _ _

theorem addObservations {old books : Books} (dates : Dates old books) {batch : List Observation}
    (dated : ∀ observation ∈ batch, observation.DatedIn old.supply.reading books.supply.now) :
    Dates old ((Books.addObservations batch).run.run books).2 := by
  rw [Books.addObservations_run]
  split
  · exact dates.trans (unchanged (.refl _) rfl)
  · exact keep dates rfl (.refl _) dated

theorem collect (deployment : Deployment) (collectId : String) (groups : List String)
    (skeletons : List Resource) :
    Along Dates (Collector.collect deployment collectId groups skeletons).run := by
  have snapshots := keepSnapshots deployment collectId groups skeletons
  unfold Collector.collect
  split
  · exact snapshots
  · exact quiet.act_throw _
  · exact quiet.act_throw _
  · refine quiet.act_bind snapshots fun _ => quiet.act_bind ?_ fun _ => quiet.act_pure _
    intro books
    -- What the collector reports bears no date.
    refine addObservations (quiet.refl books) fun observation member time stamped => ?_
    obtain ⟨group, -, rfl⟩ := List.mem_map.1 member
    cases stamped
  · refine quiet.act_bind (quiet.act_lift ?_) fun _ => snapshots
    exact fun books => quiet.changePermits books _

theorem createObservation (report : Observation) :
    Along Dates (Service.createObservation report).run := by
  have named : Along Dates (Service.reportUid report.uid) := by
    unfold Service.reportUid
    split
    · exact quiet.mintId
    · exact quiet.pure _
  refine quiet.act_bind (quiet.settled _) fun _ => ?_
  refine quiet.act_bind (quiet.listResources _) fun found => ?_
  refine quiet.act_bind (quiet.settled _) fun resource => ?_
  refine quiet.act_bind (quiet.act_lift named) fun uid => ?_
  intro books
  -- What is made of the stored observations afterwards changes no books.
  have handsBack : ∀ batch, ((Books.addObservations batch >>= fun stored =>
      Books.settled (Service.onlyStored stored)).run.run (books.ticked 1)).2 =
        ((Books.addObservations batch).run.run (books.ticked 1)).2 := by
    intro batch
    rw [ExceptT.run_bind, StateT.run_bind]
    cases (Books.addObservations batch).run.run (books.ticked 1) with
    | mk answer after => cases answer <;> rfl
  rw [Books.bind_run_ok books.readClock_run, handsBack]
  refine addObservations (quiet.readClock books) fun observation member time stamped => ?_
  rw [List.mem_singleton] at member
  subst member
  cases stamped
  exact ⟨Instant.notBefore_refl _, Instant.notBefore_refl _⟩

theorem working : Working Dates where
  toQuiet := quiet
  collect := collect
  checkRules := checkRules
  moveLog _ := unchanged (.refl _) rfl
  changeRequests _ _ := unchanged (.refl _) rfl

theorem lasting (deployment : Deployment) (start : Books) :
    Lasting deployment fun _ _ books => Dates start books where
  step dates _ := dates.trans (working.step deployment _ _)
  leave dates _ := dates
  underWay dates _ := dates.trans (unchanged (.refl _) rfl)
  permits dates _ := dates.trans (unchanged (.refl _) rfl)
  disturb dates _ _ := dates.trans (unchanged (.refl _) rfl)
  call := by
    intro past books caller request dates
    refine dates.trans ?_
    cases asks : request.asksForRun with
    | false => exact quiet.perform createObservation working.status deployment caller asks books
    | true =>
      rcases request.perform_run deployment caller asks books with
        same | refused | ⟨groups, started⟩
      · rw [same]
        exact quiet.refl books
      · rw [refused]
        exact unchanged (.refl _) rfl
      · rw [started]
        exact unchanged (.refl _) rfl

/-- Whatever happens, further observations are dated in the meantime. -/
theorem after (deployment : Deployment) (books : Books) (events : List Event) :
    Dates books (books.after deployment events) :=
  @Lasting.after deployment _ (lasting deployment books) events [] books (quiet.refl books)

/-- Where the clock ticks, no observation of the past is stored again. -/
theorem count_stored {old new : Books} (dates : Dates old new) (ticks : old.supply.Ticks)
    {observation : Observation}
    {time : Instant} (stamped : observation.timestamp = some time)
    (past : old.supply.now.notBefore time = true) (group : String) :
    (new.store.stored group).count observation = (old.store.stored group).count observation := by
  obtain ⟨added, addedEq, dated⟩ := dates.observations group
  have absent : observation ∉ added := by
    intro member
    have young := (dated observation member time stamped).1
    rw [Instant.notBefore_iff] at past
    exact past (Instant.after_of_notBefore_of_after young ticks.reading_after)
  rw [addedEq, List.count_append, List.count_eq_zero_of_not_mem absent, Nat.add_zero]

/-- Nothing that is stored is dated in the future. -/
theorem past_stored (deployment : Deployment) (supply : Supply) (events : List Event)
    (group : String) :
    ∀ observation ∈ ((Books.fresh supply).after deployment events).store.stored group,
      ∀ time, observation.timestamp = some time →
        ((Books.fresh supply).after deployment events).supply.now.notBefore time = true := by
  obtain ⟨added, addedEq, dated⟩ :=
    (Dates.after deployment (Books.fresh supply) events).observations group
  rw [addedEq]
  intro observation member time stamped
  exact (dated observation member time stamped).2

end Dates

end CloudAudit
