import CloudAudit.Proofs.Scan.Sight
import CloudAudit.Proofs.World.Growth
/-!
# What a scan stores

A scan stores what its rules find on what they see, rule by rule and resource by resource. Nothing
else comes into the store, and what a scan answers is stored.
-/
set_option autoImplicit false

namespace CloudAudit

/-- An observation apart from when and under which identifier it was made. -/
def Observation.undated (observation : Observation) : Observation :=
  { observation with uid := "", timestamp := none }

/-- Choosing observations by what does not depend on when they were made. -/
theorem Observation.filter_undated {first second : List Observation} {holds : Observation → Bool}
    (same : first.map undated = second.map undated)
    (unread : ∀ observation, holds observation.undated = holds observation) :
    (first.filter holds).map undated = (second.filter holds).map undated := by
  have commutes : ∀ observations : List Observation,
      (observations.filter holds).map undated = (observations.map undated).filter holds := by
    intro observations
    rw [List.filter_map]
    exact congrArg (List.map _) (List.filter_congr fun observation _ => (unread observation).symm)
  rw [commutes, commutes, same]

/-- What a scan adds to observations does not depend on when they were made. -/
theorem Scan.map_stamp_undated (hierarchy : Hierarchy) (scanId collectId : String)
    (observations : List Observation) :
    (observations.map (stamp hierarchy scanId collectId)).map Observation.undated =
      (observations.map Observation.undated).map (stamp hierarchy scanId collectId) := by
  rw [List.map_map, List.map_map]
  rfl

/-- Observations made between two instants, each of them like a given one. -/
structure Made (start stop : Instant) (like made : List Observation) : Prop where
  undated : made.map Observation.undated = like.map Observation.undated
  within : ∀ observation ∈ made, ∃ time, observation.timestamp = some time ∧
    time.notBefore start = true ∧ stop.notBefore time = true

namespace Made

theorem nil (start stop : Instant) : Made start stop [] [] where
  undated := rfl
  within := by simp

theorem append {start middle next stop : Instant} {like more made added : List Observation}
    (first : Made start middle like made) (second : Made next stop more added)
    (before : next.notBefore start = true) (after : stop.notBefore middle = true) :
    Made start stop (like ++ more) (made ++ added) where
  undated := by rw [List.map_append, List.map_append, first.undated, second.undated]
  within := by
    intro observation member
    rcases List.mem_append.1 member with isOld | isNew
    · obtain ⟨time, dated, later, past⟩ := first.within observation isOld
      exact ⟨time, dated, later, Instant.notBefore_trans after past⟩
    · obtain ⟨time, dated, later, past⟩ := second.within observation isNew
      exact ⟨time, dated, Instant.notBefore_trans later before, past⟩

theorem widen {start stop earlier later : Instant} {like made : List Observation}
    (made_ : Made start stop like made) (before : start.notBefore earlier = true)
    (after : later.notBefore stop = true) : Made earlier later like made where
  undated := made_.undated
  within := by
    intro observation member
    obtain ⟨time, dated, isLater, past⟩ := made_.within observation member
    exact ⟨time, dated, Instant.notBefore_trans isLater before,
      Instant.notBefore_trans after past⟩

/-- What does not depend on when observations were made is the same of the given ones. -/
theorem map_eq {α : Type} {start stop : Instant} {like made : List Observation}
    (made_ : Made start stop like made) {view : Observation → α}
    (unread : ∀ observation, view observation.undated = view observation) :
    made.map view = like.map view := by
  have viewed : ∀ observations : List Observation,
      (observations.map Observation.undated).map view = observations.map view := by
    intro observations
    rw [List.map_map]
    exact List.map_congr_left fun observation _ => unread observation
  rw [← viewed, made_.undated, viewed]

theorem filter {start stop : Instant} {like made : List Observation}
    (made_ : Made start stop like made) {holds : Observation → Bool}
    (unread : ∀ observation, holds observation.undated = holds observation) :
    Made start stop (like.filter holds) (made.filter holds) where
  undated := Observation.filter_undated made_.undated unread
  within := fun observation member => made_.within observation (List.mem_filter.1 member).1

theorem exists_like {start stop : Instant} {like made : List Observation}
    (made_ : Made start stop like made) {α : Type} {view : Observation → α}
    (unread : ∀ observation, view observation.undated = view observation)
    {observation : Observation} (member : observation ∈ made) :
    ∃ given ∈ like, view given = view observation := by
  have viewed : view observation ∈ like.map view := by
    rw [← made_.map_eq unread]
    exact List.mem_map_of_mem member
  exact List.mem_map.1 viewed

theorem eq_nil {start stop : Instant} {made : List Observation}
    (made_ : Made start stop [] made) : made = [] :=
  List.map_eq_nil_iff.1 made_.undated

theorem map_stamp {start stop : Instant} {like made : List Observation}
    (made_ : Made start stop like made) (hierarchy : Hierarchy) (scanId collectId : String) :
    Made start stop (like.map (Scan.stamp hierarchy scanId collectId))
      (made.map (Scan.stamp hierarchy scanId collectId)) where
  undated := by rw [Scan.map_stamp_undated, Scan.map_stamp_undated, made_.undated]
  within := by
    intro observation member
    obtain ⟨plain, isPlain, rfl⟩ := List.mem_map.1 member
    exact made_.within plain isPlain

end Made

def Rule.findings (rule : Rule) (resource : Resource) : List Observation :=
  match rule.check resource with
  | .ok found => found
  | .error _ => []

namespace Scan

def judged (rule : Rule) (resources : List Resource) : List Observation :=
  resources.flatMap rule.findings

theorem clock {α : Type} {work : Work α} (along : Along Grows work) (books : Books) :
    (work.run books).2.supply.now.notBefore books.supply.now = true :=
  (along books).clock

theorem mapM_dated_made (found : List Observation) (books : Books) :
    Made books.supply.reading ((found.mapM dated).run books).2.supply.now found
      ((found.mapM dated).run books).1 := by
  induction found generalizing books with
  | nil => exact Made.nil _ _
  | cons observation found ih =>
    have first : Made books.supply.reading
        ((dated observation).run books).2.supply.now [observation]
        [((dated observation).run books).1] :=
      { undated := rfl
        within := by
          intro made member
          rw [List.mem_singleton] at member
          subst member
          exact ⟨_, rfl, Instant.notBefore_refl _, Instant.notBefore_refl _⟩ }
    have grows := Grows.steady.dated observation books
    have rest := ih ((dated observation).run books).2
    rw [List.mapM_cons]
    exact first.append rest grows.becomes.reading_notBefore
      (clock (Grows.steady.mapM Grows.steady.dated _) _)

theorem checkResources_made (rule : Rule) (resources : List Resource) (books : Books) :
    Made books.supply.reading
      ((checkResources rule resources).run books).2.supply.now (judged rule resources)
      ((checkResources rule resources).run books).1.observations := by
  induction resources generalizing books with
  | nil => exact Made.nil _ _
  | cons resource resources ih =>
    have judgedBoth : judged rule (resource :: resources) =
        rule.findings resource ++ judged rule resources := List.flatMap_cons
    rw [judgedBoth, Rule.findings]
    simp only [checkResources]
    cases checked : rule.check resource with
    | ok found =>
      have first := mapM_dated_made found books
      have grows := Grows.steady.mapM Grows.steady.dated found books
      have rest := ih ((found.mapM dated).run books).2
      exact first.append rest grows.becomes.reading_notBefore
        (clock (Grows.steady.checkResources _ _) _)
    | error error => exact ih books

theorem checkRuleOn_along {relation : Books → Books → Prop} (quiet : Quiet relation) (rule : Rule)
    (seen : List Resource) : Along relation (checkRuleOn rule seen) := by
  refine quiet.bind (quiet.act_bind (quiet.attempt _) fun _ => quiet.act_pure _) fun found => ?_
  split
  · exact quiet.checkResources _ _
  · exact quiet.pure _

theorem look_run {books : Books} (reliable : books.Reliable) (seen : List Resource) :
    (look seen).run.run books = (.ok seen, books.counted) := by
  have answers : books.failsAt .listResources = false := reliable _ _
  rw [look, Books.attempt_bind_run, answers]
  rfl

theorem checkRuleOn_made {books : Books} (reliable : books.Reliable) (rule : Rule)
    (seen : List Resource) :
    Made books.supply.reading ((checkRuleOn rule seen).run books).2.supply.now
      (judged rule seen) ((checkRuleOn rule seen).run books).1.observations := by
  rw [checkRuleOn, StateT.run_bind, look_run reliable]
  exact checkResources_made rule seen books.counted

theorem quiet_sameFails : Quiet fun old new => new.fails = old.fails :=
  .of_view Books.fails fun _ _ _ _ _ _ => rfl

theorem outcomes_made {books : Books} (reliable : books.Reliable) (rules : List Rule)
    (sight : Rule → List Resource) :
    Made books.supply.reading
      ((rules.mapM fun rule => checkRuleOn rule (sight rule)).run books).2.supply.now
      (rules.flatMap fun rule => judged rule (sight rule))
      (((rules.mapM fun rule => checkRuleOn rule (sight rule)).run books).1.flatMap
        Outcome.observations) := by
  induction rules generalizing books with
  | nil => exact Made.nil _ _
  | cons rule rules ih =>
    have first := checkRuleOn_made reliable rule (sight rule)
    have still := reliable.of_fails (checkRuleOn_along quiet_sameFails rule (sight rule) books)
    have grows := checkRuleOn_along Grows.steady.toQuiet rule (sight rule) books
    rw [List.mapM_cons]
    exact first.append (ih still) grows.becomes.reading_notBefore
      (clock (Grows.steady.mapM (fun rule => checkRuleOn_along Grows.steady.toQuiet _ _) _) _)

/-! ## Keeping -/

/-- Keep the observations of one rule, if there are any. -/
def keepStamped (stamped : List Observation) : Work (Except AuditError (List Observation)) :=
  if stamped.isEmpty then pure (.ok []) else (Books.addObservations stamped).run

/-- What comes of keeping observations: some of them are stored, all if the store does not fail, and
those handed back are among them. -/
structure Stores (books after : Books) (batch added : List Observation) : Prop where
  store : after.store = books.store.addObservations added
  fails : after.fails = books.fails
  supply : after.supply = books.supply
  sublist : added.Sublist batch
  complete : books.Reliable → added = batch

theorem keepStamped_stores (stamped : List Observation) (books : Books) :
    ∃ added, Stores books ((keepStamped stamped).run books).2 stamped added ∧
      ∀ kept, ((keepStamped stamped).run books).1 = .ok kept → kept.Sublist added := by
  rw [keepStamped]
  cases stamped with
  | nil =>
    refine ⟨[], ⟨rfl, rfl, rfl, List.Sublist.refl _, fun _ => rfl⟩, ?_⟩
    intro kept answer
    cases answer
    exact List.Sublist.refl _
  | cons first more =>
    rw [List.isEmpty_cons, if_neg Bool.false_ne_true, Books.addObservations_run]
    by_cases failing : books.failsAt .batchCreateObservations = true
    · rw [if_pos failing]
      refine ⟨[], ⟨rfl, rfl, rfl, List.nil_sublist _, ?_⟩, ?_⟩
      · intro reliable
        rw [Books.failsAt, reliable] at failing
        cases failing
      · intro kept answer
        cases answer
    · rw [if_neg failing]
      refine ⟨first :: more, ⟨rfl, rfl, rfl, List.Sublist.refl _, fun _ => rfl⟩, ?_⟩
      intro kept answer
      cases answer
      split
      · exact List.nil_sublist _
      · exact List.Sublist.refl _

theorem Stores.append {books middle after : Books} {batch more added others : List Observation}
    (first : Stores books middle batch added) (second : Stores middle after more others) :
    Stores books after (batch ++ more) (added ++ others) where
  store := by rw [second.store, first.store, Store.addObservations_append]
  fails := second.fails.trans first.fails
  supply := second.supply.trans first.supply
  sublist := first.sublist.append second.sublist
  complete := by
    intro reliable
    rw [first.complete reliable, second.complete (reliable.of_fails first.fails)]

theorem keepOutcomes_cons (hierarchy : Hierarchy) (scanId collectId : String) (outcome : Outcome)
    (outcomes : List Outcome) :
    keepOutcomes hierarchy scanId collectId (outcome :: outcomes) = do
      let kept ← keepStamped (outcome.observations.map (stamp hierarchy scanId collectId))
      let (observations, errors) ← keepOutcomes hierarchy scanId collectId outcomes
      match kept with
      | .ok kept => return (kept ++ observations, outcome.errors ++ errors)
      | .error error =>
        return (observations, outcome.errors ++ keepError outcome.rule error :: errors) := by
  rw [keepOutcomes, keepStamped]
  split <;> rfl

theorem keepOutcomes_stores (hierarchy : Hierarchy) (scanId collectId : String)
    (outcomes : List Outcome) (books : Books) :
    ∃ added,
      Stores books ((keepOutcomes hierarchy scanId collectId outcomes).run books).2
        ((outcomes.flatMap Outcome.observations).map (stamp hierarchy scanId collectId)) added ∧
      ((keepOutcomes hierarchy scanId collectId outcomes).run books).1.1.Sublist added := by
  induction outcomes generalizing books with
  | nil => exact ⟨[], ⟨rfl, rfl, rfl, List.Sublist.refl _, fun _ => rfl⟩, List.Sublist.refl _⟩
  | cons outcome outcomes ih =>
    let own := outcome.observations.map (stamp hierarchy scanId collectId)
    obtain ⟨added, first, keptOwn⟩ := keepStamped_stores own books
    obtain ⟨others, second, keptOthers⟩ := ih ((keepStamped own).run books).2
    rw [keepOutcomes_cons, StateT.run_bind, List.flatMap_cons, List.map_append]
    refine ⟨added ++ others, ?_⟩
    cases answer : (keepStamped own).run books with
    | mk kept middle =>
      rw [answer] at first keptOwn second keptOthers
      simp only [StateT.run_bind]
      cases kept with
      | ok kept =>
        exact ⟨first.append second, (keptOwn kept rfl).append keptOthers⟩
      | error error =>
        exact ⟨first.append second, keptOthers.trans (List.sublist_append_right _ _)⟩

/-! ## Whole scans -/

theorem scanId_of_mem_stamped {hierarchy : Hierarchy} {scanId collectId : String}
    {batch added : List Observation}
    (sublist : added.Sublist (batch.map (stamp hierarchy scanId collectId))) :
    ∀ found ∈ added, found.scanId = some scanId := by
  intro found member
  obtain ⟨observation, -, rfl⟩ := List.mem_map.1 (sublist.subset member)
  rfl

theorem logStatus_observations (scanId : String) (groups : List String)
    (status : OperationStatus) (books : Books) :
    ((logStatus scanId groups status).run books).2.store.observations =
      books.store.observations := by
  change ((Books.logGroups scanId groups .scan status).run.run books).2.store.observations = _
  rw [Books.logGroups_run, Books.log_run]
  split <;> rfl

theorem logStatus_run {books : Books} (reliable : books.Reliable) (scanId : String)
    (groups : List String) (status : OperationStatus) :
    (logStatus scanId groups status).run books = ((), books.logged scanId groups .scan status) := by
  rw [logStatus, StateT.run_bind, reliable.logGroups]
  rfl

theorem quiet_sameStore : Quiet fun old new => new.store = old.store :=
  .of_view Books.store fun _ _ _ _ _ _ => rfl

theorem conclude_stores (scanId collectId : String) (groups : List String)
    (skeletons : List Resource) (outcomes : List Outcome)
    (records : Except AuditError (List Resource)) (books : Books) :
    ∃ added kept,
      Stores books kept ((outcomes.flatMap Outcome.observations).map
        (stamp (hierarchy skeletons (records.toOption.getD [])) scanId collectId)) added ∧
      ((conclude scanId collectId groups skeletons outcomes records).run books).2 =
        ((logStatus scanId groups .completed).run kept).2 ∧
      ((conclude scanId collectId groups skeletons outcomes records).run books).1.1.Sublist
        added := by
  cases records with
  | ok records =>
    obtain ⟨added, stores, answered⟩ :=
      keepOutcomes_stores (hierarchy skeletons records) scanId collectId outcomes books
    exact ⟨added, _, stores, rfl, answered⟩
  | error error =>
    obtain ⟨added, stores, answered⟩ :=
      keepOutcomes_stores (hierarchy skeletons []) scanId collectId outcomes books
    exact ⟨added, _, stores, rfl, answered⟩

/-- Whatever fails in a scan, it only adds observations of its own, and answers some of those. -/
theorem checkRules_keeps (deployment : Deployment) (scanId collectId : String)
    (groups : List String) (skeletons : List Resource) (books : Books) :
    ∃ added,
      (∀ group,
        ((checkRules deployment scanId collectId groups skeletons).run books).2.store.stored group =
          books.store.stored group ++ added.filter (Store.isFiled group)) ∧
      ((checkRules deployment scanId collectId groups skeletons).run books).1.1.Sublist added ∧
      ∀ found ∈ added, found.scanId = some scanId := by
  let started := ((logStatus scanId groups .started).run books).2
  let checked := (deployment.rules.mapM fun rule =>
    checkRule rule collectId groups skeletons).run started
  let listed := (resourcesFor collectId groups [.resourceGroup] skeletons).run.run checked.2
  have sameStore : listed.2.store = started.store :=
    (quiet_sameStore.resourcesFor collectId groups [.resourceGroup] skeletons checked.2).trans
      (quiet_sameStore.mapM
        (fun rule => quiet_sameStore.checkRule rule collectId groups skeletons)
        deployment.rules started)
  have sameObservations : listed.2.store.observations = books.store.observations := by
    rw [sameStore]
    exact logStatus_observations scanId groups .started books
  obtain ⟨added, kept, stores, after, answered⟩ :=
    conclude_stores scanId collectId groups skeletons checked.1 listed.1 listed.2
  have result : (checkRules deployment scanId collectId groups skeletons).run books =
      (conclude scanId collectId groups skeletons checked.1 listed.1).run listed.2 := rfl
  refine ⟨added, ?_, ?_, scanId_of_mem_stamped stores.sublist⟩
  · intro group
    have grown := Store.stored_addObservations listed.2.store added group
    rw [← stores.store] at grown
    rw [result, after, Store.stored, logStatus_observations]
    rw [Store.stored, Store.stored, sameObservations] at grown
    exact grown
  · rw [result]
    exact answered

/-- What the rules find on what a scan sees of its groups, as the scan stores it. -/
def findings (deployment : Deployment) (store : Store) (scanId collectId : String)
    (groups : List String) (skeletons : List Resource) : List Observation :=
  let sight := sightOf store collectId groups skeletons
  (deployment.rules.flatMap fun rule => judged rule (sight rule.acceptedKinds)).map
    (stamp (hierarchy skeletons (sight [.resourceGroup])) scanId collectId)

theorem scanId_of_mem_findings {deployment : Deployment} {store : Store}
    {scanId collectId : String} {groups : List String} {skeletons : List Resource} :
    ∀ found ∈ findings deployment store scanId collectId groups skeletons,
      found.scanId = some scanId :=
  scanId_of_mem_stamped (List.Sublist.refl _)

section

variable (deployment : Deployment) (scanId : String) (groups : List String)
  (sight : List ResourceKind → List Resource) (books : Books)

/-- What the rules of a scan that begins answer, and the books after them. -/
def checkedOn : List Outcome × Books :=
  (deployment.rules.mapM fun rule => checkRuleOn rule (sight rule.acceptedKinds)).run
    (books.logged scanId groups .scan .started)

theorem checkedOn_store :
    (checkedOn deployment scanId groups sight books).2.store =
      books.store.log (Books.stamped scanId .scan .started books.supply.toClock groups) :=
  quiet_sameStore.mapM (fun rule => checkRuleOn_along quiet_sameStore rule _) deployment.rules _

variable {books} (reliable : books.Reliable)
include reliable

theorem checkedOn_reliable : (checkedOn deployment scanId groups sight books).2.Reliable := by
  have started : (books.logged scanId groups .scan .started).Reliable := reliable.of_fails rfl
  exact started.of_fails (quiet_sameFails.mapM
    (fun rule => checkRuleOn_along quiet_sameFails rule _) deployment.rules _)

theorem checkRulesOn_run (collectId : String) (skeletons : List Resource) :
    (checkRulesOn deployment scanId collectId groups skeletons sight).run books =
      (conclude scanId collectId groups skeletons
          (checkedOn deployment scanId groups sight books).1 (.ok (sight [.resourceGroup]))).run
        (checkedOn deployment scanId groups sight books).2.counted := by
  rw [checkRulesOn, StateT.run_bind, logStatus_run reliable]
  change ((look (sight [.resourceGroup])).run >>=
    conclude scanId collectId groups skeletons _ : Work _).run
      (checkedOn deployment scanId groups sight books).2 = _
  rw [StateT.run_bind, look_run (checkedOn_reliable deployment scanId groups sight reliable)]
  rfl

end

/-- What a scan stores when the store does not fail. -/
theorem checkRules_stores {books : Books} (filed : books.store.Filed)
    (reliable : books.Reliable) {groups : List String} (distinct : groups.Nodup)
    (deployment : Deployment) (scanId collectId : String) (skeletons : List Resource) :
    ∃ added, ∃ clock : Clock,
      ((checkRules deployment scanId collectId groups skeletons).run books).2.store =
        ((books.store.log (Books.stamped scanId .scan .started books.supply.toClock groups)
          ).addObservations added).log (Books.stamped scanId .scan .completed clock groups) ∧
      ((checkRules deployment scanId collectId groups skeletons).run books).2.supply.now.notBefore
        clock.now = true ∧
      Made books.supply.reading clock.now
        (findings deployment books.store scanId collectId groups skeletons) added := by
  let sight := sightOf books.store collectId groups skeletons
  let checked := checkedOn deployment scanId groups sight books
  have checkedReliable : checked.2.Reliable :=
    checkedOn_reliable deployment scanId groups sight reliable
  obtain ⟨added, kept, stores, after, -⟩ :=
    conclude_stores scanId collectId groups skeletons checked.1 (.ok (sight [.resourceGroup]))
      checked.2.counted
  have keptReliable : kept.Reliable := checkedReliable.of_fails stores.fails
  have result : ((checkRules deployment scanId collectId groups skeletons).run books).2 =
      kept.logged scanId groups .scan .completed := by
    rw [checkRules_eq_on filed distinct, checkRulesOn_run _ _ _ _ reliable, after,
      logStatus_run keptReliable]
  have startedReliable : (books.logged scanId groups .scan .started).Reliable :=
    reliable.of_fails rfl
  have startedReading : (books.logged scanId groups .scan .started).supply.reading.notBefore
      books.supply.reading = true :=
    (Clock.Becomes.turns books.supply.toClock groups.length).reading_notBefore
  have keptSupply : kept.supply = checked.2.supply := stores.supply
  refine ⟨added, kept.supply.toClock, ?_, ?_, ?_⟩
  · rw [result]
    change kept.store.log _ = _
    rw [stores.store]
    change (checked.2.store.addObservations added).log _ = _
    rw [checkedOn_store]
  · rw [result]
    exact (Clock.Becomes.turns kept.supply.toClock groups.length).now_notBefore
  · have made := outcomes_made startedReliable deployment.rules
      fun rule => sight rule.acceptedKinds
    rw [stores.complete checkedReliable, keptSupply]
    exact (made.map_stamp _ scanId collectId).widen startedReading (Instant.notBefore_refl _)

end Scan

end CloudAudit
