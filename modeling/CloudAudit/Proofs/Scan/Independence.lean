import CloudAudit.Proofs.Scan.Findings
/-!
# Rules do not depend on each other

A scan answers and stores what each of its rules finds on each resource that it looks at, and one
error for each on which a rule fails, in the order of the rules. So a scan by some rules and then
others answers what the two scans of the same store answer, one behind the other.
-/
set_option autoImplicit false

namespace CloudAudit

/-- Books that hold a store. No call on it fails, and it hands back what it keeps. -/
structure Books.Serves (books : Books) (store : Store) : Prop where
  store : books.store = store
  reliable : books.Reliable
  keeps : books.losesCreated = false

theorem quiet_serves : Quiet fun old new => ∀ store, old.Serves store → new.Serves store where
  refl _ _ serves := serves
  trans one two store serves := two store (one store serves)
  readClock _ _ serves := ⟨serves.store, serves.reliable, serves.keeps⟩
  mintId _ _ serves := ⟨serves.store, serves.reliable, serves.keeps⟩
  attempt call books store serves := by
    rw [Books.attempt_run]
    exact ⟨serves.store, serves.reliable, serves.keeps⟩
  changeExceptions _ _ _ serves := ⟨serves.store, serves.reliable, serves.keeps⟩
  changeDeliveries _ _ _ serves := ⟨serves.store, serves.reliable, serves.keeps⟩
  changePermits _ _ _ serves := ⟨serves.store, serves.reliable, serves.keeps⟩

def Rule.faults (rule : Rule) (resource : Resource) : List AuditError :=
  match rule.check resource with
  | .ok _ => []
  | .error error => [Scan.ruleError rule resource error]

namespace Scan

/-! ## How often a scan looks at a resource -/

theorem collectionOf_again {earlier candidates : List Resource} (nonempty : candidates ≠ [])
    (among : ∀ resource ∈ earlier, resource ∈ candidates) (collectId : String) :
    collectionOf collectId (earlier ++ candidates) = collectionOf collectId candidates := by
  have known : ∀ resource ∈ earlier ++ candidates, resource ∈ candidates := by
    intro resource member
    exact (List.mem_append.1 member).elim (among resource) id
  have total : ∀ first second : Resource,
      ¬ isNewer first second = true → isNewer second first = true := by
    intro first second notNewer
    simp only [isNewer, Bool.not_eq_true', Bool.not_eq_false] at notNewer ⊢
    exact Bool.eq_false_iff.2 (Instant.laterStamp_asymm notNewer)
  rcases collectionOf_cases nonempty collectId with
    ⟨⟨resource, member, same⟩, own⟩ | ⟨others, found, picked, own⟩
  · rcases collectionOf_cases (List.append_ne_nil_of_right_ne_nil earlier nonempty) collectId with
      ⟨-, again⟩ | ⟨others, -⟩
    · exact again.trans own.symm
    · exact absurd same (others resource (List.mem_append_right _ member))
  · rcases collectionOf_cases (List.append_ne_nil_of_right_ne_nil earlier nonempty) collectId with
      ⟨⟨resource, member, same⟩, -⟩ | ⟨-, again, pickedAgain, ownAgain⟩
    · exact absurd same (others resource (known resource member))
    · have still : Picked isNewer (earlier ++ candidates) found := by
        have best := fun other isOther => picked.replaces_of_mem total (among other isOther)
        obtain ⟨before, after, rfl, older, newer⟩ := picked
        refine ⟨earlier ++ before, after, (List.append_assoc _ _ _).symm, ?_, newer⟩
        intro other isOther
        exact (List.mem_append.1 isOther).elim (best other) (older other)
      rw [ownAgain, own, pickedAgain.unique still]

theorem collectionOf_replicate {candidates : List Resource} (nonempty : candidates ≠ [])
    (count : Nat) (collectId : String) :
    collectionOf collectId (List.replicate (count + 1) candidates).flatten =
      collectionOf collectId candidates := by
  rw [List.replicate_succ', List.flatten_append, List.flatten_singleton]
  apply collectionOf_again nonempty
  intro resource member
  obtain ⟨block, isBlock, inside⟩ := List.mem_flatten.1 member
  rwa [(List.mem_replicate.1 isBlock).2] at inside

theorem ofGroup_of_own {stored candidates : List Resource} {group : String}
    (own : (stored.filter fun resource => resource.resourceGroupName == group) = candidates)
    (nonempty : candidates ≠ []) (collectId : String) (kinds : List ResourceKind)
    (skeletons : List Resource) :
    ofGroup stored collectId kinds skeletons group =
      candidates.filter fun resource =>
        resource.collectionUid == collectionOf collectId candidates := by
  rw [ofGroup, own]
  cases candidates with
  | nil => exact absurd rfl nonempty
  | cons first more => rfl

/-- A scan looks at what is visible of a group once for each time that the group is named, and for
each of these as often again. At skeletons it looks once for each time. -/
theorem lookedAt_eq {store : Store} (filed : store.Filed) (collectId : String)
    (groups : List String) (skeletons : List Resource) (kinds : List ResourceKind) :
    lookedAt store collectId groups skeletons kinds = groups.flatMap fun group =>
      if accepted store kinds group = [] then visible store collectId kinds skeletons group
      else (List.replicate (groups.count group)
        (visible store collectId kinds skeletons group)).flatten := by
  rw [lookedAt, ofGroups, List.filter_flatMap]
  apply List.flatMap_congr
  intro group named
  have own : ∀ group ∈ groups, ∀ resource ∈ accepted store kinds group,
      resource.resourceGroupName = group := fun group _ => accepted_own filed kinds group
  have repeated := Store.filter_flatMap_repeated Resource.resourceGroupName own group
  -- The store lists a group once for each time that it is named, but skeletons are not stored.
  by_cases nothing : accepted store kinds group = []
  · rw [if_pos nothing]
    refine ofGroup_congr (repeated.trans ?_) collectId kinds skeletons
    rw [filter_accepted filed, nothing, List.flatten_replicate_nil]
  · rw [if_neg nothing, visible_eq filed, if_neg nothing]
    obtain ⟨count, isCount⟩ :=
      Nat.exists_eq_add_one_of_ne_zero (Nat.ne_of_gt (List.count_pos_iff.2 named))
    have several : (List.replicate (count + 1) (accepted store kinds group)).flatten ≠ [] := by
      rw [List.replicate_succ, List.flatten_cons]
      exact List.append_ne_nil_of_left_ne_nil nothing _
    rw [isCount] at repeated ⊢
    have looked := ofGroup_of_own repeated several collectId kinds skeletons
    rw [collectionOf_replicate nothing, List.filter_flatten, List.map_replicate] at looked
    exact looked

theorem lookedAt_distinct {store : Store} (filed : store.Filed) {groups : List String}
    (distinct : groups.Nodup) (collectId : String) (skeletons : List Resource)
    (kinds : List ResourceKind) :
    lookedAt store collectId groups skeletons kinds =
      groups.flatMap (visible store collectId kinds skeletons) :=
  ofGroups_listed filed distinct collectId kinds skeletons

/-! ## What rules answer -/

/-- An outcome of a rule on resources: what it finds on each, and an error for each on which it
fails. -/
structure Answers (rule : Rule) (resources : List Resource) (outcome : Outcome) : Prop where
  observations : outcome.observations.map Observation.undated =
    (judged rule resources).map Observation.undated
  errors : outcome.errors = resources.flatMap rule.faults

theorem checkResources_answers (rule : Rule) (resources : List Resource) (books : Books) :
    Answers rule resources ((checkResources rule resources).run books).1 where
  observations := (checkResources_made rule resources books).undated
  errors := by
    induction resources generalizing books with
    | nil => rfl
    | cons resource resources ih =>
      rw [List.flatMap_cons, Rule.faults]
      simp only [checkResources]
      cases rule.check resource with
      | ok found => exact ih ((found.mapM dated).run books).2
      | error error => exact congrArg (List.cons _) (ih books)

section

variable {store : Store} {books : Books} (serves : books.Serves store) (collectId : String)
  (groups : List String) (skeletons : List Resource)
include serves

theorem resourcesFor_serves (kinds : List ResourceKind) :
    (resourcesFor collectId groups kinds skeletons).run.run books =
      (.ok (lookedAt store collectId groups skeletons kinds), books.counted) := by
  have answers : books.failsAt .listResources = false := serves.reliable _ _
  rw [resourcesFor_lookedAt, answers, serves.store]
  rfl

theorem checkRule_answers (rule : Rule) :
    Answers rule (lookedAt store collectId groups skeletons rule.acceptedKinds)
      ((checkRule rule collectId groups skeletons).run books).1 := by
  rw [checkRule, StateT.run_bind, resourcesFor_serves serves]
  exact checkResources_answers rule _ _

theorem mapM_answers (rules : List Rule) :
    List.Forall₂
      (fun rule => Answers rule (lookedAt store collectId groups skeletons rule.acceptedKinds))
      rules ((rules.mapM fun rule => checkRule rule collectId groups skeletons).run books).1 := by
  induction rules generalizing books with
  | nil => exact .nil
  | cons rule rules ih =>
    rw [List.mapM_cons]
    have first := checkRule_answers serves collectId groups skeletons rule
    have still := quiet_serves.checkRule rule collectId groups skeletons books store serves
    exact .cons first (ih still)

end

theorem keepStamped_serves {store : Store} {books : Books} (serves : books.Serves store)
    (stamped : List Observation) :
    ∃ after, (keepStamped stamped).run books = (.ok stamped, after) ∧
      after.Serves (store.addObservations stamped) := by
  cases stamped with
  | nil => exact ⟨books, rfl, serves⟩
  | cons first more =>
    have writes : books.failsAt .batchCreateObservations = false := serves.reliable _ _
    refine ⟨{ books.counted with store := books.store.addObservations (first :: more) }, ?_, ?_⟩
    · rw [keepStamped, List.isEmpty_cons, if_neg Bool.false_ne_true,
        Books.addObservations_run, writes, serves.keeps]
      rfl
    · exact ⟨by rw [serves.store], serves.reliable, serves.keeps⟩

theorem keepOutcomes_serves {store : Store} {books : Books} (serves : books.Serves store)
    (hierarchy : Hierarchy) (scanId collectId : String) (outcomes : List Outcome) :
    ∃ kept after,
      kept = (outcomes.flatMap Outcome.observations).map (stamp hierarchy scanId collectId) ∧
      (keepOutcomes hierarchy scanId collectId outcomes).run books =
        ((kept, outcomes.flatMap Outcome.errors), after) ∧
      after.Serves (store.addObservations kept) := by
  induction outcomes generalizing store books with
  | nil => exact ⟨[], books, rfl, rfl, serves⟩
  | cons outcome outcomes ih =>
    let own := outcome.observations.map (stamp hierarchy scanId collectId)
    obtain ⟨middle, ran, still⟩ := keepStamped_serves serves own
    obtain ⟨kept, after, isKept, ranOn, atLast⟩ := ih still
    refine ⟨own ++ kept, after, ?_, ?_, ?_⟩
    · rw [isKept, List.flatMap_cons, List.map_append]
    · rw [keepOutcomes_cons, StateT.run_bind, ran]
      change (keepOutcomes hierarchy scanId collectId outcomes >>= _ : Work _).run middle = _
      rw [StateT.run_bind, ranOn, List.flatMap_cons]
      rfl
    · rwa [Store.addObservations_append] at atLast

/-! ## Whole scans -/

/-- What a scan by some rules answers and leaves in a store: all that they find and store, and
an error for each look at a resource on which a rule fails. -/
structure Scanned (store : Store) (rules : List Rule) (scanId collectId : String)
    (groups : List String) (skeletons : List Resource)
    (result : (List Observation × List AuditError) × Books) : Prop where
  observations : result.1.1.map Observation.undated =
    ((rules.flatMap fun rule =>
      (lookedAt store collectId groups skeletons rule.acceptedKinds).flatMap rule.findings).map
        (stamp (hierarchy skeletons
          (lookedAt store collectId groups skeletons [.resourceGroup])) scanId collectId)).map
      Observation.undated
  errors : result.1.2 = rules.flatMap fun rule =>
    (lookedAt store collectId groups skeletons rule.acceptedKinds).flatMap rule.faults
  stored : ∀ group, result.2.store.stored group =
    store.stored group ++ result.1.1.filter (Store.isFiled group)
  stamped : ∀ found ∈ result.1.1,
    found.scanId = some scanId ∧ (∃ collection, found.collectionId = some collection) ∧
      found.impact = ((hierarchy skeletons
        (lookedAt store collectId groups skeletons [.resourceGroup])).impact
          found.groupName).1 ∧
      found.riskScore = found.severity.weighted found.impact

theorem logged_serves {store : Store} {books : Books} (serves : books.Serves store)
    (scanId : String) (groups : List String) (status : OperationStatus) :
    (books.logged scanId groups .scan status).Serves
      (store.log (Books.stamped scanId .scan status books.supply.toClock groups)) :=
  ⟨by rw [← serves.store]; rfl, serves.reliable, serves.keeps⟩

theorem flatMap_answers {rules : List Rule} {outcomes : List Outcome}
    {seen : Rule → List Resource}
    (answered : List.Forall₂ (fun rule => Answers rule (seen rule)) rules outcomes) :
    (outcomes.flatMap Outcome.observations).map Observation.undated =
        (rules.flatMap fun rule => judged rule (seen rule)).map Observation.undated ∧
      outcomes.flatMap Outcome.errors =
        rules.flatMap fun rule => (seen rule).flatMap rule.faults := by
  induction answered with
  | nil => exact ⟨rfl, rfl⟩
  | cons first _ ih =>
    simp only [List.flatMap_cons, List.map_append, first.observations, first.errors, ih, and_self]

/-- A scan keeps and hands back all that its rules answer, with the impacts of their groups. -/
theorem scan_run {store : Store} {books : Books} (serves : books.Serves store)
    (rules : List Rule) (scanId collectId : String) (groups : List String)
    (skeletons : List Resource) :
    ∃ outcomes kept after,
      List.Forall₂
        (fun rule => Answers rule (lookedAt store collectId groups skeletons rule.acceptedKinds))
        rules outcomes ∧
      kept = (outcomes.flatMap Outcome.observations).map (stamp (hierarchy skeletons
        (lookedAt store collectId groups skeletons [.resourceGroup])) scanId collectId) ∧
      (scan rules scanId collectId groups skeletons).run books =
        ((kept, outcomes.flatMap Outcome.errors), after) ∧
      ∀ group, after.store.stored group =
        store.stored group ++ kept.filter (Store.isFiled group) := by
  let risks := hierarchy skeletons (lookedAt store collectId groups skeletons [.resourceGroup])
  have started := logged_serves serves scanId groups .started
  let checked := (rules.mapM fun rule => checkRule rule collectId groups skeletons).run
    (books.logged scanId groups .scan .started)
  have answers := mapM_answers started collectId groups skeletons rules
  have still : checked.2.Serves _ :=
    quiet_serves.mapM (fun rule => quiet_serves.checkRule rule collectId groups skeletons)
      rules _ _ started
  have listed := resourcesFor_serves still collectId groups skeletons [.resourceGroup]
  have counted : checked.2.counted.Serves _ := ⟨still.store, still.reliable, still.keeps⟩
  obtain ⟨kept, after, isKept, ran, atLast⟩ :=
    keepOutcomes_serves counted risks scanId collectId checked.1
  refine ⟨checked.1, kept, after.logged scanId groups .scan .completed, answers, isKept, ?_, ?_⟩
  · rw [scan, StateT.run_bind, logStatus_run serves.reliable]
    change (rules.mapM _ >>= _ : Work _).run _ = _
    rw [StateT.run_bind]
    change ((resourcesFor _ _ _ _).run >>= _ : Work _).run checked.2 = _
    rw [StateT.run_bind, listed]
    change (keepOutcomes risks scanId collectId checked.1 >>= _ : Work _).run _ = _
    rw [StateT.run_bind, ran]
    change (logStatus _ _ _ >>= _ : Work _).run _ = _
    rw [StateT.run_bind, logStatus_run atLast.reliable]
    rfl
  · intro group
    change after.store.stored group = _
    rw [atLast.store]
    exact Store.stored_addObservations _ kept group

theorem scan_scanned {store : Store} {books : Books} (serves : books.Serves store)
    (rules : List Rule) (scanId collectId : String) (groups : List String)
    (skeletons : List Resource) :
    Scanned store rules scanId collectId groups skeletons
      ((scan rules scanId collectId groups skeletons).run books) := by
  obtain ⟨outcomes, kept, after, answered, isKept, ran, stored⟩ :=
    scan_run serves rules scanId collectId groups skeletons
  obtain ⟨found, faults⟩ := flatMap_answers answered
  rw [ran]
  constructor
  · change kept.map Observation.undated = _
    rw [isKept, map_stamp_undated, found, ← map_stamp_undated]
    rfl
  · exact faults
  · exact stored
  · intro observation member
    change observation ∈ kept at member
    rw [isKept] at member
    obtain ⟨plain, -, rfl⟩ := List.mem_map.1 member
    exact ⟨rfl, ⟨_, rfl⟩, rfl, rfl⟩

/-- A scan by some rules and then others answers and stores what the two scans of the same store
do, one behind the other, whichever rules fail. It looks once at what is visible of its groups if
none of them is named more than once. At what is visible of a group that is named several times it
looks as often as the square of their number. A deployment scans by its rules. -/
theorem checks_independent {store : Store} {books ofFirst ofSecond : Books}
    (serves : books.Serves store) (servesFirst : ofFirst.Serves store)
    (servesSecond : ofSecond.Serves store) (first second : List Rule)
    (scanId collectId : String) (groups : List String) (skeletons : List Resource) :
    let both := (scan (first ++ second) scanId collectId groups skeletons).run books
    let one := (scan first scanId collectId groups skeletons).run ofFirst
    let other := (scan second scanId collectId groups skeletons).run ofSecond
    Scanned store (first ++ second) scanId collectId groups skeletons both ∧
      Scanned store first scanId collectId groups skeletons one ∧
      Scanned store second scanId collectId groups skeletons other ∧
      both.1.1.map Observation.undated = (one.1.1 ++ other.1.1).map Observation.undated ∧
      both.1.2 = one.1.2 ++ other.1.2 ∧
      (∀ group, (both.2.store.stored group).map Observation.undated =
        (store.stored group ++ (one.1.1 ++ other.1.1).filter (Store.isFiled group)).map
          Observation.undated) ∧
      (store.Filed → ∀ kinds,
        (lookedAt store collectId groups skeletons kinds = groups.flatMap fun group =>
          if accepted store kinds group = [] then
            visible store collectId kinds skeletons group
          else (List.replicate (groups.count group)
            (visible store collectId kinds skeletons group)).flatten) ∧
        (groups.Nodup → lookedAt store collectId groups skeletons kinds =
          groups.flatMap (visible store collectId kinds skeletons))) ∧
      ∀ deployment : Deployment, checkRules deployment scanId collectId groups skeletons =
        scan deployment.rules scanId collectId groups skeletons := by
  intro both one other
  have bothScanned := scan_scanned serves (first ++ second) scanId collectId groups skeletons
  have oneScanned := scan_scanned servesFirst first scanId collectId groups skeletons
  have otherScanned := scan_scanned servesSecond second scanId collectId groups skeletons
  have observations : both.1.1.map Observation.undated =
      (one.1.1 ++ other.1.1).map Observation.undated := by
    rw [List.map_append, bothScanned.observations, oneScanned.observations,
      otherScanned.observations, List.flatMap_append, List.map_append, List.map_append]
  have errors : both.1.2 = one.1.2 ++ other.1.2 := by
    rw [bothScanned.errors, oneScanned.errors, otherScanned.errors, List.flatMap_append]
  refine ⟨bothScanned, oneScanned, otherScanned, observations, errors, ?_, ?_, fun _ => rfl⟩
  · intro group
    rw [bothScanned.stored, List.map_append, List.map_append,
      Observation.filter_undated observations fun _ => rfl]
  · intro filed kinds
    exact ⟨lookedAt_eq filed collectId groups skeletons kinds,
      fun distinct => lookedAt_distinct filed distinct collectId skeletons kinds⟩

/-! ## Failing neighbours -/

namespace Neighbours

/-- A check that finds something on every bucket but one, on which it fails. -/
def fussy : Rule where
  info := ⟨"FUSSY", [.bucket]⟩
  check resource :=
    if resource.name = "broken" then .error (.invalidInput "unreadable")
    else .ok [Rule.finding "FUSSY" resource "seen" "unseen" {} .low]

def resources : List Resource :=
  [Resource.group "g", .member "whole" "g" .bucket, .member "broken" "g" .bucket]

def books : Books :=
  { store := .ofChanges [.addResources resources], supply := { now := ⟨60, 0⟩ } }

theorem serves : books.Serves (.ofChanges [.addResources resources]) :=
  ⟨rfl, fun _ _ => rfl, rfl⟩

def others : List Rule :=
  [.alwaysFails, .missingContactLabels]

def scanned (rules : List Rule) : List Observation × List AuditError :=
  ((scan rules "s" "c" ["g"] []).run books).1

/-- Checks that fail on a bucket, one of them on everything, lose nothing that is found
elsewhere. -/
theorem failures_lose_nothing :
    books.Serves (.ofChanges [.addResources resources]) ∧
      (scanned ([fussy] ++ others)).1.map Observation.undated =
        ((scanned [fussy]).1 ++ (scanned others).1).map Observation.undated ∧
      (scanned ([fussy] ++ others)).2 = (scanned [fussy]).2 ++ (scanned others).2 ∧
      (scanned [fussy]).1.map (fun found => found.resourceRef.name) = ["whole"] ∧
      (scanned [fussy]).2 = [ruleError fussy (.member "broken" "g" .bucket)
        (.invalidInput "unreadable")] ∧
      (scanned others).1.map (fun found => found.resourceRef.name) = ["g"] ∧
      (scanned others).2.length = 3 := by
  obtain ⟨-, -, -, observations, errors, -⟩ :=
    checks_independent serves serves serves [fussy] others "s" "c" ["g"] []
  refine ⟨serves, ?_, ?_, by decide +kernel, by decide +kernel, by decide +kernel,
    by decide +kernel⟩
  · unfold scanned
    exact observations
  · unfold scanned
    exact errors

def hopeless : Deployment where
  inventory := ⟨[]⟩
  rules := [.alwaysFails]
  contacts := default
  notificationInterval := .zero
  sourceSystem := "CloudAudit"

end Neighbours

end Scan

/-- A scan of a group that is named twice reports a failure on one resource four times. -/
theorem repeated_groups_repeat_errors :
    ¬ ∀ (deployment : Deployment) (changes : List StoreChange) (supply : Supply)
        (scanId collectId : String) (groups : List String),
      ((Scan.checkRules deployment scanId collectId groups []).run
          { store := .ofChanges changes, supply }).1.2.length ≤
        (deployment.rules.flatMap fun rule =>
          (groups.dedup.flatMap (Store.ofChanges changes).resourcesOf).flatMap
            rule.faults).length := by
  intro once
  have limit := once Scan.Neighbours.hopeless [.addResources [Resource.group "g"]]
    { now := ⟨60, 0⟩ } "s" "c" ["g", "g"]
  exact absurd limit (by decide +kernel)

end CloudAudit
