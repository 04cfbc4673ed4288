import Mathlib.Data.List.Basic
import CloudAudit.Proofs.Listing.Selection
import CloudAudit.Proofs.Store.Keeping
import CloudAudit.Proofs.World.Steady
/-!
# What a scan sees

All rules of a scan, and the hierarchy for impacts, look at the resources that were stored when the
scan began. Each rule looks at one collection of a group, but chooses it among the resources of the
kinds that it accepts, so two rules may look at two collections.
-/
set_option autoImplicit false

namespace CloudAudit.Scan

/-! ## The collection of a group -/

def isNewer (resource other : Resource) : Bool :=
  !Instant.laterStamp other.timestamp resource.timestamp

theorem isNewer_preference : Preference isNewer where
  trans := by
    intro first second third later last
    simp only [isNewer, Bool.not_eq_true', Bool.eq_false_iff, ne_eq] at *
    intro reverse
    exact last (Instant.laterStamp_preference.mixed reverse later)
  mixed := by
    intro first second third later last
    simp only [isNewer, Bool.not_eq_true', Bool.eq_false_iff, ne_eq, not_not] at *
    intro reverse
    exact later (Instant.laterStamp_preference.trans last reverse)

theorem newest_cons (best resource : Resource) (more : List Resource) :
    newest (some best) (resource :: more) =
      newest (some (if isNewer resource best then resource else best)) more := by
  rw [newest]
  by_cases later : Instant.laterStamp best.timestamp resource.timestamp = true
  · simp [isNewer, later]
  · simp [isNewer, later]

theorem newest_picked {seen : List Resource} {best : Resource} (picked : Picked isNewer seen best)
    (more : List Resource) :
    ∃ found, newest (some best) more = some found ∧ Picked isNewer (seen ++ more) found := by
  induction more generalizing seen best with
  | nil =>
    rw [List.append_nil]
    exact ⟨best, rfl, picked⟩
  | cons resource more ih =>
    rw [newest_cons, List.append_cons]
    exact ih (picked.next isNewer_preference resource)

/-- The newest resource has the latest instant, and of several the last one has it. -/
theorem newest_of_ne_nil {candidates : List Resource} (nonempty : candidates ≠ []) :
    ∃ found, newest none candidates = some found ∧ Picked isNewer candidates found := by
  cases candidates with
  | nil => exact absurd rfl nonempty
  | cons first more => exact newest_picked (Picked.singleton first) more

/-- The collection of some resources is that of one of them: the one of the run if it is among them,
else the one of the newest. -/
theorem collectionOf_cases {candidates : List Resource} (nonempty : candidates ≠ [])
    (collectId : String) :
    (∃ resource ∈ candidates, resource.collectionUid = some collectId) ∧
        collectionOf collectId candidates = some collectId ∨
      (∀ resource ∈ candidates, resource.collectionUid ≠ some collectId) ∧
        ∃ found, Picked isNewer candidates found ∧
          collectionOf collectId candidates = found.collectionUid := by
  by_cases own : ∃ resource ∈ candidates, resource.collectionUid = some collectId
  · refine .inl ⟨own, ?_⟩
    rw [collectionOf, if_pos]
    simpa using own
  · right
    obtain ⟨found, isNewest, picked⟩ := newest_of_ne_nil nonempty
    refine ⟨fun resource member same => own ⟨resource, member, same⟩, found, picked, ?_⟩
    rw [collectionOf, if_neg (by simpa using own), isNewest]
    rfl

theorem exists_mem_collectionOf {candidates : List Resource} (nonempty : candidates ≠ [])
    (collectId : String) :
    ∃ resource ∈ candidates, resource.collectionUid = collectionOf collectId candidates := by
  rcases collectionOf_cases nonempty collectId with
    ⟨⟨resource, member, same⟩, own⟩ | ⟨-, found, picked, own⟩
  · exact ⟨resource, member, same.trans own.symm⟩
  · exact ⟨found, picked.mem, own.symm⟩

/-! ## What is seen of a group -/

def accepted (store : Store) (kinds : List ResourceKind) (group : String) : List Resource :=
  (store.resourcesOf group).filter fun resource => kinds.contains resource.kind

def visible (store : Store) (collectId : String) (kinds : List ResourceKind)
    (skeletons : List Resource) (group : String) : List Resource :=
  ofGroup (accepted store kinds group) collectId kinds skeletons group

theorem accepted_own {store : Store} (filed : store.Filed) (kinds : List ResourceKind)
    (group : String) :
    ∀ resource ∈ accepted store kinds group, resource.resourceGroupName = group := by
  intro resource member
  exact filed group resource (List.mem_filter.1 member).1

theorem filter_accepted {store : Store} (filed : store.Filed) (kinds : List ResourceKind)
    (group : String) :
    ((accepted store kinds group).filter fun resource => resource.resourceGroupName == group) =
      accepted store kinds group := by
  rw [List.filter_eq_self]
  intro resource member
  exact beq_iff_eq.2 (accepted_own filed kinds group resource member)

/-- A rule sees the skeletons of a group of which it accepts nothing, else one collection. -/
theorem visible_eq {store : Store} (filed : store.Filed) (collectId : String)
    (kinds : List ResourceKind) (skeletons : List Resource) (group : String) :
    visible store collectId kinds skeletons group =
      if accepted store kinds group = [] then
        if kinds.contains .resourceGroup then
          skeletons.filter fun skeleton => skeleton.name == group
        else []
      else
        (accepted store kinds group).filter fun resource =>
          resource.collectionUid == collectionOf collectId (accepted store kinds group) := by
  rw [visible, ofGroup, filter_accepted filed]
  cases accepted store kinds group with
  | nil => rfl
  | cons first more => rfl

theorem ofGroup_congr {stored others : List Resource} {group : String}
    (same : (stored.filter fun resource => resource.resourceGroupName == group) =
      others.filter fun resource => resource.resourceGroupName == group)
    (collectId : String) (kinds : List ResourceKind) (skeletons : List Resource) :
    ofGroup stored collectId kinds skeletons group =
      ofGroup others collectId kinds skeletons group := by
  rw [ofGroup, ofGroup, same]

theorem ofGroups_listed {store : Store} (filed : store.Filed) {groups : List String}
    (distinct : groups.Nodup) (collectId : String) (kinds : List ResourceKind)
    (skeletons : List Resource) :
    ofGroups ((groups.flatMap store.resourcesOf).filter fun resource =>
        kinds.contains resource.kind) collectId groups kinds skeletons =
      groups.flatMap (visible store collectId kinds skeletons) := by
  rw [ofGroups, List.filter_flatMap]
  apply List.flatMap_congr
  intro group covered
  apply ofGroup_congr
  have own : ∀ group ∈ groups, ∀ resource ∈ accepted store kinds group,
      resource.resourceGroupName = group := fun group _ => accepted_own filed kinds group
  have alone := Store.filter_flatMap_own Resource.resourceGroupName distinct own group
  rw [if_pos covered] at alone
  rw [filter_accepted filed]
  exact alone

/-- What a scan looks at, by accepted kinds. -/
def lookedAt (store : Store) (collectId : String) (groups : List String)
    (skeletons : List Resource) (kinds : List ResourceKind) : List Resource :=
  ofGroups ((groups.flatMap store.resourcesOf).filter fun resource =>
    kinds.contains resource.kind) collectId groups kinds skeletons

theorem resourcesFor_lookedAt (books : Books) (collectId : String) (groups : List String)
    (kinds : List ResourceKind) (skeletons : List Resource) :
    (resourcesFor collectId groups kinds skeletons).run.run books =
      (if books.failsAt .listResources then .error (Books.failure .listResources)
        else .ok (lookedAt books.store collectId groups skeletons kinds), books.counted) := by
  rw [resourcesFor, ExceptT.run_bind, StateT.run_bind, Books.listResources_run]
  split
  · rfl
  · rw [Store.listResources_kinds]
    rfl

theorem resourcesFor_run {books : Books} (filed : books.store.Filed) {groups : List String}
    (distinct : groups.Nodup) (collectId : String) (kinds : List ResourceKind)
    (skeletons : List Resource) :
    (resourcesFor collectId groups kinds skeletons).run.run books =
      (if books.failsAt .listResources then .error (Books.failure .listResources)
        else .ok (groups.flatMap (visible books.store collectId kinds skeletons)),
        books.counted) := by
  rw [resourcesFor_lookedAt, lookedAt, ofGroups_listed filed distinct]

/-- The resources that a rule accepts in the one collection of a group: the one of the run if it
stored anything of the group, else the one of the newest resource of the group. -/
def current (store : Store) (collectId : String) (kinds : List ResourceKind) (group : String) :
    List Resource :=
  (accepted store kinds group).filter fun resource =>
    resource.collectionUid == collectionOf collectId (store.resourcesOf group)

/-- A rule sees what is current of a group exactly if the resources that it accepts lead to the same
collection as all resources of the group, or, where it accepts none of them, no skeleton takes
their place. -/
theorem visible_eq_current_iff {store : Store} (filed : store.Filed) (collectId : String)
    (kinds : List ResourceKind) (skeletons : List Resource) (group : String) :
    visible store collectId kinds skeletons group = current store collectId kinds group ↔
      if accepted store kinds group = [] then
        kinds.contains .resourceGroup = true → ∀ skeleton ∈ skeletons, skeleton.name ≠ group
      else
        collectionOf collectId (accepted store kinds group) =
          collectionOf collectId (store.resourcesOf group) := by
  rw [visible_eq filed, current]
  by_cases nothing : accepted store kinds group = []
  · rw [if_pos nothing, if_pos nothing, nothing, List.filter_nil]
    by_cases asksForGroups : kinds.contains .resourceGroup = true
    · simp [List.filter_eq_nil_iff]
    · simp
  · rw [if_neg nothing, if_neg nothing]
    constructor
    · intro same
      obtain ⟨resource, member, own⟩ := exists_mem_collectionOf nothing collectId
      have seen : resource ∈ (accepted store kinds group).filter fun resource =>
          resource.collectionUid == collectionOf collectId (accepted store kinds group) :=
        List.mem_filter.2 ⟨member, beq_iff_eq.2 own⟩
      rw [same] at seen
      exact own.symm.trans (beq_iff_eq.1 (List.mem_filter.1 seen).2)
    · intro same
      rw [same]

/-! ## What a whole scan sees -/

def look (seen : List Resource) : Act (List Resource) := do
  Books.attempt .listResources
  return seen

def checkRuleOn (rule : Rule) (seen : List Resource) : Work Outcome := do
  match ← (look seen).run with
  | .ok resources => checkResources rule resources
  | .error error => return { rule, errors := [error] }

/-- What a scan does once its rules are checked and the records for the hierarchy are listed. -/
def conclude (scanId collectId : String) (groups : List String) (skeletons : List Resource)
    (outcomes : List Outcome) (records : Except AuditError (List Resource)) :
    Work (List Observation × List AuditError) := do
  let (records, recordErrors) : List Resource × List AuditError :=
    match records with
    | .ok records => (records, [])
    | .error error => ([], [error])
  let (observations, errors) ←
    keepOutcomes (hierarchy skeletons records) scanId collectId outcomes
  logStatus scanId groups .completed
  return (observations, recordErrors ++ errors)

def checkRulesOn (deployment : Deployment) (scanId collectId : String) (groups : List String)
    (skeletons : List Resource) (sight : List ResourceKind → List Resource) :
    Work (List Observation × List AuditError) := do
  logStatus scanId groups .started
  let outcomes ← deployment.rules.mapM fun rule => checkRuleOn rule (sight rule.acceptedKinds)
  let records ← (look (sight [.resourceGroup])).run
  conclude scanId collectId groups skeletons outcomes records

def sightOf (store : Store) (collectId : String) (groups : List String)
    (skeletons : List Resource) (kinds : List ResourceKind) : List Resource :=
  groups.flatMap (visible store collectId kinds skeletons)

theorem scanning_sameResources :
    Scanning fun old new => new.store.resources = old.store.resources :=
  .of_view (fun books => books.store.resources) fun _ _ _ _ _ _ _ _ => rfl

theorem accepted_congr {store later : Store} (same : later.resources = store.resources) :
    accepted later = accepted store := by
  funext kinds group
  rw [accepted, accepted, Store.resourcesOf, Store.resourcesOf, same]

theorem sightOf_congr {store later : Store} (same : later.resources = store.resources) :
    sightOf later = sightOf store := by
  funext collectId groups skeletons kinds
  unfold sightOf visible
  rw [accepted_congr same]

theorem look_eq {store : Store} (filed : store.Filed) {groups : List String}
    (distinct : groups.Nodup) (collectId : String) (skeletons : List Resource)
    (kinds : List ResourceKind) {books : Books}
    (same : books.store.resources = store.resources) :
    (resourcesFor collectId groups kinds skeletons).run.run books =
      (look (sightOf store collectId groups skeletons kinds)).run.run books := by
  rw [resourcesFor_run (filed.of_resources_eq same) distinct, look, Books.attempt_bind_run, ← sightOf_congr same]
  split <;> rfl

theorem checkRule_eq {store : Store} (filed : store.Filed) {groups : List String}
    (distinct : groups.Nodup) (collectId : String) (skeletons : List Resource) (rule : Rule)
    {books : Books} (same : books.store.resources = store.resources) :
    (checkRule rule collectId groups skeletons).run books =
      (checkRuleOn rule
        (sightOf store collectId groups skeletons rule.acceptedKinds)).run books := by
  rw [checkRule, StateT.run_bind,
    look_eq filed distinct collectId skeletons rule.acceptedKinds same]
  rfl

theorem checkRules_outcomes_eq {store : Store} (filed : store.Filed) {groups : List String}
    (distinct : groups.Nodup) (collectId : String) (skeletons : List Resource)
    (rules : List Rule) {books : Books} (same : books.store.resources = store.resources) :
    (rules.mapM fun rule => checkRule rule collectId groups skeletons).run books =
      (rules.mapM fun rule =>
        checkRuleOn rule (sightOf store collectId groups skeletons rule.acceptedKinds)).run
          books := by
  induction rules generalizing books with
  | nil => rfl
  | cons rule rules ih =>
    have sameAfter :=
      (scanning_sameResources.checkRule rule collectId groups skeletons books).trans same
    have first := checkRule_eq filed distinct collectId skeletons rule same
    have rest := ih sameAfter
    rw [first] at rest
    rw [List.mapM_cons, List.mapM_cons, StateT.run_bind, StateT.run_bind, first]
    change (List.mapM _ rules >>= _ : Work _).run _ = (List.mapM _ rules >>= _ : Work _).run _
    rw [StateT.run_bind, StateT.run_bind, rest]

/-- From its first rule to its last a scan sees what was stored when it began. -/
theorem checkRules_eq_on {books : Books} (filed : books.store.Filed) {groups : List String}
    (distinct : groups.Nodup) (deployment : Deployment) (scanId collectId : String)
    (skeletons : List Resource) :
    (checkRules deployment scanId collectId groups skeletons).run books =
      (checkRulesOn deployment scanId collectId groups skeletons
        (sightOf books.store collectId groups skeletons)).run books := by
  have started := scanning_sameResources.logStatus scanId groups .started books
  have outcomes :=
    checkRules_outcomes_eq filed distinct collectId skeletons deployment.rules started
  have checked := (scanning_sameResources.mapM
    (fun rule => scanning_sameResources.checkRule rule collectId groups skeletons)
    deployment.rules _).trans started
  rw [outcomes] at checked
  have records := look_eq filed distinct collectId skeletons [.resourceGroup] checked
  rw [checkRules, scan, checkRulesOn, StateT.run_bind, StateT.run_bind]
  change (List.mapM _ deployment.rules >>= _ : Work _).run _ =
    (List.mapM _ deployment.rules >>= _ : Work _).run _
  rw [StateT.run_bind, StateT.run_bind, outcomes]
  change ((resourcesFor _ _ _ _).run >>= _ : Work _).run _ = ((look _).run >>= _ : Work _).run _
  rw [StateT.run_bind, StateT.run_bind, records]
  rfl

/-- All rules of a scan and the hierarchy see the store as it was when the scan began, one
collection of each group. It is the collection of the run, or else of the newest resource of the
group, exactly if looking at accepted kinds alone leads to the same one. -/
theorem checkRules_sight {changes : List StoreChange} {books : Books}
    (reached : books.store = .ofChanges changes) {groups : List String} (distinct : groups.Nodup)
    (deployment : Deployment) (scanId collectId : String) (skeletons : List Resource) :
    (checkRules deployment scanId collectId groups skeletons).run books =
        (checkRulesOn deployment scanId collectId groups skeletons
          fun kinds => groups.flatMap (visible books.store collectId kinds skeletons)).run books ∧
      ∀ group ∈ groups, books.store.resourcesOf group ≠ [] → ∀ kinds,
        (accepted books.store kinds group ≠ [] →
          visible books.store collectId kinds skeletons group =
            (accepted books.store kinds group).filter fun resource =>
              resource.collectionUid ==
                collectionOf collectId (accepted books.store kinds group)) ∧
        (visible books.store collectId kinds skeletons group =
            current books.store collectId kinds group ↔
          if accepted books.store kinds group = [] then
            kinds.contains .resourceGroup = true → ∀ skeleton ∈ skeletons, skeleton.name ≠ group
          else
            collectionOf collectId (accepted books.store kinds group) =
              collectionOf collectId (books.store.resourcesOf group)) := by
  have filed : books.store.Filed := by
    rw [reached]
    exact Store.filed_ofChanges changes
  refine ⟨checkRules_eq_on filed distinct deployment scanId collectId skeletons, ?_⟩
  intro group _ _ kinds
  constructor
  · intro accepts
    rw [visible_eq filed, if_neg accepts]
  · exact visible_eq_current_iff filed collectId kinds skeletons group

/-! ## A bucket that is gone -/

namespace Leftover

def deployment : Deployment where
  inventory := ⟨[]⟩
  rules := [.publicBucket]
  contacts := default
  notificationInterval := .zero
  sourceSystem := "CloudAudit"

def changes : List StoreChange :=
  [.addResources
    [{ (Resource.member "b1" "g1" .bucket).withPermission ⟨"roles/viewer", ["allUsers"]⟩ with
        collectionUid := some "old"
        timestamp := some ⟨0, 0⟩ }],
   .addResources
    [{ Resource.group "g1" with collectionUid := some "c", timestamp := some ⟨55, 0⟩ }]]

def books : Books := { store := .ofChanges changes, supply := { now := ⟨60, 0⟩ } }

theorem bucket_visible :
    visible books.store "c" [.bucket] [] "g1" ≠ current books.store "c" [.bucket] "g1" := by
  have reached : books.store = .ofChanges changes := rfl
  have distinct : ["g1"].Nodup := by decide
  have sight := checkRules_sight reached distinct deployment "s" "c" []
  have stored : books.store.resourcesOf "g1" ≠ [] := by decide +kernel
  rw [Ne, (sight.2 "g1" List.mem_cons_self stored [.bucket]).2]
  decide +kernel

end Leftover

/-- A resource that is not in the current collection of its group can still be found fault with. -/
theorem leftovers_are_checked :
    ¬ ∀ (deployment : Deployment) (changes : List StoreChange) (supply : Supply)
        (scanId collectId : String) (groups : List String) (skeletons : List Resource),
      groups.Nodup →
      ∀ found ∈ ((checkRules deployment scanId collectId groups skeletons).run
          { store := .ofChanges changes, supply }).1.1,
        (Store.ofChanges changes).resourcesOf found.groupName ≠ [] →
        ∃ resource ∈ (Store.ofChanges changes).resourcesOf found.groupName,
          resource.name = found.resourceRef.name ∧
            resource.collectionUid =
              collectionOf collectId ((Store.ofChanges changes).resourcesOf found.groupName) := by
  intro onlyCurrent
  have all := onlyCurrent Leftover.deployment Leftover.changes { now := ⟨60, 0⟩ } "s" "c" ["g1"] []
    (by decide)
  exact absurd all (by decide +kernel)

end CloudAudit.Scan
