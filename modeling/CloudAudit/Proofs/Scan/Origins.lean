import CloudAudit.Proofs.Scan.Impartial
/-!
# Where findings come from

Whatever fails, each observation that a scan answers was found by one of its rules, on a resource
that was stored when the scan began, or on the skeleton of a group of which the rule accepts nothing
that is stored. It bears the group that the rule gave it, and the collection if the rule gave it
one, else that of the run.
-/
set_option autoImplicit false

namespace CloudAudit.Scan

/-- A resource that a rule looks at for a group: a stored one, or the skeleton of a group of which
the rule accepts nothing that is stored. -/
inductive Sighted (store : Store) (kinds : List ResourceKind) (skeletons : List Resource)
    (group : String) (resource : Resource) : Prop where
  | stored (accepts : resource ∈ accepted store kinds group)
  | known (nothing : accepted store kinds group = [])
      (asksForGroups : kinds.contains .resourceGroup = true) (skeleton : resource ∈ skeletons)
      (named : resource.name = group)

/-- An observation that a rule made on a resource of one of some groups. -/
structure Stems (store : Store) (groups : List String) (skeletons : List Resource)
    (finding : Observation) (rule : Rule) (resource : Resource) : Prop where
  found : ∃ given ∈ rule.findings resource,
    given.groupName = finding.groupName ∧ given.collectionId = finding.collectionId
  sighted : ∃ group ∈ groups, Sighted store rule.acceptedKinds skeletons group resource

theorem sighted_of_mem_ofGroups {store : Store} (filed : store.Filed) {groups : List String}
    {collectId : String} {kinds : List ResourceKind} {skeletons : List Resource}
    {resource : Resource}
    (seen : resource ∈ ofGroups ((groups.flatMap store.resourcesOf).filter fun resource =>
      kinds.contains resource.kind) collectId groups kinds skeletons) :
    ∃ group ∈ groups, Sighted store kinds skeletons group resource := by
  obtain ⟨group, covered, inGroup⟩ := List.mem_flatMap.1 seen
  refine ⟨group, covered, ?_⟩
  have candidates : ∀ candidate,
      candidate ∈ ((groups.flatMap store.resourcesOf).filter fun resource =>
          kinds.contains resource.kind).filter (fun resource =>
            resource.resourceGroupName == group) ↔
        candidate ∈ accepted store kinds group := by
    intro candidate
    simp only [accepted, List.mem_filter, List.mem_flatMap, beq_iff_eq]
    constructor
    · rintro ⟨⟨⟨other, -, isStored⟩, accepts⟩, lies⟩
      obtain rfl : other = group := (filed other candidate isStored).symm.trans lies
      exact ⟨isStored, accepts⟩
    · rintro ⟨isStored, accepts⟩
      exact ⟨⟨⟨group, covered, isStored⟩, accepts⟩, filed group candidate isStored⟩
  rw [ofGroup] at inGroup
  split at inGroup
  · rename_i nothing
    split at inGroup
    · rename_i asksForGroups
      obtain ⟨isSkeleton, named⟩ := List.mem_filter.1 inGroup
      refine .known ?_ asksForGroups isSkeleton (beq_iff_eq.1 named)
      rw [List.eq_nil_iff_forall_not_mem]
      intro candidate accepts
      rw [← candidates, nothing] at accepts
      cases accepts
    · cases inGroup
  · exact .stored ((candidates resource).1 (List.mem_filter.1 inGroup).1)

section

variable {books : Books} (filed : books.store.Filed) (collectId : String) (groups : List String)
  (skeletons : List Resource)
include filed

theorem resourcesFor_sighted (kinds : List ResourceKind) {resources : List Resource}
    (answered : ((resourcesFor collectId groups kinds skeletons).run.run books).1 =
      .ok resources) :
    ∀ resource ∈ resources, ∃ group ∈ groups,
      Sighted books.store kinds skeletons group resource := by
  intro resource seen
  rw [resourcesFor, ExceptT.run_bind, StateT.run_bind, Books.listResources_run] at answered
  split at answered
  · cases answered
  · rw [Store.listResources_kinds] at answered
    obtain rfl := Except.ok.inj answered
    exact sighted_of_mem_ofGroups filed seen

theorem checkRule_stems (rule : Rule) :
    ∀ finding ∈ ((checkRule rule collectId groups skeletons).run books).1.observations,
      ∃ resource, Stems books.store groups skeletons finding rule resource := by
  have sighted := @resourcesFor_sighted books filed collectId groups skeletons rule.acceptedKinds
  rw [checkRule, StateT.run_bind]
  cases ran : (resourcesFor collectId groups rule.acceptedKinds skeletons).run.run books with
  | mk answer middle =>
    rw [ran] at sighted
    cases answer with
    | error error =>
      intro finding member
      cases member
    | ok resources =>
      intro finding member
      let origin (observation : Observation) := (observation.groupName, observation.collectionId)
      have unread : ∀ observation : Observation,
          origin observation.undated = origin observation := fun _ => rfl
      obtain ⟨given, isGiven, same⟩ :=
        (checkResources_made rule resources middle).exists_like unread member
      obtain ⟨resource, isSeen, found⟩ := List.mem_flatMap.1 isGiven
      exact ⟨resource, ⟨given, found, Prod.mk.inj same⟩, sighted rfl resource isSeen⟩

end

theorem Stems.congr {store later : Store} (same : later.resources = store.resources)
    {groups : List String} {skeletons : List Resource} {finding : Observation} {rule : Rule}
    {resource : Resource} (stems : Stems later groups skeletons finding rule resource) :
    Stems store groups skeletons finding rule resource := by
  obtain ⟨found, group, covered, sighted⟩ := stems
  refine ⟨found, group, covered, ?_⟩
  cases sighted with
  | stored accepts => exact .stored (accepted_congr same ▸ accepts)
  | known nothing asksForGroups skeleton named =>
    exact .known (accepted_congr same ▸ nothing) asksForGroups skeleton named

theorem outcomes_stem {store : Store} (filed : store.Filed) (collectId : String)
    (groups : List String) (skeletons : List Resource) (rules : List Rule) {books : Books}
    (same : books.store.resources = store.resources) :
    ∀ finding ∈ ((rules.mapM fun rule =>
        checkRule rule collectId groups skeletons).run books).1.flatMap Outcome.observations,
      ∃ rule ∈ rules, ∃ resource, Stems store groups skeletons finding rule resource := by
  induction rules generalizing books with
  | nil =>
    intro finding member
    cases member
  | cons rule rules ih =>
    have sameAfter :=
      (scanning_sameResources.checkRule rule collectId groups skeletons books).trans same
    have rest := @ih ((checkRule rule collectId groups skeletons).run books).2 sameAfter
    rw [List.mapM_cons]
    intro finding member
    rcases List.mem_append.1 member with isFirst | isRest
    · obtain ⟨resource, stems⟩ := checkRule_stems (filed.of_resources_eq same) collectId groups
        skeletons rule finding isFirst
      exact ⟨rule, List.mem_cons_self, resource, stems.congr same⟩
    · obtain ⟨other, isRule, stems⟩ := rest finding isRest
      exact ⟨other, List.mem_cons_of_mem _ isRule, stems⟩

/-- Each observation that a scan answers is what one of its rules found on a resource, under the
identifier of the run if the rule gave it no collection. -/
theorem checkRules_stem {books : Books} (filed : books.store.Filed) (deployment : Deployment)
    (scanId collectId : String) (groups : List String) (skeletons : List Resource) :
    ∀ found ∈ ((checkRules deployment scanId collectId groups skeletons).run books).1.1,
      ∃ rule ∈ deployment.rules, ∃ resource finding,
        Stems books.store groups skeletons finding rule resource ∧
        found.groupName = finding.groupName ∧
        found.collectionId = some (finding.collectionId.getD collectId) := by
  let started := ((logStatus scanId groups .started).run books).2
  let checked := (deployment.rules.mapM fun rule =>
    checkRule rule collectId groups skeletons).run started
  let listed := (resourcesFor collectId groups [.resourceGroup] skeletons).run.run checked.2
  obtain ⟨added, kept, stores, -, answered⟩ :=
    conclude_stores scanId collectId groups skeletons checked.1 listed.1 listed.2
  intro found member
  obtain ⟨finding, isFinding, rfl⟩ :=
    List.mem_map.1 (stores.sublist.subset (answered.subset member))
  have sameResources := scanning_sameResources.logStatus scanId groups .started books
  obtain ⟨rule, isRule, resource, stems⟩ := outcomes_stem filed collectId groups skeletons
    deployment.rules sameResources finding isFinding
  exact ⟨rule, isRule, resource, finding, stems, rfl, rfl⟩

theorem exists_resource_of_answered {books : Books} (filed : books.store.Filed)
    {deployment : Deployment} (files : ∀ rule ∈ deployment.rules, rule.Files)
    {scanId collectId : String} {groups : List String} {skeletons : List Resource}
    {found : Observation}
    (answered : found ∈
      ((checkRules deployment scanId collectId groups skeletons).run books).1.1) :
    ∃ resource kinds, ∃ group ∈ groups, Sighted books.store kinds skeletons group resource ∧
      found.groupName = resource.resourceGroupName ∧
      found.collectionId = some (resource.collectionUid.getD collectId) := by
  obtain ⟨rule, isRule, resource, finding, stems, lies, tagged⟩ :=
    checkRules_stem filed deployment scanId collectId groups skeletons found answered
  obtain ⟨given, isGiven, sameGroup, sameCollection⟩ := stems.found
  obtain ⟨atGroup, inCollection⟩ := files rule isRule resource given isGiven
  obtain ⟨group, covered, sighted⟩ := stems.sighted
  refine ⟨resource, _, group, covered, sighted, ?_, ?_⟩
  · rw [lies, ← sameGroup, atGroup]
  · rw [tagged, ← sameCollection, inCollection]

end CloudAudit.Scan
