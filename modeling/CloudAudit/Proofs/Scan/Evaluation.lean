import CloudAudit.Proofs.Scan.Impacts
import CloudAudit.Proofs.Scan.Impartial
/-!
# A scan of what was just collected

Where every name stands for one resource, a scan that follows its own collection sees the
inventory: it stores what its rules say of the inventory resources of each group, with the impact
of the group in the inventory.
-/
set_option autoImplicit false

namespace CloudAudit

/-- Every name stands for one resource, and every group record for its own group. -/
structure Inventory.Tidy (inventory : Inventory) : Prop where
  distinct : (inventory.resources.map Resource.name).Nodup
  own : ∀ record ∈ inventory.resources, record.isGroup = true →
    record.resourceGroupName = record.name

/-! ## The collection is seen -/

namespace Inventory.Tidy

variable {inventory : Inventory} (tidy : inventory.Tidy)
include tidy

theorem eq_of_name {first second : Resource} (isFirst : first ∈ inventory.resources)
    (isSecond : second ∈ inventory.resources) (same : first.name = second.name) :
    first = second :=
  List.inj_on_of_nodup_map tidy.distinct isFirst isSecond same

theorem unmixed {resource : Resource} (member : resource ∈ inventory.resources) :
    Collector.Unmixed inventory resource := by
  intro record found
  rw [Collector.groupRecord?] at found
  have isRecord := List.mem_filter.1 (List.mem_reverse.1 (List.mem_of_find?_eq_some found))
  have named := List.find?_some found
  rw [tidy.eq_of_name isRecord.1 member (beq_iff_eq.1 named)]
  rfl

end Inventory.Tidy

namespace Scan

def eligible (inventory : Inventory) (kinds : List ResourceKind) (group : String) :
    List Resource :=
  (Collector.members inventory group).filter fun resource => kinds.contains resource.kind

/-- Resources that were stored under a group before, all of them of other collections than the one
given and of the inventory. -/
def Older (inventory : Inventory) (collectId group : String) (old : List Resource) : Prop :=
  ∀ resource ∈ old, resource.collectionUid ≠ some collectId ∧
    ∃ original ∈ Collector.members inventory group, original.kind = resource.kind

theorem Older.filter_own {inventory : Inventory} {collectId group : String} {old : List Resource}
    (older : Older inventory collectId group old) (kinds : List ResourceKind) :
    (old.filter fun resource => kinds.contains resource.kind).filter
      (fun resource => resource.collectionUid == some collectId) = [] := by
  rw [List.filter_eq_nil_iff]
  intro resource member own
  exact (older resource (List.mem_filter.1 member).1).1 (beq_iff_eq.1 own)

theorem Older.filter_kinds {inventory : Inventory} {collectId group : String}
    {old : List Resource} (older : Older inventory collectId group old)
    {kinds : List ResourceKind} (nobody : eligible inventory kinds group = []) :
    old.filter (fun resource => kinds.contains resource.kind) = [] := by
  rw [List.filter_eq_nil_iff]
  intro resource member accepts
  obtain ⟨original, isMember, sameKind⟩ := (older resource member).2
  have isEligible : original ∈ eligible inventory kinds group :=
    List.mem_filter.2 ⟨isMember, by rw [sameKind]; exact accepts⟩
  rw [nobody] at isEligible
  cases isEligible

theorem filter_knownTo {inventory : Inventory} (tidy : inventory.Tidy) (collectId : String)
    {group : String} {kinds : List ResourceKind} (groups : kinds.contains .resourceGroup = true)
    (nobody : eligible inventory kinds group = []) :
    (Collector.knownTo inventory collectId).filter (fun skeleton => skeleton.name == group) =
      [] := by
  rw [List.filter_eq_nil_iff]
  intro skeleton known named
  obtain ⟨record, ⟨isRecord, isGroup⟩, rfl⟩ := Collector.mem_knownTo.1 known
  have atHome := tidy.own record isRecord isGroup
  have isEligible : record ∈ eligible inventory kinds group := by
    refine List.mem_filter.2 ⟨Collector.mem_members.2 ⟨isRecord, ?_⟩, ?_⟩
    · exact atHome.trans (beq_iff_eq.1 named)
    · rw [beq_iff_eq.1 isGroup]
      exact groups
  rw [nobody] at isEligible
  cases isEligible

/-- A scan sees its own collection, if that is of the whole group. -/
theorem visible_of_collected {inventory : Inventory} (tidy : inventory.Tidy) {store : Store}
    (filed : store.Filed) {collectId group : String} {now : Instant} {old : List Resource}
    (older : Older inventory collectId group old)
    (stored : store.resourcesOf group =
      old ++ (Collector.members inventory group).map (Collector.retagged collectId now))
    (kinds : List ResourceKind) :
    visible store collectId kinds (Collector.knownTo inventory collectId) group =
      (eligible inventory kinds group).map (Collector.retagged collectId now) := by
  have parts : accepted store kinds group =
      (old.filter fun resource => kinds.contains resource.kind) ++
        (eligible inventory kinds group).map (Collector.retagged collectId now) := by
    rw [accepted, stored, List.filter_append, List.filter_map]
    rfl
  rw [visible_eq filed]
  -- A rule that accepts nothing of the group falls back on the skeletons of that name.
  by_cases nobody : eligible inventory kinds group = []
  · have nothing : accepted store kinds group = [] := by
      rw [parts, nobody, List.map_nil, List.append_nil, older.filter_kinds nobody]
    rw [if_pos nothing, nobody, List.map_nil]
    split
    · rename_i groups
      exact filter_knownTo tidy collectId groups nobody
    · rfl
  · obtain ⟨first, isEligible⟩ := List.exists_mem_of_ne_nil _ nobody
    have tagged : Collector.retagged collectId now first ∈ accepted store kinds group := by
      rw [parts]
      exact List.mem_append_right _ (List.mem_map_of_mem isEligible)
    have chosen : collectionOf collectId (accepted store kinds group) = some collectId := by
      rcases collectionOf_cases (List.ne_nil_of_mem tagged) collectId with ⟨-, own⟩ | ⟨others, -⟩
      · exact own
      · exact absurd rfl (others _ tagged)
    have allNew : (((eligible inventory kinds group).map (Collector.retagged collectId now)).filter
        fun resource => resource.collectionUid == some collectId) =
          (eligible inventory kinds group).map (Collector.retagged collectId now) := by
      rw [List.filter_eq_self]
      intro resource member
      obtain ⟨original, -, rfl⟩ := List.mem_map.1 member
      exact beq_iff_eq.2 rfl
    rw [if_neg (List.ne_nil_of_mem tagged), chosen, parts, List.filter_append,
      older.filter_own kinds, allNew, List.nil_append]

/-! ## What the rules say -/

theorem judged_retagged {rule : Rule} (impartial : rule.Impartial) (collectId : String)
    (now : Instant) (resources : List Resource) :
    judged rule (resources.map (Collector.retagged collectId now)) =
      (judged rule resources).map (inCollection collectId) := by
  rw [judged, judged, List.flatMap_map, List.map_flatMap]
  apply List.flatMap_congr
  intro resource _
  rw [Rule.findings, Rule.findings, impartial.retagged]
  cases rule.check resource <;> rfl

theorem judged_flatMap {β : Type} (rule : Rule) (indices : List β) (block : β → List Resource) :
    judged rule (indices.flatMap block) = indices.flatMap fun index => judged rule (block index) :=
  List.flatMap_assoc

/-- What a rule says of the inventory resources of a group, with the impact that the group has in
the inventory. -/
def evaluation (inventory : Inventory) (scanId collectId group : String) (rule : Rule) :
    List Observation :=
  let impact :=
    ((Hierarchy.ofResources (inventory.resources.filter Resource.isGroup)).impact group).1
  (judged rule (eligible inventory rule.acceptedKinds group)).map fun finding =>
    { finding with
      collectionId := some collectId
      scanId := some scanId
      impact
      riskScore := finding.severity.weighted impact }

def collectedSight (inventory : Inventory) (collectId : String) (now : Instant)
    (groups : List String) (kinds : List ResourceKind) : List Resource :=
  groups.flatMap fun group =>
    (eligible inventory kinds group).map (Collector.retagged collectId now)

theorem impact_of_collected {inventory : Inventory} (tidy : inventory.Tidy) (collectId : String)
    (now : Instant) (groups : List String) (group : String) :
    (hierarchy (Collector.knownTo inventory collectId)
        (collectedSight inventory collectId now groups [.resourceGroup])).impact group =
      (Hierarchy.ofResources (inventory.resources.filter Resource.isGroup)).impact group := by
  apply Hierarchy.impact_congr
  apply Hierarchy.outline_ofResources (tidy.distinct.sublist (List.filter_sublist.map _))
  · intro resource member
    rcases List.mem_append.1 member with isSkeleton | isRecord
    · obtain ⟨record, isRecord, rfl⟩ := Collector.mem_knownTo.1 (List.mem_filter.1 isSkeleton).1
      exact ⟨record, List.mem_filter.2 isRecord, rfl, rfl, rfl⟩
    · obtain ⟨other, -, inGroup⟩ := List.mem_flatMap.1 isRecord
      obtain ⟨record, isEligible, rfl⟩ := List.mem_map.1 inGroup
      obtain ⟨isMember, accepts⟩ := List.mem_filter.1 isEligible
      refine ⟨record, List.mem_filter.2 ⟨(Collector.mem_members.1 isMember).1, ?_⟩, rfl, rfl, rfl⟩
      rw [Resource.isGroup, List.mem_singleton.1 (List.contains_iff_mem.1 accepts)]
      rfl
  · intro record isRecord
    refine ⟨_, List.mem_append_left _ (List.mem_filter.2
      ⟨Collector.mem_knownTo.2 ⟨record, List.mem_filter.1 isRecord, rfl⟩, ?_⟩), rfl⟩
    exact (List.mem_filter.1 isRecord).2

/-- What a rule finds in a group that was just collected, as the scan stores it. -/
theorem map_stamp_judged {inventory : Inventory} (tidy : inventory.Tidy) {rule : Rule}
    (impartial : rule.Impartial) (scanId collectId : String) (now : Instant)
    (groups : List String) (group : String) :
    (judged rule ((eligible inventory rule.acceptedKinds group).map
        (Collector.retagged collectId now))).map
      (stamp (hierarchy (Collector.knownTo inventory collectId)
        (collectedSight inventory collectId now groups [.resourceGroup])) scanId collectId) =
      evaluation inventory scanId collectId group rule := by
  rw [judged_retagged impartial, List.map_map, evaluation]
  apply List.map_congr_left
  intro finding member
  obtain ⟨resource, isEligible, found⟩ := List.mem_flatMap.1 member
  have inGroup : finding.groupName = group := by
    rw [(impartial.files resource finding found).1]
    exact (Collector.mem_members.1 (List.mem_filter.1 isEligible).1).2
  have sameGroup : (inCollection collectId finding).groupName = group := inGroup
  rw [Function.comp_apply, stamp, sameGroup, impact_of_collected tidy]
  rfl

theorem filter_judged_collected (inventory : Inventory) {rule : Rule} (files : rule.Files)
    (collectId : String) (now : Instant) {groups : List String} (distinct : groups.Nodup)
    (group : String) :
    ((judged rule (collectedSight inventory collectId now groups rule.acceptedKinds)).filter
        fun finding => finding.groupName == group) =
      if group ∈ groups then
        judged rule ((eligible inventory rule.acceptedKinds group).map
          (Collector.retagged collectId now))
      else [] := by
  rw [collectedSight, judged_flatMap]
  apply Store.filter_flatMap_own Observation.groupName distinct
  intro other _ finding member
  obtain ⟨resource, isSeen, found⟩ := List.mem_flatMap.1 member
  obtain ⟨original, isEligible, rfl⟩ := List.mem_map.1 isSeen
  rw [(files _ finding found).1]
  exact (Collector.mem_members.1 (List.mem_filter.1 isEligible).1).2

theorem filter_findings {deployment : Deployment} (tidy : deployment.inventory.Tidy)
    (impartial : ∀ rule ∈ deployment.rules, rule.Impartial)
    {store : Store} (scanId collectId : String) {now : Instant} {groups : List String}
    (distinct : groups.Nodup)
    (seen : ∀ kinds, sightOf store collectId groups
      (Collector.knownTo deployment.inventory collectId) kinds =
        collectedSight deployment.inventory collectId now groups kinds)
    {group : String} (named : group ≠ "") :
    ((findings deployment store scanId collectId groups
        (Collector.knownTo deployment.inventory collectId)).filter (Store.isFiled group)) =
      if group ∈ groups then
        deployment.rules.flatMap (evaluation deployment.inventory scanId collectId group)
      else [] := by
  have ownGroup : Store.isFiled group = fun finding => finding.groupName == group := by
    funext finding
    rw [Bool.eq_iff_iff, Store.isFiled_iff named, beq_iff_eq]
  have stamped : ∀ hierarchy : Hierarchy,
      (fun finding => finding.groupName == group) ∘ stamp hierarchy scanId collectId =
        fun finding => finding.groupName == group := fun _ => rfl
  have own := List.flatMap_congr fun rule isRule =>
    filter_judged_collected deployment.inventory (impartial rule isRule).files collectId now
      distinct group
  rw [findings, ownGroup, List.filter_map, stamped, List.filter_flatMap]
  simp only [seen]
  rw [own, List.map_flatMap]
  by_cases covered : group ∈ groups
  · simp only [if_pos covered]
    exact List.flatMap_congr fun rule isRule =>
      map_stamp_judged tidy (impartial rule isRule) _ _ _ _ _
  · simp [if_neg covered]

end Scan

end CloudAudit
