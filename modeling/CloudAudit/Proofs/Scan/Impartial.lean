import CloudAudit.Proofs.Collect.Snapshots
import CloudAudit.Proofs.Scan.Findings
/-!
# Impartial rules

A rule may be any check, and find whatever it likes on a resource. The rules that the service comes
with file what they find under the group and the collection of the resource, bear their own name
there, and do not care which collection the resource comes from.
-/
set_option autoImplicit false

namespace CloudAudit

def Scan.inCollection (collectId : String) (observation : Observation) : Observation :=
  { observation with collectionId := some collectId }

namespace Rule

/-- A rule files what it finds under the group and the collection of the resource that it found it
on. -/
def Files (rule : Rule) : Prop :=
  ∀ resource, ∀ found ∈ rule.findings resource,
    found.groupName = resource.resourceGroupName ∧ found.collectionId = resource.collectionUid

/-- A rule says the same of a resource in whichever collection it finds it, and under its name. -/
structure Impartial (rule : Rule) : Prop where
  files : rule.Files
  named : ∀ resource, ∀ found ∈ rule.findings resource, found.name = rule.name
  retagged : ∀ collectId now resource,
    rule.check (Collector.retagged collectId now resource) =
      (rule.check resource).map (List.map (Scan.inCollection collectId))

theorem mem_findings_ok {rule : Rule} {resource : Resource} {given : List Observation}
    (checked : rule.check resource = .ok given) {found : Observation} :
    found ∈ rule.findings resource ↔ found ∈ given := by
  rw [findings, checked]

theorem humanWithBasicRole_impartial : humanWithBasicRole.Impartial := by
  have made : ∀ resource, ∀ found ∈ humanWithBasicRole.findings resource,
      ∃ role principal, found = basicRoleFinding resource role principal := by
    intro resource found member
    obtain ⟨permission, -, held⟩ := List.mem_flatMap.1 ((mem_findings_ok rfl).1 member)
    obtain ⟨principal, -, rfl⟩ := List.mem_map.1 held
    exact ⟨_, principal, rfl⟩
  refine ⟨fun resource found member => ?_, fun resource found member => ?_, fun _ _ _ => ?_⟩
  · obtain ⟨role, principal, rfl⟩ := made resource found member
    exact ⟨rfl, rfl⟩
  · obtain ⟨role, principal, rfl⟩ := made resource found member
    rfl
  · simp only [humanWithBasicRole, Except.map, List.map_flatMap, List.map_map]
    rfl

theorem impartial_of_single {rule : Rule} (holds : Resource → Bool)
    (finding : Resource → Observation)
    (checks : ∀ resource, rule.check resource =
      .ok (if holds resource then [finding resource] else []))
    (named : ∀ resource, (finding resource).name = rule.name)
    (files : ∀ resource, (finding resource).groupName = resource.resourceGroupName ∧
      (finding resource).collectionId = resource.collectionUid)
    (chooses : ∀ collectId now resource,
      holds (Collector.retagged collectId now resource) = holds resource)
    (describes : ∀ collectId now resource, finding (Collector.retagged collectId now resource) =
      Scan.inCollection collectId (finding resource)) : rule.Impartial := by
  have made : ∀ resource, ∀ found ∈ rule.findings resource, found = finding resource := by
    intro resource found member
    rw [mem_findings_ok (checks resource)] at member
    split at member
    · exact List.mem_singleton.1 member
    · cases member
  refine ⟨fun resource found member => ?_, fun resource found member => ?_,
    fun collectId now resource => ?_⟩
  · exact made resource found member ▸ files resource
  · exact made resource found member ▸ named resource
  · rw [checks, checks, chooses, describes, Except.map, apply_ite (List.map _)]
    rfl

theorem missingContactLabels_impartial : missingContactLabels.Impartial :=
  have checks : ∀ resource, missingContactLabels.check resource =
      .ok (if !hasContactLabel resource then [missingLabels resource] else []) := by
    intro resource
    change Except.ok (if hasContactLabel resource then [] else [missingLabels resource]) = _
    cases hasContactLabel resource <;> rfl
  impartial_of_single _ missingLabels checks (fun _ => rfl) (fun _ => ⟨rfl, rfl⟩)
    (fun _ _ _ => rfl) (fun _ _ _ => rfl)

theorem publicBucket_impartial : publicBucket.Impartial :=
  impartial_of_single isPublic openBucket (fun _ => rfl) (fun _ => rfl) (fun _ => ⟨rfl, rfl⟩)
    (fun _ _ _ => rfl) (fun _ _ _ => rfl)

theorem builtin_impartial : ∀ rule ∈ builtin, rule.Impartial := by
  simp only [builtin, List.forall_mem_cons]
  exact ⟨humanWithBasicRole_impartial, missingContactLabels_impartial, publicBucket_impartial,
    by simp⟩

end Rule

end CloudAudit
