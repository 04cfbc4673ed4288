import CloudAudit.Proofs.Collect.Whole
import CloudAudit.Proofs.Dispatch.Delivery
import CloudAudit.Proofs.Scan.Origins
/-!
# Findings reach the people of their group

A finding bears the collection of the resource that it was found on, which may be that of another
run. Where every name stands for one resource, that collection stored the record of the group as
well, so whoever looks for it finds it, and with it the contacts that the inventory names.
-/
set_option autoImplicit false

namespace CloudAudit

/-- Where the rules file what they find, an observation on a group of which something was stored
names a collection that stored the whole group. -/
theorem Scan.collection_of_answered {deployment : Deployment} {books : Books}
    (files : ∀ rule ∈ deployment.rules, rule.Files) (tidy : deployment.inventory.Tidy)
    (whole : books.store.Whole deployment.inventory) {scanId collectId : String}
    {groups : List String} {found : Observation}
    (answered : found ∈ ((checkRules deployment scanId collectId groups
      (Collector.knownTo deployment.inventory collectId)).run books).1.1)
    (stored : books.store.resourcesOf found.groupName ≠ []) :
    found.groupName ∈ groups ∧ ∃ origin now, found.collectionId = some origin ∧
      Collector.block deployment.inventory found.groupName origin now ⊆
        books.store.resourcesOf found.groupName := by
  obtain ⟨resource, kinds, group, covered, sighted, lies, tagged⟩ :=
    exists_resource_of_answered whole.filed files answered
  cases sighted with
  | stored accepts =>
    have isStored := (List.mem_filter.1 accepts).1
    obtain ⟨origin, now, inBlock, all⟩ := whole group resource isStored
    have sameGroup : found.groupName = group := lies.trans (whole.filed group resource isStored)
    rw [sameGroup]
    refine ⟨covered, origin, now, ?_, all⟩
    rw [tagged, Collector.collectionUid_of_mem_block inBlock, Option.getD_some]
  | known nothing asksForGroups skeleton named =>
    -- The rule asks for groups, and whatever is stored of this one, its record is stored with it.
    obtain ⟨record, ⟨isRecord, isGroup⟩, rfl⟩ := Collector.mem_knownTo.1 skeleton
    have atHome : record.resourceGroupName = group :=
      (tidy.own record isRecord isGroup).trans named
    have sameGroup : found.groupName = group := lies.trans atHome
    rw [sameGroup] at stored
    obtain ⟨first, isStored⟩ := List.exists_mem_of_ne_nil _ stored
    obtain ⟨origin, now, -, all⟩ := whole group first isStored
    have isMember : record ∈ Collector.members deployment.inventory group :=
      Collector.mem_members.2 ⟨isRecord, atHome⟩
    have accepts : kinds.contains record.kind = true := by
      rw [beq_iff_eq.1 isGroup]
      exact asksForGroups
    have accepted : Collector.retagged origin now record ∈ accepted books.store kinds group :=
      List.mem_filter.2 ⟨all (List.mem_map_of_mem isMember), accepts⟩
    rw [nothing] at accepted
    cases accepted

namespace Dispatch

/-- Whoever looks for the group of an observation finds only the given record, from the given
collection, and notifies each contact that the record names of what to do. -/
structure Routed (deployment : Deployment) (observation : Observation) (collectId : String)
    (record : Resource) (books : Books) : Prop where
  found : ∃ records,
    ((Books.listResources (recordFilter observation)).run.run books).1 = .ok records ∧
      records ≠ [] ∧ ∀ resource ∈ records, ∃ now, resource = Collector.retagged collectId now record
  notified : ((notificationsFor deployment observation).run.run books).1 =
    if deployment.contacts.contacts record = [] then .error (.noContacts observation.groupName)
    else
      .ok ((deployment.contacts.contacts record).map fun contact =>
        { sourceSystem := deployment.sourceSystem
          name := observation.name
          recipient := contact
          content := observation.remediation.description ++ "\n\n" ++
            observation.remediation.recommendation
          interval := deployment.notificationInterval })

def isRecordOf (observation : Observation) (collectId : String) (resource : Resource) : Bool :=
  resource.isGroup && resource.collectionUid == some collectId &&
    resource.name == observation.groupName

theorem listResources_recordFilter (store : Store) {observation : Observation} {collectId : String}
    (collected : observation.collectionId = some collectId) :
    store.listResources (recordFilter observation) =
      .ok (((store.resourcesOf observation.groupName).filter
        (isRecordOf observation collectId)).take 2) := by
  have matching : isRecordFor observation = isRecordOf observation collectId := by
    funext resource
    rw [isRecordFor, isRecordOf, collected]
    rfl
  rw [listResources_record, matching]

section

variable {deployment : Deployment} {observation : Observation} {collectId : String}
  {record : Resource} {books : Books} (tidy : deployment.inventory.Tidy)
  (isRecord : record ∈ deployment.inventory.resources) (isGroup : record.isGroup = true)
  (named : record.name = observation.groupName)
include tidy isRecord named

theorem eq_retagged_of_isRecordOf {store : Store} (whole : store.Whole deployment.inventory)
    {resource : Resource} (isStored : resource ∈ store.resourcesOf observation.groupName)
    (matching : isRecordOf observation collectId resource = true) :
    ∃ now, resource = Collector.retagged collectId now record := by
  obtain ⟨origin, now, inBlock, -⟩ := whole _ resource isStored
  obtain ⟨original, isMember, rfl⟩ := List.mem_map.1 inBlock
  simp only [isRecordOf, Bool.and_eq_true, beq_iff_eq] at matching
  obtain ⟨⟨-, tagged⟩, sameName⟩ := matching
  obtain rfl : original = record :=
    tidy.eq_of_name (Collector.mem_members.1 isMember).1 isRecord (sameName.trans named.symm)
  obtain rfl : origin = collectId := Option.some.inj tagged
  exact ⟨now, rfl⟩

include isGroup

theorem routed_of_stored (whole : books.store.Whole deployment.inventory)
    (answers : books.failsAt .listResources = false)
    (collected : observation.collectionId = some collectId) {now : Instant}
    (stored : Collector.block deployment.inventory observation.groupName collectId now ⊆
      books.store.resourcesOf observation.groupName) :
    Routed deployment observation collectId record books := by
  have atHome : record.resourceGroupName = observation.groupName :=
    (tidy.own record isRecord isGroup).trans named
  let matching := (books.store.resourcesOf observation.groupName).filter
    (isRecordOf observation collectId)
  have isMatching : Collector.retagged collectId now record ∈ matching := by
    refine List.mem_filter.2 ⟨stored (List.mem_map_of_mem ?_), ?_⟩
    · exact Collector.mem_members.2 ⟨isRecord, atHome⟩
    · simp [isRecordOf, Collector.retagged, Resource.isGroup, named, beq_iff_eq.1 isGroup]
  have onlyRecord : ∀ resource ∈ matching.take 2,
      ∃ now, resource = Collector.retagged collectId now record := by
    intro resource member
    obtain ⟨isStored, isOne⟩ := List.mem_filter.1 (List.mem_of_mem_take member)
    exact eq_retagged_of_isRecordOf tidy isRecord named whole isStored isOne
  have listed : (Books.listResources (recordFilter observation)).run.run books =
      (.ok (matching.take 2), books.counted) := by
    rw [Books.listResources_run, answers, listResources_recordFilter _ collected]
    rfl
  cases found : matching with
  | nil =>
    rw [found] at isMatching
    cases isMatching
  | cons first more =>
    rw [found] at listed onlyRecord
    refine ⟨⟨_, congrArg Prod.fst listed, by simp, onlyRecord⟩, ?_⟩
    obtain ⟨taken, rfl⟩ := onlyRecord first (by simp)
    have sameContacts : deployment.contacts.contacts (Collector.retagged collectId taken record) =
        deployment.contacts.contacts record := rfl
    rw [notificationsFor, Books.bind_run_ok listed]
    change forRecords deployment observation
      (Collector.retagged collectId taken record :: more.take 1) = _
    rw [forRecords, sameContacts]
    cases deployment.contacts.contacts record <;> rfl

end

end Dispatch

/-- Whichever runs overlap, an observation of a scan whose rules file what they find names the
collection of the resource that it was found on. If something of its group was stored when the scan
began, then from there on whoever looks for that collection's record of the group finds it, as it is
in the inventory; so the people to notify are the contacts of this record, and there is nobody to
notify exactly if it has none. -/
theorem findings_reach_contacts {deployment : Deployment}
    (files : ∀ rule ∈ deployment.rules, rule.Files) (tidy : deployment.inventory.Tidy)
    (reachable : deployment.collector ≠ .unreachable) {supply : Supply} {events : List Event}
    {before later : List Moment} {moment : Moment}
    (history : (Books.fresh supply).moments deployment events = before ++ moment :: later)
    {skeletons : List Resource} {collected : List Observation} {claim : Claim}
    (checks : moment.run.phase = .checking skeletons collected claim)
    (known : ∀ group ∈ claim.granted, group ∈ Collector.namesOf deployment.inventory)
    {observation : Observation}
    (answered : observation ∈ ((Scan.checkRules deployment moment.run.scanId moment.run.collectId
      claim.granted skeletons).run moment.books).1.1)
    (stored : moment.books.store.resourcesOf observation.groupName ≠ []) :
    ∃ collectId record, observation.collectionId = some collectId ∧
      record ∈ deployment.inventory.resources ∧ record.isGroup = true ∧
      record.name = observation.groupName ∧
      ∀ books, books ∈ later.map Moment.books ∨
          books = (Books.fresh supply).after deployment events →
        books.failsAt .listResources = false →
          Dispatch.Routed deployment observation collectId record books := by
  have kept := KeptWhole.after tidy reachable supply events
  obtain ⟨whole, knows⟩ := kept.earlier moment (by simp [history])
  obtain rfl := knows skeletons (by rw [checks]; rfl)
  obtain ⟨granted, collectId, now, collects, wholeGroup⟩ :=
    Scan.collection_of_answered files tidy whole answered stored
  obtain ⟨record, inInventory, named⟩ := List.mem_map.1 (known _ granted)
  obtain ⟨isRecord, isGroup⟩ := List.mem_filter.1 inInventory
  have remains : ∀ books, books ∈ later.map Moment.books ∨
      books = (Books.fresh supply).after deployment events →
        books.store.Whole deployment.inventory ∧
          moment.books.store.resourcesOf observation.groupName ⊆
            books.store.resourcesOf observation.groupName := by
    have scanned := steady_resources.step deployment moment.run moment.books observation.groupName
    obtain ⟨between, last⟩ := steady_resources.keeps (fun _ _ _ _ => List.prefix_rfl) deployment
      (Books.fresh supply) events before moment later history
    rintro books (isLater | rfl)
    · obtain ⟨next, isNext, rfl⟩ := List.mem_map.1 isLater
      refine ⟨(kept.earlier next (by simp [history, isNext])).1, ?_⟩
      exact (scanned.trans (between next isNext observation.groupName)).subset
    · exact ⟨kept.whole, (scanned.trans (last observation.groupName)).subset⟩
  refine ⟨collectId, record, collects, isRecord, isGroup, named, fun books reached answers => ?_⟩
  obtain ⟨stillWhole, more⟩ := remains books reached
  exact Dispatch.routed_of_stored tidy isRecord isGroup named stillWhole answers collects
    (List.Subset.trans wholeGroup more)

namespace Handover

def group : Resource :=
  (Resource.group "g1").withPermission ⟨"roles/owner", ["user:ann@org.com"]⟩

def deployment : Deployment where
  inventory := ⟨[group]⟩
  contacts := { (default : ContactResolver) with orgSuffix := "@org.com", adminRoles := ["owner"] }
  notificationInterval := .zero
  sourceSystem := "CloudAudit"

def supply : Supply := { now := ⟨0, 0⟩ }

/-- The second run leaves the collection to the first one, and is the first to scan. -/
def events : List Event :=
  [.call none (.collectAndScan ["g1"]), .turn 0, .turn 0, .call none (.collectAndScan ["g1"]),
    .turn 1, .turn 1, .turn 1, .turn 1, .turn 0, .turn 1, .turn 1, .turn 1, .settle]

def claim : Claim where
  kind := .scan
  id := Supply.idText 3
  requested := ["g1"]
  granted := ["g1"]

theorem tidy : deployment.inventory.Tidy where
  distinct := by decide
  own := by decide

theorem files : ∀ rule ∈ deployment.rules, rule.Files :=
  fun rule isRule => (Rule.builtin_impartial rule isRule).files

theorem second_run_reaches_ann :
    (∀ rule ∈ deployment.rules, rule.Files) ∧ deployment.inventory.Tidy ∧
    deployment.collector ≠ .unreachable ∧
    ∃ before moment later skeletons observation,
      (Books.fresh supply).moments deployment events = before ++ moment :: later ∧
      moment.run.phase = .checking skeletons [] claim ∧
      (∀ group ∈ claim.granted, group ∈ Collector.namesOf deployment.inventory) ∧
      observation ∈ ((Scan.checkRules deployment moment.run.scanId moment.run.collectId
        claim.granted skeletons).run moment.books).1.1 ∧
      moment.books.store.resourcesOf observation.groupName ≠ [] ∧
      observation.collectionId ≠ some moment.run.collectId ∧
      ((Dispatch.notificationsFor deployment observation).run.run
          ((Books.fresh supply).after deployment events)).1 =
        .ok [{ sourceSystem := "CloudAudit"
               name := observation.name
               recipient := "ann@org.com"
               content := observation.remediation.description ++ "\n\n" ++
                 observation.remediation.recommendation
               interval := .zero }] := by
  let skeletons := Collector.knownTo deployment.inventory (Supply.idText 2)
  let facts (moment : Moment) : Prop :=
    moment.run.phase = .checking skeletons [] claim ∧
      moment.run.collectId = Supply.idText 2 ∧
      (∀ found ∈ ((Scan.checkRules deployment moment.run.scanId moment.run.collectId
          claim.granted skeletons).run moment.books).1.1,
        found.groupName = "g1" ∧ found.collectionId = some (Supply.idText 0)) ∧
      ((Scan.checkRules deployment moment.run.scanId moment.run.collectId
          claim.granted skeletons).run moment.books).1.1 ≠ [] ∧
      moment.books.store.resourcesOf "g1" ≠ []
  have here : ∀ moment ∈ (((Books.fresh supply).moments deployment events).drop 9).head?,
      facts moment := by decide +kernel
  obtain ⟨before, moment, later, history, ⟨checks, second, each, answers, stored⟩, -⟩ :=
    Moment.exists_at 9 (by decide +kernel) here
  obtain ⟨observation, answered⟩ := List.exists_mem_of_ne_nil _ answers
  obtain ⟨inGroup, ofFirst⟩ := each observation answered
  have known : ∀ group ∈ claim.granted, group ∈ Collector.namesOf deployment.inventory := by decide
  have stored' : moment.books.store.resourcesOf observation.groupName ≠ [] := inGroup ▸ stored
  obtain ⟨collectId, record, -, isRecord, -, -, routed⟩ :=
    findings_reach_contacts files tidy (by decide) history checks known answered stored'
  have reached := (routed _ (.inr rfl) (by decide +kernel)).notified
  obtain rfl : record = group := List.mem_singleton.1 isRecord
  refine ⟨files, tidy, by decide, before, moment, later, skeletons, observation, history, checks,
    known, answered, stored', ?_, reached⟩
  rw [ofFirst, second]
  decide

end Handover

end CloudAudit
