import CloudAudit.Proofs.Collect.Stamps
/-!
# The resource of a report

A report is about a resource of some name. Of all stored resources of this name, in whichever
groups, those of the latest collection decide: the report is attached to the only one of them, or
refused if there are several. Neither the group that a report names nor what was collected before of
other groups is looked at.
-/
set_option autoImplicit false

namespace CloudAudit

namespace Store

def named (store : Store) (name : String) : List Resource :=
  store.resources.values.flatten.filter fun resource => resource.name == name

theorem mem_named {store : Store} {name : String} {resource : Resource} :
    resource ∈ store.named name ↔
      (∃ group, resource ∈ store.resourcesOf group) ∧ resource.name = name := by
  have known : resource ∈ store.resources.values.flatten ↔
      ∃ group, resource ∈ store.resourcesOf group := by
    rw [List.mem_flatten]
    simp only [Table.mem_values_iff, resourcesOf]
    constructor
    · rintro ⟨found, ⟨group, inTable⟩, member⟩
      refine ⟨group, ?_⟩
      rw [inTable]
      exact member
    · rintro ⟨group, member⟩
      cases inTable : store.resources.get? group with
      | none => simp [inTable] at member
      | some found =>
        rw [inTable] at member
        exact ⟨found, ⟨group, inTable⟩, member⟩
  rw [named, List.mem_filter, known, beq_iff_eq]

theorem listResources_named (store : Store) (name : String) :
    store.listResources { names := some [name] } = .ok (store.named name) := by
  have matching : resourceMatches { names := some [name] } none =
      fun resource => resource.name == name := by
    funext resource
    rw [Bool.eq_iff_iff]
    simp [resourceMatches, Filter.allows, Filter.inWindow]
  change Except.ok (List.filter _ _) = _
  rw [matching]
  rfl

end Store

theorem Instant.eq_of_not_laterStamp {first second : Option Instant}
    (notLater : ¬ laterStamp first second = true) (notEarlier : ¬ laterStamp second first = true) :
    first = second := by
  cases first with
  | none => cases second with
    | none => rfl
    | some other => exact absurd rfl notEarlier
  | some time => cases second with
    | none => exact absurd rfl notLater
    | some other =>
      exact congrArg some (eq_of_notBefore ((notBefore_iff _ _).2 notEarlier)
        ((notBefore_iff _ _).2 notLater))

namespace Service

/-- Whether some of the resources found are those of the collection of one that no other one is
later than. -/
def OfLatest (found resources : List Resource) : Prop :=
  found = [] ∧ resources = [] ∨
    ∃ newest ∈ found, (∀ other ∈ found, Scan.isNewer newest other = true) ∧
      resources = found.filter fun resource => resource.collectionUid == newest.collectionUid

theorem isNewer_total {first second : Resource} (notNewer : ¬ Scan.isNewer first second = true) :
    Scan.isNewer second first = true := by
  simp only [Scan.isNewer, Bool.not_eq_true', Bool.not_eq_false] at *
  exact Bool.eq_false_iff.2 (Instant.laterStamp_asymm notNewer)

theorem current_ofLatest (found : List Resource) : OfLatest found (current found) := by
  by_cases nothing : found = []
  · exact .inl ⟨nothing, by rw [nothing]; rfl⟩
  · obtain ⟨best, isNewest, picked⟩ := Scan.newest_of_ne_nil nothing
    refine .inr ⟨best, picked.mem, fun other isOther => ?_, ?_⟩
    · exact picked.replaces_of_mem (fun _ _ => isNewer_total) isOther
    · rw [current, isNewest, Option.bind_some]

def latest (found : List Resource) : List Resource :=
  found.filter fun resource => found.all (Scan.isNewer resource)

theorem OfLatest.eq_latest {found resources : List Resource} (chosen : OfLatest found resources)
    (agree : ∀ one ∈ found, ∀ other ∈ found,
      one.collectionUid = other.collectionUid ↔ one.timestamp = other.timestamp) :
    resources = latest found := by
  obtain ⟨rfl, rfl⟩ | ⟨newest, isFound, newer, rfl⟩ := chosen
  · rfl
  · refine List.filter_congr fun resource member => ?_
    rw [Bool.eq_iff_iff, beq_iff_eq, agree resource member newest isFound, List.all_eq_true]
    constructor
    · intro same other isOther
      rw [Scan.isNewer, same]
      exact newer other isOther
    · intro alsoNewer
      have notEarlier := alsoNewer newest isFound
      have notLater := newer resource member
      simp only [Scan.isNewer, Bool.not_eq_true'] at notEarlier notLater
      exact Instant.eq_of_not_laterStamp (Bool.eq_false_iff.1 notLater)
        (Bool.eq_false_iff.1 notEarlier)

/-! ## Reports on a store -/

section

variable {report created : Observation} {books after : Books}

theorem onlyCurrent_eq_ok_iff {name : String} {found : List Resource} {resource : Resource} :
    onlyCurrent name found = .ok resource ↔ current found = [resource] := by
  rw [onlyCurrent]
  split <;> simp_all

theorem onlyCurrent_of_not_one {name : String} {found : List Resource}
    (notOne : (current found).length ≠ 1) :
    onlyCurrent name found =
      .error (.notFound
        ("found " ++ toString (current found).length ++ " resources matching " ++ name)) := by
  rw [onlyCurrent]
  split
  · rename_i resource only
    rw [only] at notOne
    exact absurd rfl notOne
  · rfl

/-- Who is told that a report is stored is told the only current resource of its name. -/
theorem createObservation_links
    (ran : (createObservation report).run.run books = (.ok created, after)) :
    ∃ resource, current (books.store.named report.resourceRef.name) = [resource] ∧
      created.resourceRef =
        ⟨resource.name, resource.resourceGroupName, some resource.uid⟩ := by
  obtain ⟨found, resource, uid, lists, chosen, rfl, -, -⟩ := createObservation_parts ran
  rw [Store.listResources_named] at lists
  obtain rfl : books.store.named report.resourceRef.name = found := Except.ok.inj lists
  exact ⟨resource, onlyCurrent_eq_ok_iff.1 chosen, rfl⟩

theorem listResources_named_run (serves : books.failsAt .listResources = false) (name : String) :
    (Books.listResources { names := some [name] }).run.run books =
      (.ok (books.store.named name), books.counted) := by
  rw [Books.listResources_run, if_neg (by simp [serves]), Store.listResources_named]

section

variable (complete : checkReport report = .ok ()) (serves : books.failsAt .listResources = false)
include complete serves

/-- A report that says enough is refused unless its name has exactly one current resource. -/
theorem createObservation_not_one
    (notOne : (current (books.store.named report.resourceRef.name)).length ≠ 1) :
    (createObservation report).run.run books =
      (.error (.notFound ("found " ++
          toString (current (books.store.named report.resourceRef.name)).length ++
          " resources matching " ++ report.resourceRef.name)),
        books.counted) := by
  rw [createObservation, complete, Books.bind_run_ok (books.settled_run (.ok ())),
    Books.bind_run_ok (listResources_named_run serves _), onlyCurrent_of_not_one notOne,
    Books.bind_run_error (books.counted.settled_run (.error _))]

theorem createObservation_one {resource : Resource}
    (only : current (books.store.named report.resourceRef.name) = [resource])
    (takes : books.counted.failsAt .batchCreateObservations = false)
    (hands : books.losesCreated = false) :
    ∃ created after, (createObservation report).run.run books = (.ok created, after) := by
  obtain ⟨uid, named, names, sameFails, sameLoses⟩ : ∃ uid named,
      (liftM (reportUid report.uid) : Act String).run.run books.counted = (.ok uid, named) ∧
        named.failsAt .batchCreateObservations =
          books.counted.failsAt .batchCreateObservations ∧
        named.losesCreated = books.losesCreated := by
    unfold reportUid
    split <;> exact ⟨_, _, rfl, rfl, rfl⟩
  have keeps := (named.ticked 1).addObservations_run
    [{ linked report resource with uid, timestamp := some named.supply.reading }]
  have takesStill : (named.ticked 1).failsAt .batchCreateObservations = false :=
    sameFails.trans takes
  have handsStill : (named.ticked 1).losesCreated = false := sameLoses.trans hands
  rw [if_neg (by simp [takesStill]), if_neg (by simp [handsStill])] at keeps
  rw [createObservation, complete, Books.bind_run_ok (books.settled_run (.ok ())),
    Books.bind_run_ok (listResources_named_run serves _), onlyCurrent_eq_ok_iff.2 only,
    Books.bind_run_ok (books.counted.settled_run (.ok resource)), Books.bind_run_ok names,
    Books.bind_run_ok named.readClock_run, Books.bind_run_ok keeps]
  exact ⟨_, _, rfl⟩

end

end

/-! ## Reports after any history -/

/-- How some resources of a name decide about a report. -/
structure Decides (resources : List Resource) (report : Observation) (books : Books) : Prop where
  /-- A report that is accepted is attached to the only one of them. -/
  attached : ∀ created after, (createObservation report).run.run books = (.ok created, after) →
    ∃ resource, resources = [resource] ∧ resource.name = report.resourceRef.name ∧
      resource ∈ books.store.resourcesOf resource.resourceGroupName ∧
      created.resourceRef = ⟨resource.name, resource.resourceGroupName, some resource.uid⟩
  /-- It is attached to a resource of the group that it names if one of them lies there. -/
  ownGroup : ∀ created after, (createObservation report).run.run books = (.ok created, after) →
    (∃ resource ∈ resources, resource.resourceGroupName = report.groupName) →
      created.groupName = report.groupName
  /-- A report that says enough is accepted where there is one of them. -/
  accepted : checkReport report = .ok () → books.Reliable → books.losesCreated = false →
    resources.length = 1 →
      ∃ created after, (createObservation report).run.run books = (.ok created, after)
  /-- It is refused where there is none or several. -/
  refused : checkReport report = .ok () → books.failsAt .listResources = false →
    resources.length ≠ 1 →
      (createObservation report).run.run books =
        (.error (.notFound ("found " ++ toString resources.length ++ " resources matching " ++
          report.resourceRef.name)), books.counted)
  /-- It is refused where they lie in different groups. -/
  ambiguous : checkReport report = .ok () → books.failsAt .listResources = false →
    ∀ one ∈ resources, ∀ other ∈ resources, one.resourceGroupName ≠ other.resourceGroupName →
      ∃ text, (createObservation report).run.run books = (.error (.notFound text), books.counted)

theorem decides_current {books : Books} (filed : books.store.Filed) (report : Observation) :
    Decides (current (books.store.named report.resourceRef.name)) report books where
  attached := by
    intro created after ran
    obtain ⟨resource, only, linked⟩ := createObservation_links ran
    have found : resource ∈ books.store.named report.resourceRef.name := by
      refine List.mem_of_mem_filter (?_ : resource ∈ current _)
      rw [only]
      exact List.mem_singleton_self resource
    obtain ⟨⟨group, inGroup⟩, named⟩ := Store.mem_named.1 found
    refine ⟨resource, only, named, ?_, linked⟩
    rw [filed group resource inGroup]
    exact inGroup
  ownGroup := by
    rintro created after ran ⟨resource, member, own⟩
    obtain ⟨only, one, linked⟩ := createObservation_links ran
    rw [one, List.mem_singleton] at member
    rw [Observation.groupName, linked, ← own, member]
  accepted := by
    intro complete reliable hands one
    obtain ⟨resource, only⟩ := List.length_eq_one_iff.1 one
    exact createObservation_one complete (reliable _ _) only (reliable _ _) hands
  refused := createObservation_not_one
  ambiguous := by
    intro complete serves one isOne other isOther apart
    refine ⟨_, createObservation_not_one complete serves fun single => ?_⟩
    obtain ⟨resource, only⟩ := List.length_eq_one_iff.1 single
    rw [only, List.mem_singleton] at isOne isOther
    exact apart (by rw [isOne, isOther])

/-- Whatever was collected before, in whichever runs: of all resources of the name that a report
gives, those of one collection decide about it, that of a latest one of them. Where the clock ticks,
they are just the latest ones. -/
theorem latest_collection_decides {deployment : Deployment} {supply : Supply}
    {events : List Event} {looked : Books}
    (reached : (Books.fresh supply).after deployment events = looked)
    (lasting : looked.supply.minted ≤ 2 ^ 128) (report : Observation) :
    ∃ resources, OfLatest (looked.store.named report.resourceRef.name) resources ∧
      Decides resources report looked ∧
      (supply.Ticks → resources = latest (looked.store.named report.resourceRef.name)) := by
  have filed : looked.store.Filed := by
    rw [← reached]
    exact steady_filed.after (fun _ _ _ filed => filed) deployment events (Books.fresh supply)
      Store.filed_empty
  have chosen := current_ofLatest (looked.store.named report.resourceRef.name)
  refine ⟨_, chosen, decides_current filed report, fun ticks => ?_⟩
  subst reached
  refine chosen.eq_latest fun one isOne other isOther => ?_
  obtain ⟨⟨group, inGroup⟩, -⟩ := Store.mem_named.1 isOne
  obtain ⟨⟨others, inOthers⟩, -⟩ := Store.mem_named.1 isOther
  exact collections_agree ticks lasting inGroup inOthers

namespace Twins

/-- Two groups with a bucket of the same name in each. -/
def deployment : Deployment where
  inventory :=
    ⟨[Resource.group "g1", Resource.group "g2", Resource.member "b" "g1" .bucket,
      Resource.member "b" "g2" .bucket]⟩
  rules := []
  contacts := default
  notificationInterval := .zero
  sourceSystem := "CloudAudit"

def supply : Supply := { now := ⟨0, 0⟩ }

def events : List Event :=
  [.call none (.collectAndScan ["g1"]), .settle, .call none (.collectAndScan ["g2"]), .settle]

/-- What somebody found on a bucket without saying in which group. -/
def report : Observation where
  name := "MANUAL"
  resourceRef := { name := "b" }
  remediation := ⟨"d", "r"⟩

@[irreducible]
def looked : Books := (Books.fresh supply).after deployment events

theorem looked_eq : (Books.fresh supply).after deployment events = looked := by
  rw [looked]

def created : Observation :=
  ((createObservation report).run.run looked).1.toOption.getD default

@[irreducible]
def reported : Books := ((createObservation report).run.run looked).2

theorem accepted : (createObservation report).run.run looked = (.ok created, reported) := by
  rw [created, reported]
  exact Manual.answered _ _ _ (by decide +kernel)

theorem attached_to_later_bucket :
    ∃ resource, latest (looked.store.named "b") = [resource] ∧ resource.name = "b" ∧
      resource ∈ looked.store.resourcesOf resource.resourceGroupName ∧
      created.resourceRef = ⟨resource.name, resource.resourceGroupName, some resource.uid⟩ := by
  obtain ⟨resources, -, decides, latest⟩ :=
    latest_collection_decides looked_eq (by decide +kernel) report
  obtain ⟨resource, only, attached⟩ := decides.attached created reported accepted
  exact ⟨resource, (latest fun _ => Nat.one_pos).symm.trans only, attached⟩

end Twins

/-- Buckets of one name that were collected in two runs are not taken for ambiguous: a report on the
name goes to the later one. -/
theorem reports_can_be_misattached :
    ¬ ∀ (deployment : Deployment) (supply : Supply) (events : List Event) (looked : Books)
        (report : Observation),
      (Books.fresh supply).after deployment events = looked → looked.supply.minted ≤ 2 ^ 128 →
      (∀ created after, (createObservation report).run.run looked = (.ok created, after) →
        created.resourceRef.name = report.resourceRef.name ∧
          (report.groupName ≠ "" → created.groupName = report.groupName)) ∧
      (checkReport report = .ok () → looked.failsAt .listResources = false →
        report.groupName = "" → ∀ first second, first ≠ second →
        (∃ one ∈ current (looked.store.resourcesOf first), one.name = report.resourceRef.name) →
        (∃ one ∈ current (looked.store.resourcesOf second), one.name = report.resourceRef.name) →
          ∃ text after,
            (createObservation report).run.run looked = (.error (.notFound text), after)) := by
  intro apart
  obtain ⟨text, after, refused⟩ := (apart _ _ _ _ Twins.report Twins.looked_eq
    (by decide +kernel)).2 (by decide) (by decide +kernel) (by decide) "g1" "g2" (by decide)
    (by decide +kernel) (by decide +kernel)
  rw [Twins.accepted] at refused
  cases refused

end Service

end CloudAudit
