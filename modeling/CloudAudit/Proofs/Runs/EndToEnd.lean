import CloudAudit.Proofs.Listing.Supersession
import CloudAudit.Proofs.Runs.Rounds
/-!
# A run equals direct evaluation

Whatever runs came one after the other, a listing of a group shows what the built-in rules say of
the inventory resources of the group, each finding once, under the identifiers of the latest run
that covered it.
-/
set_option autoImplicit false

namespace CloudAudit

namespace Books

def played (deployment : Deployment) (supply : Supply) (rounds : List Round) : Books :=
  (fresh supply).after deployment (rounds.flatMap Round.events)

def nextWeek (books : Books) : Window :=
  Window.weekTo books.supply.reading

structure InCalendar (books : Books) : Prop where
  supported : books.supply.reading.inCalendar = true
  started : books.nextWeek.start.inCalendar = true

theorem nextWeek_has {books : Books} {time : Instant}
    (later : time.after books.nextWeek.start = true)
    (past : books.supply.now.notBefore time = true) : books.nextWeek.has (some time) = true :=
  (Window.has_iff _ _).2
    ⟨later, Instant.notBefore_trans (Clock.reading_notBefore _) past⟩

end Books

/-- What a listing of a group shows after a run that was the latest over the group: under each
built-in rule what the rule says of the inventory, as far as it lies in the week. -/
structure Shows (deployment : Deployment) (moment : Moment) (group : String) (books : Books)
    (found : Rule → List Observation) : Prop where
  evaluated : ∀ rule ∈ Rule.builtin, Made moment.books.supply.reading books.supply.now
    (Scan.evaluation deployment.inventory moment.run.scanId moment.run.collectId group rule)
    (found rule)
  listed : ((Service.listObservations deployment [group]).run.run books).1 =
    .ok (Service.listingOf group fun rule =>
      (found rule).filter fun finding => books.nextWeek.has finding.timestamp)
  /-- After a run that began in the week the listing shows everything. -/
  whole : moment.books.supply.reading.after books.nextWeek.start = true →
    ((Service.listObservations deployment [group]).run.run books).1 =
      .ok (Service.listingOf group found)

namespace Standing

variable {deployment : Deployment} {moment : Moment} {group : String} {books : Books}
  (stands : Standing deployment moment group books)
include stands

/-- Of a group with a completed run a listing keeps what this run found, as far as it lies in the
week. -/
theorem latestScanOnly_eq (orderly : books.Orderly)
    (scanned : ∀ found ∈ books.store.stored group, ∃ scan, found.scanId = some scan) :
    Service.latestScanOnly ([group].flatMap (books.store.seenIn books.nextWeek))
        (Service.latestCompletedScans
          ((books.store.loggedIn books.nextWeek).filter
            fun entry => [group].contains entry.resourceGroup)) =
      ((books.store.stored group).filter fun found => found.scanId == some moment.run.scanId).filter
        fun finding => books.nextWeek.has finding.timestamp := by
  obtain ⟨entry, latest, own, lastOfGroup⟩ := stands.counts
  have isLogged := (List.mem_filter.1 latest.mem).1
  have past := orderly.past entry (List.mem_append_left _ isLogged)
  rw [List.filter_comm]
  by_cases recent : books.nextWeek.has (some entry.statusTime) = true
  · have counts : books.store.Counts books.nextWeek group moment.run.scanId := by
      rw [← own]
      refine .completed ?_
      rw [Store.loggedIn, List.filter_comm]
      exact latest.filter recent
    exact Service.latestScanOnly_of_counts orderly books.nextWeek counts scanned
  · -- Everything of the group is as old as the entry or older.
    have nothing : books.store.seenIn books.nextWeek group = [] := by
      rw [Store.seenIn, List.filter_eq_nil_iff]
      intro found member inWeek
      cases dated : found.timestamp with
      | none =>
        rw [dated] at inWeek
        cases inWeek
      | some time =>
        rw [dated, Window.has_iff] at inWeek
        refine recent (Books.nextWeek_has ?_ past)
        exact Instant.after_of_notBefore_of_after (lastOfGroup found member time dated) inWeek.1
    rw [Store.seenIn] at nothing
    rw [List.flatMap_singleton, Store.seenIn, nothing]
    rfl

/-- After a run that began in the week all its findings lie there. -/
theorem filter_nextWeek
    (recent : moment.books.supply.reading.after books.nextWeek.start = true) :
    (((books.store.stored group).filter fun found => found.scanId == some moment.run.scanId).filter
        fun finding => books.nextWeek.has finding.timestamp) =
      (books.store.stored group).filter fun found => found.scanId == some moment.run.scanId := by
  rw [List.filter_eq_self]
  intro found member
  obtain ⟨time, dated, later, past⟩ := stands.made.within found member
  rw [dated]
  exact Books.nextWeek_has (Instant.after_of_notBefore_of_after later recent) past

/-- The findings of each rule stand there once, in their order. -/
theorem made_of_rule (impartial : ∀ rule ∈ deployment.rules, rule.Impartial)
    (distinct : (deployment.rules.map Rule.name).Nodup) {rule : Rule}
    (known : rule ∈ deployment.rules) :
    Made moment.books.supply.reading books.supply.now
      (Scan.evaluation deployment.inventory moment.run.scanId moment.run.collectId group rule)
      (((books.store.stored group).filter
        fun found => found.scanId == some moment.run.scanId).filter
          fun found => found.name == rule.name) := by
  have own : ∀ rule ∈ deployment.rules, ∀ finding ∈
      Scan.evaluation deployment.inventory moment.run.scanId moment.run.collectId group rule,
      finding.name = rule.name := by
    intro rule isRule finding member
    obtain ⟨plain, judged, rfl⟩ := List.mem_map.1 member
    obtain ⟨resource, -, found⟩ := List.mem_flatMap.1 judged
    exact (impartial rule isRule).named resource plain found
  rw [← Store.filter_flatMap_labelled Observation.name own distinct known]
  exact stands.made.filter fun _ => rfl

theorem named (impartial : ∀ rule ∈ deployment.rules, rule.Impartial) {finding : Observation}
    (member : finding ∈ (books.store.stored group).filter
      fun found => found.scanId == some moment.run.scanId) :
    finding.name ∈ deployment.rules.map Rule.name := by
  have names : ∀ observation : Observation,
      observation.undated.name = observation.name := fun _ => rfl
  obtain ⟨given, isGiven, same⟩ := stands.made.exists_like names member
  obtain ⟨rule, isRule, evaluated⟩ := List.mem_flatMap.1 isGiven
  obtain ⟨plain, judged, rfl⟩ := List.mem_map.1 evaluated
  obtain ⟨resource, -, found⟩ := List.mem_flatMap.1 judged
  rw [← same]
  exact List.mem_map.2 ⟨rule, isRule, ((impartial rule isRule).named resource plain found).symm⟩

end Standing

namespace Settled

variable {deployment : Deployment} {past : List Moment} {books : Books}
  (settled : Settled deployment past books)
include settled

theorem status_done {moment : Moment} (member : moment ∈ past) :
    ((Pipeline.status moment.run.collectId moment.run.scanId).run books).1 = ⟨.done, .done⟩ := by
  obtain ⟨collects, scans⟩ := settled.registered moment member
  have both : ((Pipeline.status moment.run.collectId moment.run.scanId).run books).1 =
      ⟨(books.requests.status .collect moment.run.collectId).1,
        (books.requests.status .scan moment.run.scanId).1⟩ := rfl
  rw [both, settled.idle.status_done collects, settled.idle.status_done scans]

theorem shows (builtin : deployment.rules = Rule.builtin) {group : String} {moment : Moment}
    (named : group ≠ "") (latest : latest? group past = some moment)
    (valid : (Service.validateGroups deployment [group]).run.run books = (.ok [group], books))
    (inCalendar : books.InCalendar) : ∃ found, Shows deployment moment group books found := by
  have stands := settled.standing named latest
  have impartial : ∀ rule ∈ deployment.rules, rule.Impartial := builtin ▸ Rule.builtin_impartial
  obtain ⟨after, ran⟩ := Service.listObservations_succeeds settled.orderly valid
    inCalendar.supported inCalendar.started (fun _ => settled.reliable _ _)
    (fun _ => settled.reliable _ _)
  let made := (books.store.stored group).filter fun found => found.scanId == some moment.run.scanId
  let shown := made.filter fun finding => books.nextWeek.has finding.timestamp
  have scanned : ∀ found ∈ books.store.stored group, ∃ scan, found.scanId = some scan := by
    intro found member
    obtain ⟨scan, isScan, -⟩ := settled.scanned group found member
    exact ⟨scan, isScan⟩
  have known : ∀ finding ∈ shown,
      finding.groupName = group ∧ finding.name ∈ Rule.builtin.map Rule.name := by
    intro finding member
    have isMade := (List.mem_filter.1 member).1
    refine ⟨settled.orderly.filed group finding (List.mem_filter.1 isMade).1, ?_⟩
    rw [← builtin]
    exact stands.named impartial isMade
  have listed : Service.shownIn deployment.rules [group] books.store books.nextWeek =
      Service.listingOf group fun rule => shown.filter fun found => found.name == rule.name := by
    rw [Service.shownIn, stands.latestScanOnly_eq settled.orderly scanned, builtin,
      Service.grouped_single _ known, Service.entries_builtin]
  have distinct : (deployment.rules.map Rule.name).Nodup := by
    rw [builtin]
    decide
  refine ⟨fun rule => made.filter fun found => found.name == rule.name, ?_, ?_, ?_⟩
  · intro rule isRule
    exact stands.made_of_rule impartial distinct (builtin ▸ isRule)
  · rw [ran]
    change Except.ok (Service.shownIn deployment.rules [group] books.store books.nextWeek) = _
    rw [listed]
    refine congrArg (fun found => Except.ok (Service.listingOf group found)) (funext fun rule => ?_)
    exact List.filter_comm _ _ _
  · intro recent
    rw [ran]
    change Except.ok (Service.shownIn deployment.rules [group] books.store books.nextWeek) = _
    rw [listed]
    simp only [shown, made, stands.filter_nextWeek recent]

end Settled

/-- Every run reads done, and a listing of a group with a name shows, under each built-in rule,
what the rule says of the inventory resources of the group, in their order and each once, as found
by the latest run that covers the group. -/
theorem runs_equal_direct_evaluation {deployment : Deployment} {supply : Supply}
    {rounds : List Round} (plain : deployment.collector = .plain)
    (builtin : deployment.rules = Rule.builtin) (tidy : deployment.inventory.Tidy)
    (populated : ∀ moment ∈ (Books.fresh supply).started deployment rounds,
      ∀ group ∈ moment.run.groups, Collector.members deployment.inventory group ≠ [])
    (lasting : (Books.played deployment supply rounds).supply.minted ≤ 2 ^ 128) :
    (∀ moment ∈ (Books.fresh supply).started deployment rounds,
      ((Pipeline.status moment.run.collectId moment.run.scanId).run
        (Books.played deployment supply rounds)).1 = ⟨.done, .done⟩) ∧
    ∀ {group : String} {moment : Moment}, group ≠ "" →
      latest? group ((Books.fresh supply).started deployment rounds) = some moment →
      (Service.validateGroups deployment [group]).run.run
          (Books.played deployment supply rounds) =
        (.ok [group], Books.played deployment supply rounds) →
      (Books.played deployment supply rounds).InCalendar →
      ∃ found, Shows deployment moment group (Books.played deployment supply rounds) found := by
  have settled := (Settled.fresh deployment supply).rounds plain tidy
    (builtin ▸ Rule.builtin_impartial) rounds populated lasting
  rw [List.nil_append] at settled
  constructor
  · intro moment member
    exact settled.status_done member
  · intro group moment named latest valid inCalendar
    exact settled.shows builtin named latest valid inCalendar

/-! ## Two groups, and a group without a name -/

namespace Estate

def deployment : Deployment where
  inventory :=
    ⟨[(Resource.group "g1").withLabel "customer_data" "yes",
      { Resource.group "g2" with parent := "g1" },
      (Resource.member "b" "g2" .bucket).withPermission ⟨"roles/viewer", ["allUsers"]⟩]⟩
  contacts := default
  notificationInterval := .zero
  sourceSystem := "CloudAudit"

def supply : Supply := { now := ⟨0, 0⟩ }

def rounds : List Round :=
  [.selected none ["g2", "g2"], .look none ["g2"], .full none, .selected none ["g1"]]

theorem tidy : deployment.inventory.Tidy where
  distinct := by decide +kernel
  own := by decide +kernel

theorem played :
    (∀ moment ∈ (Books.fresh supply).started deployment rounds,
      ∀ group ∈ moment.run.groups, Collector.members deployment.inventory group ≠ []) ∧
    (latest? "g2" ((Books.fresh supply).started deployment rounds)).isSome = true ∧
    (Books.played deployment supply rounds).supply.reading.inCalendar = true ∧
    (Books.played deployment supply rounds).nextWeek.start.inCalendar = true := by
  decide +kernel

theorem populated : ∀ moment ∈ (Books.fresh supply).started deployment rounds,
    ∀ group ∈ moment.run.groups, Collector.members deployment.inventory group ≠ [] :=
  played.1

theorem covered :
    (latest? "g2" ((Books.fresh supply).started deployment rounds)).isSome = true :=
  played.2.1

theorem valid (books : Books) :
    (Service.validateGroups deployment ["g2"]).run.run books = (.ok ["g2"], books) :=
  rfl

theorem inCalendar : (Books.played deployment supply rounds).InCalendar where
  supported := played.2.2.1
  started := played.2.2.2

/-- All three runs read done, and the second group is shown as the second run found it. -/
theorem latest_run_shown :
    (∀ moment ∈ (Books.fresh supply).started deployment rounds,
      ((Pipeline.status moment.run.collectId moment.run.scanId).run
        (Books.played deployment supply rounds)).1 = ⟨.done, .done⟩) ∧
    ∃ moment found, latest? "g2" ((Books.fresh supply).started deployment rounds) = some moment ∧
      Shows deployment moment "g2" (Books.played deployment supply rounds) found := by
  have lasting : (Books.played deployment supply rounds).supply.minted ≤ 2 ^ 128 := by
    decide +kernel
  obtain ⟨done, shows⟩ := runs_equal_direct_evaluation rfl rfl tidy populated lasting
  obtain ⟨moment, latest⟩ := Option.isSome_iff_exists.1 covered
  obtain ⟨found, shown⟩ := shows (by decide) latest (valid _) inCalendar
  exact ⟨done, moment, found, latest, shown⟩

end Estate

namespace Nameless

def deployment : Deployment where
  inventory := ⟨[{ Resource.group "" with uid := "u" }]⟩
  contacts := default
  notificationInterval := .zero
  sourceSystem := "CloudAudit"

def supply : Supply := { now := ⟨0, 0⟩ }

def rounds : List Round := [.selected none [""]]

theorem tidy : deployment.inventory.Tidy where
  distinct := by decide +kernel
  own := by decide +kernel

theorem populated : ∀ moment ∈ (Books.fresh supply).started deployment rounds,
    ∀ group ∈ moment.run.groups, Collector.members deployment.inventory group ≠ [] := by
  decide +kernel

theorem covered :
    (latest? "" ((Books.fresh supply).started deployment rounds)).isSome = true := by
  decide +kernel

theorem valid (books : Books) :
    (Service.validateGroups deployment [""]).run.run books = (.ok [""], books) :=
  rfl

theorem inCalendar : (Books.played deployment supply rounds).InCalendar where
  supported := by decide +kernel
  started := by decide +kernel

theorem recent : ∀ moment ∈ (Books.fresh supply).started deployment rounds,
    moment.books.supply.reading.after (Books.played deployment supply rounds).nextWeek.start =
      true := by
  decide +kernel

end Nameless

/-- Findings on a group without a name are never kept, so no listing shows them. -/
theorem nameless_group_shows_nothing :
    ¬ ∀ (deployment : Deployment) (supply : Supply) (rounds : List Round) (group : String)
        (moment : Moment),
      deployment.collector = .plain → deployment.rules = Rule.builtin →
      deployment.inventory.Tidy →
      (∀ moment ∈ (Books.fresh supply).started deployment rounds,
        ∀ group ∈ moment.run.groups, Collector.members deployment.inventory group ≠ []) →
      (Books.played deployment supply rounds).supply.minted ≤ 2 ^ 128 →
      latest? group ((Books.fresh supply).started deployment rounds) = some moment →
      (Service.validateGroups deployment [group]).run.run
          (Books.played deployment supply rounds) =
        (.ok [group], Books.played deployment supply rounds) →
      (Books.played deployment supply rounds).InCalendar →
      ∃ found, Shows deployment moment group (Books.played deployment supply rounds) found := by
  intro equals
  obtain ⟨moment, latest⟩ := Option.isSome_iff_exists.1 Nameless.covered
  have began := Nameless.recent moment
    (List.mem_reverse.1 (List.mem_of_find?_eq_some latest))
  obtain ⟨found, shows⟩ := equals Nameless.deployment Nameless.supply Nameless.rounds "" moment rfl
    rfl Nameless.tidy Nameless.populated (by decide +kernel) latest (Nameless.valid _)
    Nameless.inCalendar
  have nothing : ∀ entry ∈ (((Service.listObservations Nameless.deployment [""]).run.run
      (Books.played Nameless.deployment Nameless.supply Nameless.rounds)).1.toOption).getD [],
      ∀ rule ∈ entry.rulesObservations, rule.observations = [] := by decide +kernel
  rw [shows.whole began] at nothing
  have unfounded : found .missingContactLabels = [] :=
    nothing _ List.mem_cons_self ⟨_, found .missingContactLabels⟩
      (List.mem_map_of_mem (by simp))
  have one := (shows.evaluated .missingContactLabels (by simp [Rule.builtin])).undated
  rw [unfounded, List.map_nil, eq_comm, List.map_eq_nil_iff, Scan.evaluation,
    List.map_eq_nil_iff] at one
  exact absurd one (by decide +kernel)

end CloudAudit
