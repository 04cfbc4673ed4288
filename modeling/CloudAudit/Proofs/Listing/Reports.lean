import Mathlib.Data.List.Nodup
import CloudAudit.Proofs.Listing.Supersession
import CloudAudit.Proofs.Runs.Dating
/-!
# Reported observations

A report of a caller is stored like what a scan found. It stays, and each listing of its group
within the week has it once, unless it names a scan that does not count. If it names a scan it may
itself decide which scan counts, and then hide what was listed before.
-/
set_option autoImplicit false

namespace CloudAudit

/-! ## Places in a listing -/

/-- Where a listing shows an observation: the group and the name of each place. -/
def placesOf (listing : List GroupObservations) (observation : Observation) :
    List (String × String) :=
  listing.flatMap fun entry => entry.rulesObservations.flatMap fun rule =>
    List.replicate (rule.observations.count observation) (entry.resourceGroupName, rule.rule)

theorem flatMap_eq_of_alone {α β : Type} {list : List α} {function : α → List β} {value : α}
    (distinct : list.Nodup) (member : value ∈ list)
    (alone : ∀ other ∈ list, other ≠ value → function other = []) :
    list.flatMap function = function value := by
  induction list with
  | nil => cases member
  | cons first rest ih =>
    obtain ⟨notAgain, distinctRest⟩ := List.nodup_cons.1 distinct
    rw [List.flatMap_cons]
    rcases List.mem_cons.1 member with rfl | later
    · have nothing : rest.flatMap function = [] := by
        rw [List.flatMap_eq_nil_iff]
        intro other isRest
        refine alone other (List.mem_cons_of_mem _ isRest) ?_
        rintro rfl
        exact notAgain isRest
      rw [nothing, List.append_nil]
    · have nothing : function first = [] := by
        refine alone first List.mem_cons_self ?_
        rintro rfl
        exact notAgain later
      rw [nothing, List.nil_append]
      exact ih distinctRest later fun other isRest => alone other (List.mem_cons_of_mem _ isRest)

theorem Table.flatMap_entries {α β : Type} (table : Table α) {function : String × α → List β}
    {name : String} {value : α} (found : table.get? name = some value)
    (alone : ∀ entry ∈ table.entries, entry.1 ≠ name → function entry = []) :
    table.entries.flatMap function = function (name, value) := by
  have distinct : table.entries.Nodup := List.Nodup.of_map Prod.fst table.nodup_names
  refine flatMap_eq_of_alone distinct ((Table.get?_eq_some_iff _ _ _).1 found) ?_
  rintro ⟨other, kept⟩ member different
  refine alone _ member ?_
  rintro rfl
  have same := (Table.get?_eq_some_iff _ _ _).2 member
  rw [found] at same
  exact different (by rw [Option.some.inj same])

/-- Whether an observation comes from no scan, or from the scan of its group that counts. -/
def Store.Admits (store : Store) (window : Window) (observation : Observation) : Prop :=
  ∀ scan, observation.scanId = some scan → store.Counts window observation.groupName scan

namespace Service

theorem count_of_entry {rules : List Rule} {groups : List String} {observations : List Observation}
    {group name : String} {byRule : ByRule} {found : List Observation}
    (inTable : (group, byRule) ∈ (grouped rules groups observations).entries)
    (inByRule : (name, found) ∈ byRule.entries) (observation : Observation) :
    found.count observation =
      if observation.groupName = group ∧ observation.name = name then
        observations.count observation
      else 0 := by
  have whole : found = contents (grouped rules groups observations) group name := by
    rw [contents, (Table.get?_eq_some_iff _ _ _).2 inTable, Option.bind_some,
      (Table.get?_eq_some_iff _ _ _).2 inByRule, Option.getD_some]
  rw [whole, contents_grouped]
  split
  · rename_i own
    exact List.count_filter (by simp [own])
  · rename_i foreign
    rw [List.count_eq_zero]
    intro member
    exact foreign (by simpa using (List.mem_filter.1 member).2)

theorem placesOf_grouped (rules : List Rule) (groups : List String)
    (observations : List Observation) (observation : Observation) :
    placesOf (entries (grouped rules groups observations)) observation =
      List.replicate (observations.count observation)
        (observation.groupName, observation.name) := by
  rw [placesOf, entries, List.flatMap_map]
  simp only [List.flatMap_map]
  by_cases listed : observation ∈ observations
  · -- Its group has an entry, and in it its name has one; all other places count zero.
    have inside : observation ∈ contents (grouped rules groups observations)
        observation.groupName observation.name := by
      rw [contents_grouped]
      simp [listed]
    obtain ⟨byRule, inTable⟩ : ∃ byRule,
        (grouped rules groups observations).get? observation.groupName = some byRule := by
      rw [← Table.contains_iff, contains_grouped]
      exact .inr ⟨observation, listed, rfl⟩
    have entry := (Table.get?_eq_some_iff _ _ _).1 inTable
    rw [contents, inTable, Option.bind_some] at inside
    cases inByRule : byRule.get? observation.name with
    | none => simp [inByRule] at inside
    | some found =>
      have own := count_of_entry entry ((Table.get?_eq_some_iff _ _ _).1 inByRule) observation
      rw [Table.flatMap_entries _ inTable, Table.flatMap_entries _ inByRule, own,
        if_pos ⟨rfl, rfl⟩]
      · rintro ⟨name, others⟩ isRule different
        rw [count_of_entry entry isRule observation, if_neg fun same => different same.2.symm]
        rfl
      · rintro ⟨group, others⟩ isGroup different
        rw [List.flatMap_eq_nil_iff]
        rintro ⟨name, found⟩ isRule
        rw [count_of_entry isGroup isRule observation, if_neg fun same => different same.1.symm]
        rfl
  · rw [List.count_eq_zero_of_not_mem listed, List.replicate_zero, List.flatMap_eq_nil_iff]
    rintro ⟨group, byRule⟩ isGroup
    rw [List.flatMap_eq_nil_iff]
    rintro ⟨name, found⟩ isRule
    rw [count_of_entry isGroup isRule observation, List.count_eq_zero_of_not_mem listed]
    split <;> rfl

/-! ## How often a listing shows an observation -/

/-- An observation is selected as often as it is stored, for each time its group is. -/
theorem count_selected {books : Books} (orderly : books.Orderly) {window : Window}
    {observation : Observation} (seen : window.has observation.timestamp = true)
    (groups : List String) :
    (groups.flatMap (books.store.seenIn window)).count observation =
      groups.count observation.groupName *
        (books.store.stored observation.groupName).count observation := by
  induction groups with
  | nil => rw [List.flatMap_nil, List.count_nil, List.count_nil, Nat.zero_mul]
  | cons group groups ih =>
    rw [List.flatMap_cons, List.count_append, ih, List.count_cons, Nat.add_mul, Nat.add_comm]
    refine congrArg _ ?_
    by_cases own : group = observation.groupName
    · subst own
      rw [beq_self_eq_true, if_pos rfl, Nat.one_mul]
      exact List.count_filter seen
    · rw [if_neg (by simpa using own), Nat.zero_mul, List.count_eq_zero]
      intro member
      exact own (orderly.filed group observation (List.mem_filter.1 member).1).symm

/-- A listing has a stored observation as often as it is stored for each time its group was asked
for, if it comes from no scan or from the scan that counts, and else not at all. -/
theorem placesOf_shownIn {books : Books} (orderly : books.Orderly) {window : Window}
    {groups : List String} {observation : Observation}
    (stored : observation ∈ books.store.stored observation.groupName)
    (seen : window.has observation.timestamp = true) (covered : observation.groupName ∈ groups)
    (rules : List Rule) :
    (books.store.Admits window observation →
      placesOf (shownIn rules groups books.store window) observation =
        List.replicate
          (groups.count observation.groupName *
            (books.store.stored observation.groupName).count observation)
          (observation.groupName, observation.name)) ∧
    (¬ books.store.Admits window observation →
      placesOf (shownIn rules groups books.store window) observation = []) := by
  have selected := count_selected orderly seen groups
  have member : observation ∈ groups.flatMap (books.store.seenIn window) := by
    exact List.mem_flatMap.2 ⟨_, covered, List.mem_filter.2 ⟨stored, seen⟩⟩
  have admitted : observation ∈ latestScanOnly (groups.flatMap (books.store.seenIn window))
        (latestCompletedScans ((books.store.loggedIn window).filter fun entry =>
          groups.contains entry.resourceGroup)) ↔
      books.store.Admits window observation := by
    rw [mem_latestScanOnly_iff]
    simp only [member, true_and, counts_iff orderly window covered]
    rfl
  rw [shownIn, placesOf_grouped]
  refine ⟨fun admits => ?_, fun refused => ?_⟩
  · have kept := List.mem_filter.1 (admitted.2 admits)
    have counted : (latestScanOnly (groups.flatMap (books.store.seenIn window))
          (latestCompletedScans ((books.store.loggedIn window).filter fun entry =>
            groups.contains entry.resourceGroup))).count observation =
        (groups.flatMap (books.store.seenIn window)).count observation := List.count_filter kept.2
    rw [counted, selected]
  · rw [List.count_eq_zero_of_not_mem fun kept => refused (admitted.1 kept), List.replicate_zero]

theorem permitted_nodup {owned requested groups : List String} (ownedOnce : owned.Nodup)
    (once : requested.Nodup) (granted : permitted owned requested = .ok groups) :
    groups.Nodup := by
  rw [permitted] at granted
  split at granted
  · cases granted
    exact ownedOnce
  · split at granted
    · cases granted
    · cases granted
      exact once

theorem ownedGroups_nodup {deployment : Deployment} {owned : List String} {books after : Books}
    (ran : (ownedGroups deployment).run.run books = (.ok owned, after)) : owned.Nodup := by
  unfold ownedGroups at ran
  split at ran
  · cases ran
  · obtain ⟨names, middle, -, rest⟩ := Books.bind_ok ran
    cases rest
    exact Table.nodup_names _
  · cases ran
    exact Table.nodup_names _

theorem validateGroups_nodup {deployment : Deployment} {requested groups : List String}
    (once : requested.Nodup) {books after : Books}
    (valid : (validateGroups deployment requested).run.run books = (.ok groups, after)) :
    groups.Nodup := by
  obtain ⟨answer, middle, asked, ran⟩ := Books.bind_ok valid
  have owns : (ownedGroups deployment).run.run books = (answer, middle) := by
    have both := congrArg Prod.fst asked
    have rest := congrArg Prod.snd asked
    exact Prod.ext (Except.ok.inj both) rest
  cases answer with
  | error error => cases ran
  | ok owned =>
    exact permitted_nodup (ownedGroups_nodup owns) once (Books.settled_ok ran).1

/-! ## Storing a report -/

/-- What becomes of a report that is accepted. -/
structure Created (report created : Observation) (books after : Books) : Prop where
  scanId : created.scanId = report.scanId
  name : created.name = report.name
  dated : created.timestamp = some after.supply.now
  clock : after.supply.now = books.supply.reading
  store : after.store = books.store.addObservations [created]

/-- What a report that is accepted is made of: it is linked to the only resource that was found, and
dated by the clock. -/
theorem createObservation_parts {report created : Observation} {books after : Books}
    (ran : (createObservation report).run.run books = (.ok created, after)) :
    ∃ found resource uid,
      books.store.listResources { names := some [report.resourceRef.name] } = .ok found ∧
        onlyCurrent report.resourceRef.name found = .ok resource ∧
        created = { linked report resource with uid, timestamp := some after.supply.now } ∧
        after.supply.now = books.supply.reading ∧
        after.store = books.store.addObservations [created] := by
  obtain ⟨_, _, checked, ran⟩ := Books.bind_ok ran
  obtain rfl := (Books.settled_ok checked).2.symm
  obtain ⟨found, listed, lists, ran⟩ := Books.bind_ok ran
  obtain ⟨known, rfl⟩ : books.store.listResources { names := some [report.resourceRef.name] } =
      .ok found ∧ listed = books.counted := by
    rw [Books.listResources_run] at lists
    split at lists
    · cases lists
    · exact ⟨(Prod.mk.inj lists).1, (Prod.mk.inj lists).2.symm⟩
  obtain ⟨resource, _, current, ran⟩ := Books.bind_ok ran
  obtain ⟨chosen, same⟩ := Books.settled_ok current
  obtain rfl := same.symm
  obtain ⟨uid, named, names, ran⟩ := Books.bind_ok ran
  have sameStore : named.store = books.store ∧ named.supply.reading = books.supply.reading := by
    unfold reportUid at names
    split at names <;> cases names <;> exact ⟨rfl, rfl⟩
  obtain ⟨now, ticked, reads, ran⟩ := Books.bind_ok ran
  cases reads
  obtain ⟨stored, kept, keeps, ran⟩ := Books.bind_ok ran
  obtain ⟨only, same⟩ := Books.settled_ok ran
  obtain rfl := same.symm
  rw [Books.addObservations_run] at keeps
  split at keeps
  · cases keeps
  · cases keeps
    split at only
    · cases only
    · cases only
      refine ⟨found, resource, uid, known, chosen, rfl, ?_, ?_⟩
      · exact sameStore.2
      · rw [← sameStore.1]

theorem createObservation_ok {report created : Observation} {books after : Books}
    (ran : (createObservation report).run.run books = (.ok created, after)) :
    Created report created books after := by
  obtain ⟨found, resource, uid, -, -, rfl, clock, store⟩ := createObservation_parts ran
  exact ⟨rfl, rfl, rfl, clock, store⟩

end Service

/-! ## What counts after a report -/

/-- Where no scan of a group is complete, the scan that counts stays the same as long as one of its
observations that counted before is still in the window and no other scan is reported. -/
theorem Store.counts_of_seen {old new : Store} {now later : Instant} {group scan : String}
    {finding : Observation} (normal : now.nanos < 1000000000)
    (laterNormal : later.nanos < 1000000000) (order : later.notBefore now = true)
    (past : ∀ observation ∈ old.stored group, ∀ time, observation.timestamp = some time →
      now.notBefore time = true)
    (pastLog : ∀ entry ∈ old.operations, now.notBefore entry.statusTime = true)
    (sameScans : (new.stored group).filter (Observation.isScanOf group) =
      (old.stored group).filter (Observation.isScanOf group))
    (sameLog : new.operations = old.operations)
    (nothing : (old.loggedIn (Window.weekTo now)).filter (Operation.completes group) = [])
    (stored : finding ∈ old.stored group) (scanned : Observation.isScanOf group finding = true)
    (inWeek : (Window.weekTo later).has finding.timestamp = true)
    (counts : old.Counts (Window.weekTo now) group scan) :
    new.Counts (Window.weekTo later) group scan := by
  cases counts with
  | completed latest => exact absurd nothing latest.ne_nil
  | @seen observation _ _ latest isScan =>
    refine .seen ?_ ?_ isScan
    · have dated : ∀ entry ∈ old.operations, ∀ time, some entry.statusTime = some time →
          now.notBefore time = true := by
        rintro entry logged time ⟨⟩
        exact pastLog entry logged
      rw [loggedIn, sameLog, Window.filter_weekTo_of_later order normal laterNormal dated,
        List.filter_comm]
      exact (congrArg (List.filter _) nothing).trans List.filter_nil
    · rw [seenIn, List.filter_comm, sameScans, List.filter_comm,
        Window.filter_weekTo_of_later order normal laterNormal past, List.filter_comm]
      refine latest.filter ?_
      -- The picked observation is not older than the one that is still in the window.
      obtain ⟨time, stamped, -, isPast⟩ :=
        Window.exists_of_has (List.mem_filter.1 (List.mem_filter.1 latest.mem).1).2
      obtain ⟨early, dated, -⟩ := Window.exists_of_has inWeek
      have seen : (Window.weekTo now).has finding.timestamp = true := by
        rw [dated] at inWeek ⊢
        exact Window.has_weekTo_of_later order normal laterNormal (past finding stored early dated)
          inWeek
      have rival : finding ∈ (old.seenIn (Window.weekTo now) group).filter
          (Observation.isScanOf group) :=
        List.mem_filter.2 ⟨List.mem_filter.2 ⟨stored, seen⟩, scanned⟩
      rw [stamped]
      rw [dated] at inWeek
      exact Window.has_weekTo_of_newer order
        (Observation.notBefore_of_picked latest rival stamped dated) isPast inWeek

namespace Service

namespace Created

variable {report created : Observation} {looked after : Books}
  (made : Created report created looked after)
include made

theorem stored (group : String) :
    after.store.stored group =
      looked.store.stored group ++ [created].filter (Store.isFiled group) := by
  rw [made.store, Store.stored_addObservations]

theorem operations : after.store.operations = looked.store.operations := by
  rw [made.store]
  rfl

theorem mem_stored (named : created.groupName ≠ "") :
    created ∈ after.store.stored created.groupName := by
  rw [made.stored]
  exact List.mem_append_right _
    (List.mem_filter.2 ⟨List.mem_singleton_self _, (Store.isFiled_iff named created).2 rfl⟩)

theorem once (ticks : looked.supply.Ticks)
    (past : ∀ group, ∀ observation ∈ looked.store.stored group, ∀ time,
      observation.timestamp = some time → looked.supply.now.notBefore time = true)
    (named : created.groupName ≠ "") :
    (after.store.stored created.groupName).count created = 1 := by
  have before : created ∉ looked.store.stored created.groupName := by
    intro member
    have notLater := past _ created member _ made.dated
    rw [made.clock, Instant.notBefore_iff] at notLater
    exact notLater ticks.reading_after
  have filed : Store.isFiled created.groupName created = true :=
    (Store.isFiled_iff named created).2 rfl
  rw [made.stored, List.count_append, List.count_eq_zero_of_not_mem before,
    List.filter_cons_of_pos filed]
  simp

theorem listed (orderly : after.Orderly) (named : created.groupName ≠ "")
    (once : looked.supply.Ticks → (after.store.stored created.groupName).count created = 1)
    (ticks : looked.supply.Ticks → after.supply.Ticks) {deployment : Deployment}
    {later : List Event} {requested : List String} {listing : List GroupObservations}
    {last : Books}
    (ran : (listObservations deployment requested).run.run (after.after deployment later) =
      (.ok listing, last))
    (covered : Covers listing created.groupName)
    (inWeek : (Window.weekTo last.supply.now).has created.timestamp = true) :
    (last.store.Admits (Window.weekTo last.supply.now) created →
      ∃ times, 0 < times ∧ (requested.Nodup → looked.supply.Ticks → times = 1) ∧
        placesOf listing created = List.replicate times (created.groupName, report.name)) ∧
    (¬ last.store.Admits (Window.weekTo last.supply.now) created →
      placesOf listing created = []) := by
  have endedOrderly := orderly.grows (Grows.after deployment after later)
  obtain ⟨groups, valid, rfl, -, sameStore⟩ := listObservations_ok endedOrderly ran
  have still : created ∈ (after.after deployment later).store.stored created.groupName := by
    obtain ⟨added, addedEq, -⟩ :=
      (Grows.after deployment after later).observations created.groupName
    rw [addedEq]
    exact List.mem_append_left _ (made.mem_stored named)
  have member := (covers_shownIn_iff endedOrderly _ _ _ _).1 covered
  obtain ⟨shown, hidden⟩ := placesOf_shownIn endedOrderly still inWeek member deployment.rules
  rw [sameStore]
  refine ⟨fun admits => ?_, hidden⟩
  refine ⟨_, Nat.mul_pos (List.count_pos_iff.2 member) (List.count_pos_iff.2 still), ?_, ?_⟩
  · intro distinct ticking
    have times := (Dates.after deployment after later).count_stored (ticks ticking) made.dated
      (Instant.notBefore_refl _) created.groupName
    rw [times, once ticking, Nat.mul_one]
    exact List.count_eq_one_of_mem (validateGroups_nodup distinct (valid after)) member
  · rw [shown admits, made.name]

/-- A scan that counted before a report counts after it, if a complete scan of the group is still in
the week, or if none was, the report comes from no scan, and an observation that counted is still
in the week. -/
theorem counts (orderly : looked.Orderly)
    (past : ∀ observation ∈ looked.store.stored created.groupName, ∀ time,
      observation.timestamp = some time → looked.supply.now.notBefore time = true)
    {later : Instant} (normal : looked.supply.now.nanos < 1000000000)
    (laterNormal : later.nanos < 1000000000)
    (order : later.notBefore looked.supply.now = true)
    (condition : (∃ entry ∈ after.store.loggedIn (Window.weekTo later),
        entry.completes created.groupName = true) ∨
      report.scanId = none ∧
        ∀ entry ∈ looked.store.loggedIn (Window.weekTo looked.supply.now),
          ¬ entry.completes created.groupName = true)
    {finding : Observation} (known : finding ∈ looked.store.stored created.groupName)
    (scanned : Observation.isScanOf created.groupName finding = true)
    (inWeek : (Window.weekTo later).has finding.timestamp = true) {scan : String}
    (counted : looked.store.Counts (Window.weekTo looked.supply.now) created.groupName scan) :
    after.store.Counts (Window.weekTo later) created.groupName scan := by
  rcases condition with completed | ⟨noScan, nothing⟩
  · refine orderly.counts (Instant.notBefore_refl _) normal laterNormal order ?_ completed counted
    rw [made.operations]
  · have unscanned : ¬ Observation.isScanOf created.groupName created = true := by
      simp [Observation.isScanOf, made.scanId, noScan]
    have sameScans : (after.store.stored created.groupName).filter
          (Observation.isScanOf created.groupName) =
        (looked.store.stored created.groupName).filter
          (Observation.isScanOf created.groupName) := by
      rw [made.stored, List.filter_append, List.filter_comm _ _ [created],
        List.filter_cons_of_neg unscanned]
      exact List.append_nil _
    exact Store.counts_of_seen normal laterNormal order past
      (fun entry flushed => orderly.past entry (List.mem_append_left _ flushed)) sameScans
      made.operations (List.filter_eq_nil_iff.2 nothing) known scanned inWeek counted

theorem undisturbed {before : List GroupObservations} {looking : Books} {deployment : Deployment}
    {requested again : List String} {listing : List GroupObservations} {last : Books}
    {finding : Observation} (begunOrderly : looking.Orderly) (orderly : looked.Orderly)
    (grown : Grows looked after)
    (past : ∀ observation ∈ looked.store.stored created.groupName, ∀ time,
      observation.timestamp = some time → looked.supply.now.notBefore time = true)
    (first : (listObservations deployment requested).run.run looking = (.ok before, looked))
    (second : (listObservations deployment again).run.run after = (.ok listing, last))
    (shown : Listed before finding) (sameGroup : finding.groupName = created.groupName)
    (covered : Covers listing finding.groupName)
    (inWeek : (Window.weekTo last.supply.now).has finding.timestamp = true)
    (condition : (∃ entry ∈ last.store.loggedIn (Window.weekTo last.supply.now),
        entry.completes created.groupName = true) ∨
      report.scanId = none ∧
        ∀ entry ∈ looked.store.loggedIn (Window.weekTo looked.supply.now),
          ¬ entry.completes created.groupName = true) :
    Listed listing finding := by
  have afterOrderly := orderly.grows grown
  obtain ⟨-, -, -, lookedNow, lookedStore⟩ := listObservations_ok begunOrderly first
  obtain ⟨-, -, -, lastNow, lastStore⟩ := listObservations_ok afterOrderly second
  obtain ⟨-, seen, counted⟩ := (listed_iff begunOrderly first finding).1 shown
  rw [← lookedStore, sameGroup] at seen counted
  have known := (List.mem_filter.1 seen).1
  have kept : finding ∈ last.store.stored finding.groupName := by
    rw [lastStore, sameGroup, made.stored]
    exact List.mem_append_left _ known
  have normal : looked.supply.now.nanos < 1000000000 := by
    rw [lookedNow]
    exact Clock.reading_nanos _
  have lastNormal : last.supply.now.nanos < 1000000000 := by
    rw [lastNow]
    exact Clock.reading_nanos _
  have order : last.supply.now.notBefore looked.supply.now = true := by
    rw [lastNow]
    exact Instant.notBefore_trans (Clock.reading_notBefore _) grown.clock
  refine (listed_of_covered_iff afterOrderly second covered kept).2 ⟨inWeek, ?_⟩
  intro scan scanned
  have isScan : Observation.isScanOf created.groupName finding = true := by
    simp [Observation.isScanOf, scanned, sameGroup]
  rw [lastStore] at condition
  rw [sameGroup, lastStore]
  exact made.counts orderly past normal lastNormal order condition known isScan inWeek
    (counted scan scanned)

end Created

/-- What is known of a report that is accepted: `looked` are the books right before it, and `after`
are those right after it. -/
structure Reported (deployment : Deployment) (supply : Supply) (report created : Observation)
    (looked after : Books) : Prop extends Created report created looked after where
  /-- Every later listing of its group in the week has it under its name, unless it comes from a
  scan that does not count; once, unless the group was asked for several times or the clock may
  show one time twice. -/
  listed : ∀ later requested listing last,
    (listObservations deployment requested).run.run (after.after deployment later) =
      (.ok listing, last) →
    Covers listing created.groupName →
    (Window.weekTo last.supply.now).has created.timestamp = true →
    (last.store.Admits (Window.weekTo last.supply.now) created →
      ∃ times, 0 < times ∧ (requested.Nodup → looked.supply.Ticks → times = 1) ∧
        placesOf listing created = List.replicate times (created.groupName, report.name)) ∧
    (¬ last.store.Admits (Window.weekTo last.supply.now) created →
      placesOf listing created = [])
  /-- What was listed of the group right before is listed right after, in the week, if a complete
  scan of the group is still in the week, or if none was and the report comes from no scan. -/
  undisturbed : ∀ begun requested again before listing last finding,
    (listObservations deployment requested).run.run ((Books.fresh supply).after deployment begun) =
      (.ok before, looked) →
    (listObservations deployment again).run.run after = (.ok listing, last) →
    Listed before finding → finding.groupName = created.groupName →
    Covers listing finding.groupName →
    (Window.weekTo last.supply.now).has finding.timestamp = true →
    ((∃ entry ∈ last.store.loggedIn (Window.weekTo last.supply.now),
        entry.completes created.groupName = true) ∨
      report.scanId = none ∧
        ∀ entry ∈ looked.store.loggedIn (Window.weekTo looked.supply.now),
          ¬ entry.completes created.groupName = true) →
    Listed listing finding

/-- What becomes of a report on a group that has a name, whatever was done before. -/
theorem reports_are_listed {deployment : Deployment} {supply : Supply} {earlier : List Event}
    {report created : Observation} {looked after : Books}
    (reached : (Books.fresh supply).after deployment earlier = looked)
    (accepted : (createObservation report).run.run looked = (.ok created, after))
    (named : created.groupName ≠ "") :
    Reported deployment supply report created looked after := by
  have made := createObservation_ok accepted
  have orderly : looked.Orderly := by
    rw [← reached]
    exact Books.orderly_after deployment supply earlier
  have grown : Grows looked after := by
    have along := Grows.steady.createObservation report looked
    rw [accepted] at along
    exact along
  have past : ∀ group, ∀ observation ∈ looked.store.stored group, ∀ time,
      observation.timestamp = some time → looked.supply.now.notBefore time = true := by
    rw [← reached]
    exact Dates.past_stored deployment supply earlier
  refine { made with listed := ?_, undisturbed := ?_ }
  · intro later requested listing last ran covered inWeek
    exact made.listed (orderly.grows grown) named (fun ticks => made.once ticks past named)
      grown.becomes.ticks ran covered inWeek
  · intro begun requested again before listing last finding first second shown sameGroup covered
      inWeek condition
    have begunOrderly := Books.orderly_after deployment supply begun
    exact made.undisturbed begunOrderly orderly grown (past _) first second shown sameGroup covered
      inWeek condition

namespace Manual

def deployment : Deployment where
  inventory := ⟨[{ Resource.group "g1" with uid := "u1" }]⟩
  rules := []
  contacts := default
  notificationInterval := .zero
  sourceSystem := "CloudAudit"

def supply : Supply := { now := ⟨0, 0⟩ }

def earlier : List Event := [.call none (.collectAndScan ["g1"]), .settle]

def report : Observation where
  name := "MANUAL"
  resourceRef := { name := "g1" }
  scanId := some "mine"
  remediation := ⟨"d", "r"⟩

@[irreducible]
def looked : Books := (Books.fresh supply).after deployment earlier

def created : Observation :=
  ((createObservation report).run.run looked).1.toOption.getD default

@[irreducible]
def reported : Books := ((createObservation report).run.run looked).2

def listing : List GroupObservations :=
  shownIn [] ["g1"] reported.store (Window.weekTo reported.supply.reading)

@[irreducible]
def last : Books := ((listObservations deployment ["g1"]).run.run reported).2

theorem answered {α : Type} (action : Act α) (books : Books) (fallback : α)
    (succeeds : (action.run.run books).1.toOption.isSome = true) :
    action.run.run books =
      (.ok ((action.run.run books).1.toOption.getD fallback), (action.run.run books).2) := by
  cases outcome : action.run.run books with
  | mk answer after =>
    rw [outcome] at succeeds
    cases answer with
    | error error => cases succeeds
    | ok value => rfl

theorem looked_eq : (Books.fresh supply).after deployment earlier = looked := by
  rw [looked]

theorem accepted : (createObservation report).run.run looked = (.ok created, reported) := by
  rw [created, reported]
  exact answered _ _ _ (by decide +kernel)

theorem report_reported : Reported deployment supply report created looked reported :=
  reports_are_listed looked_eq accepted (by decide +kernel)

theorem lists :
    (listObservations deployment ["g1"]).run.run reported = (.ok listing, last) := by
  have orderly : reported.Orderly := by
    have before := Books.orderly_after deployment supply earlier
    rw [looked_eq] at before
    rw [reported]
    exact before.grows (Grows.steady.createObservation report looked)
  have calm : reported.fails = looked.fails := by
    rw [reported]
    exact steady_sameFails.createObservation report looked
  have serves : ∀ count call, reported.fails count call = false := by
    intro count call
    rw [calm, ← looked_eq, steady_sameFails.after_calm deployment (by decide)]
    rfl
  have valid : (validateGroups deployment ["g1"]).run.run reported = (.ok ["g1"], reported) := by
    rfl
  obtain ⟨after, ran⟩ := listObservations_succeeds orderly valid (by decide +kernel)
    (by decide +kernel) (fun count => serves count _) fun count => serves count _
  rw [last, ran]
  rfl

end Manual

/-- A report that names a scan of its own is gone from the very next listing of its group. -/
theorem reports_can_be_hidden :
    ¬ ∀ (deployment : Deployment) (supply : Supply) (earlier later : List Event)
        (report created : Observation) (looked after last : Books) (requested : List String)
        (listing : List GroupObservations),
      (Books.fresh supply).after deployment earlier = looked →
      (createObservation report).run.run looked = (.ok created, after) →
      created.groupName ≠ "" →
      (listObservations deployment requested).run.run (after.after deployment later) =
        (.ok listing, last) →
      Covers listing created.groupName →
      (Window.weekTo last.supply.now).has created.timestamp = true →
      Listed listing created := by
  intro stays
  have listed := stays Manual.deployment Manual.supply Manual.earlier [] _ _ _ _ _ _ _
    Manual.looked_eq Manual.accepted (by decide +kernel) Manual.lists (by decide +kernel)
    (by decide +kernel)
  exact absurd listed (by decide +kernel)

end Service

end CloudAudit
