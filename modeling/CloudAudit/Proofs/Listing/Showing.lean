import Mathlib.Data.List.Basic
import CloudAudit.Proofs.Results
import CloudAudit.Proofs.World.Growth
import CloudAudit.Proofs.Listing.Grouping
import CloudAudit.Proofs.Listing.Selection
/-!
# What a listing shows

Of the groups that it covers a listing shows the observations of the last seven days that come from
no scan or from the scan that counts.
-/
set_option autoImplicit false

namespace CloudAudit

namespace Store

def seenIn (store : Store) (window : Window) (group : String) : List Observation :=
  (store.stored group).filter fun observation => window.has observation.timestamp

def loggedIn (store : Store) (window : Window) : List Operation :=
  store.operations.filter fun entry => window.has (some entry.statusTime)

def Counts (store : Store) (window : Window) (group scan : String) : Prop :=
  Service.Counts (store.seenIn window group) (store.loggedIn window) group scan

theorem listObservations_lastWeek (store : Store) (groups : List String) {now : Instant}
    (normal : now.nanos < 1000000000) :
    store.listObservations (.lastWeek groups now) =
      if now.inCalendar then .ok (groups.flatMap (store.seenIn (Window.weekTo now)))
      else .error .outsideCalendar := by
  rw [listObservations, Filter.window?_lastWeek normal]
  split
  · have inWeek : observationMatches (.lastWeek groups now) (some (Window.weekTo now)) =
        fun observation => (Window.weekTo now).has observation.timestamp := by
      funext observation
      simp [observationMatches, Filter.lastWeek, Filter.allows, Filter.inWindow]
    change Except.ok _ = _
    rw [inWeek, selected, Filter.lastWeek, List.filter_flatMap]
    rfl
  · rfl

/-- The flushed entries of the operation log about some groups in a window, by time; entries of one
time keep their order. -/
def loggedOf (store : Store) (window : Window) (groups : List String) : List Operation :=
  ((store.loggedIn window).filter fun entry => groups.contains entry.resourceGroup).mergeSort
    fun first second => second.statusTime.notBefore first.statusTime

theorem listOperations_week (store : Store) (groups : List String) {now : Instant}
    (normal : now.nanos < 1000000000) :
    store.listOperations (.lastWeek groups now) =
      if now.inCalendar then .ok (store.loggedOf (Window.weekTo now) groups)
      else .error .outsideCalendar := by
  rw [listOperations, Filter.window?_lastWeek normal]
  split
  · have inWeek : operationMatches (.lastWeek groups now) (some (Window.weekTo now)) =
        fun entry => groups.contains entry.resourceGroup &&
          (Window.weekTo now).has (some entry.statusTime) := by
      funext entry
      simp [operationMatches, Filter.lastWeek, Filter.allows, Filter.inWindow]
    change Except.ok _ = _
    rw [inWeek, loggedOf, loggedIn, List.filter_filter]
    rfl
  · rfl

theorem loggedOf_of_chronological {store : Store} (window : Window) (groups : List String)
    (chronological : store.journal.Pairwise fun earlier later =>
      later.statusTime.notBefore earlier.statusTime = true) :
    store.loggedOf window groups =
      (store.loggedIn window).filter fun entry => groups.contains entry.resourceGroup := by
  have flushed := (List.pairwise_append.1 chronological).1
  exact List.mergeSort_of_pairwise ((flushed.filter _).filter _)

end Store

namespace Service

theorem ownedGroups_run (deployment : Deployment) :
    ∃ answer, ∀ books, (ownedGroups deployment).run.run books = (answer, books) := by
  unfold ownedGroups
  split
  · exact ⟨_, fun _ => rfl⟩
  · unfold Collector.groupNames
    split
    · exact ⟨_, fun _ => rfl⟩
    · exact ⟨_, fun _ => rfl⟩
  · exact ⟨_, fun _ => rfl⟩

def covering (requested : List String) :
    Except AuditError (List String) → Except AuditError (List String)
  | .ok owned => permitted owned requested
  | .error error => .error (.unauthenticated error.message)

theorem validateGroups_eq {deployment : Deployment} {answer : Except AuditError (List String)}
    {books : Books} (ran : (ownedGroups deployment).run.run books = (answer, books))
    (requested : List String) :
    (validateGroups deployment requested).run.run books =
      (covering requested answer, books) := by
  have outcome : (Books.outcome (ownedGroups deployment)).run.run books = (.ok answer, books) := by
    change (Except.ok ((ownedGroups deployment).run.run books).1,
      ((ownedGroups deployment).run.run books).2) = _
    rw [ran]
  rw [validateGroups, ExceptT.run_bind, StateT.run_bind, outcome]
  cases answer <;> rfl

theorem validateGroups_run (deployment : Deployment) (requested : List String) :
    ∃ answer, ∀ books,
      (validateGroups deployment requested).run.run books = (answer, books) := by
  obtain ⟨answer, ran⟩ := ownedGroups_run deployment
  exact ⟨_, fun books => validateGroups_eq (ran books) requested⟩

def keptIn (groups : List String) (store : Store) (window : Window) : List Observation :=
  latestScanOnly (groups.flatMap (store.seenIn window))
    (latestCompletedScans (store.loggedOf window groups))

def answerIn (rules : List Rule) (groups : List String) (store : Store) (window : Window) :
    List GroupObservations :=
  entries (grouped rules groups (keptIn groups store window))

def shownIn (rules : List Rule) (groups : List String) (store : Store) (window : Window) :
    List GroupObservations :=
  entries
    (grouped rules groups
      (latestScanOnly (groups.flatMap (store.seenIn window))
        (latestCompletedScans
          ((store.loggedIn window).filter fun entry => groups.contains entry.resourceGroup))))

theorem answerIn_eq_shownIn {books : Books} (orderly : books.Orderly) (rules : List Rule)
    (groups : List String) (window : Window) :
    answerIn rules groups books.store window = shownIn rules groups books.store window := by
  rw [answerIn, keptIn, Store.loggedOf_of_chronological _ _ orderly.chronological, shownIn]

/-- Ask the store for the observations and the operation log of a week, whichever groups it is
about. -/
def consult (now : Instant) : Act Window := do
  Books.attempt .listObservations
  let _ ← Books.settled (Filter.lastWeek [] now).window?
  Books.attempt .listOperations
  return Window.weekTo now

/-- What a listing does whichever groups it covers: take the time, and ask the store twice. Answers
the week that the listing is about. -/
def visit : Act Window := do
  let now ← Books.readClock
  let _ ← Books.settled (Filter.since { groups := some [] } now .week)
  consult now

theorem consult_run {now : Instant} (normal : now.nanos < 1000000000) (books : Books) :
    (consult now).run.run books =
      if books.failsAt .listObservations then
        (.error (Books.failure .listObservations), books.counted)
      else if now.inCalendar then
        (if books.counted.failsAt .listOperations then
            .error (Books.failure .listOperations) else .ok (Window.weekTo now),
          books.counted.counted)
      else (.error .outsideCalendar, books.counted) := by
  rw [consult, Books.attempt_bind_run, Filter.window?_lastWeek normal]
  split
  · rfl
  · split
    · refine (Books.attempt_bind_run books.counted .listOperations _).trans ?_
      split <;> rfl
    · rfl

theorem answer_run (rules : List Rule) (groups : List String) {now : Instant}
    (normal : now.nanos < 1000000000) (books : Books) :
    (do
        let observations ← Books.listObservations (.lastWeek groups now)
        let operations ← Books.listOperations (.lastWeek groups now)
        return entries
          (grouped rules groups (latestScanOnly observations (latestCompletedScans operations))) :
      Act (List GroupObservations)).run.run books =
    (answerIn rules groups books.store <$> consult now).run.run books := by
  have observed := Books.listObservations_run books (.lastWeek groups now)
  have operated := Books.listOperations_run books.counted (.lastWeek groups now)
  rw [Store.listObservations_lastWeek _ _ normal] at observed
  rw [Books.counted_store, Store.listOperations_week _ _ normal] at operated
  rw [Books.map_run, consult_run normal]
  by_cases observes : books.failsAt .listObservations = true
  · rw [if_pos observes] at observed ⊢
    rw [Books.bind_run_error observed]
    rfl
  · rw [if_neg observes] at observed ⊢
    by_cases supported : now.inCalendar = true
    · rw [if_pos supported] at observed operated ⊢
      rw [Books.bind_run_ok observed]
      by_cases operates : books.counted.failsAt .listOperations = true
      · rw [if_pos operates] at operated ⊢
        rw [Books.bind_run_error operated]
        rfl
      · rw [if_neg operates] at operated ⊢
        rw [Books.bind_run_ok operated]
        rfl
    · rw [if_neg supported] at observed ⊢
      rw [Books.bind_run_error observed]
      rfl

/-- Which groups a listing covers matters for nothing but its answer. -/
theorem listObservations_run {deployment : Deployment} {requested groups : List String}
    {books : Books}
    (valid : (validateGroups deployment requested).run.run books = (.ok groups, books)) :
    (listObservations deployment requested).run.run books =
      (answerIn deployment.rules groups books.store <$> visit).run.run books := by
  rw [listObservations, Books.bind_run_ok valid, Books.bind_run_ok books.readClock_run,
    Books.map_run, visit, Books.bind_run_ok books.readClock_run]
  by_cases started : (Window.weekTo books.supply.reading).start.inCalendar = true
  · rw [Filter.since_week started, Filter.since_week started]
    have answered := answer_run deployment.rules groups books.supply.reading_nanos (books.ticked 1)
    rw [Books.map_run] at answered
    exact answered
  · rw [Filter.since_eq, Filter.since_eq, if_neg started, if_neg started]
    rfl

theorem visit_ok {books after : Books} {window : Window}
    (ran : visit.run.run books = (.ok window, after)) :
    window = Window.weekTo after.supply.now ∧ after.supply.now = books.supply.reading ∧
      after.store = books.store ∧ after.supply.now.inCalendar = true := by
  obtain ⟨now, ticked, reading, began⟩ := Books.bind_ok ran
  rw [Books.readClock_run] at reading
  cases reading
  obtain ⟨filter, made, making, asks⟩ := Books.bind_ok began
  obtain ⟨-, rfl⟩ := Books.settled_ok making
  rw [consult_run (Clock.reading_nanos _)] at asks
  split at asks
  · cases asks
  · split at asks
    · obtain ⟨answered, rfl⟩ := Prod.mk.inj asks
      split at answered
      · cases answered
      · exact ⟨(Except.ok.inj answered).symm, rfl, rfl, ‹_›⟩
    · cases asks

theorem visit_run {books : Books} (supported : books.supply.reading.inCalendar = true)
    (started : (Window.weekTo books.supply.reading).start.inCalendar = true)
    (observes : (books.ticked 1).failsAt .listObservations = false)
    (operates : (books.ticked 1).counted.failsAt .listOperations = false) :
    visit.run.run books =
      (.ok (Window.weekTo books.supply.reading), (books.ticked 1).counted.counted) := by
  rw [visit, Books.bind_run_ok books.readClock_run, Filter.since_week started]
  refine (consult_run (Clock.reading_nanos _) (books.ticked 1)).trans ?_
  rw [observes, operates, if_pos supported]
  rfl

/-- What a listing that succeeds is made of: the observations of the last week in the groups that it
covers, and what the operation log says of these groups. -/
theorem listObservations_parts {deployment : Deployment} {requested : List String}
    {books after : Books} {listing : List GroupObservations}
    (ran : (listObservations deployment requested).run.run books = (.ok listing, after)) :
    ∃ groups operations,
      (∀ others, (validateGroups deployment requested).run.run others = (.ok groups, others)) ∧
        books.store.listOperations (.lastWeek groups after.supply.now) = .ok operations ∧
        listing = entries (grouped deployment.rules groups
          (latestScanOnly
            (groups.flatMap (books.store.seenIn (Window.weekTo after.supply.now)))
            (latestCompletedScans operations))) ∧
        after.supply.now = books.supply.reading ∧ after.store = books.store := by
  obtain ⟨answer, known⟩ := validateGroups_run deployment requested
  cases answer with
  | error error =>
    rw [listObservations, Books.bind_run_error (known books)] at ran
    cases ran
  | ok groups =>
    rw [listObservations_run (known books), Books.map_run] at ran
    obtain ⟨answered, rfl⟩ := Prod.mk.inj ran
    obtain ⟨window, visited, rfl⟩ := Results.map_ok_iff.1 answered
    obtain ⟨rfl, clock, store, supported⟩ := visit_ok (Prod.ext visited rfl)
    refine ⟨groups, _, known, ?_, rfl, clock, store⟩
    rw [Store.listOperations_week _ _ (clock ▸ Clock.reading_nanos _), if_pos supported]

theorem listObservations_ok {deployment : Deployment} {requested : List String}
    {books after : Books} {listing : List GroupObservations} (orderly : books.Orderly)
    (ran : (listObservations deployment requested).run.run books = (.ok listing, after)) :
    ∃ groups,
      (∀ others, (validateGroups deployment requested).run.run others = (.ok groups, others)) ∧
        listing =
          shownIn deployment.rules groups books.store (Window.weekTo after.supply.now) ∧
        after.supply.now = books.supply.reading ∧ after.store = books.store := by
  obtain ⟨groups, operations, known, logged, rfl, clock, store⟩ := listObservations_parts ran
  have normal := books.supply.reading_nanos
  rw [← clock] at normal
  rw [Store.listOperations_week _ _ normal,
    Store.loggedOf_of_chronological _ _ orderly.chronological] at logged
  split at logged
  · cases logged
    exact ⟨groups, known, rfl, clock, store⟩
  · cases logged

theorem listObservations_succeeds {deployment : Deployment} {requested groups : List String}
    {books : Books} (orderly : books.Orderly)
    (valid : (validateGroups deployment requested).run.run books = (.ok groups, books))
    (supported : books.supply.reading.inCalendar = true)
    (started : (Window.weekTo books.supply.reading).start.inCalendar = true)
    (observes : ∀ count, books.fails count .listObservations = false)
    (operates : ∀ count, books.fails count .listOperations = false) :
    ∃ after, (listObservations deployment requested).run.run books =
      (.ok (shownIn deployment.rules groups books.store
        (Window.weekTo books.supply.reading)), after) := by
  refine ⟨(books.ticked 1).counted.counted, ?_⟩
  rw [listObservations_run valid, Books.map_run,
    visit_run supported started (observes _) (operates _), ← answerIn_eq_shownIn orderly]
  rfl

/-- For a group that is selected, repeated or not, its observations come first and nothing else of
it follows. -/
theorem scansOf_selected {store : Store} (placed : store.Placed) (window : Window)
    {groups : List String} {group : String} (covered : group ∈ groups) :
    ∃ rest,
      (groups.flatMap (store.seenIn window)).filter (Observation.isScanOf group) =
        (store.seenIn window group).filter (Observation.isScanOf group) ++ rest ∧
      ∀ found ∈ rest,
        found ∈ (store.seenIn window group).filter (Observation.isScanOf group) := by
  have own : ∀ other ∈ groups, ∀ found ∈ store.seenIn window other, found.groupName = other :=
    fun other _ found seen => placed other found (List.mem_filter.1 seen).1
  have scans : ∀ list : List Observation, list.filter (Observation.isScanOf group) =
      (list.filter fun found => found.groupName == group).filter fun found =>
        found.scanId.isSome := fun list => List.filter_filter.symm
  obtain ⟨more, times⟩ :=
    Nat.exists_eq_add_one_of_ne_zero (Nat.ne_of_gt (List.count_pos_iff.2 covered))
  have all := Store.filter_flatMap_repeated Observation.groupName own group
  rw [times, List.replicate_succ, List.flatten_cons] at all
  have alone : ((store.seenIn window group).filter fun found => found.groupName == group) =
      store.seenIn window group := by
    rw [List.filter_eq_self]
    exact fun found seen => beq_iff_eq.2 (own group covered found seen)
  rw [scans, scans, all, alone, List.filter_append]
  refine ⟨_, rfl, fun found member => ?_⟩
  obtain ⟨again, scanned⟩ := List.mem_filter.1 member
  obtain ⟨block, isBlock, seen⟩ := List.mem_flatten.1 again
  rw [List.eq_of_mem_replicate isBlock] at seen
  exact List.mem_filter.2 ⟨seen, scanned⟩

theorem countedAmong_selected {store : Store} (placed : store.Placed) (window : Window)
    (completed : Table String) {groups : List String} {group : String} (covered : group ∈ groups) :
    countedAmong completed (groups.flatMap (store.seenIn window)) group =
      countedAmong completed (store.seenIn window group) group := by
  cases known : completed.get? group with
  | some scan => rw [countedAmong_of_completed known, countedAmong_of_completed known]
  | none =>
    obtain ⟨rest, selected, seen⟩ := scansOf_selected placed window covered
    refine Option.ext fun scan => ?_
    rw [countedAmong_of_unfinished known, countedAmong_of_unfinished known, selected]
    simp only [Picked.append_seen_iff Observation.isLater_preference Instant.laterStamp_asymm seen]

/-- What is kept of several groups is what is kept of each of them. -/
theorem latestScanOnly_selected {store : Store} (placed : store.Placed) (window : Window)
    (completed : Table String) (groups : List String) :
    latestScanOnly (groups.flatMap (store.seenIn window)) completed =
      groups.flatMap fun group => latestScanOnly (store.seenIn window group) completed := by
  rw [latestScanOnly, List.filter_flatMap]
  refine List.flatMap_congr fun group covered => List.filter_congr fun found seen => ?_
  cases found.scanId with
  | none => rfl
  | some scan =>
    rw [placed group found (List.mem_filter.1 seen).1]
    exact congrArg (· == some scan) (countedAmong_selected placed window completed covered)

theorem counts_iff {books : Books} (orderly : books.Orderly) (window : Window)
    {groups : List String} {group : String} (covered : group ∈ groups) (scan : String) :
    Counts (groups.flatMap (books.store.seenIn window))
        ((books.store.loggedIn window).filter fun entry => groups.contains entry.resourceGroup)
        group scan ↔
      books.store.Counts window group scan := by
  have sameEntries :
      ((books.store.loggedIn window).filter fun entry =>
        groups.contains entry.resourceGroup).filter (Operation.completes group) =
      (books.store.loggedIn window).filter (Operation.completes group) := by
    rw [List.filter_filter]
    refine List.filter_congr fun entry _ => ?_
    by_cases completed : Operation.completes group entry = true
    · have own : entry.resourceGroup = group := by
        simp only [Operation.completes, Bool.and_eq_true, beq_iff_eq] at completed
        exact completed.2
      simp [completed, own, covered]
    · simp [completed]
  rw [← countedScan?_eq_some_iff]
  change countedAmong _ _ _ = _ ↔ _
  rw [countedAmong_selected orderly.filed window _ covered]
  refine (countedScan?_eq_some_iff _ _ _ _).trans ?_
  exact ⟨Counts.congr sameEntries.symm fun _ picked => picked,
    Counts.congr sameEntries fun _ picked => picked⟩

/-- Where a scan of a group counts and every observation comes from some scan, a listing of the
group keeps those of this scan. -/
theorem latestScanOnly_of_counts {books : Books} (orderly : books.Orderly) (window : Window)
    {group scan : String} (counts : books.store.Counts window group scan)
    (scanned : ∀ found ∈ books.store.stored group, ∃ scan, found.scanId = some scan) :
    latestScanOnly ([group].flatMap (books.store.seenIn window))
        (latestCompletedScans ((books.store.loggedIn window).filter fun entry =>
          [group].contains entry.resourceGroup)) =
      (books.store.seenIn window group).filter fun found => found.scanId == some scan := by
  have counted := (countedScan?_eq_some_iff _ _ _ _).2
    ((counts_iff orderly window (List.mem_singleton_self group) scan).2 counts)
  rw [latestScanOnly, List.flatMap_singleton]
  rw [List.flatMap_singleton] at counted
  refine List.filter_congr fun found member => ?_
  have kept := (List.mem_filter.1 member).1
  obtain ⟨own, isScan⟩ := scanned found kept
  rw [orderly.filed group found kept, isScan, counted, Bool.eq_iff_iff, beq_iff_eq, beq_iff_eq,
    eq_comm]

theorem covers_shownIn_iff {books : Books} (orderly : books.Orderly) (rules : List Rule)
    (groups : List String) (window : Window) (group : String) :
    Covers (shownIn rules groups books.store window) group ↔ group ∈ groups := by
  rw [shownIn, covers_grouped_iff]
  constructor
  · rintro (member | ⟨found, kept, rfl⟩)
    · exact member
    · obtain ⟨group, member, seen⟩ :=
        List.mem_flatMap.1 ((mem_latestScanOnly_iff _ _ _).1 kept).1
      rw [orderly.filed group found (List.mem_filter.1 seen).1]
      exact member
  · exact .inl

/-- What a listing shows. -/
theorem listed_iff {deployment : Deployment} {requested : List String} {books after : Books}
    {listing : List GroupObservations} (orderly : books.Orderly)
    (ran : (listObservations deployment requested).run.run books = (.ok listing, after))
    (observation : Observation) :
    Listed listing observation ↔
      Covers listing observation.groupName ∧
        observation ∈
          books.store.seenIn (Window.weekTo after.supply.now) observation.groupName ∧
        ∀ scan, observation.scanId = some scan →
          books.store.Counts (Window.weekTo after.supply.now) observation.groupName scan := by
  obtain ⟨groups, -, rfl, -, -⟩ := listObservations_ok orderly ran
  rw [covers_shownIn_iff orderly, shownIn, listed_grouped_iff, mem_latestScanOnly_iff]
  constructor
  · rintro ⟨selected, counts⟩
    obtain ⟨group, member, seen⟩ := List.mem_flatMap.1 selected
    have own := orderly.filed group observation (List.mem_filter.1 seen).1
    subst own
    exact ⟨member, seen, fun scan scanned =>
      (counts_iff orderly _ member scan).1 (counts scan scanned)⟩
  · rintro ⟨member, seen, counts⟩
    exact ⟨List.mem_flatMap.2 ⟨_, member, seen⟩, fun scan scanned =>
      (counts_iff orderly _ member scan).2 (counts scan scanned)⟩

end Service

end CloudAudit
