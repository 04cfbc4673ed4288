import CloudAudit.Proofs.Listing.Showing
import CloudAudit.Proofs.Scan.Completing
/-!
# What a scan hides

A scan that is complete counts, whatever its rules could not find out. From then on a listing shows
of its groups what it found and what comes from no scan. Nothing is ever forgotten, and nothing is
hidden before the entry of a new scan has been flushed.
-/
set_option autoImplicit false

namespace CloudAudit

namespace Store

/-- A completed scan counts that is later in the window than every other one. -/
theorem counts_of_newest {store : Store} {window : Window} {group scan : String} {entry : Operation}
    (logged : entry ∈ store.loggedIn window) (completes : entry.completes group = true)
    (newest : ∀ other ∈ store.loggedIn window, other.completes group = true →
      other.id = scan ∨ entry.statusTime.after other.statusTime = true) :
    store.Counts window group scan := by
  have isCompletion : entry ∈ (store.loggedIn window).filter (Operation.completes group) :=
    List.mem_filter.2 ⟨logged, completes⟩
  obtain ⟨picked, latest⟩ := Picked.exists_of_ne_nil Operation.isNewer_preference
    (List.ne_nil_of_mem isCompletion)
  obtain ⟨pickedLogged, pickedCompletes⟩ := List.mem_filter.1 latest.mem
  have notOlder := Operation.notBefore_of_picked latest isCompletion
  rw [Instant.notBefore_iff] at notOlder
  obtain rfl := (newest picked pickedLogged pickedCompletes).resolve_right notOlder
  exact .completed latest

theorem forall_counts_iff {store : Store} {window : Window} {group scan : String}
    (counts : store.Counts window group scan) (scanId : Option String) :
    (∀ other, scanId = some other → store.Counts window group other) ↔
      scanId = none ∨ scanId = some scan := by
  constructor
  · intro all
    cases scanId with
    | none => exact .inl rfl
    | some other => exact .inr (congrArg some ((all other rfl).unique counts))
  · rintro (rfl | rfl) other same
    · cases same
    · exact Option.some.inj same ▸ counts

end Store

/-- While no completed scan of a group is flushed, what counts for it stays, as long as some
completed scan of it lies in the window. -/
theorem Books.Orderly.counts {old new : Books} (orderly : old.Orderly)
    {now later : Instant} (reading : now.notBefore old.supply.now = true)
    (normal : now.nanos < 1000000000) (laterNormal : later.nanos < 1000000000)
    (order : later.notBefore now = true) {group : String}
    (unchanged : new.store.operations.filter (Operation.completes group) =
      old.store.operations.filter (Operation.completes group))
    (kept : ∃ entry ∈ new.store.loggedIn (Window.weekTo later), entry.completes group = true)
    {scan : String} (counts : old.store.Counts (Window.weekTo now) group scan) :
    new.store.Counts (Window.weekTo later) group scan := by
  have inEarlierWeek : (new.store.loggedIn (Window.weekTo later)).filter
        (Operation.completes group) =
      ((old.store.loggedIn (Window.weekTo now)).filter (Operation.completes group)).filter
        fun entry => (Window.weekTo later).has (some entry.statusTime) := by
    have past : ∀ entry ∈ old.store.operations.filter (Operation.completes group), ∀ time,
        some entry.statusTime = some time → now.notBefore time = true := by
      rintro entry member time ⟨⟩
      exact Instant.notBefore_trans reading
        (orderly.past entry (List.mem_append_left _ (List.mem_filter.1 member).1))
    rw [Store.loggedIn, List.filter_comm, unchanged,
      Window.filter_weekTo_of_later order normal laterNormal past, Store.loggedIn]
    exact congrArg (List.filter _) (List.filter_comm _ _ _)
  obtain ⟨young, logged, completes⟩ := kept
  have seen := List.mem_filter.2 ⟨logged, completes⟩
  rw [inEarlierWeek] at seen
  obtain ⟨known, inWeek⟩ := List.mem_filter.1 seen
  cases counts with
  | seen nothing _ _ =>
    rw [nothing] at known
    cases known
  | @completed entry latest =>
    obtain ⟨counted, -⟩ := List.mem_filter.1 latest.mem
    obtain ⟨_, past⟩ := (Window.has_iff _ _).1 (List.mem_filter.1 counted).2
    have notOlder := Operation.notBefore_of_picked latest known
    refine .completed ?_
    rw [inEarlierWeek]
    exact latest.filter (Window.has_weekTo_of_newer order notOlder past inWeek)

namespace Service

theorem listObservations_grows {deployment : Deployment} {requested : List String}
    {books after : Books} {listing : List GroupObservations}
    (ran : (listObservations deployment requested).run.run books = (.ok listing, after)) :
    Grows books after := by
  have grows := Grows.steady.serviceListObservations deployment requested books
  rw [ran] at grows
  exact grows

theorem listed_of_covered_iff {deployment : Deployment} {requested : List String}
    {books after : Books} {listing : List GroupObservations} {finding : Observation}
    (orderly : books.Orderly)
    (ran : (listObservations deployment requested).run.run books = (.ok listing, after))
    (covered : Covers listing finding.groupName)
    (kept : finding ∈ after.store.stored finding.groupName) :
    Listed listing finding ↔
      (Window.weekTo after.supply.now).has finding.timestamp = true ∧
        ∀ scan, finding.scanId = some scan →
          after.store.Counts (Window.weekTo after.supply.now) finding.groupName scan := by
  obtain ⟨-, -, -, -, sameStore⟩ := listObservations_ok orderly ran
  rw [sameStore] at kept ⊢
  rw [listed_iff orderly ran]
  constructor
  · rintro ⟨-, seen, counts⟩
    exact ⟨(List.mem_filter.1 seen).2, counts⟩
  · rintro ⟨inWeek, counts⟩
    exact ⟨covered, List.mem_filter.2 ⟨kept, inWeek⟩, counts⟩

end Service

/-- After a scan of a group its entry stays in the operation log, whatever happens. -/
theorem Event.completed_after_turn {deployment : Deployment} {books : Books} {place : Nat}
    {run : Run} {skeletons : List Resource} {collected : List Observation} {claim : Claim}
    {group : String} (underWay : books.underWay[place]? = some run)
    (scans : run.phase = .checking skeletons collected claim) (granted : group ∈ claim.granted)
    (writes : books.AlwaysLogs) (later : List Event) :
    ∃ time, time.notBefore books.supply.reading = true ∧
      ⟨run.scanId, group, .scan, time, .completed⟩ ∈
        (books.after deployment (.turn place :: later)).store.journal := by
  obtain ⟨time, dated, found⟩ := Scan.checkRules_completes deployment run.scanId run.collectId
    granted skeletons writes
  rw [← Event.takeTurn_checking underWay scans (List.ne_nil_of_mem granted)] at found
  rw [Books.after_cons]
  obtain ⟨added, grown, -⟩ := (Grows.after deployment
    (((Event.turn place).happen deployment).run books).2 later).journal
  rw [grown]
  exact ⟨time, dated, List.mem_append_left _ found⟩

namespace Service

/-- What is known of a finding once a scan of its group took place: `looked` are the books right
before the scan, and `last` are those after a later listing that covers the group. -/
structure Aftermath (looked : Books) (scanId : String) (finding : Observation)
    (listing : List GroupObservations) (last : Books) : Prop where
  /-- The finding is not forgotten. -/
  kept : finding ∈ last.store.stored finding.groupName
  /-- It is shown exactly if it lies in the week of the listing and comes from no scan or from the
  scan that counts. -/
  shown_iff : Listed listing finding ↔
    (Window.weekTo last.supply.now).has finding.timestamp = true ∧
      ∀ scan, finding.scanId = some scan →
        last.store.Counts (Window.weekTo last.supply.now) finding.groupName scan
  /-- It is not hidden while no further completed scan of the group is flushed and one of those
  before lies in the week. -/
  shown_before_flush :
    last.store.operations.filter (Operation.completes finding.groupName) =
      looked.store.operations.filter (Operation.completes finding.groupName) →
    (∃ entry ∈ last.store.loggedIn (Window.weekTo last.supply.now),
      entry.completes finding.groupName = true) →
    (Window.weekTo last.supply.now).has finding.timestamp = true → Listed listing finding
  /-- The scan logs that it is complete, and counts once this is newer than what other scans
  logged. -/
  scan_counts : looked.AlwaysLogs → ∃ time, time.notBefore looked.supply.reading = true ∧
    ⟨scanId, finding.groupName, .scan, time, .completed⟩ ∈ last.store.journal ∧
    (⟨scanId, finding.groupName, .scan, time, .completed⟩ ∈
        last.store.loggedIn (Window.weekTo last.supply.now) →
      (∀ entry ∈ last.store.loggedIn (Window.weekTo last.supply.now),
        entry.completes finding.groupName = true →
          entry.id = scanId ∨ time.after entry.statusTime = true) →
      (Listed listing finding ↔
        (Window.weekTo last.supply.now).has finding.timestamp = true ∧
          (finding.scanId = none ∨ finding.scanId = some scanId)))

/-- Whatever rules of a scan fail and whatever happens afterwards, a finding that was listed right
before the scan is kept, and hidden only by a scan that counts; a scan whose rules failed does. -/
theorem findings_after_scan {deployment : Deployment} {supply : Supply}
    {earlier later : List Event} {requested again : List String}
    {before after : List GroupObservations} {looked last : Books} {place : Nat} {run : Run}
    {skeletons : List Resource} {collected : List Observation} {claim : Claim}
    {finding : Observation}
    (first : (listObservations deployment requested).run.run
      ((Books.fresh supply).after deployment earlier) = (.ok before, looked))
    (shown : Listed before finding)
    (underWay : looked.underWay[place]? = some run)
    (scans : run.phase = .checking skeletons collected claim)
    (granted : finding.groupName ∈ claim.granted)
    (second : (listObservations deployment again).run.run
      (looked.after deployment (.turn place :: later)) = (.ok after, last))
    (covered : Covers after finding.groupName) :
    Aftermath looked run.scanId finding after last := by
  have orderly := Books.orderly_after deployment supply earlier
  have grown := Grows.after deployment looked (.turn place :: later)
  have lookedOrderly := orderly.grows (listObservations_grows first)
  have endedOrderly := lookedOrderly.grows grown
  obtain ⟨-, -, -, lookedNow, lookedStore⟩ := listObservations_ok orderly first
  obtain ⟨-, -, -, lastNow, lastStore⟩ := listObservations_ok endedOrderly second
  obtain ⟨-, seen, counted⟩ := (listed_iff orderly first finding).1 shown
  rw [← lookedStore] at seen counted
  have kept : finding ∈ last.store.stored finding.groupName := by
    obtain ⟨added, addedEq, -⟩ := grown.observations finding.groupName
    rw [lastStore, addedEq]
    exact List.mem_append_left _ (List.mem_filter.1 seen).1
  have shownIff := listed_of_covered_iff endedOrderly second covered kept
  refine { kept := kept, shown_iff := shownIff, shown_before_flush := ?_, scan_counts := ?_ }
  · intro unchanged completed inWeek
    refine shownIff.2 ⟨inWeek, fun scan scanned => ?_⟩
    rw [lastStore] at unchanged completed ⊢
    refine lookedOrderly.counts (Instant.notBefore_refl _) ?_ ?_ ?_ unchanged completed
      (counted scan scanned)
    · rw [lookedNow]
      exact Clock.reading_nanos _
    · rw [lastNow]
      exact Clock.reading_nanos _
    · rw [lastNow]
      exact Instant.notBefore_trans (Clock.reading_notBefore _) grown.clock
  · intro writes
    obtain ⟨time, dated, found⟩ :=
      Event.completed_after_turn underWay scans granted writes later
    rw [← lastStore] at found
    refine ⟨time, dated, found, fun logged newest => ?_⟩
    have counts : last.store.Counts (Window.weekTo last.supply.now) finding.groupName run.scanId :=
      Store.counts_of_newest logged (by simp [Operation.completes]) newest
    exact shownIff.trans (and_congr_right fun _ => Store.forall_counts_iff counts finding.scanId)

/-! ## A scan that hides what it could not find out -/

def outcomes (deployment : Deployment) (run : Run) (groups : List String)
    (skeletons : List Resource) : Work (List Scan.Outcome) := do
  Scan.logStatus run.scanId groups .started
  deployment.rules.mapM fun rule => Scan.checkRule rule run.collectId groups skeletons

theorem checkResources_rule (rule : Rule) (resources : List Resource) (books : Books) :
    ((Scan.checkResources rule resources).run books).1.rule = rule := by
  induction resources generalizing books with
  | nil => rfl
  | cons resource resources ih =>
    rw [Scan.checkResources]
    split
    · exact ih _
    · exact ih _

theorem checkRule_rule (rule : Rule) (collectId : String) (groups : List String)
    (skeletons : List Resource) (books : Books) :
    ((Scan.checkRule rule collectId groups skeletons).run books).1.rule = rule := by
  rw [Scan.checkRule, StateT.run_bind]
  cases (Scan.resourcesFor collectId groups rule.acceptedKinds skeletons).run.run books with
  | mk answer books =>
    cases answer with
    | ok resources => exact checkResources_rule rule resources books
    | error error => rfl

instance (listing : List GroupObservations) (group : String) :
    Decidable (Covers listing group) :=
  inferInstanceAs (Decidable (∃ entry ∈ listing, _))

namespace Rescan

def deployment : Deployment where
  inventory := ⟨[Resource.group "g"]⟩
  rules := [.missingContactLabels]
  contacts := default
  notificationInterval := .zero
  sourceSystem := "CloudAudit"

def supply : Supply := { now := ⟨0, 0⟩ }

/-- Resources can no longer be listed. -/
def failing : Nat → StoreCall → Bool := fun _ call => call == .listResources

/-- A run that ends well, and a second one that is about to check the rule when resources can no
longer be listed. -/
def earlier : List Event :=
  [.call none (.collectAndScan ["g"]), .settle] ++
    .disturb failing false ::
      [.call none (.collectAndScan ["g"]), .turn 0, .turn 0, .turn 0, .turn 0, .turn 0, .turn 0]

def later : List Event := [.turn 0, .turn 0, .turn 0]

@[irreducible]
def books : Books := (Books.fresh supply).after deployment earlier

@[irreducible]
def looked : Books := ((listObservations deployment ["g"]).run.run books).2

@[irreducible]
def ended : Books := looked.after deployment (.turn 0 :: later)

@[irreducible]
def last : Books := ((listObservations deployment ["g"]).run.run ended).2

def shown (books : Books) : List GroupObservations :=
  shownIn deployment.rules ["g"] books.store (Window.weekTo books.supply.reading)

def run : Run where
  collectId := Supply.idText 3
  scanId := Supply.idText 4
  groups := ["g"]
  phase :=
    .checking [{ Resource.group "g" with collectionUid := some (Supply.idText 3) }] []
      ⟨.scan, Supply.idText 4, ["g"], ["g"]⟩

def finding : Observation :=
  ((looked.store.stored "g").head?).getD default

theorem listing_succeeds {books : Books} (orderly : books.Orderly) (fails : books.fails = failing)
    (supported : books.supply.reading.inCalendar = true)
    (started : (Window.weekTo books.supply.reading).start.inCalendar = true) :
    (listObservations deployment ["g"]).run.run books =
      (.ok (shown books), ((listObservations deployment ["g"]).run.run books).2) := by
  have valid : (validateGroups deployment ["g"]).run.run books = (.ok ["g"], books) := by
    rfl
  have observes : ∀ count, books.fails count .listObservations = false := by
    intro count
    rw [fails]
    rfl
  have operates : ∀ count, books.fails count .listOperations = false := by
    intro count
    rw [fails]
    rfl
  obtain ⟨after, ran⟩ :=
    listObservations_succeeds orderly valid supported started observes operates
  rw [ran]
  rfl

theorem books_eq : books = (Books.fresh supply).after deployment earlier := by
  rw [books]

theorem ended_eq : ended = looked.after deployment (.turn 0 :: later) := by
  rw [ended]

theorem books_orderly : books.Orderly := by
  rw [books_eq]
  exact Books.orderly_after deployment supply earlier

theorem books_fails : books.fails = failing := by
  rw [books, earlier]
  exact Books.fails_after_disturb _ _ _ _ _ (by decide)

theorem looked_fails : looked.fails = failing := by
  rw [looked, ← books_fails]
  exact steady_sameFails.serviceListObservations deployment ["g"] books

theorem ended_fails : ended.fails = failing := by
  rw [ended, ← looked_fails]
  exact steady_sameFails.after_calm deployment (by decide) looked

theorem first_listing :
    (listObservations deployment ["g"]).run.run ((Books.fresh supply).after deployment earlier) =
      (.ok (shown books), looked) := by
  rw [← books_eq, looked]
  exact listing_succeeds books_orderly books_fails (by decide +kernel) (by decide +kernel)

theorem second_listing :
    (listObservations deployment ["g"]).run.run
      (looked.after deployment (.turn 0 :: later)) = (.ok (shown ended), last) := by
  have orderly : ended.Orderly := by
    rw [ended_eq]
    have looks := (Books.orderly_after deployment supply earlier).grows
      (listObservations_grows first_listing)
    exact looks.grows (Grows.after deployment looked _)
  rw [← ended_eq, last]
  exact listing_succeeds orderly ended_fails (by decide +kernel) (by decide +kernel)

theorem underWay : looked.underWay[0]? = some run := by decide +kernel

theorem shown_before : Listed (shown books) finding := by decide +kernel

theorem granted : finding.groupName ∈ ["g"] := by decide +kernel

def outcome : Scan.Outcome :=
  ((Scan.checkRule .missingContactLabels (Supply.idText 3) ["g"]
    [{ Resource.group "g" with collectionUid := some (Supply.idText 3) }]).run
      ((Scan.logStatus (Supply.idText 4) ["g"] .started).run looked).2).1

theorem outcome_fails : outcome.errors ≠ [] := by decide +kernel

theorem covered_after : Covers (shown ended) finding.groupName := by decide +kernel

end Rescan

/-- A finding of a rule can be gone from the listing right after a scan in which this rule failed.
-/
theorem rule_errors_can_hide_findings :
    ¬ ∀ (deployment : Deployment) (supply : Supply) (earlier later : List Event)
        (requested again : List String) (before after : List GroupObservations)
        (looked last : Books) (place : Nat) (run : Run) (skeletons : List Resource)
        (collected : List Observation) (claim : Claim) (rule : Rule) (finding : Observation),
      (listObservations deployment requested).run.run
        ((Books.fresh supply).after deployment earlier) = (.ok before, looked) →
      Listed before finding → finding.name = rule.name →
      looked.underWay[place]? = some run → run.phase = .checking skeletons collected claim →
      finding.groupName ∈ claim.granted →
      (∃ outcome ∈ ((outcomes deployment run claim.granted skeletons).run looked).1,
        outcome.rule = rule ∧ outcome.errors ≠ []) →
      (∀ other ∈ (looked.after deployment (.turn place :: later)).underWay,
        other.scanId ≠ run.scanId) →
      (listObservations deployment again).run.run
        (looked.after deployment (.turn place :: later)) = (.ok after, last) →
      Covers after finding.groupName →
      (Window.weekTo last.supply.now).has finding.timestamp = true →
      Listed after finding := by
  intro stays
  have listed := stays Rescan.deployment Rescan.supply Rescan.earlier Rescan.later ["g"] ["g"]
    _ _ _ _ 0 Rescan.run _ _ _ .missingContactLabels Rescan.finding Rescan.first_listing
    Rescan.shown_before
    (by decide +kernel) Rescan.underWay rfl Rescan.granted
    ⟨Rescan.outcome, List.mem_cons_self, checkRule_rule _ _ _ _ _, Rescan.outcome_fails⟩
    (by decide +kernel) Rescan.second_listing Rescan.covered_after (by decide +kernel)
  exact absurd listed (by decide +kernel)

/-- The same scan keeps the finding and hides it by counting. -/
theorem rescan_aftermath :
    Aftermath Rescan.looked Rescan.run.scanId Rescan.finding (Rescan.shown Rescan.ended)
      Rescan.last :=
  findings_after_scan Rescan.first_listing Rescan.shown_before Rescan.underWay rfl Rescan.granted
    Rescan.second_listing Rescan.covered_after

end Service

end CloudAudit
