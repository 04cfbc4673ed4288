import CloudAudit.Proofs.Runs.Delegation
/-!
# Collected, then scanned

Who collects a group asks for its scan afterwards. It may find that another run is scanning the
group, and then leaves the scan to that run, even where that run looked at the group before the
collection. In every other case the group is scanned after it was collected.
-/
set_option autoImplicit false

namespace CloudAudit

def Run.WorksOn (run : Run) (kind : OperationKind) (group : String) : Prop :=
  ∃ claim, run.phase.due? kind = some claim ∧ group ∈ claim.granted

instance (run : Run) (kind : OperationKind) (group : String) :
    Decidable (run.WorksOn kind group) :=
  decidable_of_iff ((run.phase.due? kind).any fun claim => claim.granted.contains group) <| by
    simp [Run.WorksOn, Option.any_eq_true]

namespace Phase

variable {phase : Phase} {claim : Claim}

theorem awaits_of_collects (due : phase.due? .collect = some claim) :
    phase.awaits .scan = true ∧ phase.asks? = none := by
  obtain ⟨skeletons, rfl⟩ := eq_snapshotting due
  exact ⟨rfl, rfl⟩

theorem not_scans_of_collects (due : phase.due? .collect = some claim) :
    phase.due? .scan = none := by
  obtain ⟨skeletons, rfl⟩ := eq_snapshotting due
  rfl

theorem due?_of_claim? {kind : OperationKind} (held : phase.claim? kind = some claim) :
    phase.due? kind = some claim ∨ phase.due? kind = none := by
  cases phase <;> cases kind <;> first | exact .inl held | exact .inr rfl

end Phase

/-- A run that collected leaves the scan of a group to a run that looked at the group before. -/
def LeavesScan (before : List Moment) (run : Run) (later : List Moment) (group : String) : Prop :=
  ∃ ask ∈ later, ask.run.Same run ∧ ask.run.phase.asks? = some .scan ∧
    ∃ work ∈ before, work.run.WorksOn .scan group ∧
      (ask.books.requests.table .scan).holder? group = some work.run.scanId

/-- What becomes of a group that a run collected, as far as things went since. -/
inductive Collected (before : List Moment) (run : Run) (later : List Moment) (runs : List Run)
    (group : String) : Prop where
  | awaiting (other : Run) (isRun : other ∈ runs) (same : other.Same run)
      (awaits : other.phase.awaits .scan = true)
  | scanning (other : Run) (isRun : other ∈ runs) (scans : other.WorksOn .scan group)
  | scanned (work : Moment) (isLater : work ∈ later) (scans : work.run.WorksOn .scan group)
  | left (leaves : LeavesScan before run later group)

theorem Collected.keep {before later : List Moment} {run : Run} {runs others : List Run}
    {group : String} (collected : Collected before run later runs group)
    (stay : ∀ other ∈ runs, other.phase.awaits .scan = true ∨ other.WorksOn .scan group →
      other ∈ others) :
    Collected before run later others group := by
  cases collected with
  | awaiting other isRun same awaits =>
    exact .awaiting other (stay other isRun (.inl awaits)) same awaits
  | scanning other isRun scans => exact .scanning other (stay other isRun (.inr scans)) scans
  | scanned work isLater scans => exact .scanned work isLater scans
  | left leaves => exact .left leaves

/-- Every group that was collected is followed up. -/
structure FollowedUp (past : List Moment) (runs : List Run) (requests : Requests)
    (supply : Supply) : Prop where
  engaged : Engaged past runs requests supply
  collected : ∀ before moment later, past = before ++ moment :: later → ∀ group,
    moment.run.WorksOn .collect group → Collected before moment.run later runs group

/-- Whoever holds the scan of a group when a run asks for it is about to scan the group, or looked
at it before or after the run collected it. -/
theorem Engaged.scan_held {before later : List Moment} {moment ask : Moment} {others : List Run}
    {group owner : String}
    (engaged : Engaged (before ++ moment :: later) (ask.run :: others) ask.books.requests
      ask.books.supply)
    (collects : moment.run.WorksOn .collect group) (same : ask.run.Same moment.run)
    (asks : ask.run.phase.asks? = some .scan)
    (held : (ask.books.requests.table .scan).holder? group = some owner) :
    Collected before moment.run (later ++ [ask]) others group := by
  obtain ⟨claim, inForce, isKind, isOwner, granted⟩ :=
    (engaged.accounts.holders .scan group owner).1 held
  rw [live_of_free ask.run (Phase.claim?_of_asks? asks)] at inForce
  obtain ⟨other, isOther, kind, holds⟩ := inForce
  have isRun : other ∈ ask.run :: others := List.mem_cons_of_mem _ isOther
  have otherOwn := engaged.own other (met_of_run isRun) kind claim holds
  obtain rfl : kind = .scan := otherOwn.sort.symm.trans isKind
  rcases Phase.due?_of_claim? holds with due | worked
  · exact .scanning other isOther ⟨claim, due, granted⟩
  · obtain ⟨work, isPast, due⟩ := engaged.worked other isRun .scan claim holds worked
    have own := engaged.own work.run (met_of_moment isPast) .scan claim (Phase.claim?_of_due? due)
    -- The holder looked at the group before the collection, at that very moment, or after it.
    rcases List.mem_append.1 isPast with isBefore | here
    · have byWork : owner = work.run.scanId := isOwner.symm.trans own.owner
      rw [byWork] at held
      exact .left ⟨ask, by simp, same, asks, work, isBefore, ⟨claim, due, granted⟩, held⟩
    · rcases List.mem_cons.1 here with rfl | isLater
      · obtain ⟨collect, dueCollect, -⟩ := collects
        rw [Phase.not_scans_of_collects dueCollect] at due
        cases due
      · exact .scanned work (List.mem_append_left _ isLater) ⟨claim, due, granted⟩

namespace FollowedUp

variable {past : List Moment} {run : Run} {runs others : List Run} {requests later : Requests}
  {supply after : Supply}

theorem start (supply : Supply) : FollowedUp [] [] {} supply where
  engaged := .start supply
  collected := by simp

theorem keep (followed : FollowedUp past runs requests supply)
    (engaged : Engaged past others later after)
    (stay : ∀ group, ∀ other ∈ runs,
      other.phase.awaits .scan = true ∨ other.WorksOn .scan group → other ∈ others) :
    FollowedUp past others later after where
  engaged := engaged
  collected before moment next split group collects :=
    (followed.collected before moment next split group collects).keep (stay group)

section

variable {books next : Books} {phase : Phase}
  (followed : FollowedUp past (run :: others) books.requests books.supply)
  (deals : Pipeline.Deals run books next phase) (advances : run.phase.Asks phase)
include followed deals advances

omit advances in
theorem step_asks {before later : List Moment} {moment : Moment}
    (split : past = before ++ moment :: later) {group : String}
    (collects : moment.run.WorksOn .collect group) (same : run.Same moment.run)
    (asks : run.phase.asks? = some .scan) :
    Collected before moment.run (later ++ [⟨run, books⟩]) ({ run with phase } :: others) group := by
  subst split
  have engaged := followed.engaged
  have isMet : moment.run ∈ met (before ++ moment :: later) (run :: others) :=
    met_of_moment (by simp)
  have requested : group ∈ run.groups := by
    obtain ⟨claim, due, granted⟩ := collects
    rw [same.groups]
    exact (engaged.own moment.run isMet .collect claim (Phase.claim?_of_due? due)).granted group
      granted
  cases held : (books.requests.table .scan).holder? group with
  | none =>
    cases deals with
    | asks kind sameAsks taken due _ =>
      obtain rfl : .scan = kind := Option.some.inj (asks.symm.trans sameAsks)
      have granted := (Accounts.mem_granted_iff .scan (run.id .scan) run.groups engaged.sound
        (engaged.fresh .scan asks) group).2 ⟨requested, held⟩
      refine .scanning _ List.mem_cons_self ⟨_, ?_, granted⟩
      exact (due .scan).trans ((taken .scan _).2 ⟨rfl, rfl⟩)
    | works _ _ nothing | releases _ _ nothing | idles nothing =>
      rw [nothing] at asks
      cases asks
  | some owner =>
    have fate : Collected before moment.run (later ++ [⟨run, books⟩]) others group :=
      Engaged.scan_held engaged collects same asks held
    exact fate.keep fun _ isOther _ => List.mem_cons_of_mem _ isOther

theorem step_collected {before later : List Moment} {moment : Moment}
    (split : past = before ++ moment :: later) {group : String}
    (collects : moment.run.WorksOn .collect group) :
    Collected before moment.run (later ++ [⟨run, books⟩]) ({ run with phase } :: others) group := by
  have sameRun := Run.Same.of_phase run phase
  cases followed.collected before moment later split group collects with
  | awaiting other isRun same awaits =>
    rcases List.mem_cons.1 isRun with rfl | isOther
    · by_cases asks : other.phase.asks? = some .scan
      · exact followed.step_asks deals split collects same asks
      · refine .awaiting _ List.mem_cons_self (sameRun.trans same) ?_
        rw [advances .scan, awaits, Bool.true_and, bne_iff_ne]
        exact asks
    · exact .awaiting other (List.mem_cons_of_mem _ isOther) same awaits
  | scanning other isRun scans =>
    rcases List.mem_cons.1 isRun with rfl | isOther
    · exact .scanned ⟨other, books⟩ (by simp) scans
    · exact .scanning other (List.mem_cons_of_mem _ isOther) scans
  | scanned work isLater scans => exact .scanned work (List.mem_append_left _ isLater) scans
  | left leaves =>
    obtain ⟨ask, isLater, leaves⟩ := leaves
    exact .left ⟨ask, List.mem_append_left _ isLater, leaves⟩

theorem step (minted : books.supply.minted ≤ next.supply.minted) :
    FollowedUp (past ++ [⟨run, books⟩]) ({ run with phase } :: others) next.requests
      next.supply where
  engaged := followed.engaged.step_engaged deals advances minted
  collected := by
    intro before moment later split group collects
    rcases Moment.last_or_earlier split with ⟨rfl, rfl⟩ | ⟨earlier, rfl, known⟩
    · obtain ⟨claim, due, -⟩ := collects
      obtain ⟨awaits, asks⟩ := Phase.awaits_of_collects due
      refine .awaiting _ List.mem_cons_self (Run.Same.of_phase run phase) ?_
      rw [advances .scan, awaits, asks]
      rfl
    · exact followed.step_collected deals advances known collects

end

theorem carried {deployment : Deployment} (reachable : deployment.collector ≠ .unreachable) :
    Carried deployment FollowedUp where
  perm followed same :=
    followed.keep (followed.engaged.perm same) fun _ _ isRun _ => same.mem_iff.1 isRun
  step := by
    intro past run others books followed
    obtain ⟨phase, next, deals, advances⟩ := Pipeline.step_deals reachable run books
    rw [next]
    exact followed.step deals advances (steady_minted.step deployment run books)
  leave := by
    intro past run others requests supply followed finished
    refine followed.keep (followed.engaged.leave finished) fun group other isRun goesOn => ?_
    refine (List.mem_cons.1 isRun).resolve_left ?_
    rintro rfl
    have ended := Run.phase_of_isFinished finished
    rcases goesOn with awaits | ⟨claim, due, -⟩
    · rw [ended] at awaits
      cases awaits
    · rw [ended] at due
      cases due
  status followed kind id :=
    followed.keep (followed.engaged.status kind id) fun _ _ isRun _ => isRun
  minted followed more := followed.keep (followed.engaged.minted more) fun _ _ isRun _ => isRun
  starts followed enough groups :=
    followed.keep (followed.engaged.starts enough groups)
      fun _ _ isRun _ => List.mem_cons_of_mem _ isRun

end FollowedUp

/-- Once all runs are over, every group that a run collected was scanned after that: who checked the
rules on it found everything that the collection left of the group. Only where another run held the
scan of the group when the run asked for it, the scan may have been left to that one, although it
checked the rules before. -/
theorem scanned_after_collecting (deployment : Deployment) (supply : Supply)
    (events : List Event) (reachable : deployment.collector ≠ .unreachable)
    (lasting : ((Books.fresh supply).after deployment events).supply.minted ≤ 2 ^ 128)
    (nobody : ((Books.fresh supply).after deployment events).underWay = [])
    (before later : List Moment) (moment : Moment)
    (history : (Books.fresh supply).moments deployment events = before ++ moment :: later)
    (group : String) (collects : moment.run.WorksOn .collect group) :
    (∃ work ∈ later, work.run.WorksOn .scan group ∧
      (moment.left deployment).store.resourcesOf group <+: work.books.store.resourcesOf group) ∨
    LeavesScan before moment.run later group := by
  have followed := (FollowedUp.carried reachable).after (FollowedUp.start supply) lasting
  have kept := steady_resources.keeps (fun _ _ _ _ => List.prefix_rfl) deployment
    (Books.fresh supply) events
  rw [nobody] at followed
  cases followed.collected before moment later history group collects with
  | awaiting other isRun | scanning other isRun => cases isRun
  | scanned work isLater scans =>
    exact .inl ⟨work, isLater, scans, (kept before moment later history).1 work isLater group⟩
  | left leaves => exact .inr leaves

/-! ## Collections that no scan looks at -/

def Moment.Stores (deployment : Deployment) (moment : Moment) (group : String) : Prop :=
  (moment.left deployment).store.taggedIn moment.run.collectId group ≠
    moment.books.store.taggedIn moment.run.collectId group

instance (deployment : Deployment) (moment : Moment) (group : String) :
    Decidable (moment.Stores deployment group) :=
  inferInstanceAs (Decidable (¬ _))

/-- Where nothing fails and all runs are over, every group was scanned after something of it was
stored. -/
def CollectionsScanned (deployment : Deployment) (supply : Supply) (events : List Event) : Prop :=
  (∀ event ∈ events, event.isCalm = true) →
  ((Books.fresh supply).after deployment events).underWay = [] →
  ∀ before moment later,
    (Books.fresh supply).moments deployment events = before ++ moment :: later →
    ∀ group, moment.Stores deployment group → ∃ work ∈ later, work.run.WorksOn .scan group

theorem exists_unscanned {past : List Moment} {group : String} {holds : Moment → Prop}
    (place : Nat) (reached : place < past.length)
    (here : ∀ moment ∈ (past.drop place).head?, holds moment)
    (unscanned : ∀ work ∈ (past.drop place).tail, ¬ work.run.WorksOn .scan group) :
    ∃ before moment later, past = before ++ moment :: later ∧ holds moment ∧
      ∀ work ∈ later, ¬ work.run.WorksOn .scan group := by
  obtain ⟨before, moment, later, history, held, rfl⟩ := Moment.exists_at place reached here
  exact ⟨before, moment, _, history, held, unscanned⟩

namespace Overlap

/-- While the first run has yet to collect, the second one checks the rules. It gives back the group
only after the first one asked for its scan. -/
def race : List Event :=
  [.call none (.collectAndScan ["g1"]), .call none (.collectAndScan ["g1"]), .permit 1,
    .turn 0, .turn 0, .turn 1, .turn 1, .turn 1, .turn 1, .turn 1, .turn 1, .turn 1,
    .turn 0, .turn 0, .turn 0, .turn 0, .settle]

theorem race_unscanned :
    ((Books.fresh supply).after deployment race).supply.minted ≤ 2 ^ 128 ∧
      ((Books.fresh supply).after deployment race).underWay = [] ∧
      ∃ before moment later,
        (Books.fresh supply).moments deployment race = before ++ moment :: later ∧
          (moment.run.WorksOn .collect "g1" ∧ moment.Stores deployment "g1") ∧
          ∀ work ∈ later, ¬ work.run.WorksOn .scan "g1" :=
  ⟨by decide +kernel, by decide +kernel,
    exists_unscanned 9 (by decide +kernel) (by decide +kernel) (by decide +kernel)⟩

theorem race_leaves_scan : ∃ before moment later,
    (Books.fresh supply).moments deployment race = before ++ moment :: later ∧
      moment.run.WorksOn .collect "g1" ∧ LeavesScan before moment.run later "g1" := by
  obtain ⟨lasting, ended, before, moment, later, history, ⟨collects, -⟩, unscanned⟩ :=
    race_unscanned
  refine ⟨before, moment, later, history, collects, ?_⟩
  refine (scanned_after_collecting deployment supply race (by decide) lasting ended before later
    moment history "g1" collects).resolve_left ?_
  rintro ⟨work, isLater, scans, -⟩
  exact unscanned work isLater scans

end Overlap

/-- The collection of the first run in the race is not looked at, and neither is what a run over one
group stores under another one, where a bucket bears its name. -/
theorem collections_left_unscanned :
    ¬ CollectionsScanned Overlap.deployment Overlap.supply Overlap.race ∧
      ¬ CollectionsScanned Collector.Namesake.deployment Overlap.supply
        [.call none (.collectAndScan ["g1"]), .settle] := by
  refine ⟨?_, ?_⟩
  · intro scanned
    obtain ⟨-, ended, before, moment, later, history, ⟨-, stores⟩, unscanned⟩ :=
      Overlap.race_unscanned
    obtain ⟨work, isLater, scans⟩ :=
      scanned (by decide +kernel) ended before moment later history "g1" stores
    exact unscanned work isLater scans
  · let events : List Event := [.call none (.collectAndScan ["g1"]), .settle]
    intro scanned
    have missed : ∃ before moment later,
        (Books.fresh Overlap.supply).moments Collector.Namesake.deployment events =
          before ++ moment :: later ∧
          moment.Stores Collector.Namesake.deployment "g2" ∧
          ∀ work ∈ later, ¬ work.run.WorksOn .scan "g2" :=
      exists_unscanned 2 (by decide +kernel) (by decide +kernel) (by decide +kernel)
    obtain ⟨before, moment, later, history, stores, unscanned⟩ := missed
    obtain ⟨work, isLater, scans⟩ :=
      scanned (by decide +kernel) (by decide +kernel) before moment later history "g2" stores
    exact unscanned work isLater scans

end CloudAudit
