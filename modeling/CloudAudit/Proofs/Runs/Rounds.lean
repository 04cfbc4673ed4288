import CloudAudit.Proofs.Runs.Alone
import CloudAudit.Proofs.Runs.Starting
import CloudAudit.Proofs.Scan.Evaluation
import CloudAudit.Proofs.World.Identifiers
import CloudAudit.Proofs.World.Moments
/-!
# Runs one after the other

Callers ask for runs, each of which ends before the next one starts, and look at what was found.
After any such history the store holds, for each group, what the rules say of the inventory under
the identifiers of the latest run that covered the group, and the log says so.
-/
set_option autoImplicit false

namespace CloudAudit

/-- What a caller asks for while nothing is under way. -/
inductive Round where
  | selected (caller : Option String) (groups : List String)
  | full (caller : Option String)
  | look (caller : Option String) (groups : List String)

namespace Round

def call : Round → Event
  | .selected caller groups => .call caller (.collectAndScan groups)
  | .full caller => .call caller .collectAndScanAll
  | .look caller groups => .call caller (.listObservations groups)

def events (round : Round) : List Event :=
  [round.call, .settle]

end Round

namespace Books

def answered (deployment : Deployment) (books : Books) (round : Round) : Books :=
  books.after deployment [round.call]

def beginning (deployment : Deployment) (books : Books) (round : Round) : List Moment :=
  (books.answered deployment round).underWay.map fun run => ⟨run, books.answered deployment round⟩

def started (deployment : Deployment) : Books → List Round → List Moment
  | _, [] => []
  | books, round :: rounds =>
    books.beginning deployment round ++
      started deployment (books.after deployment round.events) rounds

end Books

def latest? (group : String) (past : List Moment) : Option Moment :=
  past.reverse.find? fun moment => moment.run.groups.contains group

theorem latest?_append (group : String) (past : List Moment) (moment : Moment) :
    latest? group (past ++ [moment]) =
      if group ∈ moment.run.groups then some moment else latest? group past := by
  rw [latest?, List.reverse_append, List.reverse_singleton, List.singleton_append, List.find?_cons]
  by_cases covers : group ∈ moment.run.groups
  · simp [covers]
  · simp [covers, latest?]

/-- The findings of a run on a group stand in the store, and nothing of the group came after the
entry that completes its scan. -/
structure Standing (deployment : Deployment) (moment : Moment) (group : String)
    (books : Books) : Prop where
  made : Made moment.books.supply.reading books.supply.now
    (deployment.rules.flatMap
      (Scan.evaluation deployment.inventory moment.run.scanId moment.run.collectId group))
    ((books.store.stored group).filter fun found => found.scanId == some moment.run.scanId)
  counts : ∃ entry,
    Picked Operation.isNewer (books.store.operations.filter (Operation.completes group)) entry ∧
      entry.id = moment.run.scanId ∧
      ∀ found ∈ books.store.stored group, ∀ time, found.timestamp = some time →
        entry.statusTime.notBefore time = true

/-- What holds between two runs. -/
structure Settled (deployment : Deployment) (past : List Moment) (books : Books) : Prop where
  reliable : books.Reliable
  nobody : books.underWay = []
  idle : books.requests.Idle
  orderly : books.Orderly
  flushed : books.store.pending = []
  filed : books.store.Filed
  collected : ∀ group, ∀ resource ∈ books.store.resourcesOf group,
    (∃ collectId, resource.collectionUid = some collectId ∧ books.supply.Issued collectId) ∧
      ∃ original ∈ Collector.members deployment.inventory group, original.kind = resource.kind
  scanned : ∀ group, ∀ found ∈ books.store.stored group,
    ∃ scanId, found.scanId = some scanId ∧ books.supply.Issued scanId
  dated : ∀ group, ∀ found ∈ books.store.stored group,
    ∃ time, found.timestamp = some time ∧ books.supply.now.notBefore time = true
  registered : ∀ moment ∈ past, books.requests.Registered .collect moment.run.collectId ∧
    books.requests.Registered .scan moment.run.scanId
  standing : ∀ {group : String} {moment : Moment}, group ≠ "" → latest? group past = some moment →
    Standing deployment moment group books

namespace Settled

variable {deployment : Deployment}

theorem fresh (deployment : Deployment) (supply : Supply) :
    Settled deployment [] (Books.fresh supply) where
  reliable _ _ := rfl
  nobody := rfl
  idle kind := by cases kind <;> exact ClaimTable.Idle.empty
  orderly := Books.orderly_fresh supply
  flushed := rfl
  filed := Store.filed_empty
  collected := by
    intro group resource member
    cases member
  scanned := by
    intro group found member
    cases member
  dated := by
    intro group found member
    cases member
  registered := by simp
  standing := by
    intro group moment _ found
    cases found

theorem undisturbed {past : List Moment} {books after : Books}
    (settled : Settled deployment past books) (same : Undisturbed books after) :
    Settled deployment past after where
  reliable := settled.reliable.of_fails same.fails
  nobody := same.underWay.trans settled.nobody
  idle := by
    rw [same.requests]
    exact settled.idle
  orderly := settled.orderly.grows same.grows
  flushed := by
    rw [same.store]
    exact settled.flushed
  filed := by
    rw [same.store]
    exact settled.filed
  collected := by
    rw [same.store]
    intro group resource member
    obtain ⟨⟨collectId, tagged, issued⟩, original⟩ := settled.collected group resource member
    exact ⟨⟨collectId, tagged, issued.mono same.minted⟩, original⟩
  scanned := by
    rw [same.store]
    intro group found member
    obtain ⟨scanId, scanned, issued⟩ := settled.scanned group found member
    exact ⟨scanId, scanned, issued.mono same.minted⟩
  dated := by
    rw [same.store]
    intro group found member
    obtain ⟨time, dated, past⟩ := settled.dated group found member
    exact ⟨time, dated, Instant.notBefore_trans same.clock past⟩
  registered := by
    rw [same.requests]
    exact settled.registered
  standing := by
    intro group moment named latest
    have stands := settled.standing named latest
    refine ⟨?_, ?_⟩
    · rw [same.store]
      exact stands.made.widen (Instant.notBefore_refl _) same.clock
    · rw [same.store]
      exact stands.counts

/-! ## One more run -/

section

variable {past : List Moment} {books after : Books} {groups : List String} {done : Instant}

theorem nextRun_fresh (lasting : books.supply.minted + 2 ≤ 2 ^ 128) (groups : List String) :
    ¬ books.supply.Issued (books.nextRun groups).collectId ∧
      ¬ books.supply.Issued (books.nextRun groups).scanId :=
  ⟨Supply.not_issued (Nat.le_refl _) (by omega), Supply.not_issued (Nat.le_succ _) (by omega)⟩

theorem ran_resources (ran : Pipeline.Ran deployment (books.nextRun groups) done
      (books.withRuns [books.nextRun groups]) after) (tidy : deployment.inventory.Tidy) :
    ∃ now, ∀ group, after.store.resourcesOf group = books.store.resourcesOf group ++
      if group ∈ groups then
        (Collector.members deployment.inventory group).map
          (Collector.retagged (books.nextRun groups).collectId now)
      else [] := by
  obtain ⟨now, resources⟩ := ran.resources
  refine ⟨now, fun group => ?_⟩
  have unmixed : ∀ group ∈ groups.eraseDups, ∀ resource ∈
      Collector.members deployment.inventory group,
      Collector.Unmixed deployment.inventory resource := by
    intro group _ resource member
    exact tidy.unmixed (Collector.mem_members.1 member).1
  have snapshots := Collector.snapshots_of_unmixed (books.nextRun groups).collectId now
    (nodup_eraseDups groups) unmixed group
  simp only [List.mem_eraseDups] at snapshots
  rw [← snapshots]
  exact resources group

variable (settled : Settled deployment past books)
  (ran : Pipeline.Ran deployment (books.nextRun groups) done
    (books.withRuns [books.nextRun groups]) after)
include settled ran

theorem ran_filed : after.store.Filed := by
  obtain ⟨now, resources⟩ := ran.resources
  exact settled.filed.append resources

/-- The entries that a new run adds to the operation log come after everything before. -/
theorem ran_entries (grows : Grows (books.withRuns [books.nextRun groups]) after) :
    ∃ entries, after.store.operations = books.store.operations ++ entries ∧
      (∀ entry ∈ entries, entry.statusTime.notBefore books.supply.now = true) ∧
      (∀ group, ∀ entry ∈ entries, entry.completes group = true →
        entry.id = (books.nextRun groups).scanId ∧ group ∈ groups) ∧
      ∀ group ∈ groups, ∃ entry ∈ entries,
        entry.completes group = true ∧ entry.statusTime.notBefore done = true := by
  obtain ⟨entries, logged, own, complete⟩ := ran.operations
  obtain ⟨added, journal, dated⟩ := grows.journal
  have pending : (books.withRuns [books.nextRun groups]).store.pending = [] := settled.flushed
  rw [Store.journal, Store.journal, ran.flushed, pending, List.append_nil, List.append_nil,
    logged] at journal
  obtain rfl := List.append_cancel_left journal
  refine ⟨entries, logged, fun entry member => ?_, own, complete⟩
  exact Instant.notBefore_trans (dated.within entry member).1 books.supply.reading_notBefore

theorem ran_counts (grows : Grows (books.withRuns [books.nextRun groups]) after) {group : String}
    (covered : group ∈ groups) :
    ∃ entry,
      Picked Operation.isNewer (after.store.operations.filter (Operation.completes group)) entry ∧
        entry.id = (books.nextRun groups).scanId ∧
        entry.statusTime.notBefore books.supply.now = true ∧
        entry.statusTime.notBefore done = true := by
  obtain ⟨entries, logged, later, own, complete⟩ := ran_entries settled ran grows
  obtain ⟨known, isKnown, completes, afterRules⟩ := complete group covered
  have isNew : known ∈ entries.filter (Operation.completes group) :=
    List.mem_filter.2 ⟨isKnown, completes⟩
  obtain ⟨picked, latest⟩ := Picked.exists_of_ne_nil Operation.isNewer_preference
    (List.ne_nil_of_mem isNew)
  obtain ⟨isEntry, pickedCompletes⟩ := List.mem_filter.1 latest.mem
  refine ⟨picked, ?_, (own group picked isEntry pickedCompletes).1, later picked isEntry, ?_⟩
  · -- What was logged before the run is no later than its entries.
    rw [logged, List.filter_append]
    refine latest.append_worse fun old isOld => ?_
    have past := settled.orderly.past old (List.mem_append_left _ (List.mem_filter.1 isOld).1)
    exact Instant.notBefore_trans (later picked isEntry) past
  · exact Instant.notBefore_trans (Operation.notBefore_of_picked latest isNew) afterRules

variable (lasting : books.supply.minted + 2 ≤ 2 ^ 128)
include lasting

/-- What the rules of a new run see is its own collection. -/
theorem ran_seen (tidy : deployment.inventory.Tidy) :
    ∃ now, ∀ kinds,
      Scan.sightOf after.store (books.nextRun groups).collectId groups.eraseDups
          (Collector.knownTo deployment.inventory (books.nextRun groups).collectId) kinds =
        Scan.collectedSight deployment.inventory (books.nextRun groups).collectId now
          groups.eraseDups kinds := by
  obtain ⟨now, resources⟩ := ran_resources ran tidy
  refine ⟨now, fun kinds => List.flatMap_congr fun group covered => ?_⟩
  have older : Scan.Older deployment.inventory (books.nextRun groups).collectId group
      (books.store.resourcesOf group) := by
    intro resource member
    obtain ⟨⟨collectId, tagged, issued⟩, original⟩ := settled.collected group resource member
    refine ⟨?_, original⟩
    intro same
    rw [tagged] at same
    exact (nextRun_fresh lasting groups).1 (Option.some.inj same ▸ issued)
  have stored := resources group
  rw [if_pos (List.mem_eraseDups.1 covered)] at stored
  exact Scan.visible_of_collected tidy (ran_filed settled ran) older stored kinds

theorem ran_stored (tidy : deployment.inventory.Tidy)
    (impartial : ∀ rule ∈ deployment.rules, rule.Impartial) :
    ∃ added : List Observation,
      (∀ group, after.store.stored group =
        books.store.stored group ++ added.filter (Store.isFiled group)) ∧
      (∀ found ∈ added, found.scanId = some (books.nextRun groups).scanId) ∧
      ∀ {group : String}, group ≠ "" →
        Made books.supply.reading done
          (if group ∈ groups then
            deployment.rules.flatMap
              (Scan.evaluation deployment.inventory (books.nextRun groups).scanId
                (books.nextRun groups).collectId group)
          else [])
          (added.filter (Store.isFiled group)) := by
  obtain ⟨now, seen⟩ := ran_seen settled ran lasting tidy
  obtain ⟨added, stored, made⟩ := ran.observations
  refine ⟨added, stored, ?_, ?_⟩
  · intro found member
    have scans : ∀ observation : Observation,
        observation.undated.scanId = observation.scanId := fun _ => rfl
    obtain ⟨given, isGiven, same⟩ := made.exists_like scans member
    rw [← same]
    exact Scan.scanId_of_mem_findings given isGiven
  · intro group named
    have filtered : Made _ _ (List.filter (Store.isFiled group) _)
        (added.filter (Store.isFiled group)) := made.filter fun _ => rfl
    have findings := Scan.filter_findings tidy impartial (books.nextRun groups).scanId
      (books.nextRun groups).collectId (nodup_eraseDups groups) seen named
    simp only [List.mem_eraseDups] at findings
    rw [← findings]
    exact filtered

variable (tidy : deployment.inventory.Tidy)
  (impartial : ∀ rule ∈ deployment.rules, rule.Impartial)
  (grows : Grows (books.withRuns [books.nextRun groups]) after)
include tidy impartial grows

theorem ran_standing {group : String} (named : group ≠ "") (covered : group ∈ groups) :
    Standing deployment
      ⟨books.nextRun groups, books.withRuns [books.nextRun groups]⟩ group after := by
  obtain ⟨added, stored, scanned, made⟩ := ran_stored settled ran lasting tidy impartial
  have madeHere := made named
  rw [if_pos covered] at madeHere
  have notOld : ((books.store.stored group).filter
      fun found => found.scanId == some (books.nextRun groups).scanId) = [] := by
    rw [List.filter_eq_nil_iff]
    intro found member own
    obtain ⟨scanId, isScan, issued⟩ := settled.scanned group found member
    have same := isScan.symm.trans (beq_iff_eq.1 own)
    exact (nextRun_fresh lasting groups).2 (Option.some.inj same ▸ issued)
  have allNew : ((added.filter (Store.isFiled group)).filter
      fun found => found.scanId == some (books.nextRun groups).scanId) =
        added.filter (Store.isFiled group) := by
    rw [List.filter_eq_self]
    intro found member
    exact beq_iff_eq.2 (scanned found (List.mem_filter.1 member).1)
  obtain ⟨entry, latest, own, later, afterRules⟩ := ran_counts settled ran grows covered
  refine ⟨?_, entry, latest, own, ?_⟩
  · rw [stored, List.filter_append, notOld, allNew, List.nil_append]
    exact madeHere.widen (Instant.notBefore_refl _) ran.clock
  · intro found member time dated
    rw [stored] at member
    rcases List.mem_append.1 member with isOld | isNew
    · obtain ⟨known, isKnown, past⟩ := settled.dated group found isOld
      obtain rfl := Option.some.inj (isKnown.symm.trans dated)
      exact Instant.notBefore_trans later past
    · obtain ⟨known, isKnown, -, past⟩ := madeHere.within found isNew
      obtain rfl := Option.some.inj (isKnown.symm.trans dated)
      exact Instant.notBefore_trans afterRules past

theorem ran_standing_still {group : String} {moment : Moment} (named : group ≠ "")
    (uncovered : group ∉ groups) (stands : Standing deployment moment group books) :
    Standing deployment moment group after := by
  obtain ⟨added, stored, -, made⟩ := ran_stored settled ran lasting tidy impartial
  obtain ⟨entries, logged, -, own, -⟩ := ran_entries settled ran grows
  have nothing := made named
  rw [if_neg uncovered] at nothing
  have same : after.store.stored group = books.store.stored group := by
    rw [stored, nothing.eq_nil, List.append_nil]
  refine ⟨?_, ?_⟩
  · rw [same]
    exact stands.made.widen (Instant.notBefore_refl _) grows.clock
  · have others : entries.filter (Operation.completes group) = [] := by
      rw [List.filter_eq_nil_iff]
      exact fun entry member completes => uncovered (own group entry member completes).2
    rw [logged, same, List.filter_append, others, List.append_nil]
    exact stands.counts

/-- A whole run leads from what holds between two runs to what holds between two runs. -/
theorem ran_settled (minted : books.supply.minted + 2 ≤ after.supply.minted) :
    Settled deployment
      (past ++ [⟨books.nextRun groups, books.withRuns [books.nextRun groups]⟩]) after where
  reliable := settled.reliable.of_fails ran.fails
  nobody := ran.underWay
  idle := by
    rw [ran.requests]
    exact (settled.idle.worked _ _ _).worked _ _ _
  orderly := by
    have same : Grows books (books.withRuns [books.nextRun groups]) :=
      .same_clock rfl rfl rfl rfl
    exact settled.orderly.grows (same.trans grows)
  flushed := ran.flushed
  filed := ran_filed settled ran
  collected := by
    obtain ⟨now, resources⟩ := ran_resources ran tidy
    intro group resource member
    rw [resources] at member
    rcases List.mem_append.1 member with isOld | isNew
    · obtain ⟨⟨collectId, tagged, issued⟩, original⟩ := settled.collected group resource isOld
      exact ⟨⟨collectId, tagged, issued.mono (by omega)⟩, original⟩
    · split at isNew
      · obtain ⟨original, isMember, rfl⟩ := List.mem_map.1 isNew
        exact ⟨⟨_, rfl, books.supply.minted, by omega, rfl⟩, original, isMember, rfl⟩
      · cases isNew
  scanned := by
    obtain ⟨added, stored, scanned, -⟩ := ran_stored settled ran lasting tidy impartial
    intro group found member
    rw [stored] at member
    rcases List.mem_append.1 member with isOld | isNew
    · obtain ⟨scanId, isScan, issued⟩ := settled.scanned group found isOld
      exact ⟨scanId, isScan, issued.mono (by omega)⟩
    · exact ⟨_, scanned found (List.mem_filter.1 isNew).1, books.supply.minted + 1, by omega, rfl⟩
  dated := by
    obtain ⟨added, stored, made⟩ := ran.observations
    intro group found member
    rw [stored] at member
    rcases List.mem_append.1 member with isOld | isNew
    · obtain ⟨time, dated, past⟩ := settled.dated group found isOld
      exact ⟨time, dated, Instant.notBefore_trans grows.clock past⟩
    · obtain ⟨time, dated, -, past⟩ := made.within found (List.mem_filter.1 isNew).1
      exact ⟨time, dated, Instant.notBefore_trans ran.clock past⟩
  registered := by
    intro moment member
    rw [ran.requests]
    simp only [Requests.worked_registered]
    rcases List.mem_append.1 member with isOld | isNew
    · obtain ⟨collects, scans⟩ := settled.registered moment isOld
      exact ⟨.inl (.inl collects), .inl (.inl scans)⟩
    · rw [List.mem_singleton] at isNew
      subst isNew
      exact ⟨.inl (.inr rfl), .inr rfl⟩
  standing := by
    intro group moment named latest
    rw [latest?_append] at latest
    split at latest
    · rename_i covered
      obtain rfl := Option.some.inj latest
      exact ran_standing settled ran lasting tidy impartial grows named covered
    · rename_i uncovered
      exact ran_standing_still settled ran lasting tidy impartial grows named uncovered
        (settled.standing named latest)

end

/-! ## All rounds -/

theorem answered_cases (deployment : Deployment) (books : Books) (round : Round) :
    Undisturbed books (books.answered deployment round) ∨
      ∃ groups, books.answered deployment round = books.withRuns [books.nextRun groups] := by
  have refused : Undisturbed books (books.withRuns []) :=
    ⟨rfl, rfl, rfl, List.append_nil _, .refl _, Nat.le_add_right _ 2⟩
  have asked : ∀ (caller : Option String) (call : Web.Call), call.asksForRun = true →
      Undisturbed books ((call.perform deployment caller).run.run books).2 ∨
        ∃ groups, ((call.perform deployment caller).run.run books).2 =
          books.withRuns [books.nextRun groups] := by
    intro caller call asks
    rcases Web.Call.perform_run deployment caller asks books with same | refusal | started
    · rw [same]
      exact .inl (Undisturbed.quiet.refl books)
    · rw [refusal]
      exact .inl refused
    · exact .inr started
  cases round with
  | selected caller groups => exact asked caller (.collectAndScan groups) rfl
  | full caller => exact asked caller .collectAndScanAll rfl
  | look caller groups =>
    have looks := Undisturbed.quiet.act_map Web.Reply.found
      (Undisturbed.quiet.serviceListObservations deployment groups)
    exact .inl (looks books)

theorem round {past : List Moment} {books : Books} (plain : deployment.collector = .plain)
    (tidy : deployment.inventory.Tidy) (impartial : ∀ rule ∈ deployment.rules, rule.Impartial)
    (settled : Settled deployment past books) (round : Round)
    (populated : ∀ moment ∈ books.beginning deployment round, ∀ group ∈ moment.run.groups,
      Collector.members deployment.inventory group ≠ [])
    (lasting : (books.after deployment round.events).supply.minted ≤ 2 ^ 128) :
    Settled deployment (past ++ books.beginning deployment round)
      (books.after deployment round.events) := by
  have settles : books.after deployment round.events =
      ((Pipeline.settle deployment).run (books.answered deployment round)).2 := rfl
  rcases answered_cases deployment books round with undisturbed | ⟨groups, begun⟩
  · have still := settled.undisturbed undisturbed
    have nobody : books.beginning deployment round = [] := by
      rw [Books.beginning, still.nobody, List.map_nil]
    rw [settles, Pipeline.settle_nobody deployment still.nobody, nobody, List.append_nil]
    exact still
  · have alone : (books.withRuns [books.nextRun groups]).underWay = [books.nextRun groups] := by
      rw [Books.withRuns, settled.nobody, List.nil_append]
    have begins : books.beginning deployment round =
        [⟨books.nextRun groups, books.withRuns [books.nextRun groups]⟩] := by
      rw [Books.beginning, begun, alone, List.map_singleton]
    rw [settles, begun] at lasting ⊢
    rw [begins] at populated ⊢
    have reliable : (books.withRuns [books.nextRun groups]).Reliable :=
      settled.reliable.of_fails rfl
    have filed : (books.withRuns [books.nextRun groups]).store.Filed := settled.filed
    obtain ⟨done, ran⟩ := Pipeline.settle_ran plain reliable filed settled.idle settled.flushed
      alone (populated _ List.mem_cons_self)
    have grows := Grows.steady.settle deployment (books.withRuns [books.nextRun groups])
    have minted := steady_minted.settle deployment (books.withRuns [books.nextRun groups])
    exact ran_settled settled ran (Nat.le_trans minted lasting) tidy impartial grows minted

/-- What holds between two runs holds after all rounds. -/
theorem rounds {past : List Moment} {books : Books} (plain : deployment.collector = .plain)
    (tidy : deployment.inventory.Tidy) (impartial : ∀ rule ∈ deployment.rules, rule.Impartial)
    (settled : Settled deployment past books) (rounds : List Round)
    (populated : ∀ moment ∈ books.started deployment rounds, ∀ group ∈ moment.run.groups,
      Collector.members deployment.inventory group ≠ [])
    (lasting :
      (books.after deployment (rounds.flatMap Round.events)).supply.minted ≤ 2 ^ 128) :
    Settled deployment (past ++ books.started deployment rounds)
      (books.after deployment (rounds.flatMap Round.events)) := by
  -- What the first round starts is the past of the other rounds.
  induction rounds generalizing past books with
  | nil =>
    rw [Books.started, List.append_nil]
    exact settled
  | cons first rest ih =>
    rw [List.flatMap_cons, Books.after_append] at lasting ⊢
    rw [Books.started] at populated ⊢
    obtain ⟨here, later⟩ := List.forall_mem_append.1 populated
    have enough := Nat.le_trans
      (Books.minted_after deployment (books.after deployment first.events) _) lasting
    rw [← List.append_assoc]
    exact ih (settled.round plain tidy impartial first here enough) later lasting

end Settled

end CloudAudit
