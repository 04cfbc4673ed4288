import CloudAudit.Proofs.Runs.Ending
import CloudAudit.Proofs.Runs.EndToEnd
/-!
# Work done for others

A run that asks for a group in work leaves the work to the run that holds the group. What it reads
as done is then done: by itself or by that run, before the claim was given back.
-/
set_option autoImplicit false

namespace CloudAudit

/-- The request that works on a group for a run that asks at this moment: the holder of the group,
or its own. -/
def Moment.worker (ask : Moment) (kind : OperationKind) (group : String) : String :=
  ((ask.books.requests.table kind).holder? group).getD (ask.run.id kind)

/-- A claim on a group of which the work is still to be done or was done at some moment. -/
def Undertaken (past : List Moment) (runs : List Run) (kind : OperationKind) (id group : String) :
    Prop :=
  ∃ claim : Claim, claim.kind = kind ∧ claim.id = id ∧ group ∈ claim.granted ∧
    (Live runs claim ∨ ∃ work ∈ past, work.run.phase.due? kind = some claim)

theorem Undertaken.keep {past later : List Moment} {runs others : List Run}
    {kind : OperationKind} {id group : String} (undertaken : Undertaken past runs kind id group)
    (more : ∀ moment ∈ past, moment ∈ later)
    (live : ∀ claim : Claim, claim.kind = kind → Live runs claim →
      Live others claim ∨ ∃ work ∈ later, work.run.phase.due? kind = some claim) :
    Undertaken later others kind id group := by
  obtain ⟨claim, isKind, isId, granted, held | ⟨work, isPast, due⟩⟩ := undertaken
  · exact ⟨claim, isKind, isId, granted, live claim isKind held⟩
  · exact ⟨claim, isKind, isId, granted, .inr ⟨work, more work isPast, due⟩⟩

/-- Each group that a run asked for is worked on by a request that it depends on, or is its own. -/
structure Delegated (past : List Moment) (runs : List Run) (requests : Requests)
    (supply : Supply) : Prop where
  engaged : Engaged past runs requests supply
  reached : ∀ ask ∈ past, ∀ kind, ask.run.phase.asks? = some kind → ∀ group ∈ ask.run.groups,
    (requests.table kind).Reaches (ask.run.id kind) (ask.worker kind group)
  undertaken : ∀ ask ∈ past, ∀ kind, ask.run.phase.asks? = some kind →
    ∀ group ∈ ask.run.groups, Undertaken past runs kind (ask.worker kind group) group

namespace Engaged

variable {past : List Moment} {run : Run} {others : List Run} {books after : Books}
  {phase : Phase} (engaged : Engaged past (run :: others) books.requests books.supply)
  (deals : Pipeline.Deals run books after phase)
include engaged deals

theorem live_or_worked (claim : Claim) (live : Live (run :: others) claim) :
    Live ({ run with phase } :: others) claim ∨
      ∃ work ∈ past ++ [⟨run, books⟩], work.run.phase.due? claim.kind = some claim := by
  cases deals with
  | asks _ asked _ _ _ =>
    rw [live_of_free run (Phase.claim?_of_asks? asked)] at live
    exact .inl ((live_cons _).2 (.inr live))
  | works _ _ _ _ kept _ =>
    left
    simpa only [live_cons, kept] using live
  | releases kind found _ held worked _ _ =>
    rcases (live_of_held run held).1 live with rfl | live
    · obtain ⟨work, isPast, due⟩ := engaged.worked run List.mem_cons_self kind claim held worked
      have isOf := engaged.own run (met_of_run List.mem_cons_self) kind claim held
      rw [isOf.sort]
      exact .inr ⟨work, List.mem_append_left _ isPast, due⟩
    · exact .inl ((live_cons _).2 (.inr live))
  | idles _ free _ _ =>
    rw [live_of_free run free] at live
    exact .inl ((live_cons _).2 (.inr live))

/-- A run that asks for a group either gets it or leaves it to the run whose claim is in force. -/
theorem ask_undertaken {kind : OperationKind} (asks : run.phase.asks? = some kind)
    {group : String} (asked : group ∈ run.groups) :
    Undertaken (past ++ [⟨run, books⟩]) ({ run with phase } :: others) kind
      (Moment.worker ⟨run, books⟩ kind group) group := by
  cases found : (books.requests.table kind).holder? group with
  | none =>
    have own : Moment.worker ⟨run, books⟩ kind group = run.id kind := by
      rw [Moment.worker, found, Option.getD_none]
    have granted := (Accounts.mem_granted_iff kind (run.id kind) run.groups engaged.sound
      (engaged.fresh kind asks) group).2 ⟨asked, found⟩
    rw [own]
    cases deals with
    | asks other sameAsks taken _ _ =>
      obtain rfl : kind = other := Option.some.inj (asks.symm.trans sameAsks)
      refine ⟨_, rfl, rfl, granted, .inl ?_⟩
      exact (live_cons _).2 (.inl ⟨kind, (taken kind _).2 ⟨rfl, rfl⟩⟩)
    | works _ _ nothing | releases _ _ nothing | idles nothing =>
      rw [nothing] at asks
      cases asks
  | some owner =>
    obtain ⟨claim, live, rfl, rfl, granted⟩ := (engaged.accounts.holders kind group owner).1 found
    have worker : Moment.worker ⟨run, books⟩ claim.kind group = claim.id := by
      rw [Moment.worker, found, Option.getD_some]
    rw [worker]
    exact ⟨claim, rfl, rfl, granted, engaged.live_or_worked deals claim live⟩

theorem ask_reached {kind : OperationKind} (asks : run.phase.asks? = some kind)
    {group : String} (asked : group ∈ run.groups) :
    (after.requests.table kind).Reaches (run.id kind)
      (Moment.worker ⟨run, books⟩ kind group) := by
  cases found : (books.requests.table kind).holder? group with
  | none =>
    rw [Moment.worker, found, Option.getD_none]
    exact .refl
  | some owner =>
    have foreign : owner ≠ run.id kind := by
      rintro rfl
      exact engaged.fresh kind asks ((engaged.sound kind).holders group _ found)
    rw [Moment.worker, found, Option.getD_some]
    refine .single ?_
    cases deals with
    | asks other sameAsks _ _ changed =>
      obtain rfl : kind = other := Option.some.inj (asks.symm.trans sameAsks)
      have tableAfter : after.requests.table kind = _ :=
        (congrArg (·.table kind) changed).trans (Requests.add_table kind kind _ run.groups)
      rw [tableAfter, if_pos rfl, ClaimTable.mem_add_dependencies]
      exact .inr ⟨rfl, foreign, group, asked, found⟩
    | works _ _ nothing | releases _ _ nothing | idles nothing =>
      rw [nothing] at asks
      cases asks

end Engaged

namespace Delegated

variable {past : List Moment} {run : Run} {runs others : List Run} {requests later : Requests}
  {supply after : Supply}

theorem start (supply : Supply) : Delegated [] [] {} supply where
  engaged := .start supply
  reached := by simp
  undertaken := by simp

theorem keep (delegated : Delegated past runs requests supply)
    (engaged : Engaged past others later after) (extended : Requests.Extends requests later)
    (live : ∀ claim, Live runs claim → Live others claim) :
    Delegated past others later after where
  engaged := engaged
  reached ask isPast kind asks group asked := by
    have known := (delegated.engaged.registered kind _).2 ⟨ask, isPast, asks, rfl⟩
    exact ((extended kind).reaches_iff (delegated.engaged.sound kind) known _).2
      (delegated.reached ask isPast kind asks group asked)
  undertaken ask isPast kind asks group asked :=
    (delegated.undertaken ask isPast kind asks group asked).keep (fun _ member => member)
      fun claim _ held => .inl (live claim held)

theorem step {books after : Books} {phase : Phase}
    (delegated : Delegated past (run :: others) books.requests books.supply)
    (deals : Pipeline.Deals run books after phase) (advances : run.phase.Asks phase)
    (minted : books.supply.minted ≤ after.supply.minted) :
    Delegated (past ++ [⟨run, books⟩]) ({ run with phase } :: others) after.requests
      after.supply where
  engaged := delegated.engaged.step_engaged deals advances minted
  reached ask isAsk kind asks group asked := by
    rcases List.mem_append.1 isAsk with isPast | now
    · have known := (delegated.engaged.registered kind _).2 ⟨ask, isPast, asks, rfl⟩
      have extended := deals.extends_ delegated.engaged.fresh
      exact ((extended kind).reaches_iff (delegated.engaged.sound kind) known _).2
        (delegated.reached ask isPast kind asks group asked)
    · rw [List.mem_singleton] at now
      subst now
      exact delegated.engaged.ask_reached deals asks asked
  undertaken ask isAsk kind asks group asked := by
    rcases List.mem_append.1 isAsk with isPast | now
    · refine (delegated.undertaken ask isPast kind asks group asked).keep
        (fun _ member => List.mem_append_left _ member) ?_
      rintro claim rfl live
      exact delegated.engaged.live_or_worked deals claim live
    · rw [List.mem_singleton] at now
      subst now
      exact delegated.engaged.ask_undertaken deals asks asked

theorem carried {deployment : Deployment} (reachable : deployment.collector ≠ .unreachable) :
    Carried deployment Delegated where
  perm := by
    intro past runs others requests supply delegated same
    refine delegated.keep (delegated.engaged.perm same) (.refl _) fun claim live => ?_
    simpa only [Live, same.mem_iff] using live
  step := by
    intro past run others books delegated
    obtain ⟨phase, next, deals, advances⟩ := Pipeline.step_deals reachable run books
    rw [next]
    exact delegated.step deals advances (steady_minted.step deployment run books)
  leave := by
    intro past run others requests supply delegated finished
    refine delegated.keep (delegated.engaged.leave finished) (.refl _) fun claim live => ?_
    exact (live_of_free run (Run.claim?_of_isFinished finished)).1 live
  status := by
    intro past runs requests supply delegated kind id
    exact delegated.keep (delegated.engaged.status kind id)
      (.status kind id delegated.engaged.sound) fun _ live => live
  minted delegated more :=
    delegated.keep (delegated.engaged.minted more) (.refl _) fun _ live => live
  starts delegated enough groups :=
    delegated.keep (delegated.engaged.starts enough groups) (.refl _)
      fun _ live => (live_cons _).2 (.inr live)

end Delegated

/-- A phase that works on a group for a run which asked for it: as the run itself, or as the one
that held the group then. -/
structure WorksFor (moments : List Moment) (kind : OperationKind) (run : Run) (group : String)
    (work : Moment) (claim : Claim) : Prop where
  moment : work ∈ moments
  due : work.run.phase.due? kind = some claim
  granted : group ∈ claim.granted
  asked : ∃ ask ∈ moments, ask.run.Same run ∧ ask.run.phase.asks? = some kind ∧
    work.run.id kind = ask.worker kind group

/-- For a request that reads done, each of its groups was worked on. -/
theorem Delegated.work_of_done {past : List Moment} {runs : List Run} {requests : Requests}
    {supply : Supply} (delegated : Delegated past runs requests supply) {run : Run}
    (known : run ∈ met past runs) (kind : OperationKind)
    (done : (requests.status kind (run.id kind)).1 = .done) {group : String}
    (asked : group ∈ run.groups) : ∃ work claim, WorksFor past kind run group work claim := by
  have engaged := delegated.engaged
  have isMet : ∀ moment ∈ past, moment.run ∈ met past runs :=
    fun moment isPast => met_of_moment isPast
  obtain ⟨registered, ended⟩ := (ClaimTable.status_eq_done_iff (engaged.sound kind) _).1 done
  obtain ⟨ask, isAsk, asks, sameId⟩ := (engaged.registered kind _).1 registered
  have same := engaged.roster.alike ask.run (isMet ask isAsk) run known kind sameId
  have askedToo : group ∈ ask.run.groups := same.groups ▸ asked
  have reached := delegated.reached ask isAsk kind asks group askedToo
  obtain ⟨claim, rfl, isWorker, granted, live | ⟨work, isWork, due⟩⟩ :=
    delegated.undertaken ask isAsk kind asks group askedToo
  · -- A claim in force on a group runs, and nothing that a finished request depends on runs.
    have runs := engaged.accounts.running claim live (List.ne_nil_of_mem granted)
    rw [sameId, ← isWorker] at reached
    exact absurd runs (ended claim.id reached)
  · have own := engaged.own work.run (isMet work isWork) claim.kind claim
      (Phase.claim?_of_due? due)
    exact ⟨work, claim, isWork, due, granted, ask, isAsk, same, asks,
      own.owner.symm.trans isWorker⟩

/-! ## Group records -/

def Phase.skeletons? : Phase → Option (List Resource)
  | .claimingCollect skeletons | .snapshotting skeletons _ | .releasingCollect skeletons _
  | .gathering skeletons | .claimingScan skeletons _ | .checking skeletons _ _ => some skeletons
  | _ => none

def Run.Knows (inventory : Inventory) (run : Run) : Prop :=
  ∀ skeletons, run.phase.skeletons? = some skeletons →
    skeletons = Collector.knownTo inventory run.collectId

theorem Pipeline.step_knows {deployment : Deployment}
    (reachable : deployment.collector ≠ .unreachable) {run : Run}
    (knows : run.Knows deployment.inventory) (books : Books) :
    ((step deployment run).run books).1.Knows deployment.inventory := by
  obtain ⟨collectId, scanId, groups, phase⟩ := run
  intro skeletons found
  cases phase with
  | starting =>
    have known := Collector.preCollect_reachable reachable collectId books
    simp only [step, StateT.run_bind, known] at found ⊢
    exact (Option.some.inj found).symm
  | claimingCollect known => exact knows skeletons found
  | snapshotting known claim =>
    obtain ⟨after, ran, -⟩ := step_snapshots deployment books collectId scanId groups known claim
    rw [ran] at found ⊢
    exact knows skeletons found
  | releasingCollect known claim => exact knows skeletons found
  | gathering known =>
    obtain ⟨collected, ran⟩ := step_gathering deployment books collectId scanId groups known
    rw [ran] at found ⊢
    exact knows skeletons found
  | claimingScan known collected => exact knows skeletons found
  | checking known collected claim =>
    obtain ⟨scanned, after, ran, -⟩ :=
      step_checks deployment books collectId scanId groups known collected claim
    rw [ran] at found
    cases found
  | releasingScan collected scanned claim =>
    rw [step_releasingScan] at found
    split at found <;> cases found
  | flushing | dispatching | finished => cases found

theorem knows_carried {deployment : Deployment}
    (reachable : deployment.collector ≠ .unreachable) :
    Carried deployment fun past runs _ _ =>
      ∀ run ∈ met past runs, run.Knows deployment.inventory where
  perm knows same run isMet := knows run ((mem_met_perm same).1 isMet)
  step := by
    intro past run others books knows one isMet
    have runKnows := knows run (met_of_run List.mem_cons_self)
    rcases mem_met_cons.1 isMet with rfl | isMet
    · exact Pipeline.step_knows reachable runKnows books
    · rcases mem_met_snoc.1 isMet with rfl | isOld
      · exact runKnows
      · exact knows one (mem_met_cons.2 (.inr isOld))
  leave knows _ one isMet := knows one (mem_met_cons.2 (.inr isMet))
  status knows _ _ := knows
  minted knows _ := knows
  starts := by
    intro past runs books knows _ groups one isMet
    rcases mem_met_cons.1 isMet with rfl | isOld
    · intro skeletons found
      cases found
    · exact knows one isOld

theorem knows_met {deployment : Deployment} {supply : Supply} {events : List Event}
    (reachable : deployment.collector ≠ .unreachable)
    (lasting : ((Books.fresh supply).after deployment events).supply.minted ≤ 2 ^ 128) :
    ∀ run ∈ met ((Books.fresh supply).moments deployment events)
        ((Books.fresh supply).after deployment events).underWay,
      run.Knows deployment.inventory := by
  have nobody : ∀ run ∈ met [] [], run.Knows deployment.inventory := by simp [met]
  exact (knows_carried reachable).after nobody lasting

/-! ## What work leaves behind -/

theorem Phase.eq_snapshotting {phase : Phase} {claim : Claim}
    (due : phase.due? .collect = some claim) :
    ∃ skeletons, phase = .snapshotting skeletons claim := by
  cases phase <;> cases due
  exact ⟨_, rfl⟩

theorem Run.Knows.eq_snapshotting {inventory : Inventory} {run : Run} (knows : run.Knows inventory)
    {claim : Claim} (due : run.phase.due? .collect = some claim) :
    run.phase = .snapshotting (Collector.knownTo inventory run.collectId) claim := by
  obtain ⟨skeletons, snapshots⟩ := Phase.eq_snapshotting due
  have known : run.phase.skeletons? = some skeletons := by
    rw [snapshots]
    rfl
  rw [snapshots, knows skeletons known]

theorem Phase.eq_checking {phase : Phase} {claim : Claim}
    (due : phase.due? .scan = some claim) :
    ∃ skeletons collected, phase = .checking skeletons collected claim := by
  cases phase <;> cases due
  exact ⟨_, _, rfl⟩

theorem Collector.sublist_snapshots (inventory : Inventory) (collectId : String) (now : Instant)
    {groups : List String} {group : String} (covered : group ∈ groups) :
    ((unmixedMembers inventory group).map (retagged collectId now)).Sublist
      ((snapshots inventory collectId now groups).filter
        fun snapshot => snapshot.resourceGroupName == group) := by
  have faithful : (unmixedMembers inventory group).map (retagged collectId now) =
      (unmixedMembers inventory group).map
        (snapshotOf (byName (knownTo inventory collectId)) collectId now) := by
    apply List.map_congr_left
    intro resource member
    have unmixed := of_decide_eq_true (List.mem_filter.1 member).2
    exact ((snapshotOf_eq_retagged_iff _ _ _ _).2 unmixed).symm
  have own : ((unmixedMembers inventory group).map (retagged collectId now)).filter
      (fun snapshot => snapshot.resourceGroupName == group) =
        (unmixedMembers inventory group).map (retagged collectId now) := by
    rw [List.filter_eq_self]
    intro snapshot member
    obtain ⟨resource, isUnmixed, rfl⟩ := List.mem_map.1 member
    exact beq_iff_eq.2 (mem_members.1 (List.mem_filter.1 isUnmixed).1).2
  obtain ⟨before, after, rfl⟩ := List.append_of_mem covered
  rw [← own]
  refine List.Sublist.filter _ ?_
  rw [faithful, snapshots, List.flatMap_append, List.flatMap_cons]
  exact (List.filter_sublist.map _).trans
    ((List.sublist_append_left _ _).trans (List.sublist_append_right _ _))

/-- Where the snapshots of groups come to the store, the collection finds each resource of a group
again that was not taken for a group record. -/
theorem Collector.sublist_taggedIn {inventory : Inventory} {store after : Store}
    {collectId : String} {now : Instant} {groups : List String} {group : String}
    (stored : after.resourcesOf group = store.resourcesOf group ++
      (snapshots inventory collectId now groups).filter
        fun snapshot => snapshot.resourceGroupName == group)
    (covered : group ∈ groups) :
    ((unmixedMembers inventory group).map (retagged collectId now)).Sublist
      (after.taggedIn collectId group) := by
  have tagged : ((unmixedMembers inventory group).map (retagged collectId now)).filter
      (fun resource => resource.collectionUid == some collectId) =
        (unmixedMembers inventory group).map (retagged collectId now) := by
    rw [List.filter_eq_self]
    intro snapshot member
    obtain ⟨resource, -, rfl⟩ := List.mem_map.1 member
    exact beq_self_eq_true _
  rw [Store.taggedIn, stored, ← tagged]
  refine List.Sublist.filter _ ?_
  exact (sublist_snapshots inventory collectId now covered).trans (List.sublist_append_right _ _)

def Store.Holds (store : Store) (found : List Observation) : Prop :=
  ∀ group, (found.filter (isFiled group)).Sublist (store.stored group)

namespace Moment

variable {deployment : Deployment} {moment : Moment} {claim : Claim} {group : String}

theorem left_snapshotting {skeletons : List Resource}
    (snapshots : moment.run.phase = .snapshotting skeletons claim)
    (granted : group ∈ claim.granted) :
    moment.left deployment =
      ((Collector.collect deployment moment.run.collectId claim.granted skeletons).run.run
        moment.books).2 := by
  obtain ⟨⟨collectId, scanId, groups, phase⟩, books⟩ := moment
  obtain rfl : phase = .snapshotting skeletons claim := snapshots
  obtain ⟨kind, id, requested, covered⟩ := claim
  cases covered with
  | nil => cases granted
  | cons first more => rfl

theorem left_collects (reachable : deployment.collector ≠ .unreachable)
    (collects : deployment.collector ≠ .failingSnapshot) (reliable : moment.books.Reliable)
    (knows : moment.run.Knows deployment.inventory)
    (due : moment.run.phase.due? .collect = some claim)
    (populated : ∀ group ∈ claim.granted, Collector.members deployment.inventory group ≠ [])
    (granted : group ∈ claim.granted) :
    ∃ now, ((Collector.unmixedMembers deployment.inventory group).map
        (Collector.retagged moment.run.collectId now)).Sublist
      ((moment.left deployment).store.taggedIn moment.run.collectId group) := by
  obtain ⟨now, stored⟩ := Collector.collect_resources reliable moment.run.collectId populated
    reachable collects
  refine ⟨now, ?_⟩
  rw [left_snapshotting (knows.eq_snapshotting due) granted]
  exact Collector.sublist_taggedIn (stored group) granted

theorem left_scans (reliable : moment.books.Reliable) (filed : moment.books.store.Filed)
    (distinct : claim.granted.Nodup) (granted : group ∈ claim.granted)
    {skeletons : List Resource} {collected : List Observation}
    (checks : moment.run.phase = .checking skeletons collected claim) :
    (∃ entry ∈ (moment.left deployment).store.journal,
      entry.completes group = true ∧ entry.id = moment.run.scanId) ∧
    (moment.left deployment).store.Holds
      ((Scan.checkRules deployment moment.run.scanId moment.run.collectId claim.granted
        skeletons).run moment.books).1.1 ∧
    ∃ start stop found, Made start stop
        (Scan.findings deployment moment.books.store moment.run.scanId moment.run.collectId
          claim.granted skeletons) found ∧
      (moment.left deployment).store.Holds found := by
  obtain ⟨⟨collectId, scanId, groups, phase⟩, books⟩ := moment
  obtain rfl : phase = .checking skeletons collected claim := checks
  have left : Moment.left deployment ⟨⟨collectId, scanId, groups,
        .checking skeletons collected claim⟩, books⟩ =
      ((Scan.checkRules deployment scanId collectId claim.granted skeletons).run books).2 := by
    obtain ⟨kind, id, requested, covered⟩ := claim
    cases covered with
    | nil => cases granted
    | cons first more => rfl
  obtain ⟨done, scanned⟩ :=
    Pipeline.checkRules_scanned collectId scanId filed reliable distinct skeletons
  rw [left]
  refine ⟨?_, ?_, ?_⟩
  · obtain ⟨entries, logged, own, complete⟩ := scanned.journal
    obtain ⟨entry, isEntry, completes, -⟩ := complete group granted
    rw [logged]
    exact ⟨entry, List.mem_append_right _ isEntry, completes, (own entry isEntry).1⟩
  · obtain ⟨added, stored, answered, -⟩ :=
      Scan.checkRules_keeps deployment scanId collectId claim.granted skeletons books
    intro other
    rw [stored]
    exact (answered.filter _).trans (List.sublist_append_right _ _)
  · obtain ⟨added, stored, made⟩ := scanned.observations
    refine ⟨_, _, added, made, fun other => ?_⟩
    rw [stored]
    exact List.sublist_append_right _ _

end Moment

theorem Store.Holds.grows {old new : Books} {found : List Observation}
    (holds : old.store.Holds found) (grows : Grows old new) : new.store.Holds found := by
  intro group
  obtain ⟨added, same, -⟩ := grows.observations group
  rw [same]
  exact (holds group).trans (List.sublist_append_left _ _)

/-- What a phase stored in some collection stays there. -/
theorem Moment.taggedIn_kept {deployment : Deployment} {books : Books} {events : List Event}
    {moment : Moment} (isPast : moment ∈ books.moments deployment events)
    (collectId group : String) :
    ((moment.left deployment).store.taggedIn collectId group).Sublist
      ((books.after deployment events).store.taggedIn collectId group) := by
  have kept := (steady_resources.keeps (fun _ _ _ _ => List.prefix_rfl) deployment books
    events).last isPast
  exact (kept group).sublist.filter _

theorem Moment.reliable_of_calm {deployment : Deployment} {supply : Supply} {events : List Event}
    (calm : ∀ event ∈ events, event.isCalm = true) {moment : Moment}
    (isPast : moment ∈ (Books.fresh supply).moments deployment events) :
    moment.books.Reliable := by
  have fresh : (Books.fresh supply).Reliable := fun _ _ => rfl
  exact fresh.of_fails (steady_sameFails.moments_calm calm _ moment isPast)

theorem Books.accepted_met {deployment : Deployment} {books : Books} {events : List Event}
    {run : Run} (accepted : run ∈ books.accepted deployment events) :
    run ∈ met (books.moments deployment events) (books.after deployment events).underWay := by
  rcases (accepted_begun deployment events books run accepted).2 with
    waits | ⟨moment, isPast, rfl⟩
  · exact met_of_run waits
  · exact met_of_moment isPast

/-! ## Done -/

/-- Where nothing fails and every group has resources, a run that reads done has what it asked for.
Each of its groups was collected, by itself or by the run that held the group when it asked, and the
store has from that collection each resource of the group of which no group record of the same name
says anything else. Each of its groups was scanned in the same way, and the store has what was found
there, as far as it names a group. -/
theorem done_means_stored (deployment : Deployment) (supply : Supply) (events : List Event)
    (calm : ∀ event ∈ events, event.isCalm = true)
    (reachable : deployment.collector ≠ .unreachable)
    (collects : deployment.collector ≠ .failingSnapshot)
    (populated : ∀ moment ∈ (Books.fresh supply).moments deployment events,
      ∀ group ∈ moment.run.groups, Collector.members deployment.inventory group ≠ [])
    (lasting : ((Books.fresh supply).after deployment events).supply.minted ≤ 2 ^ 128)
    (run : Run) (accepted : run ∈ (Books.fresh supply).accepted deployment events)
    (group : String) (asked : group ∈ run.groups) :
    let past := (Books.fresh supply).moments deployment events
    let books := (Books.fresh supply).after deployment events
    let status := ((Pipeline.status run.collectId run.scanId).run books).1
    (status.collectStatus = .done →
      ∃ work claim now, WorksFor past .collect run group work claim ∧
        ((Collector.unmixedMembers deployment.inventory group).map
          (Collector.retagged work.run.collectId now)).Sublist
            (books.store.taggedIn work.run.collectId group)) ∧
    (status.scanStatus = .done →
      ∃ work claim skeletons collected, WorksFor past .scan run group work claim ∧
        work.run.phase = .checking skeletons collected claim ∧
        (∃ entry ∈ books.store.journal,
          entry.completes group = true ∧ entry.id = work.run.scanId) ∧
        books.store.Holds
          ((Scan.checkRules deployment work.run.scanId work.run.collectId claim.granted
            skeletons).run work.books).1.1 ∧
        ∃ start stop found, Made start stop
            (Scan.findings deployment work.books.store work.run.scanId work.run.collectId
              claim.granted skeletons) found ∧
          books.store.Holds found) := by
  intro past books status
  have delegated := (Delegated.carried reachable).after (Delegated.start supply) lasting
  have known : run ∈ met past books.underWay := Books.accepted_met accepted
  have isMet : ∀ moment ∈ past, moment.run ∈ met past books.underWay :=
    fun moment isPast => met_of_moment isPast
  refine ⟨?_, ?_⟩
  · intro done
    obtain ⟨work, claim, works⟩ := delegated.work_of_done known .collect done asked
    have own := delegated.engaged.own work.run (isMet work works.moment) .collect claim
      (Phase.claim?_of_due? works.due)
    have knows := knows_met reachable lasting work.run (isMet work works.moment)
    obtain ⟨now, stored⟩ := Moment.left_collects reachable collects
      (Moment.reliable_of_calm calm works.moment) knows works.due
      (fun covered member => populated work works.moment covered (own.granted covered member))
      works.granted
    exact ⟨work, claim, now, works, stored.trans (Moment.taggedIn_kept works.moment _ group)⟩
  · intro done
    obtain ⟨work, claim, works⟩ := delegated.work_of_done known .scan done asked
    have own := delegated.engaged.own work.run (isMet work works.moment) .scan claim
      (Phase.claim?_of_due? works.due)
    have filed : work.books.store.Filed :=
      steady_filed.moments_calm calm _ work works.moment Store.filed_empty
    obtain ⟨skeletons, collected, checks⟩ := Phase.eq_checking works.due
    obtain ⟨⟨entry, logged, completes⟩, answered, start, stop, found, made, stored⟩ :=
      Moment.left_scans (Moment.reliable_of_calm calm works.moment) filed own.distinct
        works.granted checks
    have grows := (Grows.steady.keeps (fun _ _ _ => Grows.same_clock rfl rfl rfl rfl) deployment
      (Books.fresh supply) events).last works.moment
    refine ⟨work, claim, skeletons, collected, works, checks, ⟨entry, ?_, completes⟩,
      answered.grows grows, start, stop, found, made, stored.grows grows⟩
    obtain ⟨added, same, -⟩ := grows.journal
    rw [same]
    exact List.mem_append_left _ logged

namespace Overlap

def calmEvents : List Event :=
  [.call none (.collectAndScan ["g1"]), .turn 0, .turn 0,
    .call none (.collectAndScan ["g2", "g1"]), .turn 1, .turn 1, .permit 2, .settle]

def second : Run :=
  ⟨Supply.idText 2, Supply.idText 3, ["g2", "g1"], .starting⟩

theorem second_run_served :
    (∃ work claim now,
      WorksFor ((Books.fresh supply).moments deployment calmEvents) .collect second "g1" work
          claim ∧
        ((Collector.members deployment.inventory "g1").map
          (Collector.retagged work.run.collectId now)).Sublist
            (((Books.fresh supply).after deployment calmEvents).store.taggedIn
              work.run.collectId "g1")) ∧
    ∃ work claim, WorksFor ((Books.fresh supply).moments deployment calmEvents) .scan second "g1"
      work claim := by
  have served := done_means_stored deployment supply calmEvents (by decide +kernel) (by decide)
    (by decide) (by decide +kernel) (by decide +kernel) second (by decide +kernel) "g1"
    (by decide)
  have done : ((Pipeline.status second.collectId second.scanId).run
      ((Books.fresh supply).after deployment calmEvents)).1 = ⟨.done, .done⟩ :=
    Books.accepted_done (by decide +kernel) (by decide) (by decide +kernel) (by decide +kernel)
  have unmixed : ∀ resource ∈ Collector.members deployment.inventory "g1",
      Collector.Unmixed deployment.inventory resource := by decide +kernel
  obtain ⟨work, claim, -, -, works, -⟩ := served.2 (congrArg RunStatus.scanStatus done)
  have collected := served.1 (congrArg RunStatus.collectStatus done)
  rw [Collector.unmixedMembers_eq unmixed] at collected
  exact ⟨collected, work, claim, works⟩

end Overlap

/-- A scan that is done found something on a group without a name, and the store lacks it. -/
theorem nameless_finding_not_stored :
    ¬ ∀ (deployment : Deployment) (supply : Supply) (events : List Event) (run : Run)
        (group : String),
      (∀ event ∈ events, event.isCalm = true) →
      deployment.collector ≠ .unreachable → deployment.collector ≠ .failingSnapshot →
      (∀ moment ∈ (Books.fresh supply).moments deployment events,
        ∀ group ∈ moment.run.groups, Collector.members deployment.inventory group ≠ []) →
      ((Books.fresh supply).after deployment events).supply.minted ≤ 2 ^ 128 →
      run ∈ (Books.fresh supply).accepted deployment events → group ∈ run.groups →
      ((Pipeline.status run.collectId run.scanId).run
        ((Books.fresh supply).after deployment events)).1.scanStatus = .done →
      ∃ work claim skeletons collected,
        WorksFor ((Books.fresh supply).moments deployment events) .scan run group work claim ∧
        work.run.phase = .checking skeletons collected claim ∧
        ∀ observation ∈ ((Scan.checkRules deployment work.run.scanId work.run.collectId
              claim.granted skeletons).run work.books).1.1,
          observation ∈ ((Books.fresh supply).after deployment events).store.stored
            observation.groupName := by
  intro served
  let events : List Event := [.call none (.collectAndScan [""]), .settle]
  let run : Run := ⟨Supply.idText 0, Supply.idText 1, [""], .starting⟩
  have accepted : run ∈ (Books.fresh Nameless.supply).accepted Nameless.deployment events := by
    decide +kernel
  have done := Books.accepted_done (by decide +kernel) (by decide) (by decide +kernel) accepted
  obtain ⟨work, claim, skeletons, collected, works, checks, stored⟩ :=
    served Nameless.deployment Nameless.supply events run "" (by decide) (by decide) (by decide)
      (by decide +kernel) (by decide +kernel) accepted (by decide)
      (congrArg RunStatus.scanStatus done)
  have lost : ∀ moment ∈ (Books.fresh Nameless.supply).moments Nameless.deployment events,
      (match moment.run.phase with
        | .checking skeletons _ claim =>
          ((Scan.checkRules Nameless.deployment moment.run.scanId moment.run.collectId
              claim.granted skeletons).run moment.books).1.1.any fun observation =>
            !(((Books.fresh Nameless.supply).after Nameless.deployment events).store.stored
              observation.groupName).contains observation
        | _ => true) = true := by decide +kernel
  have found := lost work works.moment
  rw [checks] at found
  obtain ⟨observation, answered, missing⟩ := List.any_eq_true.1 found
  simp [stored observation answered] at missing

end CloudAudit
