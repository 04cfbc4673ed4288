import CloudAudit.Proofs.Runs.Entries
import CloudAudit.Proofs.Scan.Evaluation
/-!
# Collections are stored whole

Where every name stands for one resource, a collection stores a group as the inventory has it or
not at all. So whatever happens, each resource in the store is one of the inventory, and beside it
stand all others of its group from the same collection.
-/
set_option autoImplicit false

namespace CloudAudit

namespace Collector

def block (inventory : Inventory) (group collectId : String) (now : Instant) : List Resource :=
  (members inventory group).map (retagged collectId now)

theorem collectionUid_of_mem_block {inventory : Inventory} {group collectId : String}
    {now : Instant} {resource : Resource}
    (member : resource ∈ block inventory group collectId now) :
    resource.collectionUid = some collectId := by
  obtain ⟨original, -, rfl⟩ := List.mem_map.1 member
  rfl

theorem resourceGroupName_of_mem_block {inventory : Inventory} {group collectId : String}
    {now : Instant} {resource : Resource}
    (member : resource ∈ block inventory group collectId now) :
    resource.resourceGroupName = group := by
  obtain ⟨original, isMember, rfl⟩ := List.mem_map.1 member
  exact (mem_members.1 isMember).2

/-- A collection adds the snapshots of all its groups to the store, or nothing. -/
theorem collect_all_or_nothing (deployment : Deployment) (collectId : String)
    (groups : List String) (books : Books) :
    ∃ now added, (added = [] ∨ added = snapshots deployment.inventory collectId now groups) ∧
      ∀ group,
        ((collect deployment collectId groups
          (knownTo deployment.inventory collectId)).run.run books).2.store.resourcesOf group =
        books.store.resourcesOf group ++
          added.filter fun snapshot => snapshot.resourceGroupName == group := by
  obtain ⟨now, added, made, stored, -⟩ := collect_adds deployment collectId groups
    (knownTo deployment.inventory collectId) books
  exact ⟨now, added, made.imp_right fun made => (batch_eq_ok_iff.1 made).2, stored⟩

end Collector

/-! ## Whole collections in a store -/

/-- Each resource of a group is from a collection that stored the whole group. -/
def Store.Whole (store : Store) (inventory : Inventory) : Prop :=
  ∀ group, ∀ resource ∈ store.resourcesOf group, ∃ collectId now,
    resource ∈ Collector.block inventory group collectId now ∧
      Collector.block inventory group collectId now ⊆ store.resourcesOf group

namespace Store.Whole

variable {store after : Store} {inventory : Inventory}

theorem empty (inventory : Inventory) : ({} : Store).Whole inventory := by
  intro group resource member
  cases member

theorem filed (whole : store.Whole inventory) : store.Filed := by
  intro group resource member
  obtain ⟨collectId, now, inBlock, -⟩ := whole group resource member
  exact Collector.resourceGroupName_of_mem_block inBlock

theorem of_same (whole : store.Whole inventory) (same : after.resources = store.resources) :
    after.Whole inventory := by
  have records : after.resourcesOf = store.resourcesOf := by
    funext group
    rw [Store.resourcesOf, same, Store.resourcesOf]
  rw [Whole, records]
  exact whole

/-- The snapshots of groups are the whole groups, and each lies under its own. -/
theorem append_snapshots (whole : store.Whole inventory) (tidy : inventory.Tidy)
    {collectId : String} {now : Instant} {groups : List String}
    (stored : ∀ group, after.resourcesOf group = store.resourcesOf group ++
      (Collector.snapshots inventory collectId now groups).filter
        fun snapshot => snapshot.resourceGroupName == group) :
    after.Whole inventory := by
  intro group resource member
  rw [stored] at member ⊢
  rcases List.mem_append.1 member with isOld | isNew
  · obtain ⟨collectId, now, inBlock, all⟩ := whole group resource isOld
    exact ⟨collectId, now, inBlock, List.Subset.trans all (List.subset_append_left _ _)⟩
  · obtain ⟨isSnapshot, lies⟩ := List.mem_filter.1 isNew
    obtain ⟨other, covered, inOther⟩ := List.mem_flatMap.1 isSnapshot
    obtain ⟨original, isMember, rfl⟩ := List.mem_map.1 inOther
    have unmixed := tidy.unmixed (Collector.mem_members.1 isMember).1
    rw [(Collector.snapshotOf_eq_retagged_iff _ _ _ _).2 unmixed] at lies ⊢
    obtain rfl : other = group :=
      (Collector.mem_members.1 isMember).2.symm.trans (beq_iff_eq.1 lies)
    refine ⟨collectId, now, List.mem_map_of_mem isMember, ?_⟩
    have allUnmixed : ∀ resource ∈ Collector.members inventory other,
        Collector.Unmixed inventory resource :=
      fun resource isOne => tidy.unmixed (Collector.mem_members.1 isOne).1
    have found := Collector.sublist_snapshots inventory collectId now covered
    rw [Collector.unmixedMembers_eq allUnmixed] at found
    exact List.Subset.trans found.subset (List.subset_append_right _ _)

theorem collect {deployment : Deployment} {books : Books}
    (whole : books.store.Whole deployment.inventory) (tidy : deployment.inventory.Tidy)
    (collectId : String) (groups : List String) :
    ((Collector.collect deployment collectId groups
      (Collector.knownTo deployment.inventory collectId)).run.run books).2.store.Whole
        deployment.inventory := by
  obtain ⟨now, added, rfl | rfl, stored⟩ :=
    Collector.collect_all_or_nothing deployment collectId groups books
  · intro group resource member
    rw [stored, List.filter_nil, List.append_nil] at member ⊢
    exact whole group resource member
  · exact whole.append_snapshots tidy stored

end Store.Whole

/-! ## At every moment -/

namespace Pipeline

/-- A phase that does not collect leaves the resources in the store as they are. -/
theorem step_sameResources (deployment : Deployment) {run : Run}
    (idle : run.phase.due? .collect = none) :
    Along (fun old new => new.store.resources = old.store.resources) (step deployment run) := by
  have scanning := Scan.scanning_sameResources
  obtain ⟨collectId, scanId, groups, phase⟩ := run
  cases phase with
  | starting =>
    refine scanning.bind (scanning.act_bind (scanning.groupRecords _ _) fun _ =>
      scanning.act_pure _) fun known => ?_
    split
    · exact scanning.pure _
    · exact fun _ => rfl
  | claimingCollect | releasingCollect | claimingScan | finished => exact fun _ => rfl
  | snapshotting skeletons claim => cases idle
  | gathering skeletons =>
    exact scanning.bind (scanning.orNone (scanning.listObservations _)) fun _ => scanning.pure _
  | checking skeletons collected claim =>
    simp only [step]
    split
    · exact scanning.bind (scanning.pure _) fun _ => scanning.pure _
    · exact scanning.bind (scanning.checkRules _ _ _ _ _) fun _ => scanning.pure _
  | releasingScan collected scanned claim =>
    intro books
    rw [step_releasingScan]
  | flushing collected scanned =>
    exact scanning.bind (scanning.act_bind (scanning.attempt _) fun _ _ => rfl) fun _ =>
      scanning.pure _
  | dispatching collected scanned =>
    exact scanning.bind (scanning.announce _ _) fun _ =>
      scanning.bind (scanning.announce _ _) fun _ => scanning.pure _

end Pipeline

theorem Web.Call.perform_sameResources (call : Web.Call) (deployment : Deployment)
    (caller : Option String) (books : Books) :
    ((call.perform deployment caller).run.run books).2.store.resources =
      books.store.resources := by
  cases asks : call.asksForRun with
  | false =>
    exact Scan.scanning_sameResources.toQuiet.perform
      Scan.scanning_sameResources.createObservation (fun _ _ _ => rfl) deployment caller asks books
  | true =>
    rcases call.perform_run deployment caller asks books with same | refused | ⟨groups, started⟩
    · rw [same]
    · rw [refused]
      rfl
    · rw [started]
      rfl

theorem Store.Whole.step {deployment : Deployment} {run : Run} {books : Books}
    (whole : books.store.Whole deployment.inventory) (tidy : deployment.inventory.Tidy)
    (knows : run.Knows deployment.inventory) :
    ((Pipeline.step deployment run).run books).2.store.Whole deployment.inventory := by
  cases due : run.phase.due? .collect with
  | none => exact whole.of_same (Pipeline.step_sameResources deployment due books)
  | some claim =>
    have snapshots := knows.eq_snapshotting due
    cases granted : claim.granted with
    | nil =>
      simp only [Pipeline.step, snapshots, granted]
      exact whole
    | cons first more =>
      have isGranted : first ∈ claim.granted := granted ▸ List.mem_cons_self
      have left : ((Pipeline.step deployment run).run books).2 = _ :=
        @Moment.left_snapshotting deployment ⟨run, books⟩ claim first _ snapshots isGranted
      rw [left]
      exact whole.collect tidy run.collectId claim.granted

/-- At every moment the store holds whole collections, and every run knows the group records of the
inventory. -/
structure KeptWhole (inventory : Inventory) (past : List Moment) (runs : List Run)
    (store : Store) : Prop where
  whole : store.Whole inventory
  knows : ∀ run ∈ runs, run.Knows inventory
  earlier : ∀ moment ∈ past, moment.books.store.Whole inventory ∧ moment.run.Knows inventory

namespace KeptWhole

variable {deployment : Deployment}

theorem lasting (tidy : deployment.inventory.Tidy)
    (reachable : deployment.collector ≠ .unreachable) :
    Lasting deployment fun past runs books =>
      KeptWhole deployment.inventory past runs books.store where
  step := by
    intro past before after run books kept _
    have knows := kept.knows run (by simp)
    refine ⟨kept.whole.step tidy knows, ?_, ?_⟩
    · intro other isRun
      rcases List.mem_append.1 isRun with isBefore | isRest
      · exact kept.knows other (List.mem_append_left _ isBefore)
      · rcases List.mem_cons.1 isRest with rfl | isAfter
        · exact Pipeline.step_knows reachable knows books
        · exact kept.knows other (List.mem_append_right _ (List.mem_cons_of_mem _ isAfter))
    · intro moment isPast
      rcases List.mem_append.1 isPast with isEarlier | isNow
      · exact kept.earlier moment isEarlier
      · rw [List.mem_singleton] at isNow
        subst isNow
        exact ⟨kept.whole, knows⟩
  leave kept _ :=
    { kept with knows := fun other isRun => kept.knows other (by
        rcases List.mem_append.1 isRun with isBefore | isAfter
        · exact List.mem_append_left _ isBefore
        · exact List.mem_append_right _ (List.mem_cons_of_mem _ isAfter)) }
  underWay kept _ := kept
  permits kept _ := kept
  disturb kept _ _ := kept
  call := by
    intro past books caller request kept
    refine { kept with
      whole := kept.whole.of_same (request.perform_sameResources deployment caller books)
      knows := ?_ }
    cases asks : request.asksForRun with
    | false =>
      rw [running_sameUnderWay.perform deployment caller asks books]
      exact kept.knows
    | true =>
      rcases request.perform_run deployment caller asks books with
        same | refused | ⟨groups, started⟩
      · rw [same]
        exact kept.knows
      · rw [refused]
        have unchanged : (books.withRuns []).underWay = books.underWay := List.append_nil _
        rw [unchanged]
        exact kept.knows
      · rw [started]
        intro run isRun
        rcases List.mem_append.1 isRun with isOld | isNew
        · exact kept.knows run isOld
        · rw [List.mem_singleton] at isNew
          subst isNew
          exact nofun

theorem after (tidy : deployment.inventory.Tidy)
    (reachable : deployment.collector ≠ .unreachable) (supply : Supply) (events : List Event) :
    KeptWhole deployment.inventory ((Books.fresh supply).moments deployment events)
      ((Books.fresh supply).after deployment events).underWay
      ((Books.fresh supply).after deployment events).store := by
  have start : KeptWhole deployment.inventory [] (Books.fresh supply).underWay
      (Books.fresh supply).store :=
    { whole := .empty _, knows := nofun, earlier := nofun }
  exact (lasting tidy reachable).after events start

end KeptWhole

end CloudAudit
