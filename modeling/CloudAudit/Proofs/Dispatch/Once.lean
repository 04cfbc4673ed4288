import Mathlib.Data.List.Flatten
import CloudAudit.Proofs.Runs.Starting
import CloudAudit.Proofs.Scan.Findings
import CloudAudit.Proofs.World.Identifiers
import CloudAudit.Proofs.World.Moments
/-!
# Each observation goes out once

A run hands out what it gathers from the store after collecting and what its own scan answers. As
long as no run names a group twice, and none gathers what a scan has found, no stored observation
is handed out more often than it is stored.
-/
set_option autoImplicit false

namespace CloudAudit

namespace Phase

/-- The observations that a run holds to hand them out at its end. -/
def carried : Phase → List Observation
  | .claimingScan _ collected => collected
  | .checking _ collected _ => collected
  | .releasingScan collected scanned _ => collected ++ scanned
  | .flushing collected scanned => collected ++ scanned
  | .dispatching collected scanned => collected ++ scanned
  | _ => []

/-- The observations that a phase hands out. -/
def handed : Phase → List Observation
  | .dispatching collected scanned => collected ++ scanned
  | _ => []

def isGathering : Phase → Bool
  | .gathering _ => true
  | _ => false

def awaitsGathering : Phase → Bool
  | .starting | .claimingCollect _ | .snapshotting .. | .releasingCollect .. | .gathering _ => true
  | _ => false

theorem carried_of_handed {phase : Phase} {observation : Observation}
    (handed : observation ∈ phase.handed) : observation ∈ phase.carried := by
  cases phase <;> first
    | exact handed
    | cases handed

end Phase

namespace Pipeline

/-- What a phase does with the observations that a run holds. -/
inductive Carries (run : Run) (books after : Books) (phase : Phase) : Prop where
  | on (kept : phase.carried.Sublist run.phase.carried) (handsNothing : run.phase.handed = [])
      (notGathering : run.phase.isGathering = false)
      (order : phase.awaitsGathering = true → run.phase.awaitsGathering = true)
  | gathers (gathering : run.phase.isGathering = true) (nothing : run.phase.carried = [])
      (found : phase.carried = ((orNone (gathered run)).run books).1)
      (order : phase.awaitsGathering = false)
  | scans (added scanned : List Observation)
      (found : phase.carried = run.phase.carried ++ scanned) (answered : scanned.Sublist added)
      (stored : ∀ group, after.store.stored group =
        books.store.stored group ++ added.filter (Store.isFiled group))
      (own : ∀ observation ∈ added, observation.scanId = some run.scanId)
      (handsNothing : run.phase.handed = []) (notGathering : run.phase.isGathering = false)
      (order : phase.awaitsGathering = false)
  | hands (all : run.phase.handed = run.phase.carried) (nothing : phase.carried = [])
      (notGathering : run.phase.isGathering = false) (order : phase.awaitsGathering = false)

theorem step_carries (deployment : Deployment) (run : Run) (books : Books) :
    ∃ phase, ((step deployment run).run books).1 = { run with phase } ∧
      Carries run books ((step deployment run).run books).2 phase := by
  obtain ⟨collectId, scanId, groups, phase⟩ := run
  cases phase with
  | starting =>
    cases known : (preCollect deployment collectId).run.run books with
    | mk answer after =>
      simp only [step, StateT.run_bind, known]
      cases answer with
      | ok skeletons => exact ⟨.claimingCollect skeletons, rfl, .on (.refl _) rfl rfl fun _ => rfl⟩
      | error error => exact ⟨.finished, rfl, .on (.refl _) rfl rfl fun _ => rfl⟩
  | claimingCollect skeletons => exact ⟨_, rfl, .on (.refl _) rfl rfl fun _ => rfl⟩
  | snapshotting skeletons claim =>
    simp only [step]
    split
    · exact ⟨.releasingCollect skeletons claim, rfl, .on (.refl _) rfl rfl fun _ => rfl⟩
    · exact ⟨.releasingCollect skeletons claim, rfl, .on (.refl _) rfl rfl fun _ => rfl⟩
  | releasingCollect skeletons claim => exact ⟨_, rfl, .on (.refl _) rfl rfl fun _ => rfl⟩
  | gathering skeletons => exact ⟨_, rfl, .gathers rfl rfl rfl rfl⟩
  | claimingScan skeletons collected =>
    exact ⟨_, rfl, .on (.refl _) rfl rfl fun impossible => Bool.noConfusion impossible⟩
  | checking skeletons collected claim =>
    simp only [step]
    split
    · refine ⟨.releasingScan collected [] claim, rfl, .scans [] [] rfl (.refl _) ?_ (by simp)
        rfl rfl rfl⟩
      intro group
      exact (List.append_nil _).symm
    · obtain ⟨added, stored, answered, own⟩ :=
        Scan.checkRules_keeps deployment scanId collectId claim.granted skeletons books
      exact ⟨.releasingScan collected _ claim, rfl, .scans added _ rfl answered stored own
        rfl rfl rfl⟩
  | releasingScan collected scanned claim =>
    simp only [step, StateT.run_bind]
    split
    · refine ⟨.dispatching collected [], rfl, .on ?_ rfl rfl fun impossible =>
        Bool.noConfusion impossible⟩
      exact (List.Sublist.refl collected).append (List.nil_sublist scanned)
    · exact ⟨.flushing collected scanned, rfl, .on (.refl _) rfl rfl fun impossible =>
        Bool.noConfusion impossible⟩
  | flushing collected scanned =>
    exact ⟨_, rfl, .on (.refl _) rfl rfl fun impossible => Bool.noConfusion impossible⟩
  | dispatching collected scanned => exact ⟨_, rfl, .hands rfl rfl rfl rfl⟩
  | finished => exact ⟨.finished, rfl, .on (.refl _) rfl rfl fun waits => waits⟩

end Pipeline

/-! ## Moments and what they hand out -/

/-- A run that gathers finds only what is of no scan, each once. -/
def Moment.GathersOwn (moment : Moment) : Prop :=
  moment.run.phase.isGathering = true →
    moment.run.groups.Nodup ∧
      ∀ group ∈ moment.run.groups, ∀ observation ∈ moment.books.store.stored group,
        (observation.collectionId = some moment.run.collectId ∨
          observation.scanId = some moment.run.collectId) → observation.scanId = none

instance (moment : Moment) : Decidable moment.GathersOwn :=
  inferInstanceAs (Decidable (_ → _))

def handedIn (moments : List Moment) : List Observation :=
  moments.flatMap fun moment => moment.run.phase.handed

def carriedBy (runs : List Run) : List Observation :=
  runs.flatMap fun run => run.phase.carried

theorem handedIn_append (past : List Moment) (moment : Moment) :
    handedIn (past ++ [moment]) = handedIn past ++ moment.run.phase.handed := by
  simp [handedIn]

theorem carriedBy_append (before after : List Run) (run : Run) :
    carriedBy (before ++ run :: after) =
      carriedBy before ++ (run.phase.carried ++ carriedBy after) := by
  simp [carriedBy]

/-- What was handed out and what is still held is accounted for by the store. -/
structure Accounted (past : List Moment) (runs : List Run) (books : Books) : Prop where
  counted : ∀ observation, observation.groupName ≠ "" →
    (handedIn past ++ carriedBy runs).count observation ≤
      (books.store.stored observation.groupName).count observation
  /-- Each of these observations is of a scan, or was gathered by the run of its collection. -/
  origin : ∀ observation ∈ handedIn past ++ carriedBy runs, observation.scanId ≠ none ∨
    ∃ moment ∈ past, moment.run.phase.isGathering = true ∧
      observation.collectionId = some moment.run.collectId
  distinct : (runs.map Run.collectId).Nodup
  issued : ∀ run ∈ runs, books.supply.Issued run.collectId
  issuedBefore : ∀ moment ∈ past, books.supply.Issued moment.run.collectId
  /-- No run gathers twice. -/
  ungathered : ∀ run ∈ runs, run.phase.awaitsGathering = true →
    ∀ moment ∈ past, moment.run.phase.isGathering = true →
      moment.run.collectId ≠ run.collectId

namespace Pipeline

theorem gathered_eq (run : Run) (books : Books) :
    ((orNone (gathered run)).run books).1 = [] ∨
      ((orNone (gathered run)).run books).1 =
        (run.groups.flatMap books.store.stored).filter fun observation =>
          observation.collectionId == some run.collectId ||
            observation.scanId == some run.collectId := by
  have listed := Books.listObservations_run books
    { groups := some run.groups, operation := some run.collectId }
  rw [orNone, StateT.run_bind, gathered, listed]
  by_cases failing : books.failsAt .listObservations = true
  · rw [if_pos failing]
    exact .inl rfl
  · rw [if_neg failing, Store.listObservations_operation]
    exact .inr rfl

/-- A run that names no group twice gathers nothing more often than it is stored. -/
theorem count_gathered_le {run : Run} {books : Books} (orderly : books.Orderly)
    (distinct : run.groups.Nodup) (observation : Observation) :
    ((orNone (gathered run)).run books).1.count observation ≤
      (books.store.stored observation.groupName).count observation := by
  rcases gathered_eq run books with nothing | found
  · rw [nothing]
    exact Nat.zero_le _
  · have alone := Store.filter_flatMap_own Observation.groupName distinct
      (fun group _ => orderly.filed group) observation.groupName
    have own : (run.groups.flatMap books.store.stored).count observation =
        ((run.groups.flatMap books.store.stored).filter fun found =>
          found.groupName == observation.groupName).count observation := by
      exact (List.count_filter (by simp)).symm
    rw [found]
    refine Nat.le_trans (List.filter_sublist.count_le observation) ?_
    rw [own, alone]
    split
    · exact Nat.le_refl _
    · exact Nat.zero_le _

/-- What a run gathers that finds only its own is of no scan and of its collection. -/
theorem gathered_own {run : Run} {books : Books} (gathering : run.phase.isGathering = true)
    (own : Moment.GathersOwn ⟨run, books⟩) :
    ∀ observation ∈ ((orNone (gathered run)).run books).1,
      observation.scanId = none ∧ observation.collectionId = some run.collectId := by
  intro observation member
  rcases gathered_eq run books with nothing | found
  · rw [nothing] at member
    cases member
  · rw [found] at member
    obtain ⟨listed, matching⟩ := List.mem_filter.1 member
    obtain ⟨group, covered, stored⟩ := List.mem_flatMap.1 listed
    simp only [Bool.or_eq_true, beq_iff_eq] at matching
    have noScan := (own gathering).2 group covered observation stored matching
    refine ⟨noScan, ?_⟩
    rcases matching with ofCollection | ofScan
    · exact ofCollection
    · rw [noScan] at ofScan
      cases ofScan

end Pipeline

theorem Grows.count_stored_le {old new : Books} (grows : Grows old new)
    (observation : Observation) (group : String) :
    (old.store.stored group).count observation ≤ (new.store.stored group).count observation := by
  obtain ⟨added, grown, -⟩ := grows.observations group
  rw [grown]
  exact (List.sublist_append_left _ _).count_le observation

namespace Accounted

open Pipeline

/-- What a run gathers was neither handed out before nor is it held by any run. -/
theorem not_held {past : List Moment} {runs : List Run} {run : Run} {books : Books}
    (accounted : Accounted past runs books) (member : run ∈ runs)
    (gathering : run.phase.isGathering = true) (own : Moment.GathersOwn ⟨run, books⟩)
    {observation : Observation}
    (found : observation ∈ ((orNone (gathered run)).run books).1) :
    (handedIn past ++ carriedBy runs).count observation = 0 := by
  obtain ⟨noScan, collected⟩ := gathered_own gathering own observation found
  have awaits : run.phase.awaitsGathering = true := by
    cases phase : run.phase <;> simp_all [Phase.isGathering, Phase.awaitsGathering]
  rw [List.count_eq_zero]
  intro held
  rcases accounted.origin observation held with scanned | ⟨moment, isPast, gathered, same⟩
  · exact scanned noScan
  · rw [collected] at same
    exact accounted.ungathered run member awaits moment isPast gathered (Option.some.inj same).symm

theorem counted_step {deployment : Deployment} {past : List Moment} {before after : List Run}
    {run : Run} {books : Books} (accounted : Accounted past (before ++ run :: after) books)
    (orderly : books.Orderly) (own : Moment.GathersOwn ⟨run, books⟩) {phase : Phase}
    (carries : Carries run books ((step deployment run).run books).2 phase)
    (observation : Observation) (named : observation.groupName ≠ "") :
    (handedIn (past ++ [⟨run, books⟩]) ++
        carriedBy (before ++ { run with phase } :: after)).count observation ≤
      (((step deployment run).run books).2.store.stored observation.groupName).count
        observation := by
  have counted := accounted.counted observation named
  have grown := (Grows.steady.step deployment run books).count_stored_le observation
    observation.groupName
  rw [carriedBy_append] at counted ⊢
  rw [handedIn_append]
  simp only [List.count_append] at counted ⊢
  cases carries with
  | on kept handsNothing _ _ =>
    have fewer := kept.count_le observation
    rw [handsNothing, List.count_nil]
    omega
  | hands all nothing _ _ =>
    rw [all, nothing, List.count_nil]
    omega
  | scans added scanned found answered stored _ handsNothing _ _ =>
    have fewer := answered.count_le observation
    have filed : (added.filter (Store.isFiled observation.groupName)).count observation =
        added.count observation :=
      List.count_filter ((Store.isFiled_iff named observation).2 rfl)
    rw [stored, found, handsNothing, List.count_nil]
    simp only [List.count_append, filed]
    omega
  | gathers gathering nothing found _ =>
    have distinct : run.groups.Nodup := (own gathering).1
    have once := count_gathered_le orderly distinct observation
    have handsNothing : run.phase.handed = [] := by
      cases phase : run.phase <;> simp_all [Phase.isGathering, Phase.handed]
    rw [handsNothing, found, List.count_nil]
    -- An observation that is gathered was counted nowhere before, and any other is not touched.
    by_cases gathers : observation ∈ ((orNone (gathered run)).run books).1
    · have nowhere := accounted.not_held (by simp) gathering own gathers
      rw [carriedBy_append] at nowhere
      simp only [List.count_append] at nowhere
      omega
    · rw [List.count_eq_zero.2 gathers]
      omega

theorem origin_step {past : List Moment} {before after : List Run} {run : Run}
    {books later : Books} (accounted : Accounted past (before ++ run :: after) books)
    (own : Moment.GathersOwn ⟨run, books⟩) {phase : Phase}
    (carries : Carries run books later phase) (observation : Observation)
    (held : observation ∈ handedIn (past ++ [⟨run, books⟩]) ++
      carriedBy (before ++ { run with phase } :: after)) :
    observation.scanId ≠ none ∨
      ∃ moment ∈ past ++ [⟨run, books⟩], moment.run.phase.isGathering = true ∧
        observation.collectionId = some moment.run.collectId := by
  have known : observation ∈ handedIn past ++ carriedBy (before ++ run :: after) →
      observation.scanId ≠ none ∨
        ∃ moment ∈ past ++ [⟨run, books⟩], moment.run.phase.isGathering = true ∧
          observation.collectionId = some moment.run.collectId := by
    intro member
    rcases accounted.origin observation member with scanned | ⟨moment, isPast, rest⟩
    · exact .inl scanned
    · exact .inr ⟨moment, List.mem_append_left _ isPast, rest⟩
  have carried : observation ∈ run.phase.carried →
      observation ∈ handedIn past ++ carriedBy (before ++ run :: after) := by
    intro member
    rw [carriedBy_append]
    simp [member]
  rw [handedIn_append, carriedBy_append] at held
  simp only [List.mem_append] at held
  rcases held with (handed | now) | inBefore | new | inAfter
  · exact known (List.mem_append_left _ handed)
  · exact known (carried (Phase.carried_of_handed now))
  · refine known (List.mem_append_right _ ?_)
    rw [carriedBy_append]
    exact List.mem_append_left _ inBefore
  · cases carries with
    | on kept _ _ _ => exact known (carried (kept.subset new))
    | hands _ nothing _ _ =>
      rw [nothing] at new
      cases new
    | scans added scanned found answered _ isOwn _ _ _ =>
      rw [found] at new
      rcases List.mem_append.1 new with old | isScanned
      · exact known (carried old)
      · left
        rw [isOwn observation (answered.subset isScanned)]
        exact Option.some_ne_none _
    | gathers gathering _ found _ =>
      rw [found] at new
      have collected := (gathered_own gathering own observation new).2
      exact .inr ⟨⟨run, books⟩, by simp, gathering, collected⟩
  · refine known (List.mem_append_right _ ?_)
    rw [carriedBy_append]
    exact List.mem_append_right _ (List.mem_append_right _ inAfter)

theorem ungathered_step {past : List Moment} {before after : List Run} {run : Run}
    {books later : Books} (accounted : Accounted past (before ++ run :: after) books)
    {phase : Phase} (carries : Carries run books later phase) {other : Run}
    (member : other ∈ before ++ { run with phase } :: after)
    (awaits : other.phase.awaitsGathering = true) {moment : Moment}
    (isPast : moment ∈ past ++ [⟨run, books⟩])
    (gathering : moment.run.phase.isGathering = true) :
    moment.run.collectId ≠ other.collectId := by
  have old : other ∈ before ++ run :: after ∧ other.collectId ≠ run.collectId ∨
      other = { run with phase } := by
    have distinct := accounted.distinct
    rw [List.map_append, List.map_cons, List.nodup_append, List.nodup_cons] at distinct
    obtain ⟨-, ⟨notAfter, -⟩, apart⟩ := distinct
    rcases List.mem_append.1 member with inBefore | member
    · exact .inl ⟨List.mem_append_left _ inBefore,
        apart _ (List.mem_map_of_mem inBefore) _ List.mem_cons_self⟩
    · rcases List.mem_cons.1 member with same | inAfter
      · exact .inr same
      · refine .inl ⟨by simp [inAfter], fun same => notAfter ?_⟩
        rw [← same]
        exact List.mem_map_of_mem inAfter
  rcases List.mem_append.1 isPast with isPast | now
  · rcases old with ⟨isOld, -⟩ | rfl
    · exact accounted.ungathered other isOld awaits moment isPast gathering
    · cases carries with
      | on _ _ _ order =>
        exact accounted.ungathered run (by simp) (order awaits) moment isPast gathering
      | hands _ _ _ order | scans _ _ _ _ _ _ _ _ order | gathers _ _ _ order =>
        rw [order] at awaits
        cases awaits
  · rw [List.mem_singleton] at now
    subst now
    rcases old with ⟨-, apart⟩ | rfl
    · exact Ne.symm apart
    · cases carries with
      | gathers _ _ _ order =>
        rw [order] at awaits
        cases awaits
      | on _ _ notGathering _ | hands _ _ notGathering _ | scans _ _ _ _ _ _ _ notGathering _ =>
        rw [notGathering] at gathering
        cases gathering

theorem step {deployment : Deployment} {past : List Moment} {before after : List Run}
    {run : Run} {books : Books} (accounted : Accounted past (before ++ run :: after) books)
    (orderly : books.Orderly) (own : Moment.GathersOwn ⟨run, books⟩) :
    Accounted (past ++ [⟨run, books⟩])
      (before ++ ((Pipeline.step deployment run).run books).1 :: after)
      ((Pipeline.step deployment run).run books).2 := by
  obtain ⟨phase, next, carries⟩ := step_carries deployment run books
  have minted := steady_minted.step deployment run books
  rw [next]
  refine {
    counted := accounted.counted_step orderly own carries
    origin := accounted.origin_step own carries
    distinct := ?_
    issued := ?_
    issuedBefore := ?_
    ungathered := fun other member awaits moment isPast gathering =>
      accounted.ungathered_step carries member awaits isPast gathering }
  · have distinct := accounted.distinct
    simp only [List.map_append, List.map_cons] at distinct ⊢
    exact distinct
  · intro other member
    have sameId : other.collectId ∈ (before ++ run :: after).map Run.collectId := by
      have inNext := List.mem_map_of_mem (f := Run.collectId) member
      simp only [List.map_append, List.map_cons] at inNext ⊢
      exact inNext
    obtain ⟨known, isKnown, same⟩ := List.mem_map.1 sameId
    rw [← same]
    exact (accounted.issued known isKnown).mono minted
  · intro moment isPast
    rcases List.mem_append.1 isPast with isPast | now
    · exact (accounted.issuedBefore moment isPast).mono minted
    · rw [List.mem_singleton] at now
      subst now
      exact (accounted.issued run (by simp)).mono minted

theorem start (books : Books) : Accounted [] [] books where
  counted := by simp [handedIn, carriedBy]
  origin := by simp [handedIn, carriedBy]
  distinct := List.nodup_nil
  issued := by simp
  issuedBefore := by simp
  ungathered := by simp

theorem fewer {past : List Moment} {runs remaining : List Run} {books : Books}
    (accounted : Accounted past runs books) (sublist : remaining.Sublist runs) :
    Accounted past remaining books := by
  have held : (handedIn past ++ carriedBy remaining).Sublist (handedIn past ++ carriedBy runs) :=
    (List.Sublist.refl _).append (sublist.flatMap _)
  refine {
    counted := fun observation named =>
      Nat.le_trans (held.count_le observation) (accounted.counted observation named)
    origin := fun observation member => accounted.origin observation (held.subset member)
    distinct := accounted.distinct.sublist (sublist.map _)
    issued := fun run member => accounted.issued run (sublist.subset member)
    issuedBefore := accounted.issuedBefore
    ungathered := fun run member => accounted.ungathered run (sublist.subset member) }

theorem grows {past : List Moment} {runs : List Run} {books later : Books}
    (accounted : Accounted past runs books) (grown : Grows books later)
    (minted : books.supply.minted ≤ later.supply.minted) : Accounted past runs later where
  counted observation named :=
    Nat.le_trans (accounted.counted observation named)
      (grown.count_stored_le observation observation.groupName)
  origin := accounted.origin
  distinct := accounted.distinct
  issued run member := (accounted.issued run member).mono minted
  issuedBefore moment isPast := (accounted.issuedBefore moment isPast).mono minted
  ungathered := accounted.ungathered

theorem starts {past : List Moment} {runs : List Run} {books : Books}
    (accounted : Accounted past runs books) (lasting : books.supply.minted < 2 ^ 128)
    (groups : List String) (started : List Run) :
    Accounted past (runs ++ [books.nextRun groups]) (books.withRuns started) := by
  have minted : books.supply.minted ≤ (books.withRuns started).supply.minted :=
    Nat.le_add_right _ 2
  have new : ¬ books.supply.Issued (books.nextRun groups).collectId :=
    Supply.not_issued (Nat.le_refl _) lasting
  have held : carriedBy (runs ++ [books.nextRun groups]) = carriedBy runs := by
    simp [carriedBy, Books.nextRun, Phase.carried]
  refine {
    counted := ?_
    origin := ?_
    distinct := ?_
    issued := ?_
    issuedBefore := fun moment isPast => (accounted.issuedBefore moment isPast).mono minted
    ungathered := ?_ }
  · intro observation named
    rw [held]
    exact accounted.counted observation named
  · intro observation member
    rw [held] at member
    exact accounted.origin observation member
  · rw [List.map_append, List.nodup_append]
    refine ⟨accounted.distinct, by simp, ?_⟩
    intro id known other isNew
    obtain ⟨run, member, rfl⟩ := List.mem_map.1 known
    rw [List.map_cons, List.map_nil, List.mem_singleton] at isNew
    subst isNew
    intro same
    exact new (same ▸ accounted.issued run member)
  · intro run member
    rcases List.mem_append.1 member with isOld | isNew
    · exact (accounted.issued run isOld).mono minted
    · rw [List.mem_singleton] at isNew
      subst isNew
      exact ⟨books.supply.minted, Nat.lt_add_of_pos_right (by decide), rfl⟩
  · intro run member awaits moment isPast gathering
    rcases List.mem_append.1 member with isOld | isNew
    · exact accounted.ungathered run isOld awaits moment isPast gathering
    · rw [List.mem_singleton] at isNew
      subst isNew
      intro same
      exact new (same ▸ accounted.issuedBefore moment isPast)

/-- While identifiers last, everything is accounted for as long as runs gather their own. -/
def Holds (past : List Moment) (runs : List Run) (books : Books) : Prop :=
  books.Orderly ∧ (books.supply.minted ≤ 2 ^ 128 → (∀ moment ∈ past, moment.GathersOwn) →
    Accounted past runs books)

theorem Holds.grows {past : List Moment} {runs : List Run} {books later : Books}
    (holds : Holds past runs books) (grown : Grows books later)
    (minted : books.supply.minted ≤ later.supply.minted) : Holds past runs later := by
  refine ⟨holds.1.grows grown, fun lasting own => ?_⟩
  exact (holds.2 (Nat.le_trans minted lasting) own).grows grown minted

theorem lasting (deployment : Deployment) : Lasting deployment Holds where
  step := by
    intro past before after run books holds _
    refine ⟨holds.1.grows (Grows.steady.step deployment run books), fun lasting own => ?_⟩
    have lastingBefore := Nat.le_trans (steady_minted.step deployment run books) lasting
    have accounted := holds.2 lastingBefore fun moment isPast =>
      own moment (List.mem_append_left _ isPast)
    exact accounted.step holds.1 (own ⟨run, books⟩ (by simp))
  leave := by
    intro past before after run books holds _
    refine ⟨holds.1, fun lasting own => (holds.2 lasting own).fewer ?_⟩
    exact (List.Sublist.refl before).append (List.sublist_cons_self run after)
  underWay holds _ := holds.grows (Grows.same_clock rfl rfl rfl rfl) (Nat.le_refl _)
  permits holds _ := holds.grows (Grows.same_clock rfl rfl rfl rfl) (Nat.le_refl _)
  disturb holds _ _ := holds.grows (Grows.same_clock rfl rfl rfl rfl) (Nat.le_refl _)
  call := by
    intro past books caller request holds
    have grown := Grows.steady.perform deployment caller request books
    have minted := steady_minted.perform deployment caller request books
    cases asks : request.asksForRun with
    | false =>
      rw [running_sameUnderWay.perform deployment caller asks books]
      exact holds.grows grown minted
    | true =>
      rcases request.perform_run deployment caller asks books with
        same | refused | ⟨groups, started⟩
      · rw [same]
        exact holds
      · have unchanged : (books.withRuns []).underWay = books.underWay := List.append_nil _
        rw [refused, unchanged]
        rw [refused] at grown minted
        exact holds.grows grown minted
      · rw [started]
        rw [started] at grown
        refine ⟨holds.1.grows grown, fun lasting own => ?_⟩
        have lastingBefore : books.supply.minted + 2 ≤ 2 ^ 128 := lasting
        exact (holds.2 (by omega) own).starts (by omega) groups _

end Accounted

/-- Whatever happens, no stored observation is handed out more often than it is stored, as long as
no run that gathers names a group twice or finds what a scan has found. -/
theorem handed_out_at_most_once (deployment : Deployment) (supply : Supply) (events : List Event)
    (lasting : ((Books.fresh supply).after deployment events).supply.minted ≤ 2 ^ 128)
    (own : ∀ moment ∈ (Books.fresh supply).moments deployment events, moment.GathersOwn)
    (observation : Observation) (named : observation.groupName ≠ "") :
    (handedIn ((Books.fresh supply).moments deployment events)).count observation ≤
      (((Books.fresh supply).after deployment events).store.stored
        observation.groupName).count observation := by
  have start : Accounted.Holds [] (Books.fresh supply).underWay (Books.fresh supply) :=
    ⟨Books.orderly_fresh supply, fun _ _ => Accounted.start _⟩
  have holds := (Accounted.lasting deployment).after events start
  rw [List.nil_append] at holds
  have counted := (holds.2 lasting own).counted observation named
  rw [List.count_append] at counted
  omega

/-! ## Reports of a collector -/

namespace Reporting

def deployment : Deployment where
  inventory := ⟨[Resource.group "g"]⟩
  collector := .observing
  contacts := default
  notificationInterval := .zero
  sourceSystem := "CloudAudit"

def supply : Supply := { now := ⟨0, 0⟩ }

def report : Observation := Collector.report (Supply.idText 0) "g"

def events : List Event :=
  [.call none (.collectAndScan ["g"]), .turn 0, .turn 0, .call none (.collectAndScan ["g"]),
    .turn 1, .turn 1, .settle]

theorem report_handed_out_once :
    (handedIn ((Books.fresh supply).moments deployment events)).count report = 1 ∧
      (handedIn ((Books.fresh supply).moments deployment events)).count report ≤
        (((Books.fresh supply).after deployment events).store.stored
          report.groupName).count report :=
  ⟨by decide +kernel,
    handed_out_at_most_once deployment supply events (by decide +kernel) (by decide +kernel) report
      (by decide +kernel)⟩

end Reporting

/-- A run that names a group twice hands out twice what it gathers there. -/
theorem repeated_groups_repeat :
    ¬ ∀ (deployment : Deployment) (supply : Supply) (events : List Event)
        (observation : Observation),
      ((Books.fresh supply).after deployment events).supply.minted ≤ 2 ^ 128 →
      observation.groupName ≠ "" →
      (handedIn ((Books.fresh supply).moments deployment events)).count observation ≤
        (((Books.fresh supply).after deployment events).store.stored
          observation.groupName).count observation := by
  intro once
  have counted := once Reporting.deployment Reporting.supply
    [.call none (.collectAndScan ["g", "g"]), .settle] Reporting.report (by decide +kernel)
    (by decide +kernel)
  exact absurd counted (by decide +kernel)

end CloudAudit
