import CloudAudit.Proofs.Runs.Ending
import CloudAudit.Proofs.Runs.Phases
/-!
# Owned groups

Callers see and start only what they own. A listing has an entry for each group that it covers and
for no other, with observations of this group only. A request for a group that is not owned is
denied, and a run that is accepted claims no group but those that were owned then, whatever is owned
later.
-/
set_option autoImplicit false

namespace CloudAudit

namespace Service

variable {deployment : Deployment} {owned requested groups : List String} {group : String}

def Owns (deployment : Deployment) (owned : List String) : Prop :=
  ∀ books, (ownedGroups deployment).run.run books = (.ok owned, books)

theorem Owns.validateGroups_run (owns : Owns deployment owned) (requested : List String)
    (books : Books) :
    (validateGroups deployment requested).run.run books = (permitted owned requested, books) :=
  validateGroups_eq (owns books) requested

theorem owns_of_validated {books after : Books}
    (valid : (validateGroups deployment requested).run.run books = (.ok groups, after)) :
    ∃ owned, Owns deployment owned ∧ permitted owned requested = .ok groups := by
  obtain ⟨answer, owned⟩ := ownedGroups_run deployment
  have validated := validateGroups_eq (owned books) requested
  rw [valid] at validated
  cases answer with
  | ok names => exact ⟨names, owned, (Prod.mk.inj validated).1.symm⟩
  | error error => cases validated

/-! ## Requests -/

theorem permitted_ok (accepted : permitted owned requested = .ok groups) :
    (∀ group ∈ requested, group ∈ owned) ∧
      groups = if requested = [] then owned else requested := by
  rw [permitted] at accepted
  cases requested with
  | nil =>
    cases accepted
    exact ⟨by simp, rfl⟩
  | cons first more =>
    simp only [List.isEmpty_cons, Bool.false_eq_true, if_false] at accepted
    split at accepted
    · cases accepted
    · rename_i allOwned
      cases accepted
      refine ⟨?_, rfl⟩
      simpa using allOwned

theorem permitted_of_owned (asked : ∀ group ∈ requested, group ∈ owned) :
    permitted owned requested = .ok (if requested = [] then owned else requested) := by
  have known : requested.find? (fun group => !owned.contains group) = none := by
    simpa using asked
  cases requested with
  | nil => rfl
  | cons first more =>
    rw [permitted, known]
    rfl

theorem permitted_within (accepted : permitted owned requested = .ok groups) :
    ∀ group ∈ groups, group ∈ owned := by
  obtain ⟨asked, rfl⟩ := permitted_ok accepted
  split
  · exact fun _ member => member
  · exact asked

theorem permitted_denied (asked : group ∈ requested) (foreign : group ∉ owned) :
    ∃ denied ∈ requested, denied ∉ owned ∧
      permitted owned requested =
        .error (.accessDenied ("resource group " ++ denied ++ " is not accessible")) := by
  have nonempty : requested.isEmpty = false := by
    rw [List.isEmpty_eq_false_iff]
    exact List.ne_nil_of_mem asked
  cases found : requested.find? fun group => !owned.contains group with
  | none =>
    have owns := List.find?_eq_none.1 found group asked
    simp [foreign] at owns
  | some denied =>
    refine ⟨denied, List.mem_of_find?_eq_some found, ?_, ?_⟩
    · simpa using List.find?_some found
    · rw [permitted, nonempty, found]
      rfl

theorem Owns.denies (owns : Owns deployment owned) (asked : group ∈ requested)
    (foreign : group ∉ owned) :
    ∃ denied ∈ requested, denied ∉ owned ∧ ∀ books,
      (collectAndScan deployment requested).run.run books =
        (.error (.accessDenied ("resource group " ++ denied ++ " is not accessible")), books) ∧
      (listObservations deployment requested).run.run books =
        (.error (.accessDenied ("resource group " ++ denied ++ " is not accessible")), books) := by
  obtain ⟨denied, isAsked, isForeign, refused⟩ := permitted_denied asked foreign
  refine ⟨denied, isAsked, isForeign, fun books => ?_⟩
  have validated := owns.validateGroups_run requested books
  rw [refused] at validated
  exact ⟨Books.bind_run_error validated, Books.bind_run_error validated⟩

/-! ## Listings -/

theorem names_grouped (rules : List Rule) {observations : List Observation}
    (inside : ∀ observation ∈ observations, observation.groupName ∈ groups) :
    (grouped rules groups observations).names = (NameSet.ofNames groups).names := by
  refine Table.names_eq_of_mem_iff fun name => ?_
  rw [Table.mem_names_iff, contains_grouped, NameSet.mem_names_ofNames]
  refine ⟨?_, .inl⟩
  rintro (member | ⟨observation, member, rfl⟩)
  · exact member
  · exact inside observation member

theorem names_entries (table : Table ByRule) :
    (entries table).map GroupObservations.resourceGroupName = table.names := by
  simp [entries, Table.names]

theorem entry_own (rules : List Rule) (groups : List String) (observations : List Observation) :
    ∀ entry ∈ entries (grouped rules groups observations), ∀ rule ∈ entry.rulesObservations,
      ∀ observation ∈ rule.observations, observation.groupName = entry.resourceGroupName := by
  intro entry isEntry rule isRule observation member
  rw [observations_entry isEntry isRule] at member
  have own := (List.mem_filter.1 member).2
  rw [Bool.and_eq_true, beq_iff_eq] at own
  exact own.1

/-- Whatever the store holds, a listing that succeeds was asked for owned groups only, and has one
entry for each group that was asked for, or for each owned one if none was, in ascending order. -/
theorem listing_within_owned {books after : Books} {listing : List GroupObservations}
    (placed : books.store.Placed)
    (ran : (listObservations deployment requested).run.run books = (.ok listing, after)) :
    ∃ owned, Owns deployment owned ∧ (∀ group ∈ requested, group ∈ owned) ∧
      listing.map GroupObservations.resourceGroupName =
        (NameSet.ofNames (if requested = [] then owned else requested)).names ∧
      ∀ entry ∈ listing, ∀ rule ∈ entry.rulesObservations, ∀ observation ∈ rule.observations,
        observation.groupName = entry.resourceGroupName := by
  obtain ⟨groups, operations, valid, -, rfl, -, -⟩ := listObservations_parts ran
  obtain ⟨owned, owns, accepted⟩ := owns_of_validated (valid books)
  obtain ⟨asked, rfl⟩ := permitted_ok accepted
  refine ⟨owned, owns, asked, ?_, entry_own _ _ _⟩
  rw [names_entries]
  refine names_grouped _ fun observation member => ?_
  obtain ⟨group, covered, seen⟩ :=
    List.mem_flatMap.1 ((mem_latestScanOnly_iff _ _ _).1 member).1
  rw [placed group observation (List.mem_filter.1 seen).1]
  exact covered

end Service

/-! ## Runs -/

/-- Whether all that is held under the identifiers of a run are groups of a list. -/
def Requests.Confines (requests : Requests) (run : Run) (groups : List String) : Prop :=
  ∀ kind group, (requests.table kind).holder? group = some (run.id kind) → group ∈ groups

namespace Pipeline

theorem batchFor_access (deployment : Deployment) (access : Access)
    (observations : List Observation) :
    Dispatch.batchFor { deployment with access } observations =
      Dispatch.batchFor deployment observations := by
  induction observations with
  | nil => rfl
  | cons observation observations ih =>
    rw [Dispatch.batchFor, Dispatch.batchFor, ih]
    rfl

theorem announce_access (deployment : Deployment) (access : Access)
    (observations : List Observation) :
    announce { deployment with access } observations = announce deployment observations := by
  rw [announce, announce, Dispatch.dispatch, Dispatch.dispatch, batchFor_access]
  rfl

/-- Who owns what does not matter to a run that goes on. -/
theorem step_access (deployment : Deployment) (access : Access) :
    step { deployment with access } = step deployment := by
  funext run
  obtain ⟨collectId, scanId, groups, phase⟩ := run
  cases phase with
  | dispatching collected scanned => simp only [step, announce_access]
  | _ => rfl

end Pipeline

/-- A run among the ones met: who bears one of its identifiers differs from it in nothing but the
phase. -/
structure Kin (run : Run) (past : List Moment) (runs : List Run) (_requests : Requests)
    (supply : Supply) : Prop where
  issued : ∀ kind, supply.Issued (run.id kind)
  alike : ∀ one ∈ met past runs, ∀ kind, one.id kind = run.id kind → one.Same run

theorem Kin.carried (deployment : Deployment) (run : Run) : Carried deployment (Kin run) where
  perm kin same :=
    { kin with alike := fun one isOne => kin.alike one ((mem_met_perm same).1 isOne) }
  step := by
    intro past other others books kin
    obtain ⟨phase, next⟩ := Pipeline.step_same deployment other books
    rw [next]
    refine ⟨fun kind => (kin.issued kind).mono (steady_minted.step deployment other books), ?_⟩
    intro one isOne kind same
    obtain ⟨known, isKnown, alike⟩ := mem_met_step isOne
    exact alike.trans (kin.alike known isKnown kind ((alike.id kind).symm.trans same))
  leave kin _ := { kin with alike := fun one isOne => kin.alike one (mem_met_cons.2 (.inr isOne)) }
  status kin _ _ := { kin with }
  minted kin more := { kin with issued := fun kind => (kin.issued kind).mono more }
  starts := by
    intro past runs books kin enough groups
    refine ⟨fun kind => (kin.issued kind).mono (Nat.le_add_right _ 2), ?_⟩
    intro one isOne kind same
    rcases mem_met_cons.1 isOne with rfl | isOld
    · exact absurd (same ▸ kin.issued kind) (books.nextRun_new enough groups kind)
    · exact kin.alike one isOld kind same

theorem Carried.and {deployment : Deployment}
    {holds also : List Moment → List Run → Requests → Supply → Prop}
    (one : Carried deployment holds) (other : Carried deployment also) :
    Carried deployment fun past runs requests supply =>
      holds past runs requests supply ∧ also past runs requests supply where
  perm held same := ⟨one.perm held.1 same, other.perm held.2 same⟩
  step held := ⟨one.step held.1, other.step held.2⟩
  leave held finished := ⟨one.leave held.1 finished, other.leave held.2 finished⟩
  status held kind id := ⟨one.status held.1 kind id, other.status held.2 kind id⟩
  minted held more := ⟨one.minted held.1 more, other.minted held.2 more⟩
  starts held enough groups := ⟨one.starts held.1 enough groups, other.starts held.2 enough groups⟩

def Requests.HeldBy (requests : Requests) (runs : List Run) : Prop :=
  ∀ kind group id, (requests.table kind).holder? group = some id →
    ∃ one ∈ runs, one.id kind = id ∧ group ∈ one.groups

theorem Engaged.heldBy {past : List Moment} {runs : List Run} {requests : Requests}
    {supply : Supply} (engaged : Engaged past runs requests supply) : requests.HeldBy runs := by
  intro kind group id held
  obtain ⟨claim, ⟨one, isRun, other, owns⟩, rfl, rfl, granted⟩ :=
    (engaged.accounts.holders kind group id).1 held
  have own := engaged.own one (met_of_run isRun) other claim owns
  exact ⟨one, isRun, own.sort ▸ own.owner.symm, own.granted group granted⟩

theorem Stranded.heldBy {deployment : Deployment} {past : List Moment} {runs : List Run}
    {requests : Requests} {supply : Supply}
    (stranded : Stranded deployment past runs requests supply) : requests.HeldBy runs := by
  intro kind group id held
  rw [stranded.nothing] at held
  cases kind <;> cases held

theorem Kin.confines {run : Run} {past : List Moment} {runs : List Run} {requests : Requests}
    {supply : Supply} (kin : Kin run past runs requests supply) (heldBy : requests.HeldBy runs) :
    requests.Confines run run.groups := by
  intro kind group held
  obtain ⟨one, isRun, same, covers⟩ := heldBy kind group _ held
  rw [← (kin.alike one (met_of_run isRun) kind same).groups]
  exact covers

theorem Roster.kin {past : List Moment} {runs : List Run} {supply : Supply}
    (roster : Roster past runs supply) {run : Run} (known : run ∈ met past runs)
    (requests : Requests) : Kin run past runs requests supply where
  issued := roster.issued run known
  alike one isOne kind same := roster.alike one isOne run known kind same

/-- Whatever happens after a run started, nothing is held under its identifiers but what it covers,
and it covers the same groups in all its phases. -/
theorem Carried.confines {deployment : Deployment}
    {holds : List Moment → List Run → Requests → Supply → Prop}
    (carried : Carried deployment holds)
    (accounts : ∀ {past : List Moment} {runs : List Run} {requests : Requests} {supply : Supply},
      holds past runs requests supply → requests.HeldBy runs)
    {run : Run} {past : List Moment} {started : Books}
    (kin : Kin run past started.underWay started.requests started.supply)
    (begun : holds past started.underWay started.requests started.supply) (later : List Event)
    (lasting : (started.after deployment later).supply.minted ≤ 2 ^ 128) :
    (∀ moment ∈ started.moments deployment later,
      moment.books.requests.Confines run run.groups ∧
        ∀ kind, moment.run.id kind = run.id kind → moment.run.groups = run.groups) ∧
    (started.after deployment later).requests.Confines run run.groups := by
  have nothing : ∀ before moment rest, past = past ++ before ++ moment :: rest →
      ∃ others, Kin run (past ++ before) (moment.run :: others) moment.books.requests
          moment.books.supply ∧
        holds (past ++ before) (moment.run :: others) moment.books.requests
          moment.books.supply := by
    intro before moment rest split
    have length := congrArg List.length split
    simp only [List.length_append, List.length_cons] at length
    omega
  obtain ⟨⟨kinLater, heldLater⟩, each⟩ :=
    (((Kin.carried deployment run).and carried).throughout past).lasting.after later
      (fun _ => ⟨⟨kin, begun⟩, nothing⟩) lasting
  refine ⟨?_, kinLater.confines (accounts heldLater)⟩
  intro moment isMoment
  obtain ⟨before, rest, split⟩ := List.append_of_mem isMoment
  obtain ⟨others, kinThen, heldThen⟩ := each before moment rest (by rw [split, List.append_assoc])
  refine ⟨kinThen.confines (accounts heldThen), fun kind same => ?_⟩
  exact (kinThen.alike moment.run (met_of_run List.mem_cons_self) kind same).groups

namespace Service

theorem after_collectAndScan {deployment : Deployment} {books started : Books}
    {before : List Event} {requested : List String} {answer : Except AuditError RunIds}
    (ran : (collectAndScan deployment requested).run.run (books.after deployment before) =
      (answer, started)) :
    books.after deployment (before ++ [.call none (.collectAndScan requested)]) = started := by
  rw [Books.after_append]
  change (((Web.Call.collectAndScan requested).perform deployment none).run.run _).2 = _
  rw [Web.Call.perform, Books.map_run, ran]

/-- A run that is accepted covers groups that are owned, and claims no others, even if other groups
are owned later. -/
theorem accepted_claims_owned {deployment : Deployment} {access : Access} {supply : Supply}
    {before later : List Event} {requested : List String} {ids : RunIds} {started : Books}
    (accepted : (collectAndScan deployment requested).run.run
      ((Books.fresh supply).after deployment before) = (.ok ids, started))
    (lasting : (started.after { deployment with access } later).supply.minted ≤ 2 ^ 128) :
    ∃ owned run, Owns deployment owned ∧ ids = Pipeline.runIds run ∧
      started.underWay = ((Books.fresh supply).after deployment before).underWay ++ [run] ∧
      permitted owned requested = .ok run.groups ∧
      (∀ moment ∈ started.moments { deployment with access } later,
        moment.books.requests.Confines run run.groups ∧
          ∀ kind, moment.run.id kind = run.id kind → moment.run.groups = run.groups) ∧
      (started.after { deployment with access } later).requests.Confines run run.groups := by
  obtain ⟨answer, ran⟩ := collectAndScan_run deployment requested
  obtain ⟨valid, starts⟩ := ran ((Books.fresh supply).after deployment before)
  rw [accepted] at starts
  cases answer with
  | error error => cases starts
  | ok groups =>
    obtain ⟨answered, startedIs⟩ := Prod.mk.inj starts
    obtain ⟨owned, owns, permits⟩ := owns_of_validated valid
    let run := ((Books.fresh supply).after deployment before).nextRun groups
    have under : started.underWay =
        ((Books.fresh supply).after deployment before).underWay ++ [run] := by
      rw [startedIs]
      rfl
    have whole := after_collectAndScan accepted
    have lastingNow : ((Books.fresh supply).after deployment
        (before ++ [.call none (.collectAndScan requested)])).supply.minted ≤ 2 ^ 128 := by
      rw [whole]
      exact Nat.le_trans (steady_minted.after (fun _ _ _ => Nat.le_refl _) _ later started) lasting
    have roster := (Roster.carried deployment).after (Roster.start supply) lastingNow
    rw [whole] at roster
    have known : run ∈ started.underWay := by simp [under]
    have kin := roster.kin (met_of_run known) started.requests
    refine ⟨owned, run, owns, Except.ok.inj answered, under, permits, ?_⟩
    by_cases unreachable : deployment.collector = .unreachable
    · have stranded := (Stranded.carried unreachable).after (Stranded.start supply) lastingNow
      rw [whole] at stranded
      have begun : Stranded { deployment with access } _ started.underWay started.requests
          started.supply :=
        { stranded with
          unchanged := by
            intro moment isPast
            rw [Moment.left, Pipeline.step_access]
            exact stranded.unchanged moment isPast }
      have carried : Carried { deployment with access } (Stranded { deployment with access }) :=
        Stranded.carried unreachable
      exact carried.confines Stranded.heldBy kin begun later lasting
    · have engaged := (Engaged.carried unreachable).after (Engaged.start supply) lastingNow
      rw [whole] at engaged
      have carried : Carried { deployment with access } Engaged := Engaged.carried unreachable
      exact carried.confines Engaged.heldBy kin engaged later lasting

/-- Callers see and start only what they own, whatever the store holds. A listing that succeeds was
asked for owned groups, shows exactly these, or all owned ones if it was asked for none, and shows
under each of them its own observations only. Whoever asks for a group that is not owned is denied,
and nothing changes. A run that is accepted covers owned groups, and whatever happens later, even if
other groups are owned then, nothing else is ever held under its identifiers or asked for. -/
theorem callers_reach_owned_groups (deployment : Deployment) :
    (∀ changes books requested listing after, books.store = Store.ofChanges changes →
      (listObservations deployment requested).run.run books = (.ok listing, after) →
      ∃ owned, Owns deployment owned ∧ (∀ group ∈ requested, group ∈ owned) ∧
        listing.map GroupObservations.resourceGroupName =
          (NameSet.ofNames (if requested = [] then owned else requested)).names ∧
        ∀ entry ∈ listing, ∀ rule ∈ entry.rulesObservations, ∀ observation ∈ rule.observations,
          observation.groupName = entry.resourceGroupName) ∧
    (∀ owned requested group, Owns deployment owned → group ∈ requested → group ∉ owned →
      ∃ denied ∈ requested, denied ∉ owned ∧ ∀ books,
        (collectAndScan deployment requested).run.run books =
          (.error (.accessDenied ("resource group " ++ denied ++ " is not accessible")), books) ∧
        (listObservations deployment requested).run.run books =
          (.error (.accessDenied ("resource group " ++ denied ++ " is not accessible")), books)) ∧
    (∀ access supply before later requested ids started,
      (collectAndScan deployment requested).run.run
        ((Books.fresh supply).after deployment before) = (.ok ids, started) →
      (started.after { deployment with access } later).supply.minted ≤ 2 ^ 128 →
      ∃ owned run, Owns deployment owned ∧ ids = Pipeline.runIds run ∧
        started.underWay = ((Books.fresh supply).after deployment before).underWay ++ [run] ∧
        (∀ group ∈ run.groups, group ∈ owned) ∧
        (∀ moment ∈ started.moments { deployment with access } later,
          moment.books.requests.Confines run run.groups ∧
            ∀ kind, moment.run.id kind = run.id kind → moment.run.groups = run.groups) ∧
        (started.after { deployment with access } later).requests.Confines run run.groups) := by
  refine ⟨?_, ?_, ?_⟩
  · intro changes books requested listing after content ran
    have placed : books.store.Placed := content ▸ Store.placed_ofChanges changes
    exact listing_within_owned placed ran
  · intro owned requested group owns asked foreign
    exact owns.denies asked foreign
  · intro access supply before later requested ids started accepted lasting
    obtain ⟨owned, run, owns, known, under, permits, confined⟩ :=
      accepted_claims_owned accepted lasting
    exact ⟨owned, run, owns, known, under, permitted_within permits, confined⟩

/-! Two groups, one of them owned. -/
namespace Fenced

def deployment : Deployment where
  inventory := ⟨[Resource.group "g1", Resource.group "g2"]⟩
  access := .owned ["g1"]
  rules := []
  contacts := default
  notificationInterval := .zero
  sourceSystem := "CloudAudit"

def supply : Supply := { now := ⟨0, 0⟩ }

def changes : List StoreChange :=
  [.addObservations (["g1", "g2"].map (Collector.report "c"))]

def shelf : Books := { Books.fresh supply with store := .ofChanges changes }

theorem owns : Owns deployment ["g1"] := fun _ => rfl

theorem accepted : (collectAndScan deployment []).run.run (Books.fresh supply) =
    (.ok (Pipeline.runIds ((Books.fresh supply).nextRun ["g1"])),
      (Books.fresh supply).withRuns [(Books.fresh supply).nextRun ["g1"]]) :=
  rfl

theorem lists : ((listObservations deployment []).run.run shelf).1.toOption.isSome = true ∧
    (((Books.fresh supply).withRuns [(Books.fresh supply).nextRun ["g1"]]).after
      { deployment with access := .owned ["g2"] } [.turn 0, .turn 0]).supply.minted ≤ 2 ^ 128 := by
  decide +kernel

theorem only_the_owned_group :
    (∃ listing after, (listObservations deployment []).run.run shelf = (.ok listing, after) ∧
      listing.map GroupObservations.resourceGroupName = ["g1"]) ∧
    (collectAndScan deployment ["g1", "g2"]).run.run shelf =
      (.error (.accessDenied "resource group g2 is not accessible"), shelf) ∧
    ∃ run : Run, (((Books.fresh supply).withRuns [(Books.fresh supply).nextRun ["g1"]]).after
      { deployment with access := .owned ["g2"] } [.turn 0, .turn 0]).requests.Confines
        run ["g1"] ∧ run.groups = ["g1"] := by
  obtain ⟨shows, denies, claims⟩ := callers_reach_owned_groups deployment
  refine ⟨?_, ?_, ?_⟩
  · cases ran : (listObservations deployment []).run.run shelf with
    | mk answer after =>
      cases answer with
      | error error => exact absurd lists.1 (by simp [ran, Except.toOption])
      | ok listing =>
        obtain ⟨owned, same, -, names, -⟩ := shows changes shelf [] listing after rfl ran
        obtain rfl : owned = ["g1"] :=
          Except.ok.inj (Prod.mk.inj ((same shelf).symm.trans (owns shelf))).1
        exact ⟨listing, after, rfl, names⟩
  · obtain ⟨denied, asked, foreign, refused⟩ :=
      denies ["g1"] ["g1", "g2"] "g2" owns (by decide) (by decide)
    obtain rfl : denied = "g2" := by
      simp only [List.mem_cons, List.not_mem_nil, or_false] at asked foreign
      exact asked.resolve_left foreign
    exact (refused shelf).1
  · obtain ⟨owned, run, -, -, under, -, -, confined⟩ :=
      claims (.owned ["g2"]) supply [] [.turn 0, .turn 0] [] _ _ accepted lists.2
    obtain rfl : (Books.fresh supply).nextRun ["g1"] = run := by
      simpa [Books.withRuns, Books.after, Books.fresh] using under
    exact ⟨_, confined, rfl⟩

end Fenced

end Service

end CloudAudit
