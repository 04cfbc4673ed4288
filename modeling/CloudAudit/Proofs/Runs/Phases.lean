import CloudAudit.Proofs.Runs.Engagement
/-!
# The order of phases

A run goes through its phases in one order, whatever fails, and is the same run in all of them. So
it works on what it claimed once for each kind of work.
-/
set_option autoImplicit false

namespace CloudAudit

namespace Phase

/-- Which phase may come right after which. -/
inductive Leads : Phase → Phase → Prop
  | starts (skeletons : List Resource) : Leads .starting (.claimingCollect skeletons)
  | strands : Leads .starting .finished
  | claimsCollect (skeletons : List Resource) (claim : Claim) :
    Leads (.claimingCollect skeletons) (.snapshotting skeletons claim)
  | snapshots (skeletons : List Resource) (claim : Claim) :
    Leads (.snapshotting skeletons claim) (.releasingCollect skeletons claim)
  | releasesCollect (skeletons : List Resource) (claim : Claim) :
    Leads (.releasingCollect skeletons claim) (.gathering skeletons)
  | gathers (skeletons : List Resource) (collected : List Observation) :
    Leads (.gathering skeletons) (.claimingScan skeletons collected)
  | claimsScan (skeletons : List Resource) (collected : List Observation) (claim : Claim) :
    Leads (.claimingScan skeletons collected) (.checking skeletons collected claim)
  | checks (skeletons : List Resource) (collected scanned : List Observation) (claim : Claim) :
    Leads (.checking skeletons collected claim) (.releasingScan collected scanned claim)
  | releasesScan (collected scanned : List Observation) (claim : Claim) :
    Leads (.releasingScan collected scanned claim) (.flushing collected scanned)
  | skips (collected scanned : List Observation) (claim : Claim) :
    Leads (.releasingScan collected scanned claim) (.dispatching collected [])
  | flushes (collected scanned : List Observation) :
    Leads (.flushing collected scanned) (.dispatching collected scanned)
  | dispatches (collected scanned : List Observation) :
    Leads (.dispatching collected scanned) .finished
  | stays : Leads .finished .finished

def unworked (phase : Phase) (kind : OperationKind) : Bool :=
  phase.awaits kind || (phase.due? kind).isSome

/-- What is still to be done after a phase was so before, and the phase did not do it. -/
theorem Leads.unworked {phase next : Phase} (leads : phase.Leads next) {kind : OperationKind}
    (later : next.unworked kind = true) :
    phase.unworked kind = true ∧ phase.due? kind = none := by
  cases leads <;> cases kind <;> first | exact ⟨rfl, rfl⟩ | cases later

theorem unworked_of_due? {phase : Phase} {kind : OperationKind} (due : phase.due? kind ≠ none) :
    phase.unworked kind = true := by
  rw [Phase.unworked, Option.isSome_iff_ne_none.2 due, Bool.or_true]

end Phase

namespace Pipeline

theorem step_leads (deployment : Deployment) (run : Run) (books : Books) :
    ∃ phase, ((step deployment run).run books).1 = { run with phase } ∧ run.phase.Leads phase := by
  obtain ⟨collectId, scanId, groups, phase⟩ := run
  cases phase with
  | starting =>
    simp only [step, StateT.run_bind]
    cases (preCollect deployment collectId).run.run books with
    | mk answer after =>
      cases answer with
      | ok skeletons => exact ⟨_, rfl, .starts skeletons⟩
      | error error => exact ⟨_, rfl, .strands⟩
  | claimingCollect skeletons => exact ⟨_, rfl, .claimsCollect skeletons _⟩
  | snapshotting skeletons claim =>
    obtain ⟨after, ran, -⟩ :=
      step_snapshots deployment books collectId scanId groups skeletons claim
    exact ⟨_, congrArg Prod.fst ran, .snapshots skeletons claim⟩
  | releasingCollect skeletons claim => exact ⟨_, rfl, .releasesCollect skeletons claim⟩
  | gathering skeletons =>
    obtain ⟨collected, ran⟩ := step_gathering deployment books collectId scanId groups skeletons
    exact ⟨_, congrArg Prod.fst ran, .gathers skeletons collected⟩
  | claimingScan skeletons collected => exact ⟨_, rfl, .claimsScan skeletons collected _⟩
  | checking skeletons collected claim =>
    obtain ⟨scanned, after, ran, -⟩ :=
      step_checks deployment books collectId scanId groups skeletons collected claim
    exact ⟨_, congrArg Prod.fst ran, .checks skeletons collected scanned claim⟩
  | releasingScan collected scanned claim =>
    rw [step_releasingScan]
    refine ⟨_, rfl, ?_⟩
    split
    · exact .skips collected scanned claim
    · exact .releasesScan collected scanned claim
  | flushing collected scanned => exact ⟨_, rfl, .flushes collected scanned⟩
  | dispatching collected scanned =>
    obtain ⟨after, ran, -⟩ :=
      step_dispatching deployment books collectId scanId groups collected scanned
    exact ⟨_, congrArg Prod.fst ran, .dispatches collected scanned⟩
  | finished => exact ⟨_, rfl, .stays⟩

theorem step_same (deployment : Deployment) (run : Run) (books : Books) :
    ∃ phase, ((step deployment run).run books).1 = { run with phase } := by
  obtain ⟨phase, next, -⟩ := step_leads deployment run books
  exact ⟨phase, next⟩

end Pipeline

theorem Roster.carried (deployment : Deployment) :
    Carried deployment fun past runs _ supply => Roster past runs supply where
  perm := Roster.perm
  step := by
    intro past run others books roster
    obtain ⟨phase, next⟩ := Pipeline.step_same deployment run books
    rw [next]
    exact (roster.step phase books).minted (steady_minted.step deployment run books)
  leave roster _ := roster.leave
  status roster _ _ := roster
  minted roster more := roster.minted more
  starts := Roster.starts

/-- Whether two moments work on the same kind of work of the same run. -/
def Moment.WorksLike (one other : Moment) : Prop :=
  ∃ kind, one.run.phase.due? kind ≠ none ∧ other.run.phase.due? kind ≠ none ∧
    one.run.id kind = other.run.id kind

/-- No run does the same kind of work twice, and what is still to be done was not done before. -/
structure WorksOnce (past : List Moment) (runs : List Run) (_requests : Requests)
    (supply : Supply) : Prop where
  roster : Roster past runs supply
  once : past.Pairwise fun one other => ¬ one.WorksLike other
  undone : ∀ run ∈ runs, ∀ kind, run.phase.unworked kind = true →
    ∀ moment ∈ past, moment.run.phase.due? kind ≠ none → moment.run.id kind ≠ run.id kind

namespace WorksOnce

theorem start (supply : Supply) : WorksOnce [] [] {} supply where
  roster := .start supply
  once := .nil
  undone := by simp

theorem step {past : List Moment} {run : Run} {others : List Run} {books after : Books}
    {phase : Phase} (works : WorksOnce past (run :: others) books.requests books.supply)
    (leads : run.phase.Leads phase) (minted : books.supply.minted ≤ after.supply.minted) :
    WorksOnce (past ++ [⟨run, books⟩]) ({ run with phase } :: others) after.requests
      after.supply where
  roster := (works.roster.step phase books).minted minted
  once := by
    refine List.pairwise_append.2 ⟨works.once, List.pairwise_singleton _ _, ?_⟩
    rintro one isPast _ isNow ⟨kind, oneWorks, runWorks, same⟩
    rw [List.mem_singleton] at isNow
    subst isNow
    exact works.undone run List.mem_cons_self kind (Phase.unworked_of_due? runWorks) one isPast
      oneWorks same
  undone := by
    intro one isRun kind later moment isMoment worked
    rcases List.mem_cons.1 isRun with rfl | isOther
    · obtain ⟨before, idle⟩ := leads.unworked later
      rcases List.mem_append.1 isMoment with isPast | isNow
      · exact works.undone run List.mem_cons_self kind before moment isPast worked
      · rw [List.mem_singleton] at isNow
        subst isNow
        exact absurd idle worked
    · rcases List.mem_append.1 isMoment with isPast | isNow
      · exact works.undone one (List.mem_cons_of_mem _ isOther) kind later moment isPast worked
      · rw [List.mem_singleton] at isNow
        subst isNow
        exact (works.roster.apart isOther kind).symm

theorem carried (deployment : Deployment) : Carried deployment WorksOnce where
  perm works same :=
    { roster := works.roster.perm same
      once := works.once
      undone := fun run isRun => works.undone run (same.mem_iff.2 isRun) }
  step := by
    intro past run others books works
    obtain ⟨phase, next, leads⟩ := Pipeline.step_leads deployment run books
    rw [next]
    exact works.step leads (steady_minted.step deployment run books)
  leave works _ :=
    { roster := works.roster.leave
      once := works.once
      undone := fun run isOther => works.undone run (List.mem_cons_of_mem _ isOther) }
  status works _ _ := { works with }
  minted works more := { works with roster := works.roster.minted more }
  starts := by
    intro past runs books works enough groups
    refine { roster := works.roster.starts enough groups, once := works.once, undone := ?_ }
    intro run isRun kind later moment isPast worked same
    rcases List.mem_cons.1 isRun with rfl | isOld
    · have issued := works.roster.issued moment.run (met_of_moment isPast) kind
      exact books.nextRun_new enough groups kind (same ▸ issued)
    · exact works.undone run isOld kind later moment isPast worked same

end WorksOnce

end CloudAudit
