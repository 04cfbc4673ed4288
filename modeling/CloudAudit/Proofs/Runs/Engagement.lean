import CloudAudit.Proofs.Requests.Completion
import CloudAudit.Proofs.Runs.Histories
/-!
# Claims of overlapping runs

A run takes each of its two claims once, works on what was granted, and gives the claim back. So at
every point the claims of the runs under way account for every group that is held and for every
request that runs, and a run that is no longer under way has ended both of its requests.
-/
set_option autoImplicit false

namespace CloudAudit

namespace Phase

/-- The claim on a kind of work that a run holds. -/
def claim? : Phase → OperationKind → Option Claim
  | .snapshotting _ claim, .collect | .releasingCollect _ claim, .collect
  | .checking _ _ claim, .scan | .releasingScan _ _ claim, .scan => some claim
  | _, _ => none

/-- The claim whose work is still to be done. -/
def due? : Phase → OperationKind → Option Claim
  | .snapshotting _ claim, .collect | .checking _ _ claim, .scan => some claim
  | _, _ => none

/-- The kind of work that a run asks for next. -/
def asks? : Phase → Option OperationKind
  | .claimingCollect _ => some .collect
  | .claimingScan .. => some .scan
  | _ => none

/-- Whether a run has yet to ask for a kind of work. -/
def awaits : Phase → OperationKind → Bool
  | .starting, _ | .claimingCollect _, _ => true
  | .snapshotting .., .scan | .releasingCollect .., .scan | .gathering _, .scan
  | .claimingScan .., .scan => true
  | _, _ => false

/-- Whether a run in a phase that comes to another one asks for each kind of work in its time. -/
def Asks (phase next : Phase) : Prop :=
  ∀ kind, next.awaits kind = (phase.awaits kind && phase.asks? != some kind)

section

variable {phase : Phase} {kind other : OperationKind} {claim found : Claim}

theorem claim?_of_due? (due : phase.due? kind = some claim) : phase.claim? kind = some claim := by
  cases phase <;> cases kind <;> first | exact due | cases due

theorem eq_of_claim? (held : phase.claim? kind = some claim)
    (same : phase.claim? other = some found) : other = kind ∧ found = claim := by
  cases phase <;> cases kind <;> cases other <;> simp_all [claim?]

theorem claim?_of_asks? (asks : phase.asks? = some kind) (other : OperationKind) :
    phase.claim? other = none := by
  cases phase <;> first | rfl | cases asks

theorem awaits_of_asks? (asks : phase.asks? = some kind) : phase.awaits kind = true := by
  cases phase <;> cases asks <;> rfl

end

end Phase

theorem Run.phase_of_isFinished {run : Run} (finished : run.isFinished = true) :
    run.phase = .finished := by
  simpa [isFinished] using finished

theorem Run.claim?_of_isFinished {run : Run} (finished : run.isFinished = true)
    (kind : OperationKind) : run.phase.claim? kind = none := by
  rw [phase_of_isFinished finished]
  rfl

def Run.id (run : Run) : OperationKind → String
  | .collect => run.collectId
  | .scan => run.scanId

namespace Pipeline

/-- What a phase of a run does with its claims. -/
inductive Deals (run : Run) (books after : Books) (phase : Phase) : Prop where
  | asks (kind : OperationKind) (asked : run.phase.asks? = some kind)
      (taken : ∀ other claim, phase.claim? other = some claim ↔
        other = kind ∧
          claim = (Claim.acquire books.requests kind (run.id kind) run.groups).1)
      (due : ∀ other, phase.due? other = phase.claim? other)
      (changed : after.requests =
        (Claim.acquire books.requests kind (run.id kind) run.groups).2)
  | works (kind : OperationKind) (claim : Claim) (asked : run.phase.asks? = none)
      (due : run.phase.due? kind = some claim)
      (kept : ∀ other, phase.claim? other = run.phase.claim? other)
      (changed : after.requests = books.requests)
  | releases (kind : OperationKind) (claim : Claim) (asked : run.phase.asks? = none)
      (held : run.phase.claim? kind = some claim) (worked : run.phase.due? kind = none)
      (gave : ∀ other, phase.claim? other = none)
      (changed : after.requests = claim.release books.requests)
  | idles (asked : run.phase.asks? = none) (free : ∀ other, run.phase.claim? other = none)
      (still : ∀ other, phase.claim? other = none) (changed : after.requests = books.requests)

theorem flush_sameRequests (books : Books) :
    (Books.flush.run.run books).2.requests = books.requests := by
  rw [Books.flush, Books.attempt_bind_run]
  split <;> rfl

section

variable (deployment : Deployment) (books : Books) (collectId scanId : String)
  (groups : List String) (skeletons : List Resource)

theorem step_snapshots (claim : Claim) :
    ∃ after,
      (step deployment ⟨collectId, scanId, groups, .snapshotting skeletons claim⟩).run books =
        (⟨collectId, scanId, groups, .releasingCollect skeletons claim⟩, after) ∧
      after.requests = books.requests := by
  obtain ⟨kind, id, requested, granted⟩ := claim
  cases granted with
  | nil => exact ⟨books, rfl, rfl⟩
  | cons first more =>
    refine ⟨_, rfl, ?_⟩
    exact collecting_sameRequests.collect deployment collectId (first :: more) skeletons books

theorem step_checks (collected : List Observation) (claim : Claim) :
    ∃ scanned after,
      (step deployment
          ⟨collectId, scanId, groups, .checking skeletons collected claim⟩).run books =
        (⟨collectId, scanId, groups, .releasingScan collected scanned claim⟩, after) ∧
      after.requests = books.requests := by
  obtain ⟨kind, id, requested, granted⟩ := claim
  cases granted with
  | nil => exact ⟨[], books, rfl, rfl⟩
  | cons first more =>
    refine ⟨_, _, rfl, ?_⟩
    exact collecting_sameRequests.toScanning.checkRules deployment scanId collectId (first :: more)
      skeletons books

end

theorem step_deals {deployment : Deployment} (reachable : deployment.collector ≠ .unreachable)
    (run : Run) (books : Books) :
    ∃ phase, ((step deployment run).run books).1 = { run with phase } ∧
      Deals run books ((step deployment run).run books).2 phase ∧ run.phase.Asks phase := by
  obtain ⟨collectId, scanId, groups, phase⟩ := run
  cases phase with
  | starting =>
    have known := Collector.preCollect_reachable reachable collectId books
    simp only [step, StateT.run_bind, known]
    exact ⟨_, rfl, .idles rfl (fun _ => rfl) (fun _ => rfl) rfl, fun kind => by cases kind <;> rfl⟩
  | claimingCollect skeletons =>
    refine ⟨.snapshotting skeletons (Claim.acquire books.requests .collect collectId groups).1,
      rfl, .asks .collect rfl ?_ ?_ rfl, fun kind => by cases kind <;> rfl⟩
    · intro other claim
      cases other <;> simp [Phase.claim?, Run.id, eq_comm]
    · intro other
      cases other <;> rfl
  | snapshotting skeletons claim =>
    obtain ⟨after, ran, same⟩ :=
      step_snapshots deployment books collectId scanId groups skeletons claim
    rw [ran]
    exact ⟨.releasingCollect skeletons claim, rfl,
      .works .collect claim rfl rfl (fun other => by cases other <;> rfl) same,
      fun kind => by cases kind <;> rfl⟩
  | releasingCollect skeletons claim =>
    exact ⟨_, rfl, .releases .collect claim rfl rfl rfl (fun _ => rfl) rfl,
      fun kind => by cases kind <;> rfl⟩
  | gathering skeletons =>
    obtain ⟨collected, ran⟩ := step_gathering deployment books collectId scanId groups skeletons
    rw [ran]
    exact ⟨_, rfl, .idles rfl (fun _ => rfl) (fun _ => rfl) rfl, fun kind => by cases kind <;> rfl⟩
  | claimingScan skeletons collected =>
    refine ⟨.checking skeletons collected (Claim.acquire books.requests .scan scanId groups).1,
      rfl, .asks .scan rfl ?_ ?_ rfl, fun kind => by cases kind <;> rfl⟩
    · intro other claim
      cases other <;> simp [Phase.claim?, Run.id, eq_comm]
    · intro other
      cases other <;> rfl
  | checking skeletons collected claim =>
    obtain ⟨scanned, after, ran, same⟩ :=
      step_checks deployment books collectId scanId groups skeletons collected claim
    rw [ran]
    exact ⟨.releasingScan collected scanned claim, rfl,
      .works .scan claim rfl rfl (fun other => by cases other <;> rfl) same,
      fun kind => by cases kind <;> rfl⟩
  | releasingScan collected scanned claim =>
    rw [step_releasingScan]
    refine ⟨_, rfl, .releases .scan claim rfl rfl rfl ?_ rfl, ?_⟩
    · intro other
      split <;> rfl
    · intro kind
      split <;> cases kind <;> rfl
  | flushing collected scanned =>
    refine ⟨.dispatching collected scanned, rfl, .idles rfl (fun _ => rfl) (fun _ => rfl) ?_,
      fun kind => by cases kind <;> rfl⟩
    exact flush_sameRequests books
  | dispatching collected scanned =>
    obtain ⟨after, ran, undisturbed⟩ :=
      step_dispatching deployment books collectId scanId groups collected scanned
    rw [ran]
    exact ⟨.finished, rfl, .idles rfl (fun _ => rfl) (fun _ => rfl) undisturbed.requests,
      fun kind => by cases kind <;> rfl⟩
  | finished =>
    exact ⟨.finished, rfl, .idles rfl (fun _ => rfl) (fun _ => rfl) rfl,
      fun kind => by cases kind <;> rfl⟩

end Pipeline

/-! ## Who is who -/

/-- The runs under way and those of past moments. -/
def met (past : List Moment) (runs : List Run) : List Run :=
  past.map Moment.run ++ runs

section

variable {past : List Moment} {moment : Moment} {run one : Run} {runs others : List Run}

theorem met_of_run (member : run ∈ runs) : run ∈ met past runs :=
  List.mem_append_right _ member

theorem met_of_moment (isPast : moment ∈ past) : moment.run ∈ met past runs :=
  List.mem_append_left _ (List.mem_map_of_mem isPast)

theorem mem_met_cons : one ∈ met past (run :: others) ↔ one = run ∨ one ∈ met past others := by
  simp only [met, List.mem_append, List.mem_cons]
  exact or_left_comm

theorem mem_met_snoc :
    one ∈ met (past ++ [moment]) runs ↔ one = moment.run ∨ one ∈ met past runs := by
  simp only [met, List.map_append, List.map_cons, List.map_nil, List.mem_append,
    List.mem_singleton]
  rw [or_right_comm, or_comm]

theorem mem_met_perm (same : runs.Perm others) : one ∈ met past others ↔ one ∈ met past runs := by
  simp only [met, List.mem_append, same.mem_iff]

end

/-- Whether two runs differ in nothing but their phases. -/
structure Run.Same (one other : Run) : Prop where
  collectId : one.collectId = other.collectId
  scanId : one.scanId = other.scanId
  groups : one.groups = other.groups

namespace Run.Same

variable {one other third : Run}

theorem of_phase (run : Run) (phase : Phase) : ({ run with phase } : Run).Same run :=
  ⟨rfl, rfl, rfl⟩

theorem refl (run : Run) : run.Same run :=
  ⟨rfl, rfl, rfl⟩

theorem symm (same : one.Same other) : other.Same one :=
  ⟨same.collectId.symm, same.scanId.symm, same.groups.symm⟩

theorem trans (first : one.Same other) (second : other.Same third) : one.Same third :=
  ⟨first.collectId.trans second.collectId, first.scanId.trans second.scanId,
    first.groups.trans second.groups⟩

theorem id (same : one.Same other) (kind : OperationKind) : one.id kind = other.id kind := by
  cases kind
  · exact same.collectId
  · exact same.scanId

end Run.Same

/-- Runs are told apart by each of their identifiers. -/
structure Roster (past : List Moment) (runs : List Run) (supply : Supply) : Prop where
  distinct : (runs.map Run.collectId).Nodup
  issued : ∀ run ∈ met past runs, ∀ kind, supply.Issued (run.id kind)
  alike : ∀ one ∈ met past runs, ∀ other ∈ met past runs, ∀ kind,
    one.id kind = other.id kind → one.Same other

theorem mem_met_step {past : List Moment} {run : Run} {others : List Run} {books : Books}
    {phase : Phase} {one : Run}
    (member : one ∈ met (past ++ [⟨run, books⟩]) ({ run with phase } :: others)) :
    ∃ known ∈ met past (run :: others), one.Same known := by
  have isRun : run ∈ met past (run :: others) := met_of_run List.mem_cons_self
  rcases mem_met_cons.1 member with rfl | member
  · exact ⟨run, isRun, .of_phase run phase⟩
  · rcases mem_met_snoc.1 member with rfl | isOld
    · exact ⟨one, isRun, .refl one⟩
    · exact ⟨one, mem_met_cons.2 (.inr isOld), .refl one⟩

theorem Books.nextRun_new (books : Books) (enough : books.supply.minted + 2 ≤ 2 ^ 128)
    (groups : List String) (kind : OperationKind) :
    ¬ books.supply.Issued ((books.nextRun groups).id kind) := by
  cases kind
  · exact Supply.not_issued (Nat.le_refl _) (by omega)
  · exact Supply.not_issued (Nat.le_succ _) (by omega)

namespace Roster

variable {past : List Moment} {run : Run} {runs others : List Run} {supply : Supply}

theorem start (supply : Supply) : Roster [] [] supply where
  distinct := .nil
  issued := by simp [met]
  alike := by simp [met]

theorem perm (roster : Roster past runs supply) (same : runs.Perm others) :
    Roster past others supply where
  distinct := (same.map Run.collectId).nodup_iff.1 roster.distinct
  issued one member := roster.issued one ((mem_met_perm same).1 member)
  alike one isOne other isOther :=
    roster.alike one ((mem_met_perm same).1 isOne) other ((mem_met_perm same).1 isOther)

theorem minted (roster : Roster past runs supply) {later : Supply}
    (more : supply.minted ≤ later.minted) : Roster past runs later where
  distinct := roster.distinct
  issued one member kind := (roster.issued one member kind).mono more
  alike := roster.alike

theorem step (roster : Roster past (run :: others) supply) (phase : Phase) (books : Books) :
    Roster (past ++ [⟨run, books⟩]) ({ run with phase } :: others) supply where
  distinct := roster.distinct
  issued one member kind := by
    obtain ⟨known, isKnown, same⟩ := mem_met_step member
    rw [same.id kind]
    exact roster.issued known isKnown kind
  alike one isOne other isOther kind sameId := by
    obtain ⟨first, isFirst, sameFirst⟩ := mem_met_step isOne
    obtain ⟨second, isSecond, sameSecond⟩ := mem_met_step isOther
    rw [sameFirst.id kind, sameSecond.id kind] at sameId
    exact sameFirst.trans ((roster.alike first isFirst second isSecond kind sameId).trans
      sameSecond.symm)

theorem leave (roster : Roster past (run :: others) supply) : Roster past others supply where
  distinct := (List.nodup_cons.1 roster.distinct).2
  issued one member := roster.issued one (mem_met_cons.2 (.inr member))
  alike one isOne other isOther :=
    roster.alike one (mem_met_cons.2 (.inr isOne)) other (mem_met_cons.2 (.inr isOther))

theorem starts {books : Books} (roster : Roster past runs books.supply)
    (enough : books.supply.minted + 2 ≤ 2 ^ 128) (groups : List String) :
    Roster past (books.nextRun groups :: runs)
      (books.withRuns [books.nextRun groups]).supply := by
  have new := books.nextRun_new enough groups
  constructor
  case distinct =>
    refine List.nodup_cons.2 ⟨?_, roster.distinct⟩
    intro again
    obtain ⟨old, isOld, same⟩ := List.mem_map.1 again
    have issued := roster.issued old (met_of_run isOld) .collect
    have sameId : old.id .collect = (books.nextRun groups).id .collect := same
    exact new .collect (sameId ▸ issued)
  case issued =>
    intro one member kind
    rcases mem_met_cons.1 member with rfl | isOld
    · cases kind
      · exact ⟨books.supply.minted, Nat.lt_add_of_pos_right (by decide), rfl⟩
      · exact ⟨books.supply.minted + 1, Nat.lt_succ_self _, rfl⟩
    · exact (roster.issued one isOld kind).mono (Nat.le_add_right _ 2)
  case alike =>
    intro one isOne other isOther kind same
    rcases mem_met_cons.1 isOne with rfl | oneOld <;>
      rcases mem_met_cons.1 isOther with rfl | otherOld
    · exact .refl _
    · exact absurd (same ▸ roster.issued other otherOld kind) (new kind)
    · exact absurd (same ▸ roster.issued one oneOld kind) (new kind)
    · exact roster.alike one oneOld other otherOld kind same

/-- A run shares no identifier with the other runs under way. -/
theorem apart (roster : Roster past (run :: others) supply) {other : Run}
    (member : other ∈ others) (kind : OperationKind) : other.id kind ≠ run.id kind := by
  intro same
  have alike := roster.alike other (met_of_run (List.mem_cons_of_mem _ member)) run
    (met_of_run List.mem_cons_self) kind same
  have again := List.mem_map_of_mem (f := Run.collectId) member
  rw [alike.collectId] at again
  exact (List.nodup_cons.1 roster.distinct).1 again

end Roster

/-! ## What a phase does to the requests -/

namespace Pipeline.Deals

variable {run : Run} {books after : Books} {phase : Phase} (deals : Deals run books after phase)
include deals

theorem sound (before : books.requests.Sound) : after.requests.Sound := by
  cases deals with
  | asks kind _ _ _ changed =>
    rw [changed]
    exact before.add kind _ _
  | works _ _ _ _ _ changed | idles _ _ _ changed =>
    rw [changed]
    exact before
  | releases _ claim _ _ _ _ changed =>
    rw [changed]
    exact before.finish claim.kind claim.id claim.requested

/-- Only asking for work registers a request, that of the run. -/
theorem registered (kind : OperationKind) (id : String) :
    after.requests.Registered kind id ↔
      books.requests.Registered kind id ∨ run.phase.asks? = some kind ∧ run.id kind = id := by
  cases deals with
  | asks other asked _ _ changed =>
    have added : (Claim.acquire books.requests other (run.id other) run.groups).2.Registered
        kind id ↔ _ := Requests.add_registered other kind (run.id other) run.groups id
    rw [changed, asked, added]
    refine or_congr_right ?_
    simp only [Prod.mk.injEq, Option.some.injEq]
    constructor
    · rintro ⟨rfl, rfl⟩
      exact ⟨rfl, rfl⟩
    · rintro ⟨rfl, rfl⟩
      exact ⟨rfl, rfl⟩
  | works _ _ asked _ _ changed | idles asked _ _ changed => simp [changed, asked]
  | releases _ claim asked _ _ _ changed =>
    have same : (claim.release books.requests).Registered kind id ↔ _ :=
      Requests.finish_registered claim.kind kind claim.id claim.requested id
    rw [changed, asked, same]
    simp

theorem extends_ (fresh : ∀ kind, run.phase.asks? = some kind →
    ¬ books.requests.Registered kind (run.id kind)) :
    Requests.Extends books.requests after.requests := by
  cases deals with
  | asks kind asked _ _ changed =>
    rw [changed]
    exact .add kind _ _ (fresh kind asked)
  | works _ _ _ _ _ changed | idles _ _ _ changed =>
    rw [changed]
    exact .refl _
  | releases _ claim _ _ _ _ changed =>
    rw [changed]
    exact .finish claim.kind claim.id claim.requested

end Pipeline.Deals

/-! ## The claims in force -/

/-- The claims that runs hold. -/
def Live (runs : List Run) (claim : Claim) : Prop :=
  ∃ run ∈ runs, ∃ kind, run.phase.claim? kind = some claim

section

variable {runs : List Run} {claim found : Claim} {kind : OperationKind}

theorem live_cons (run : Run) : Live (run :: runs) claim ↔
    (∃ kind, run.phase.claim? kind = some claim) ∨ Live runs claim := by
  simp [Live]

theorem live_of_free (run : Run) (free : ∀ kind, run.phase.claim? kind = none) :
    Live (run :: runs) claim ↔ Live runs claim := by
  simp [live_cons, free]

theorem live_of_held (run : Run) (held : run.phase.claim? kind = some claim) :
    Live (run :: runs) found ↔ found = claim ∨ Live runs found := by
  rw [live_cons]
  refine or_congr_left ⟨?_, ?_⟩
  · rintro ⟨other, same⟩
    exact (Phase.eq_of_claim? held same).2
  · rintro rfl
    exact ⟨kind, held⟩

end

/-- A claim of a run on a kind of work, on some of its groups. -/
structure Claim.IsOf (claim : Claim) (kind : OperationKind) (run : Run) : Prop where
  sort : claim.kind = kind
  owner : claim.id = run.id kind
  requested : claim.requested = run.groups
  granted : ∀ group ∈ claim.granted, group ∈ run.groups
  distinct : claim.granted.Nodup

theorem Claim.acquire_isOf (requests : Requests) (kind : OperationKind) (run : Run) :
    (acquire requests kind (run.id kind) run.groups).1.IsOf kind run := by
  have granted : (acquire requests kind (run.id kind) run.groups).1.granted = _ :=
    (requests.table kind).add_granted (run.id kind) run.groups
  refine ⟨rfl, rfl, rfl, ?_, ?_⟩
  · intro group member
    rw [granted, List.mem_eraseDups] at member
    exact (List.mem_filter.1 member).1
  · rw [granted]
    exact nodup_eraseDups _

theorem Claim.IsOf.same {claim : Claim} {kind : OperationKind} {run other : Run}
    (isOf : claim.IsOf kind run) (same : run.Same other) : claim.IsOf kind other where
  sort := isOf.sort
  owner := isOf.owner.trans (same.id kind)
  requested := isOf.requested.trans same.groups
  granted := same.groups ▸ isOf.granted
  distinct := isOf.distinct

/-- The runs under way and their claims account for the requests. -/
structure Engaged (past : List Moment) (runs : List Run) (requests : Requests)
    (supply : Supply) : Prop where
  roster : Roster past runs supply
  sound : requests.Sound
  accounts : Accounts requests (Live runs)
  own : ∀ run ∈ met past runs, ∀ kind claim, run.phase.claim? kind = some claim →
    claim.IsOf kind run
  running : ∀ kind id, (requests.table kind).statuses.get? id = some .running →
    ∃ claim, Live runs claim ∧ claim.kind = kind ∧ claim.id = id
  waiting : ∀ run ∈ runs, ∀ kind,
    run.phase.awaits kind = true ↔ ¬ requests.Registered kind (run.id kind)
  registered : ∀ kind id, requests.Registered kind id ↔
    ∃ ask ∈ past, ask.run.phase.asks? = some kind ∧ ask.run.id kind = id
  worked : ∀ run ∈ runs, ∀ kind claim, run.phase.claim? kind = some claim →
    run.phase.due? kind = none → ∃ work ∈ past, work.run.phase.due? kind = some claim
  /-- A run that is no longer under way asked for both kinds of work. -/
  followed : ∀ run ∈ met past runs, (∃ other ∈ runs, other.Same run) ∨
    ∀ kind, requests.Registered kind (run.id kind)

namespace Engaged

variable {past : List Moment} {run : Run} {runs others : List Run} {requests : Requests}
  {supply : Supply} {books after : Books} {phase : Phase}

theorem start (supply : Supply) : Engaged [] [] {} supply where
  roster := .start supply
  sound := RequestDesk.sound_start
  accounts := RequestDesk.balanced_start.accounts.congr (by simp [Live, RequestDesk.Holds])
  own := by simp [met]
  running := by
    intro kind id runs
    cases kind <;> cases runs
  waiting := by simp
  registered := by
    intro kind id
    cases kind <;> simp [Requests.Registered, ClaimTable.Registered, Requests.table, Table.contains]
  worked := by simp
  followed := by simp [met]

/-! ### One phase -/

section

variable (engaged : Engaged past (run :: others) books.requests books.supply)
  (deals : Pipeline.Deals run books after phase)
include engaged deals

omit deals in
theorem not_live {kind : OperationKind} {claim : Claim}
    (held : run.phase.claim? kind = some claim) : ¬ Live others claim := by
  rintro ⟨other, isOther, otherKind, otherHeld⟩
  have ofRun := engaged.own run (met_of_run List.mem_cons_self) kind claim held
  have ofOther := engaged.own other (met_of_run (List.mem_cons_of_mem _ isOther)) otherKind claim
    otherHeld
  obtain rfl : otherKind = kind := ofOther.sort.symm.trans ofRun.sort
  exact engaged.roster.apart isOther otherKind (ofOther.owner.symm.trans ofRun.owner)

omit deals in
theorem fresh (kind : OperationKind) (asks : run.phase.asks? = some kind) :
    ¬ books.requests.Registered kind (run.id kind) :=
  (engaged.waiting run List.mem_cons_self kind).1 (Phase.awaits_of_asks? asks)

theorem step_accounts : Accounts after.requests (Live ({ run with phase } :: others)) := by
  cases deals with
  | asks kind asked taken _ changed =>
    rw [changed]
    refine (engaged.accounts.acquire kind _ run.groups engaged.sound
      (engaged.fresh kind asked)).congr fun claim => ?_
    rw [live_of_free run (Phase.claim?_of_asks? asked),
      live_of_held { run with phase } ((taken kind _).2 ⟨rfl, rfl⟩)]
  | works _ _ _ _ kept changed =>
    rw [changed]
    refine engaged.accounts.congr fun claim => ?_
    simp only [live_cons, kept]
  | releases kind claim _ held _ gave changed =>
    have inForce : Live (run :: others) claim := (live_of_held run held).2 (.inl rfl)
    rw [changed]
    refine (engaged.accounts.release inForce).congr fun found => ?_
    rw [live_of_held run held, live_of_free { run with phase } gave]
    -- Without the claim itself the others remain, as no other run holds an equal one.
    constructor
    · rintro ⟨rfl | live, distinct⟩
      · exact absurd rfl distinct
      · exact live
    · intro live
      refine ⟨.inr live, ?_⟩
      rintro rfl
      exact engaged.not_live held live
  | idles _ free still changed =>
    rw [changed]
    refine engaged.accounts.congr fun claim => ?_
    rw [live_of_free run free, live_of_free { run with phase } still]

theorem step_running (kind : OperationKind) (id : String)
    (runs : (after.requests.table kind).statuses.get? id = some .running) :
    ∃ claim, Live ({ run with phase } :: others) claim ∧ claim.kind = kind ∧ claim.id = id := by
  cases deals with
  | asks other asked taken _ changed =>
    have live : ∀ found, Live ({ run with phase } :: others) found ↔ _ :=
      fun found => live_of_held { run with phase } ((taken other _).2 ⟨rfl, rfl⟩)
    have tableAfter : after.requests.table kind = _ :=
      (congrArg (·.table kind) changed).trans (Requests.add_table other kind _ run.groups)
    rw [tableAfter] at runs
    have old : (books.requests.table kind).statuses.get? id = some .running →
        ∃ claim, Live ({ run with phase } :: others) claim ∧ claim.kind = kind ∧
          claim.id = id := by
      intro ran
      obtain ⟨claim, held, named⟩ := engaged.running kind id ran
      rw [live_of_free run (Phase.claim?_of_asks? asked)] at held
      exact ⟨claim, (live claim).2 (.inr held), named⟩
    by_cases sameKind : kind = other
    · rw [if_pos sameKind, ClaimTable.add_statuses] at runs
      by_cases sameId : id = run.id other
      · exact ⟨_, (live _).2 (.inl rfl), sameKind.symm, sameId.symm⟩
      · rw [if_neg sameId, ← sameKind] at runs
        exact old runs
    · rw [if_neg sameKind] at runs
      exact old runs
  | works _ _ _ _ kept changed =>
    rw [changed] at runs
    simpa only [live_cons, kept] using engaged.running kind id runs
  | releases other claim _ held _ gave changed =>
    have known := engaged.accounts.registered claim ((live_of_held run held).2 (.inl rfl))
    have tableAfter : after.requests.table kind = _ :=
      (congrArg (·.table kind) changed).trans
        (Requests.finish_table claim.kind kind claim.id claim.requested)
    rw [tableAfter] at runs
    -- What runs after this phase ran before it, and it is not what was given back.
    have old : ¬ (kind = claim.kind ∧ id = claim.id) →
        (books.requests.table kind).statuses.get? id = some .running →
        ∃ claim, Live ({ run with phase } :: others) claim ∧ claim.kind = kind ∧
          claim.id = id := by
      intro distinct ran
      obtain ⟨found, inForce, rfl, rfl⟩ := engaged.running kind id ran
      rcases (live_of_held run held).1 inForce with rfl | live
      · exact absurd ⟨rfl, rfl⟩ distinct
      · exact ⟨found, (live_of_free { run with phase } gave).2 live, rfl, rfl⟩
    by_cases sameKind : kind = claim.kind
    · rw [if_pos sameKind, ClaimTable.finish_statuses] at runs
      by_cases sameId : id = claim.id
      · rw [if_pos ⟨known, sameId⟩] at runs
        cases runs
      · rw [if_neg fun ended => sameId ended.2, ← sameKind] at runs
        exact old (fun same => sameId same.2) runs
    · rw [if_neg sameKind] at runs
      exact old (fun same => sameKind same.1) runs
  | idles _ free still changed =>
    rw [changed] at runs
    obtain ⟨claim, held, named⟩ := engaged.running kind id runs
    rw [live_of_free run free] at held
    exact ⟨claim, (live_of_free { run with phase } still).2 held, named⟩

theorem step_own (one : Run) (member : one ∈ met (past ++ [⟨run, books⟩])
      ({ run with phase } :: others)) (kind : OperationKind) (claim : Claim)
    (held : one.phase.claim? kind = some claim) : claim.IsOf kind one := by
  have isRun : run ∈ met past (run :: others) := met_of_run List.mem_cons_self
  rcases mem_met_cons.1 member with rfl | member
  · have same := (Run.Same.of_phase run phase).symm
    cases deals with
    | asks other _ taken _ _ =>
      obtain ⟨rfl, rfl⟩ := (taken kind claim).1 held
      exact (Claim.acquire_isOf books.requests kind run).same same
    | works _ _ _ _ kept _ =>
      rw [kept] at held
      exact (engaged.own run isRun kind claim held).same same
    | releases _ _ _ _ _ gave _ =>
      rw [gave] at held
      cases held
    | idles _ _ still _ =>
      rw [still] at held
      cases held
  · rcases mem_met_snoc.1 member with rfl | isOld
    · exact engaged.own one isRun kind claim held
    · exact engaged.own one (mem_met_cons.2 (.inr isOld)) kind claim held

theorem step_worked (one : Run) (member : one ∈ { run with phase } :: others)
    (kind : OperationKind) (claim : Claim) (held : one.phase.claim? kind = some claim)
    (done : one.phase.due? kind = none) :
    ∃ work ∈ past ++ [⟨run, books⟩], work.run.phase.due? kind = some claim := by
  rcases List.mem_cons.1 member with rfl | isOther
  · cases deals with
    | asks _ _ _ due _ =>
      rw [due, held] at done
      cases done
    | works other found _ due kept _ =>
      rw [kept] at held
      obtain ⟨rfl, rfl⟩ := Phase.eq_of_claim? (Phase.claim?_of_due? due) held
      exact ⟨⟨run, books⟩, by simp, due⟩
    | releases _ _ _ _ _ gave _ =>
      rw [gave] at held
      cases held
    | idles _ _ still _ =>
      rw [still] at held
      cases held
  · obtain ⟨work, isPast, due⟩ :=
      engaged.worked one (List.mem_cons_of_mem _ isOther) kind claim held done
    exact ⟨work, List.mem_append_left _ isPast, due⟩

theorem step_engaged (advances : run.phase.Asks phase)
    (minted : books.supply.minted ≤ after.supply.minted) :
    Engaged (past ++ [⟨run, books⟩]) ({ run with phase } :: others) after.requests
      after.supply where
  roster := (engaged.roster.step phase books).minted minted
  sound := deals.sound engaged.sound
  accounts := engaged.step_accounts deals
  own := engaged.step_own deals
  running := engaged.step_running deals
  waiting := by
    intro one member kind
    rw [deals.registered]
    rcases List.mem_cons.1 member with rfl | isOther
    · have waits := engaged.waiting run List.mem_cons_self kind
      have sameRun := (Run.Same.of_phase run phase).id kind
      rw [advances kind, sameRun]
      simp only [Bool.and_eq_true, bne_iff_ne, waits, and_true, not_or]
    · have waits := engaged.waiting one (List.mem_cons_of_mem _ isOther) kind
      have apart := engaged.roster.apart isOther kind
      simp [waits, Ne.symm apart]
  registered := by
    intro kind id
    rw [deals.registered, engaged.registered]
    simp [or_and_right, exists_or]
  worked := engaged.step_worked deals
  followed := by
    intro one member
    obtain ⟨known, isKnown, same⟩ := mem_met_step member
    rcases engaged.followed known isKnown with ⟨other, isOther, alike⟩ | ended
    · left
      rcases List.mem_cons.1 isOther with rfl | isOther
      · exact ⟨{ other with phase }, List.mem_cons_self,
          (Run.Same.of_phase other phase).trans (alike.trans same.symm)⟩
      · exact ⟨other, List.mem_cons_of_mem _ isOther, alike.trans same.symm⟩
    · right
      intro kind
      rw [deals.registered, same.id kind]
      exact .inl (ended kind)

end

/-! ### Whatever else happens -/

theorem perm (engaged : Engaged past runs requests supply) (same : runs.Perm others) :
    Engaged past others requests supply := by
  have live : ∀ claim, Live runs claim ↔ Live others claim := by
    intro claim
    simp only [Live, same.mem_iff]
  exact {
    roster := engaged.roster.perm same
    sound := engaged.sound
    accounts := engaged.accounts.congr live
    own := fun one member => engaged.own one ((mem_met_perm same).1 member)
    running := by simpa only [live] using engaged.running
    waiting := fun one member => engaged.waiting one (same.mem_iff.2 member)
    registered := engaged.registered
    worked := fun one member => engaged.worked one (same.mem_iff.2 member)
    followed := by
      intro one member
      rcases engaged.followed one ((mem_met_perm same).1 member) with
        ⟨other, isOther, alike⟩ | ended
      · exact .inl ⟨other, same.mem_iff.1 isOther, alike⟩
      · exact .inr ended }

theorem leave (engaged : Engaged past (run :: others) requests supply)
    (finished : run.isFinished = true) : Engaged past others requests supply := by
  have live : ∀ claim, Live (run :: others) claim ↔ Live others claim :=
    fun claim => live_of_free run (Run.claim?_of_isFinished finished)
  exact {
    roster := engaged.roster.leave
    sound := engaged.sound
    accounts := engaged.accounts.congr live
    own := fun one member => engaged.own one (mem_met_cons.2 (.inr member))
    running := by simpa only [live] using engaged.running
    waiting := fun one isOther => engaged.waiting one (List.mem_cons_of_mem _ isOther)
    registered := engaged.registered
    worked := fun one isOther => engaged.worked one (List.mem_cons_of_mem _ isOther)
    followed := by
      intro one member
      rcases engaged.followed one (mem_met_cons.2 (.inr member)) with
        ⟨other, isOther, alike⟩ | asked
      · rcases List.mem_cons.1 isOther with same | isOther
        · -- The run that leaves asked for both kinds of work before it finished.
          right
          intro kind
          have waits := engaged.waiting run List.mem_cons_self kind
          rw [Run.phase_of_isFinished finished] at waits
          rw [← alike.id kind, same]
          by_contra unknown
          exact Bool.noConfusion (waits.2 unknown)
        · exact .inl ⟨other, isOther, alike⟩
      · exact .inr asked }

theorem status (engaged : Engaged past runs requests supply) (kind : OperationKind) (id : String) :
    Engaged past runs (requests.status kind id).2 supply := by
  have registered : ∀ other name,
      (requests.status kind id).2.Registered other name ↔ requests.Registered other name :=
    fun other name => Requests.status_registered kind other id engaged.sound name
  exact {
    roster := engaged.roster
    sound := engaged.sound.status kind id
    accounts := engaged.accounts.status engaged.sound kind id
    own := engaged.own
    running := by
      intro other name runs
      refine engaged.running other name ?_
      rw [Requests.status_table] at runs
      split at runs
      · rename_i same
        subst same
        exact ((ClaimTable.status_settles id (engaged.sound other).tracked).running_iff name).1 runs
      · exact runs
    waiting := fun one member other => by rw [registered, engaged.waiting one member other]
    registered := fun other name => by rw [registered, engaged.registered]
    worked := engaged.worked
    followed := by
      intro one member
      simp only [registered]
      exact engaged.followed one member }

theorem minted (engaged : Engaged past runs requests supply) {later : Supply}
    (more : supply.minted ≤ later.minted) : Engaged past runs requests later :=
  { engaged with roster := engaged.roster.minted more }

theorem starts (engaged : Engaged past runs books.requests books.supply)
    (enough : books.supply.minted + 2 ≤ 2 ^ 128) (groups : List String) :
    Engaged past (books.nextRun groups :: runs) books.requests
      (books.withRuns [books.nextRun groups]).supply := by
  have live : ∀ claim, Live (books.nextRun groups :: runs) claim ↔ Live runs claim :=
    fun claim => live_of_free (books.nextRun groups) fun _ => rfl
  have issued : ∀ kind id, books.requests.Registered kind id → books.supply.Issued id := by
    intro kind id known
    obtain ⟨ask, isPast, -, rfl⟩ := (engaged.registered kind id).1 known
    exact engaged.roster.issued ask.run (met_of_moment isPast) kind
  exact {
    roster := engaged.roster.starts enough groups
    sound := engaged.sound
    accounts := engaged.accounts.congr fun claim => (live claim).symm
    own := by
      intro one isMet kind claim held
      rcases mem_met_cons.1 isMet with rfl | isOld
      · cases held
      · exact engaged.own one isOld kind claim held
    running := by simpa only [live] using engaged.running
    waiting := by
      intro one isRun kind
      rcases List.mem_cons.1 isRun with rfl | isOld
      · -- Registered identifiers were issued before, and the two of the new run were not.
        have unknown : ¬ books.requests.Registered kind ((books.nextRun groups).id kind) := by
          intro known
          exact books.nextRun_new enough groups kind (issued kind _ known)
        exact iff_of_true rfl unknown
      · exact engaged.waiting one isOld kind
    registered := engaged.registered
    worked := by
      intro one isRun kind claim held done
      rcases List.mem_cons.1 isRun with rfl | isOld
      · cases held
      · exact engaged.worked one isOld kind claim held done
    followed := by
      intro one isMet
      rcases mem_met_cons.1 isMet with rfl | isOld
      · exact .inl ⟨_, List.mem_cons_self, .refl _⟩
      · rcases engaged.followed one isOld with ⟨other, isOther, alike⟩ | asked
        · exact .inl ⟨other, List.mem_cons_of_mem _ isOther, alike⟩
        · exact .inr asked }

theorem carried {deployment : Deployment} (reachable : deployment.collector ≠ .unreachable) :
    Carried deployment Engaged where
  perm := perm
  step := by
    intro past run others books engaged
    obtain ⟨phase, next, deals, advances⟩ := Pipeline.step_deals reachable run books
    rw [next]
    exact engaged.step_engaged deals advances (steady_minted.step deployment run books)
  leave := leave
  status := status
  minted engaged more := engaged.minted more
  starts := starts

end Engaged

end CloudAudit
