import Mathlib.Data.List.Chain
import Mathlib.Logic.Function.Iterate
import CloudAudit.Proofs.Requests.Resolution
/-!
# Cancellation spreads

These statements are about tables of any content. A walk changes stored statuses only from already
running to done and from known to cancelled. Cancellation moves against the dependencies: whoever
asks often enough for a request with nothing running behind it learns that it is cancelled, if one
that is unknown or cancelled is behind it; each question brings this one dependency nearer, at the
least.
-/
set_option autoImplicit false

namespace CloudAudit.ClaimTable

/-! ## What a walk does to stored statuses -/

/-- How a stored status may change when a walk comes by. -/
inductive Declines : Option RequestStatus → Option RequestStatus → Prop where
  | stays (stored : Option RequestStatus) : Declines stored stored
  | ends : Declines (some .alreadyRunning) (some .done)
  | cancelled {status : RequestStatus} (known : status ≠ .unknown) :
    Declines (some status) (some .cancelled)

theorem Declines.trans {first second third : Option RequestStatus} (one : Declines first second)
    (two : Declines second third) : Declines first third := by
  cases two with
  | stays => exact one
  | ends =>
    cases one with
    | stays => exact .ends
  | cancelled known =>
    cases one with
    | stays => exact .cancelled known
    | ends => exact .cancelled (by decide)
    | cancelled knownBefore => exact .cancelled knownBefore

/-- Whether statuses differ for some requests only, and in no other way than a walk may change
them. -/
structure Fades (walked : String → Prop) (statuses after : Table RequestStatus) : Prop where
  declines : ∀ id, Declines (statuses.get? id) (after.get? id)
  elsewhere : ∀ id, ¬ walked id → after.get? id = statuses.get? id

/-- Whether a request is unknown or cancelled as far as is stored. -/
def Gone (statuses : Table RequestStatus) (id : String) : Prop :=
  ∀ status, statuses.get? id = some status → status = .unknown ∨ status = .cancelled

def Known (statuses : Table RequestStatus) (id : String) : Prop :=
  ∃ status, statuses.get? id = some status ∧ status ≠ .unknown

theorem exists_live {statuses : Table RequestStatus} {id : String} (live : ¬ Gone statuses id) :
    ∃ status, statuses.get? id = some status ∧ status ≠ .unknown ∧ status ≠ .cancelled := by
  simpa only [Gone, not_forall, exists_prop, not_or] using live

namespace Fades

variable {walked larger : String → Prop} {statuses middle after : Table RequestStatus} {id : String}

theorem refl (walked : String → Prop) (statuses : Table RequestStatus) :
    Fades walked statuses statuses :=
  ⟨fun _ => .stays _, fun _ _ => rfl⟩

theorem trans (first : Fades walked statuses middle) (second : Fades walked middle after) :
    Fades walked statuses after :=
  ⟨fun id => (first.declines id).trans (second.declines id),
    fun id away => (second.elsewhere id away).trans (first.elsewhere id away)⟩

theorem widen (fades : Fades walked statuses after) (sub : ∀ id, walked id → larger id) :
    Fades larger statuses after :=
  ⟨fades.declines, fun id away => fades.elsewhere id fun inside => away (sub id inside)⟩

theorem insert {status : RequestStatus} (inside : walked id)
    (declines : Declines (statuses.get? id) (some status)) :
    Fades walked statuses (statuses.insert id status) := by
  constructor
  · intro name
    rw [Table.get?_insert]
    split
    · rename_i same
      rw [same]
      exact declines
    · exact .stays _
  · intro name away
    have distinct : name ≠ id := fun same => away (same ▸ inside)
    rw [Table.get?_insert, if_neg distinct]

theorem cancel (inside : walked id) (known : Known statuses id) :
    Fades walked statuses (statuses.insert id .cancelled) := by
  obtain ⟨status, stored, notUnknown⟩ := known
  exact insert inside (stored ▸ .cancelled notUnknown)

variable (fades : Fades walked statuses after)
include fades

theorem running (runs : after.get? id = some .running) : statuses.get? id = some .running := by
  have declines := fades.declines id
  rw [runs] at declines
  generalize statuses.get? id = stored at declines
  cases declines
  rfl

theorem cancelled (isCancelled : statuses.get? id = some .cancelled) :
    after.get? id = some .cancelled := by
  have declines := fades.declines id
  rw [isCancelled] at declines
  generalize after.get? id = stored at declines
  cases declines <;> rfl

theorem gone (isGone : Gone statuses id) : Gone after id := by
  intro status stored
  have declines := fades.declines id
  rw [stored] at declines
  generalize before : statuses.get? id = earlier at declines
  cases declines with
  | stays => exact isGone status before
  | ends => simpa using isGone _ before
  | cancelled => exact .inr rfl

theorem known (isKnown : Known statuses id) : Known after id := by
  obtain ⟨status, stored, notUnknown⟩ := isKnown
  have declines := fades.declines id
  rw [stored] at declines
  generalize later : after.get? id = new at declines
  cases declines with
  | stays => exact ⟨status, later, notUnknown⟩
  | ends => exact ⟨_, later, by decide⟩
  | cancelled => exact ⟨_, later, by decide⟩

theorem contains_eq (id : String) : after.contains id = statuses.contains id := by
  have declines := fades.declines id
  simp only [Table.contains]
  generalize statuses.get? id = stored at declines
  generalize after.get? id = later at declines
  cases declines <;> rfl

end Fades

/-! ## The walk over any tables -/

/-- Whether dependencies lead from a request to another one, at once or through others. -/
abbrev Leads (dependencies : Table NameSet) : String → String → Prop :=
  Relation.ReflTransGen fun id other => other ∈ blockers dependencies id

section Walk

variable (dependencies : Table NameSet) (fresh : List String) (statuses : Table RequestStatus)
  (id : String)

def noted (answer : RequestStatus) (statuses : Table RequestStatus) : Table RequestStatus :=
  if answer = .unknown ∨ answer = .cancelled then statuses.insert id .cancelled else statuses

theorem resolveThrough_cons (settled : RequestStatus) (name : String) (names : List String) :
    resolveThrough dependencies fresh statuses id settled (name :: names) =
      if (resolve dependencies fresh statuses name).1 = .running then
        (.running, (resolve dependencies fresh statuses name).2)
      else
        resolveThrough dependencies fresh
          (noted id (resolve dependencies fresh statuses name).1
            (resolve dependencies fresh statuses name).2) id settled names := by
  rw [resolveThrough]
  cases resolve dependencies fresh statuses name with
  | mk answer after => cases answer <;> rfl

theorem resolveThrough_answer (settled : RequestStatus) (names : List String) :
    (resolveThrough dependencies fresh statuses id settled names).1 = .running ∨
      (resolveThrough dependencies fresh statuses id settled names).1 = settled := by
  induction names generalizing statuses with
  | nil =>
    rw [resolveThrough]
    exact .inr rfl
  | cons name names ih =>
    rw [resolveThrough_cons]
    split
    · exact .inl rfl
    · exact ih _

variable {statuses id}

theorem resolve_of_gone (gone : Gone statuses id) :
    ((resolve dependencies fresh statuses id).1 = .unknown ∨
        (resolve dependencies fresh statuses id).1 = .cancelled) ∧
      (resolve dependencies fresh statuses id).2 = statuses := by
  rw [resolve]
  cases stored : statuses.get? id with
  | none => exact ⟨.inl rfl, rfl⟩
  | some status =>
    rcases gone status stored with rfl | rfl
    · exact ⟨.inl rfl, rfl⟩
    · exact ⟨.inr rfl, rfl⟩

/-- A request without a claim of its own is stored as done when a walk comes to it. -/
theorem fades_settled {stored : RequestStatus} (found : statuses.get? id = some stored) :
    Fades (· = id) statuses
      (if stored = .alreadyRunning then statuses.insert id .done else statuses) := by
  split
  · rename_i waits
    exact .insert rfl (found.trans (congrArg some waits) ▸ .ends)
  · exact .refl _ _

theorem known_settled {stored : RequestStatus} (found : statuses.get? id = some stored)
    (notUnknown : stored ≠ .unknown) :
    Known (if stored = .alreadyRunning then statuses.insert id .done else statuses) id := by
  split
  · exact ⟨.done, Table.get?_insert_self _ _ _, by decide⟩
  · exact ⟨stored, found, notUnknown⟩

/-- A request that is neither unknown nor cancelled counts as done unless it runs, and is stored so
before its dependencies are looked at. -/
theorem resolve_of_live (live : ¬ Gone statuses id) :
    ∃ settled after, (settled = .running ∧ statuses.get? id = some .running ∨
        settled = .done ∧ statuses.get? id ≠ some .running) ∧
      Fades (· = id) statuses after ∧ Known after id ∧
      resolve dependencies fresh statuses id =
        if id ∈ fresh then
          resolveThrough dependencies (fresh.erase id) after id settled (blockers dependencies id)
        else (settled, after) := by
  obtain ⟨stored, found, notUnknown, notCancelled⟩ := exists_live live
  refine ⟨_, _, ?_, fades_settled found, known_settled found notUnknown,
    resolve_of_stored dependencies fresh statuses id found notUnknown notCancelled⟩
  cases stored <;> simp_all

/-- What holds of every walk from a request: it fades what it comes by, and says that something runs
only if a request behind it does. -/
structure Resolved (dependencies : Table NameSet) (fresh : List String)
    (statuses : Table RequestStatus) (id : String) : Prop where
  fades : Fades (Leads dependencies id) statuses (resolve dependencies fresh statuses id).2
  running : (resolve dependencies fresh statuses id).1 = .running →
    ∃ last, Leads dependencies id last ∧ statuses.get? last = some .running

theorem Resolved.of_eq {result : RequestStatus × Table RequestStatus}
    (equation : resolve dependencies fresh statuses id = result)
    (fades : Fades (Leads dependencies id) statuses result.2)
    (running : result.1 = .running →
      ∃ last, Leads dependencies id last ∧ statuses.get? last = some .running) :
    Resolved dependencies fresh statuses id := by
  subst equation
  exact ⟨fades, running⟩

theorem fades_noted (answer : RequestStatus) (known : Known statuses id) :
    Fades (· = id) statuses (noted id answer statuses) := by
  rw [noted]
  split
  · exact .cancel rfl known
  · exact .refl _ _

variable {dependencies fresh}

theorem Resolved.fades_noted {name : String} (resolved : Resolved dependencies fresh statuses name)
    (edge : name ∈ blockers dependencies id) (known : Known statuses id) :
    Fades (Leads dependencies id) statuses
      (noted id (resolve dependencies fresh statuses name).1
        (resolve dependencies fresh statuses name).2) := by
  have walked := resolved.fades.widen fun last leads => leads.head edge
  have heard := ClaimTable.fades_noted (resolve dependencies fresh statuses name).1
    (walked.known known)
  exact walked.trans (heard.widen fun last same => same ▸ .refl)

theorem resolveThrough_resolved
    (resolved : ∀ statuses name, Resolved dependencies fresh statuses name)
    (settled : RequestStatus) (names : List String)
    (edges : ∀ name ∈ names, name ∈ blockers dependencies id) (known : Known statuses id) :
    Fades (Leads dependencies id) statuses
        (resolveThrough dependencies fresh statuses id settled names).2 ∧
      ((resolveThrough dependencies fresh statuses id settled names).1 = .running →
        settled = .running ∨
          ∃ last, Leads dependencies id last ∧ statuses.get? last = some .running) := by
  induction names generalizing statuses with
  | nil =>
    rw [resolveThrough]
    exact ⟨.refl _ _, .inl⟩
  | cons name names ih =>
    obtain ⟨edge, edges⟩ := List.forall_mem_cons.1 edges
    have first := resolved statuses name
    rw [resolveThrough_cons]
    split
    · rename_i runs
      obtain ⟨last, leads, stored⟩ := first.running runs
      exact ⟨first.fades.widen fun last leads => leads.head edge,
        fun _ => .inr ⟨last, leads.head edge, stored⟩⟩
    · have fades := first.fades_noted edge known
      obtain ⟨fadesRest, runningRest⟩ := ih edges (fades.known known)
      refine ⟨fades.trans fadesRest, fun runs => ?_⟩
      rcases runningRest runs with runs | ⟨last, leads, stored⟩
      · exact .inl runs
      · exact .inr ⟨last, leads, fades.running stored⟩

theorem resolve_resolved (dependencies : Table NameSet) (fresh : List String) :
    ∀ statuses id, Resolved dependencies fresh statuses id := by
  -- On the number of requests that are not under way: a step into a request takes it out.
  induction length : fresh.length using Nat.strongRecOn generalizing fresh with
  | _ size ih =>
    intro statuses id
    by_cases gone : Gone statuses id
    · obtain ⟨answer, same⟩ := resolve_of_gone dependencies fresh gone
      constructor
      · rw [same]
        exact .refl _ _
      · intro runs
        rw [runs] at answer
        simp at answer
    · obtain ⟨settled, after, kinds, settling, known, equation⟩ :=
        resolve_of_live dependencies fresh gone
      have here : Fades (Leads dependencies id) statuses after :=
        settling.widen fun name same => same ▸ .refl
      have runsHere : settled = .running →
          ∃ last, Leads dependencies id last ∧ statuses.get? last = some .running := by
        intro runs
        rcases kinds with ⟨-, stored⟩ | ⟨done, -⟩
        · exact ⟨id, .refl, stored⟩
        · rw [done] at runs
          cases runs
      by_cases member : id ∈ fresh
      · have shorter : (fresh.erase id).length < size := length ▸ length_erase_lt member
        obtain ⟨fades, running⟩ := resolveThrough_resolved (ih _ shorter (fresh.erase id) rfl)
          settled (blockers dependencies id) (fun _ edge => edge) known
        refine .of_eq _ _ (equation.trans (if_pos member)) (here.trans fades) fun runs => ?_
        rcases running runs with runs | ⟨last, leads, stored⟩
        · exact runsHere runs
        · exact ⟨last, leads, here.running stored⟩
      · exact .of_eq _ _ (equation.trans (if_neg member)) here runsHere

end Walk

/-! ## The way to a request that is gone -/

/-- Whether at most some number of dependencies, which leave only requests of a list, lead from a
request to one that is gone. -/
inductive Doomed (dependencies : Table NameSet) (statuses : Table RequestStatus)
    (fresh : List String) : Nat → String → Prop where
  | gone {id : String} (length : Nat) (isGone : Gone statuses id) :
    Doomed dependencies statuses fresh length id
  | along {id next : String} {length : Nat} (member : id ∈ fresh)
      (edge : next ∈ blockers dependencies id)
      (rest : Doomed dependencies statuses fresh length next) :
    Doomed dependencies statuses fresh (length + 1) id

namespace Doomed

variable {dependencies : Table NameSet} {statuses : Table RequestStatus} {fresh : List String}
  {length : Nat} {id : String}

theorem isGone (doomed : Doomed dependencies statuses fresh 0 id) : Gone statuses id := by
  cases doomed with
  | gone _ isGone => exact isGone

theorem mono {larger : List String} (sub : ∀ name ∈ fresh, name ∈ larger)
    (doomed : Doomed dependencies statuses fresh length id) :
    Doomed dependencies statuses larger length id := by
  induction doomed with
  | gone length isGone => exact .gone length isGone
  | along member edge _ ih => exact .along (sub _ member) edge ih

theorem longer (doomed : Doomed dependencies statuses fresh length id) {more : Nat}
    (longer : length ≤ more) : Doomed dependencies statuses fresh more id := by
  induction doomed generalizing more with
  | gone _ isGone => exact .gone more isGone
  | along member edge _ ih =>
    obtain ⟨more, rfl⟩ := Nat.exists_eq_add_of_lt longer
    exact .along member edge (ih (by omega))

theorem of_fades {walked : String → Prop} {after : Table RequestStatus}
    (fades : Fades walked statuses after)
    (doomed : Doomed dependencies statuses fresh length id) :
    Doomed dependencies after fresh length id := by
  induction doomed with
  | gone length isGone => exact .gone length (fades.gone isGone)
  | along member edge _ ih => exact .along member edge ih

/-- A way either never leaves a request or has an end that starts behind it and never does. -/
theorem cut_at (doomed : Doomed dependencies statuses fresh length id) (cut : String) :
    Doomed dependencies statuses (fresh.erase cut) length id ∨
      ∃ next ∈ blockers dependencies cut, ∃ shorter < length,
        Doomed dependencies statuses (fresh.erase cut) shorter next := by
  induction doomed with
  | gone length isGone => exact .inl (.gone length isGone)
  | @along id next length member edge _ ih =>
    rcases ih with avoids | ⟨behind, edgeBehind, shorter, below, rest⟩
    · by_cases same : id = cut
      · exact .inr ⟨next, same ▸ edge, length, Nat.lt_succ_self length, avoids⟩
      · exact .inl (.along ((List.mem_erase_of_ne same).2 member) edge avoids)
    · exact .inr ⟨behind, edgeBehind, shorter, Nat.lt_succ_of_lt below, rest⟩

theorem first (doomed : Doomed dependencies statuses fresh (length + 1) id)
    (live : ¬ Gone statuses id) :
    id ∈ fresh ∧ ∃ next ∈ blockers dependencies id,
      Doomed dependencies statuses (fresh.erase id) length next := by
  cases doomed with
  | gone _ isGone => exact absurd isGone live
  | along member edge rest =>
    refine ⟨member, ?_⟩
    rcases rest.cut_at id with avoids | ⟨behind, edgeBehind, shorter, below, avoids⟩
    · exact ⟨_, edge, avoids⟩
    · exact ⟨behind, edgeBehind, avoids.longer (Nat.le_of_lt below)⟩

end Doomed

/-- Whether nothing runs among a request and those behind it. -/
def Quiet (dependencies : Table NameSet) (statuses : Table RequestStatus) (id : String) : Prop :=
  ∀ last, Leads dependencies id last → statuses.get? last ≠ some .running

section Nearer

variable {dependencies : Table NameSet} {fresh : List String} {statuses : Table RequestStatus}
  {id : String}

theorem Quiet.of_fades {walked : String → Prop} {after : Table RequestStatus}
    (quiet : Quiet dependencies statuses id) (fades : Fades walked statuses after) :
    Quiet dependencies after id :=
  fun last leads runs => quiet last leads (fades.running runs)

theorem Quiet.behind (quiet : Quiet dependencies statuses id) {next : String}
    (edge : next ∈ blockers dependencies id) : Quiet dependencies statuses next :=
  fun last leads => quiet last (leads.head edge)

theorem Quiet.not_running (quiet : Quiet dependencies statuses id) (fresh : List String) :
    (resolve dependencies fresh statuses id).1 ≠ .running := by
  intro runs
  obtain ⟨last, leads, stored⟩ := (resolve_resolved dependencies fresh statuses id).running runs
  exact quiet last leads stored

/-- Among the dependencies of a request is one from which a request that is gone is so near. When
all have been looked at, it is as near to the request itself. -/
theorem resolveThrough_nearer {larger : List String} (member : id ∈ larger)
    (sub : ∀ name ∈ fresh, name ∈ larger) {length : Nat} {next : String}
    (nearer : ∀ statuses, Quiet dependencies statuses next → ¬ Gone statuses next →
      Doomed dependencies statuses fresh length next →
      ∃ shorter, length = shorter + 1 ∧
        Doomed dependencies (resolve dependencies fresh statuses next).2 fresh shorter next)
    (settled : RequestStatus) (names : List String)
    (edges : ∀ name ∈ names, name ∈ blockers dependencies id) (among : next ∈ names)
    (known : Known statuses id) (quiet : Quiet dependencies statuses id)
    (doomed : Doomed dependencies statuses fresh length next) :
    Doomed dependencies (resolveThrough dependencies fresh statuses id settled names).2 larger
      length id := by
  induction names generalizing statuses with
  | nil => cases among
  | cons name names ih =>
    obtain ⟨edge, edgesRest⟩ := List.forall_mem_cons.1 edges
    have fades := (resolve_resolved dependencies fresh statuses name).fades_noted edge known
    have fadesRest := (resolveThrough_resolved (resolve_resolved dependencies fresh) settled names
      edgesRest (fades.known known)).1
    rw [resolveThrough_cons, if_neg ((quiet.behind edge).not_running fresh)]
    by_cases same : name = next
    · subst same
      by_cases gone : Gone statuses name
      · -- The request hears of it and is cancelled itself.
        obtain ⟨answer, -⟩ := resolve_of_gone dependencies fresh gone
        refine .gone length (fadesRest.gone fun status stored => .inr ?_)
        rw [noted, if_pos answer, Table.get?_insert_self] at stored
        exact (Option.some.inj stored).symm
      · obtain ⟨shorter, rfl, way⟩ := nearer statuses (quiet.behind edge) gone doomed
        have stillKnown := (resolve_resolved dependencies fresh statuses name).fades.known known
        have later := (way.of_fades (fades_noted _ stillKnown)).of_fades fadesRest
        exact .along member edge (later.mono sub)
    · have amongRest : next ∈ names := (List.mem_cons.1 among).resolve_left (Ne.symm same)
      exact ih edgesRest amongRest (fades.known known) (quiet.of_fades fades)
        (doomed.of_fades fades)

/-- A walk from a request brings one that is gone a dependency nearer. -/
theorem resolve_nearer (length : Nat) (quiet : Quiet dependencies statuses id)
    (live : ¬ Gone statuses id)
    (doomed : Doomed dependencies statuses fresh (length + 1) id) :
    Doomed dependencies (resolve dependencies fresh statuses id).2 fresh length id := by
  -- On the length of the way: behind its first step the same holds of a shorter one.
  induction length using Nat.strongRecOn generalizing fresh statuses id with
  | _ length ih =>
    obtain ⟨member, next, edge, way⟩ := doomed.first live
    obtain ⟨settled, after, -, settling, known, equation⟩ :=
      resolve_of_live dependencies fresh live
    rw [equation, if_pos member]
    refine resolveThrough_nearer member (fun _ => List.mem_of_mem_erase) ?_ settled _
      (fun _ edge => edge) edge known (quiet.of_fades settling) (way.of_fades settling)
    intro statuses quietNext liveNext wayNext
    cases length with
    | zero => exact absurd wayNext.isGone liveNext
    | succ length =>
      exact ⟨length, rfl, ih length (Nat.lt_succ_self length) quietNext liveNext wayNext⟩

end Nearer

/-! ## Asking again and again -/

def asked (id : String) (table : ClaimTable) : ClaimTable :=
  (table.status id).2

section Asking

variable {table : ClaimTable} {id : String}

theorem status_fades (table : ClaimTable) (id : String) :
    Fades (table.Reaches id) table.statuses (table.status id).2.statuses := by
  rw [status_eq_resolve]
  exact (resolve_resolved _ _ _ _).fades

theorem asked_nearer {length : Nat} (quiet : Quiet table.dependencies table.statuses id)
    (doomed : Doomed table.dependencies table.statuses table.statuses.names (length + 1) id) :
    Doomed (table.asked id).dependencies (table.asked id).statuses (table.asked id).statuses.names
      length id := by
  have fades := status_fades table id
  have names : ∀ name ∈ table.statuses.names, name ∈ (table.asked id).statuses.names := by
    intro name member
    rw [Table.mem_names_iff] at member ⊢
    exact (fades.contains_eq name).trans member
  by_cases gone : Gone table.statuses id
  · exact .gone length (fades.gone gone)
  · have nearer := resolve_nearer length quiet gone doomed
    rw [asked, status_eq_resolve] at names ⊢
    exact nearer.mono names

theorem asked_gone (count : Nat) (quiet : Quiet table.dependencies table.statuses id)
    (doomed : Doomed table.dependencies table.statuses table.statuses.names count id) :
    Gone ((asked id)^[count] table).statuses id := by
  induction count generalizing table with
  | zero => exact doomed.isGone
  | succ count ih =>
    rw [Function.iterate_succ_apply]
    exact ih (quiet.of_fades (status_fades table id)) (asked_nearer quiet doomed)

theorem asked_known (count : Nat) (known : Known table.statuses id) :
    Known ((asked id)^[count] table).statuses id := by
  induction count generalizing table with
  | zero => exact known
  | succ count ih =>
    rw [Function.iterate_succ_apply]
    exact ih ((status_fades table id).known known)

theorem status_cancelled (gone : Gone table.statuses id) (known : Known table.statuses id) :
    (table.status id).1 = .cancelled := by
  obtain ⟨status, stored, notUnknown⟩ := known
  obtain rfl := (gone status stored).resolve_left notUnknown
  rw [status_eq_resolve, resolve, stored]

/-- A request that waits for nothing that runs counts as done, whatever else is behind it. -/
theorem status_done (quiet : Quiet table.dependencies table.statuses id)
    (live : ¬ Gone table.statuses id) : (table.status id).1 = .done := by
  have notRunning := quiet.not_running table.statuses.names
  rw [status_eq_resolve]
  obtain ⟨settled, after, kinds, -, -, equation⟩ :=
    resolve_of_live table.dependencies table.statuses.names live
  obtain ⟨done, -⟩ := kinds.resolve_left fun runs => quiet id .refl runs.2
  rw [equation] at notRunning ⊢
  split
  · rename_i member
    rw [if_pos member] at notRunning
    exact ((resolveThrough_answer _ _ _ _ _ _).resolve_left notRunning).trans done
  · exact done

theorem doomed_of_path {path : List String} {last : String}
    (chain : (id :: path).IsChain fun one other => other ∈ table.dependenciesOf one)
    (ends : (id :: path).getLast? = some last) (gone : Gone table.statuses last) :
    Doomed table.dependencies table.statuses table.statuses.names path.length id := by
  induction path generalizing id with
  | nil =>
    obtain rfl : id = last := by simpa using ends
    exact .gone 0 gone
  | cons next path ih =>
    obtain ⟨edge, chain⟩ := List.isChain_cons_cons.1 chain
    by_cases here : Gone table.statuses id
    · exact .gone _ here
    · obtain ⟨status, stored, -⟩ := exists_live here
      have member : id ∈ table.statuses.names :=
        (Table.mem_names_iff _ _).2 ((Table.contains_iff _ _).2 ⟨status, stored⟩)
      exact .along member edge (ih chain (by simpa using ends))

end Asking

/-- Over tables of any content a status that is stored as cancelled stays so, whoever is asked for.
And a request that is stored as done or as already running, with nothing running behind it and a
path of dependencies to a request that is unknown or cancelled, answers first that it is done and,
asked again and again, that it is cancelled from the answer on that follows as many as the path has
dependencies. -/
theorem cancellation_converges (table : ClaimTable) :
    (∀ polled id, table.statuses.get? id = some .cancelled →
      (table.status polled).2.statuses.get? id = some .cancelled) ∧
    ∀ id path last,
      (table.statuses.get? id = some .done ∨ table.statuses.get? id = some .alreadyRunning) →
      (∀ other, table.Reaches id other → table.statuses.get? other ≠ some .running) →
      ((id :: path).IsChain fun one other => other ∈ table.dependenciesOf one) →
      (id :: path).getLast? = some last → Gone table.statuses last →
      (table.status id).1 = .done ∧
        ∀ count, path.length ≤ count → (((asked id)^[count] table).status id).1 = .cancelled := by
  refine ⟨fun polled id => (status_fades table polled).cancelled, ?_⟩
  intro id path last stored quiet chain ends gone
  have known : Known table.statuses id := by
    rcases stored with done | waits
    · exact ⟨_, done, by decide⟩
    · exact ⟨_, waits, by decide⟩
  have live : ¬ Gone table.statuses id := by
    intro isGone
    rcases stored with done | waits
    · simpa using isGone _ done
    · simpa using isGone _ waits
  refine ⟨status_done quiet live, fun count enough => ?_⟩
  have doomed := (doomed_of_path chain ends gone).longer enough
  exact status_cancelled (asked_gone count quiet doomed) (asked_known count known)

/-- Two requests that wait for each other, and a third one that waits for nobody known. -/
def stranded : ClaimTable where
  dependencies := .ofList
    [("first", .ofNames ["second"]),
     ("second", .ofNames ["first", "third"]),
     ("third", .ofNames ["vanished"])]
  statuses := .ofList [("first", .alreadyRunning), ("second", .done), ("third", .done)]

theorem stranded_cancelled :
    stranded.statuses.get? "first" = some .alreadyRunning ∧
    (∀ other, stranded.Reaches "first" other → stranded.statuses.get? other ≠ some .running) ∧
    (["first", "second", "third", "vanished"].IsChain
      fun one other => other ∈ stranded.dependenciesOf one) ∧
    Gone stranded.statuses "vanished" ∧
    (stranded.status "first").1 = .done ∧
    ∀ count, 3 ≤ count → (((asked "first")^[count] stranded).status "first").1 = .cancelled := by
  have waits : stranded.statuses.get? "first" = some .alreadyRunning := by decide
  have quiet : ∀ other, stranded.Reaches "first" other →
      stranded.statuses.get? other ≠ some .running := by
    intro other _ runs
    have each : ∀ entry ∈ stranded.statuses.entries, entry.2 ≠ .running := by decide
    exact each _ ((Table.get?_eq_some_iff _ _ _).1 runs) rfl
  have chain : ["first", "second", "third", "vanished"].IsChain
      fun one other => other ∈ stranded.dependenciesOf one := by
    simp only [List.isChain_cons_cons, List.isChain_singleton]
    decide
  have vanished : stranded.statuses.get? "vanished" = none := by decide
  have gone : Gone stranded.statuses "vanished" := by
    intro status stored
    rw [vanished] at stored
    cases stored
  exact ⟨waits, quiet, chain, gone,
    (cancellation_converges stranded).2 "first" ["second", "third", "vanished"] "vanished"
      (.inr waits) quiet chain rfl gone⟩

end CloudAudit.ClaimTable
