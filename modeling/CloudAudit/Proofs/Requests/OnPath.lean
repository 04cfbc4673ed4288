import CloudAudit.Proofs.Requests.Cancelling
/-!
# The walk and its path

The walk behind a status, step by step: the table and the path are changed in place, a request joins
the path before its dependencies are looked at and leaves it on both ways out, and nothing but the
depth of its calls bounds the walk. Over tables of any content it needs no more depth than there are
registered requests off the path, and one for the last call; it answers what the status on that path
is, and the path is then what it was before.
-/
set_option autoImplicit false

namespace CloudAudit.ClaimTable

/-- A table while a walk goes through it, with the requests that are under way. -/
structure Tour where
  table : ClaimTable
  path : NameSet
  deriving DecidableEq

namespace Tour

def setStatus (tour : Tour) (id : String) (status : RequestStatus) : Tour :=
  { tour with table := tour.table.setStatus id status }

def enter (tour : Tour) (id : String) : Tour :=
  { tour with path := tour.path.add id }

def leave (tour : Tour) (id : String) : Tour :=
  { tour with path := tour.path.erase id }

end Tour

/-- Visit the dependencies of a request one after another. The first one that runs decides, and
cuts the walk short. -/
def visitAll (visit : String → Tour → Option (RequestStatus × Tour)) (id : String)
    (settled : RequestStatus) : List String → Tour → Option (RequestStatus × Tour)
  | [], tour => some (settled, tour.leave id)
  | dependency :: more, tour =>
    match visit dependency tour with
    | none => none
    | some (.running, tour) => some (.running, tour.leave id)
    | some (.unknown, tour) | some (.cancelled, tour) =>
      visitAll visit id settled more (tour.setStatus id .cancelled)
    | some (.alreadyRunning, tour) | some (.done, tour) => visitAll visit id settled more tour

/-- The status of a request by calls of at most some depth; nothing if they have to go deeper. -/
def visitWithin : Nat → String → Tour → Option (RequestStatus × Tour)
  | 0, _, _ => none
  | depth + 1, id, tour =>
    match (tour.table.statuses.get? id).getD .unknown with
    | .unknown => some (.unknown, tour)
    | .cancelled => some (.cancelled, tour)
    | stored =>
      let settled : RequestStatus := if stored = .alreadyRunning then .done else stored
      let tour := if stored = .alreadyRunning then tour.setStatus id .done else tour
      if tour.path.contains id then some (settled, tour)
      else visitAll (visitWithin depth) id settled (tour.table.dependenciesOf id) (tour.enter id)

/-! ## Requests off the path -/

structure OffPath (path : NameSet) (statuses : Table RequestStatus) (fresh : List String) :
    Prop where
  once : fresh.Nodup
  mem_iff : ∀ name, name ∈ fresh ↔ statuses.contains name = true ∧ path.contains name = false

namespace OffPath

variable {path : NameSet} {statuses after : Table RequestStatus} {fresh : List String} {id : String}

theorem of_fades {walked : String → Prop} (off : OffPath path statuses fresh)
    (fades : Fades walked statuses after) : OffPath path after fresh :=
  ⟨off.once, fun name => by rw [off.mem_iff, fades.contains_eq]⟩

theorem enter (off : OffPath path statuses fresh) (id : String) :
    OffPath (path.add id) statuses (fresh.erase id) := by
  refine ⟨off.once.erase id, fun name => ?_⟩
  rw [off.once.mem_erase_iff, off.mem_iff]
  simp only [NameSet.add, Table.contains, Table.get?_insert]
  by_cases same : name = id <;> simp [same]

theorem mem_iff_of_known (off : OffPath path statuses fresh) (known : Known statuses id) :
    id ∈ fresh ↔ path.contains id = false := by
  obtain ⟨status, stored, -⟩ := known
  rw [off.mem_iff, Table.contains_iff]
  exact and_iff_right ⟨status, stored⟩

end OffPath

def offPath (table : ClaimTable) (path : NameSet) : List String :=
  table.statuses.names.filter fun name => !path.names.contains name

theorem OffPath.of_table (table : ClaimTable) (path : NameSet) :
    OffPath path table.statuses (table.offPath path) := by
  refine ⟨table.statuses.nodup_names.filter _, fun name => ?_⟩
  simp [offPath, Table.mem_names_iff]

theorem erase_add {path : NameSet} {id : String} (off : path.contains id = false) :
    (path.add id).erase id = path := by
  refine Table.ext_get? fun name => ?_
  rw [Table.get?_erase, NameSet.add, Table.get?_insert]
  by_cases same : name = id
  · rw [if_pos same, same]
    exact (Option.isNone_iff_eq_none.1 (Option.isSome_eq_false_iff.1 off)).symm
  · rw [if_neg same, if_neg same]

/-! ## The walk in place -/

section Walk

variable {table : ClaimTable} {path : NameSet} {statuses : Table RequestStatus} {id : String}

/-- A walk through a table whose statuses are others by now. -/
def tourOf (table : ClaimTable) (path : NameSet) (statuses : Table RequestStatus) : Tour :=
  ⟨{ table with statuses }, path⟩

theorem visitAll_cons {visit : String → Tour → Option (RequestStatus × Tour)} {name : String}
    {answer : RequestStatus} {after : Table RequestStatus}
    (visited : visit name (tourOf table path statuses) = some (answer, tourOf table path after))
    (settled : RequestStatus) (names : List String) :
    visitAll visit id settled (name :: names) (tourOf table path statuses) =
      if answer = .running then some (.running, (tourOf table path after).leave id)
      else visitAll visit id settled names (tourOf table path (noted id answer after)) := by
  rw [visitAll, visited]
  cases answer <;> rfl

/-- Visits that answer and change what the walk does take the dependencies of a request as the walk
does, and take the request off the path whichever way they end. -/
theorem visitAll_eq {fresh : List String}
    {visit : String → Tour → Option (RequestStatus × Tour)}
    (visits : ∀ statuses name, OffPath path statuses fresh →
      visit name (tourOf table path statuses) =
        some ((resolve table.dependencies fresh statuses name).1,
          tourOf table path (resolve table.dependencies fresh statuses name).2))
    (settled : RequestStatus) (names : List String)
    (edges : ∀ name ∈ names, name ∈ blockers table.dependencies id)
    (off : OffPath path statuses fresh) (known : Known statuses id) :
    visitAll visit id settled names (tourOf table path statuses) =
      some ((resolveThrough table.dependencies fresh statuses id settled names).1,
        (tourOf table path
          (resolveThrough table.dependencies fresh statuses id settled names).2).leave id) := by
  induction names generalizing statuses with
  | nil =>
    rw [resolveThrough]
    rfl
  | cons name names ih =>
    obtain ⟨edge, edges⟩ := List.forall_mem_cons.1 edges
    rw [visitAll_cons (visits statuses name off), resolveThrough_cons]
    split
    · rfl
    · have fades := (resolve_resolved table.dependencies fresh statuses name).fades_noted edge known
      exact ih edges (off.of_fades fades) (fades.known known)

theorem visitWithin_of_gone (depth : Nat) (gone : Gone statuses id) (fresh : List String) :
    visitWithin (depth + 1) id (tourOf table path statuses) =
      some ((resolve table.dependencies fresh statuses id).1,
        tourOf table path (resolve table.dependencies fresh statuses id).2) := by
  rw [visitWithin, resolve, tourOf]
  cases stored : statuses.get? id with
  | none => rfl
  | some status => rcases gone status stored with rfl | rfl <;> rfl

theorem visitWithin_of_stored (depth : Nat) {stored : RequestStatus}
    (found : statuses.get? id = some stored) (notUnknown : stored ≠ .unknown)
    (notCancelled : stored ≠ .cancelled) :
    visitWithin (depth + 1) id (tourOf table path statuses) =
      let settled : RequestStatus := if stored = .alreadyRunning then .done else stored
      let after := if stored = .alreadyRunning then statuses.insert id .done else statuses
      if path.contains id then some (settled, tourOf table path after)
      else visitAll (visitWithin depth) id settled (blockers table.dependencies id)
        (tourOf table (path.add id) after) := by
  rw [visitWithin, tourOf]
  simp only [found, Option.getD_some]
  cases stored with
  | unknown => exact absurd rfl notUnknown
  | cancelled => exact absurd rfl notCancelled
  | running => rfl
  | alreadyRunning => rfl
  | done => rfl

/-- With more depth than there are registered requests off the path, the walk in place does what
the walk does and leaves the path as it was. -/
theorem visitWithin_eq (depth : Nat) {fresh : List String} (off : OffPath path statuses fresh)
    (enough : fresh.length < depth) :
    visitWithin depth id (tourOf table path statuses) =
      some ((resolve table.dependencies fresh statuses id).1,
        tourOf table path (resolve table.dependencies fresh statuses id).2) := by
  -- On the depth: a request that joins the path leaves fewer off it for the calls below.
  induction depth generalizing path statuses fresh id with
  | zero => exact absurd enough (Nat.not_lt_zero _)
  | succ depth ih =>
    by_cases gone : Gone statuses id
    · exact visitWithin_of_gone depth gone fresh
    · obtain ⟨stored, found, notUnknown, notCancelled⟩ := exists_live gone
      have settling := fades_settled found
      have known := known_settled found notUnknown
      rw [visitWithin_of_stored depth found notUnknown notCancelled,
        resolve_of_stored table.dependencies fresh statuses id found notUnknown notCancelled]
      generalize (if stored = .alreadyRunning then RequestStatus.done else stored) = settled
      generalize (if stored = .alreadyRunning then statuses.insert id .done else statuses) = after
        at settling known ⊢
      have offAfter := off.of_fades settling
      by_cases member : id ∈ fresh
      · have offHere := (offAfter.mem_iff_of_known known).1 member
        have shorter : (fresh.erase id).length < depth :=
          Nat.lt_of_lt_of_le (length_erase_lt member) (Nat.le_of_lt_succ enough)
        have visits := visitAll_eq (fun statuses name off => ih off shorter) settled
          (blockers table.dependencies id) (fun _ edge => edge) (offAfter.enter id) known
        simp only [if_pos member, offHere, Bool.false_eq_true, if_false]
        rw [visits, Tour.leave, tourOf, erase_add offHere, tourOf]
      · have onHere : path.contains id = true :=
          eq_true_of_ne_false fun off => member ((offAfter.mem_iff_of_known known).2 off)
        simp only [if_neg member, onHere, if_true]

/-! ## What a walk may change -/

theorem status_on_path (table : ClaimTable) (path : NameSet) (id : String) :
    table.statusOnPath path.names id =
      ((resolve table.dependencies (table.offPath path) table.statuses id).1,
        { table with
          statuses := (resolve table.dependencies (table.offPath path) table.statuses id).2 }) :=
  rfl

theorem Declines.cases_ne {stored later : RequestStatus}
    (declines : Declines (some stored) (some later)) (differs : later ≠ stored) :
    stored = .alreadyRunning ∧ later = .done ∨ stored ≠ .unknown ∧ later = .cancelled := by
  cases declines with
  | stays => exact absurd rfl differs
  | ends => exact .inl ⟨rfl, rfl⟩
  | cancelled known => exact .inr ⟨known, rfl⟩

/-- Over tables of any content and from any path, the walk in place comes to an end with the status
on that path, as soon as it may go deeper than there are registered requests off the path, and the
path is then what it was. It leaves claims and dependencies alone, has statuses for the requests
that had one, and changes only those of requests that the one asked for depends on: from already
running to done, or to cancelled from anything but unknown. -/
theorem walk_touches_what_it_walks (table : ClaimTable) (path : NameSet) (id : String) :
    (∀ depth, (table.offPath path).length < depth →
      visitWithin depth id ⟨table, path⟩ =
        some ((table.statusOnPath path.names id).1,
          ⟨(table.statusOnPath path.names id).2, path⟩)) ∧
    (table.statusOnPath path.names id).2.claims = table.claims ∧
    (table.statusOnPath path.names id).2.dependencies = table.dependencies ∧
    (∀ other, (table.statusOnPath path.names id).2.statuses.contains other =
      table.statuses.contains other) ∧
    ∀ other stored later, table.statuses.get? other = some stored →
      (table.statusOnPath path.names id).2.statuses.get? other = some later → later ≠ stored →
      table.Reaches id other ∧
        (stored = .alreadyRunning ∧ later = .done ∨ stored ≠ .unknown ∧ later = .cancelled) := by
  rw [status_on_path]
  have fades := (resolve_resolved table.dependencies (table.offPath path) table.statuses id).fades
  refine ⟨fun depth enough => ?_, rfl, rfl, fades.contains_eq, ?_⟩
  · exact visitWithin_eq depth (.of_table table path) enough
  · intro other stored later before after differs
    have declines := fades.declines other
    rw [before, after] at declines
    refine ⟨?_, declines.cases_ne differs⟩
    by_contra away
    have same := fades.elsewhere other away
    rw [before, after] at same
    exact differs (Option.some.inj same)

end Walk

/-- A request that waits for itself and for one that waits for it in turn, for one that nobody knows
and for one that runs. -/
def knotted : ClaimTable where
  claims := .ofList [("group", "runs")]
  dependencies := .ofList
    [("asked", .ofNames ["asked", "knot"]),
     ("knot", .ofNames ["asked", "lost", "runs"])]
  statuses := .ofList
    [("asked", .alreadyRunning), ("knot", .alreadyRunning), ("runs", .running),
     ("watched", .alreadyRunning)]

def unknotted : ClaimTable :=
  { knotted with
    statuses := .ofList
      [("asked", .done), ("knot", .cancelled), ("runs", .running), ("watched", .alreadyRunning)] }

theorem knot_is_cancelled :
    (knotted.offPath (.ofNames ["watched"])).length < 4 ∧
    visitWithin 4 "asked" ⟨knotted, .ofNames ["watched"]⟩ =
      some (.running, ⟨unknotted, .ofNames ["watched"]⟩) ∧
    knotted.statusOnPath ["watched"] "asked" = (.running, unknotted) ∧
    knotted.statuses.get? "knot" = some .alreadyRunning ∧
    unknotted.statuses.get? "knot" = some .cancelled ∧
    knotted.Reaches "asked" "knot" := by
  obtain ⟨walks, -, -, -, changes⟩ :=
    walk_touches_what_it_walks knotted (.ofNames ["watched"]) "asked"
  have enough : (knotted.offPath (.ofNames ["watched"])).length < 4 := by decide
  have visited : visitWithin 4 "asked" ⟨knotted, .ofNames ["watched"]⟩ =
      some (.running, ⟨unknotted, .ofNames ["watched"]⟩) := by decide
  have path : (NameSet.ofNames ["watched"]).names = ["watched"] := by decide
  have before : knotted.statuses.get? "knot" = some .alreadyRunning := by decide
  have after : unknotted.statuses.get? "knot" = some .cancelled := by decide
  have both := Option.some.inj ((walks 4 enough).symm.trans visited)
  have answer : (knotted.statusOnPath ["watched"] "asked").1 = .running := by
    rw [← path]
    exact congrArg (·.1) both
  have left : (knotted.statusOnPath ["watched"] "asked").2 = unknotted := by
    rw [← path]
    exact congrArg (·.2.table) both
  rw [path, left] at changes
  exact ⟨enough, visited, Prod.ext answer left, before, after,
    (changes "knot" _ _ before after (by decide)).1⟩

end CloudAudit.ClaimTable
