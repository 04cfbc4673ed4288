import Mathlib.Data.List.Induction
import CloudAudit.Service
import CloudAudit.Proofs.Time.Order
/-!
# Which scan of a group counts

Going through a list and keeping the better of two values picks one value. Among the completed scans
in the operation log that is the latest, of equal instants the last; among the observations it is
the latest, of equal instants the first.
-/
set_option autoImplicit false

namespace CloudAudit

section

variable {α : Type} {replaces : α → α → Bool}

/-- A value that stays when a later value takes the place of the one before whenever it replaces
it. -/
def Picked (replaces : α → α → Bool) (list : List α) (value : α) : Prop :=
  ∃ before after, list = before ++ value :: after ∧
    (∀ other ∈ before, replaces value other = true) ∧
      ∀ other ∈ after, ¬ replaces other value = true

/-- What replacing needs so that one pass over a list is enough. -/
structure Preference (replaces : α → α → Bool) : Prop where
  trans : ∀ {first second third : α},
    replaces third second = true → replaces second first = true → replaces third first = true
  mixed : ∀ {first second third : α},
    replaces third second = true → ¬ replaces first second = true → replaces third first = true

namespace Picked

theorem singleton (value : α) : Picked replaces [value] value :=
  ⟨[], [], rfl, by simp, by simp⟩

theorem mem {list : List α} {value : α} (picked : Picked replaces list value) : value ∈ list := by
  obtain ⟨before, after, rfl, _, _⟩ := picked
  simp

theorem ne_nil {list : List α} {value : α} (picked : Picked replaces list value) : list ≠ [] :=
  List.ne_nil_of_mem picked.mem

theorem next (preference : Preference replaces) {list : List α} {value : α}
    (picked : Picked replaces list value) (new : α) :
    Picked replaces (list ++ [new]) (if replaces new value then new else value) := by
  obtain ⟨before, after, rfl, older, newer⟩ := picked
  split
  · rename_i better
    refine ⟨before ++ value :: after, [], rfl, ?_, by simp⟩
    intro other member
    rcases List.mem_append.1 member with isBefore | member
    · exact preference.trans better (older other isBefore)
    · rcases List.mem_cons.1 member with same | isAfter
      · rw [same]
        exact better
      · exact preference.mixed better (newer other isAfter)
  · rename_i worse
    refine ⟨before, after ++ [new], by simp, older, ?_⟩
    intro other member
    rcases List.mem_append.1 member with isAfter | isNew
    · exact newer other isAfter
    · rw [List.mem_singleton] at isNew
      rw [isNew]
      exact worse

theorem filter {list : List α} {value : α} (picked : Picked replaces list value)
    {keeps : α → Bool} (kept : keeps value = true) :
    Picked replaces (list.filter keeps) value := by
  obtain ⟨before, after, rfl, older, newer⟩ := picked
  refine ⟨before.filter keeps, after.filter keeps, ?_, ?_, ?_⟩
  · rw [List.filter_append, List.filter_cons_of_pos kept]
  · exact fun other member => older other (List.mem_filter.1 member).1
  · exact fun other member => newer other (List.mem_filter.1 member).1

theorem unique {list : List α} {value other : α} (picked : Picked replaces list value)
    (alike : Picked replaces list other) : value = other := by
  obtain ⟨before, after, rfl, older, newer⟩ := picked
  obtain ⟨before', after', same, older', newer'⟩ := alike
  rcases List.append_eq_append_iff.1 same with
    ⟨middle, beforeEq, restEq⟩ | ⟨middle, beforeEq, restEq⟩
  · cases middle with
    | nil => simp_all
    | cons first middle =>
      obtain ⟨rfl, rfl⟩ := List.cons.inj restEq
      exact absurd (older' value (by simp [beforeEq])) (newer other (by simp))
  · cases middle with
    | nil => simp_all
    | cons first middle =>
      obtain ⟨rfl, rfl⟩ := List.cons.inj restEq
      exact absurd (older other (by simp [beforeEq])) (newer' value (by simp))

/-- Where one of any two values replaces the other, the one that is picked replaces them all. -/
theorem replaces_of_mem (total : ∀ first second : α,
      ¬ replaces first second = true → replaces second first = true)
    {list : List α} {value other : α} (picked : Picked replaces list value)
    (member : other ∈ list) : replaces value other = true := by
  obtain ⟨before, after, rfl, older, newer⟩ := picked
  rcases List.mem_append.1 member with isBefore | member
  · exact older other isBefore
  · rcases List.mem_cons.1 member with rfl | isAfter
    · by_contra never
      exact never (total _ _ never)
    · exact total _ _ (newer other isAfter)

theorem exists_of_ne_nil (preference : Preference replaces) {list : List α} (nonempty : list ≠ []) :
    ∃ value, Picked replaces list value := by
  induction list using List.reverseRecOn with
  | nil => exact absurd rfl nonempty
  | append_singleton list new ih =>
    by_cases single : list = []
    · subst single
      exact ⟨new, singleton new⟩
    · obtain ⟨value, picked⟩ := ih single
      exact ⟨_, picked.next preference new⟩

theorem append_worse {list rest : List α} {value : α} (picked : Picked replaces rest value)
    (worse : ∀ other ∈ list, replaces value other = true) :
    Picked replaces (list ++ rest) value := by
  obtain ⟨before, after, rfl, older, newer⟩ := picked
  refine ⟨list ++ before, after, (List.append_assoc _ _ _).symm, ?_, newer⟩
  intro other member
  rcases List.mem_append.1 member with isWorse | isBefore
  · exact worse other isWorse
  · exact older other isBefore

theorem append_seen (asymm : ∀ {first second : α},
      replaces first second = true → ¬ replaces second first = true)
    {list rest : List α} {value : α} (picked : Picked replaces list value)
    (seen : ∀ other ∈ rest, other ∈ list) : Picked replaces (list ++ rest) value := by
  obtain ⟨before, after, rfl, older, newer⟩ := picked
  refine ⟨before, after ++ rest, by simp, older, ?_⟩
  intro other member better
  have known : other ∈ before ++ value :: after := by
    rcases List.mem_append.1 member with isAfter | again
    · simp [isAfter]
    · exact seen other again
  rcases List.mem_append.1 known with isBefore | known
  · exact asymm (older other isBefore) better
  · rcases List.mem_cons.1 known with same | isAfter
    · rw [same] at better
      exact asymm better better
    · exact newer other isAfter better

theorem append_seen_iff (preference : Preference replaces)
    (asymm : ∀ {first second : α}, replaces first second = true → ¬ replaces second first = true)
    {list rest : List α} (seen : ∀ other ∈ rest, other ∈ list) (value : α) :
    Picked replaces (list ++ rest) value ↔ Picked replaces list value := by
  constructor
  · intro picked
    have nonempty : list ≠ [] := by
      rintro rfl
      have member := picked.mem
      rw [List.nil_append] at member
      exact List.not_mem_nil (seen value member)
    obtain ⟨other, known⟩ := exists_of_ne_nil preference nonempty
    rw [picked.unique (known.append_seen asymm seen)]
    exact known
  · intro picked
    exact picked.append_seen asymm seen

end Picked

end

/-! ## One pass with a table -/

section

variable {α β : Type} {replaces : α → α → Bool} {summary : α → β}

/-- A table in which a value takes the place of the one of its group if it is better. -/
def challenge (latest : Table β) (group : String) (value : β) (better : β → Bool) : Table β :=
  match latest.get? group with
  | some seen => if better seen then latest.insert group value else latest
  | none => latest.insert group value

theorem challenge_get?_of_ne (latest : Table β) {group other : String} (value : β)
    (better : β → Bool) (distinct : other ≠ group) :
    (challenge latest group value better).get? other = latest.get? other := by
  unfold challenge
  split
  · split
    · exact Table.get?_insert_of_ne _ _ distinct
    · rfl
  · exact Table.get?_insert_of_ne _ _ distinct

/-- A table that has, for a group, a summary of what was picked from a list. -/
def Holds (replaces : α → α → Bool) (summary : α → β) (latest : Table β) (group : String)
    (list : List α) : Prop :=
  list = [] ∧ latest.get? group = none ∨
    ∃ value, Picked replaces list value ∧ latest.get? group = some (summary value)

theorem Holds.congr {latest other : Table β} {group : String} {list : List α}
    (holds : Holds replaces summary latest group list)
    (same : other.get? group = latest.get? group) : Holds replaces summary other group list := by
  unfold Holds
  rw [same]
  exact holds

theorem Holds.challenge (preference : Preference replaces) {latest : Table β} {group : String}
    {list : List α} (holds : Holds replaces summary latest group list) (new : α)
    (better : β → Bool) (compares : ∀ value, better (summary value) = replaces new value) :
    Holds replaces summary (challenge latest group (summary new) better) group
      (list ++ [new]) := by
  unfold CloudAudit.challenge
  rcases holds with ⟨rfl, nothing⟩ | ⟨value, picked, found⟩
  · rw [nothing]
    exact .inr ⟨new, Picked.singleton new, Table.get?_insert_self _ _ _⟩
  · have next := picked.next preference new
    rw [found]
    simp only [compares]
    split
    · rename_i good
      rw [if_pos good] at next
      exact .inr ⟨new, next, Table.get?_insert_self _ _ _⟩
    · rename_i bad
      rw [if_neg bad] at next
      exact .inr ⟨value, next, found⟩

theorem Holds.get?_eq_none_iff {latest : Table β} {group : String} {list : List α}
    (holds : Holds replaces summary latest group list) :
    latest.get? group = none ↔ list = [] := by
  rcases holds with ⟨rfl, nothing⟩ | ⟨value, picked, found⟩
  · simp [nothing]
  · simp [found, picked.ne_nil]

theorem Holds.get?_eq_some_iff {latest : Table β} {group : String} {list : List α}
    (holds : Holds replaces summary latest group list) (result : β) :
    latest.get? group = some result ↔
      ∃ value, Picked replaces list value ∧ summary value = result := by
  rcases holds with ⟨rfl, nothing⟩ | ⟨value, picked, found⟩
  · rw [nothing]
    constructor
    · intro impossible
      cases impossible
    · rintro ⟨value, picked, _⟩
      exact absurd rfl picked.ne_nil
  · rw [found]
    constructor
    · intro same
      exact ⟨value, picked, Option.some.inj same⟩
    · rintro ⟨other, alike, rfl⟩
      rw [picked.unique alike]

end

/-! ## Completed scans -/

namespace Operation

/-- Whether an entry says that a scan of a group is complete. -/
def completes (group : String) (entry : Operation) : Bool :=
  entry.kind == .scan && entry.status == .completed && entry.resourceGroup == group

def isNewer (entry other : Operation) : Bool :=
  entry.statusTime.notBefore other.statusTime

theorem isNewer_preference : Preference isNewer where
  trans later last := Instant.notBefore_trans later last
  mixed := by
    intro first second third later last
    simp only [isNewer, Instant.notBefore_iff, Instant.after_iff] at *
    omega

theorem notBefore_of_picked {entries : List Operation} {entry other : Operation}
    (picked : Picked isNewer entries entry) (member : other ∈ entries) :
    entry.statusTime.notBefore other.statusTime = true := by
  refine picked.replaces_of_mem (fun first second notNewer => ?_) member
  rw [isNewer, Instant.notBefore_iff, not_not] at notNewer
  exact Instant.notBefore_of_after notNewer

end Operation

namespace Service

theorem latestEntries_cons (latest : Table (Instant × String)) (entry : Operation)
    (entries : List Operation) :
    latestEntries latest (entry :: entries) =
      latestEntries
        (if entry.kind = .scan ∧ entry.status = .completed then
          challenge latest entry.resourceGroup (entry.statusTime, entry.id)
            fun seen => entry.statusTime.notBefore seen.1
        else latest) entries := by
  rw [latestEntries, challenge]
  split
  · cases latest.get? entry.resourceGroup with
    | none => rfl
    | some seen =>
      simp only
      split <;> rfl
  · rfl

theorem latestEntries_holds {latest : Table (Instant × String)} {group : String}
    {seen : List Operation}
    (holds : Holds Operation.isNewer (fun entry => (entry.statusTime, entry.id)) latest group seen)
    (entries : List Operation) :
    Holds Operation.isNewer (fun entry => (entry.statusTime, entry.id))
      (latestEntries latest entries) group
      (seen ++ entries.filter (Operation.completes group)) := by
  induction entries generalizing latest seen with
  | nil => simpa [latestEntries] using holds
  | cons entry entries ih =>
    rw [latestEntries_cons]
    by_cases counts : Operation.completes group entry = true
    · rw [List.filter_cons_of_pos counts, List.append_cons]
      simp only [Operation.completes, Bool.and_eq_true, beq_iff_eq] at counts
      obtain ⟨completed, rfl⟩ := counts
      rw [if_pos completed]
      exact ih (holds.challenge Operation.isNewer_preference entry _ fun _ => rfl)
    · rw [List.filter_cons_of_neg counts]
      refine ih (holds.congr ?_)
      split
      · rename_i completed
        refine challenge_get?_of_ne _ _ _ fun same => counts ?_
        simp [Operation.completes, completed, same]
      · rfl

/-- The completed scan of a group is the latest of its completed scans in the log, of equal instants
the last. -/
theorem latestCompletedScans_get? (entries : List Operation) (group scan : String) :
    (latestCompletedScans entries).get? group = some scan ↔
      ∃ entry, Picked Operation.isNewer (entries.filter (Operation.completes group)) entry ∧
        entry.id = scan := by
  have holds := latestEntries_holds (.inl ⟨rfl, Table.get?_empty group⟩) entries
  rw [latestCompletedScans, Table.get?_map, Option.map_eq_some_iff]
  simp only [holds.get?_eq_some_iff, List.nil_append]
  constructor
  · rintro ⟨_, ⟨entry, picked, rfl⟩, rfl⟩
    exact ⟨entry, picked, rfl⟩
  · rintro ⟨entry, picked, rfl⟩
    exact ⟨_, ⟨entry, picked, rfl⟩, rfl⟩

theorem latestCompletedScans_get?_eq_none_iff (entries : List Operation) (group : String) :
    (latestCompletedScans entries).get? group = none ↔
      entries.filter (Operation.completes group) = [] := by
  have holds := latestEntries_holds (.inl ⟨rfl, Table.get?_empty group⟩) entries
  rw [latestCompletedScans, Table.get?_map, Option.map_eq_none_iff, holds.get?_eq_none_iff,
    List.nil_append]

end Service

/-! ## Scans of observations -/

theorem Instant.laterStamp_asymm {first second : Option Instant}
    (later : laterStamp first second = true) : ¬ laterStamp second first = true := by
  cases first <;> cases second <;> simp_all [laterStamp, after_asymm]

theorem Instant.laterStamp_preference : Preference Instant.laterStamp where
  trans := by
    rintro (_ | first) (_ | second) (_ | third) later last <;>
      simp_all [laterStamp]
    exact after_trans later last
  mixed := by
    rintro (_ | first) (_ | second) (_ | third) later last <;>
      simp_all [laterStamp]
    rw [after_iff] at later ⊢
    rw [← Bool.not_eq_true, after_iff] at last
    omega

namespace Observation

def isScanOf (group : String) (observation : Observation) : Bool :=
  observation.scanId.isSome && observation.groupName == group

def isLater (observation other : Observation) : Bool :=
  Instant.laterStamp observation.timestamp other.timestamp

theorem isLater_preference : Preference isLater where
  trans later last := Instant.laterStamp_preference.trans later last
  mixed later last := Instant.laterStamp_preference.mixed later last

end Observation

theorem Observation.notBefore_of_picked {observations : List Observation}
    {observation other : Observation} (picked : Picked isLater observations observation)
    (member : other ∈ observations) {time early : Instant}
    (stamped : observation.timestamp = some time) (dated : other.timestamp = some early) :
    time.notBefore early = true := by
  obtain ⟨before, after, rfl, older, newer⟩ := picked
  rcases List.mem_append.1 member with isBefore | member
  · have later := older other isBefore
    rw [isLater, stamped, dated] at later
    exact Instant.notBefore_of_after later
  · rcases List.mem_cons.1 member with rfl | isAfter
    · rw [Option.some.inj (stamped.symm.trans dated)]
      exact Instant.notBefore_refl _
    · have notLater := newer other isAfter
      rw [isLater, stamped, dated] at notLater
      exact (Instant.notBefore_iff _ _).2 notLater

namespace Service

theorem latestSeen_cons (completed : Table String) (latest : Table (Option Instant × String))
    (observation : Observation) (observations : List Observation) :
    latestSeen completed latest (observation :: observations) =
      latestSeen completed
        (match observation.scanId with
        | none => latest
        | some scanId =>
          if completed.contains observation.groupName then latest
          else
            challenge latest observation.groupName (observation.timestamp, scanId)
              fun seen => Instant.laterStamp observation.timestamp seen.1)
        observations := by
  rw [latestSeen]
  cases observation.scanId with
  | none => rfl
  | some scanId =>
    simp only [challenge]
    split
    · rfl
    · cases latest.get? observation.groupName with
      | none => rfl
      | some seen =>
        simp only
        split <;> rfl

theorem latestSeen_holds {completed : Table String} {group : String}
    (unfinished : completed.get? group = none) {latest : Table (Option Instant × String)}
    {seen : List Observation}
    (holds : Holds Observation.isLater (fun found => (found.timestamp, found.scanId.getD ""))
      latest group seen)
    (observations : List Observation) :
    Holds Observation.isLater (fun found => (found.timestamp, found.scanId.getD ""))
      (latestSeen completed latest observations) group
      (seen ++ observations.filter (Observation.isScanOf group)) := by
  induction observations generalizing latest seen with
  | nil => simpa [latestSeen] using holds
  | cons observation observations ih =>
    rw [latestSeen_cons]
    by_cases counts : Observation.isScanOf group observation = true
    · rw [List.filter_cons_of_pos counts, List.append_cons]
      simp only [Observation.isScanOf, Bool.and_eq_true, Option.isSome_iff_exists,
        beq_iff_eq] at counts
      obtain ⟨⟨scan, scanned⟩, rfl⟩ := counts
      have notCompleted : ¬ completed.contains observation.groupName = true := by
        simp [Table.contains, unfinished]
      have next := holds.challenge Observation.isLater_preference observation
        (fun seen => Instant.laterStamp observation.timestamp seen.1) fun _ => rfl
      simp only [scanned, Option.getD_some] at next ⊢
      rw [if_neg notCompleted]
      exact ih next
    · rw [List.filter_cons_of_neg counts]
      refine ih (holds.congr ?_)
      cases scanned : observation.scanId with
      | none => rfl
      | some scan =>
        simp only
        split
        · rfl
        · refine challenge_get?_of_ne _ _ _ fun same => counts ?_
          simp [Observation.isScanOf, scanned, same]

/-- What counts as the scan of a group. -/
inductive Counts (observations : List Observation) (entries : List Operation) (group : String) :
    String → Prop
  /-- The latest completed scan in the log, of equal instants the last. -/
  | completed {entry : Operation}
      (latest : Picked Operation.isNewer (entries.filter (Operation.completes group)) entry) :
      Counts observations entries group entry.id
  /-- Without one the scan of the latest observation, of equal instants the first. -/
  | seen {observation : Observation} {scan : String}
      (nothing : entries.filter (Operation.completes group) = [])
      (latest :
        Picked Observation.isLater (observations.filter (Observation.isScanOf group)) observation)
      (scanned : observation.scanId = some scan) :
      Counts observations entries group scan

theorem Counts.unique {observations : List Observation} {entries : List Operation}
    {group scan other : String} (counts : Counts observations entries group scan)
    (alike : Counts observations entries group other) : scan = other := by
  cases counts with
  | completed latest =>
    cases alike with
    | completed latest' => rw [latest.unique latest']
    | seen nothing _ _ => exact absurd nothing latest.ne_nil
  | seen nothing latest scanned =>
    cases alike with
    | completed latest' => exact absurd nothing latest'.ne_nil
    | seen _ latest' scanned' =>
      rw [latest.unique latest', scanned'] at scanned
      exact (Option.some.inj scanned).symm

theorem Counts.congr {observations others : List Observation} {entries more : List Operation}
    {group scan : String}
    (sameEntries : more.filter (Operation.completes group) =
      entries.filter (Operation.completes group))
    (samePicks : ∀ observation,
      Picked Observation.isLater (observations.filter (Observation.isScanOf group)) observation →
        Picked Observation.isLater (others.filter (Observation.isScanOf group)) observation)
    (counts : Counts observations entries group scan) : Counts others more group scan := by
  cases counts with
  | completed latest =>
    rw [← sameEntries] at latest
    exact .completed latest
  | seen nothing latest scanned =>
    rw [← sameEntries] at nothing
    exact .seen nothing (samePicks _ latest) scanned

/-- The scan of a group that counts among some observations, given the completed ones. -/
def countedAmong (completed : Table String) (observations : List Observation) (group : String) :
    Option String :=
  countedScan? completed (latestSeen completed Table.empty observations) group

theorem countedAmong_of_completed {completed : Table String} {group scan : String}
    (known : completed.get? group = some scan) (observations : List Observation) :
    countedAmong completed observations group = some scan := by
  rw [countedAmong, countedScan?, known]

theorem countedAmong_of_unfinished {completed : Table String} {group : String}
    (unfinished : completed.get? group = none) (observations : List Observation) (scan : String) :
    countedAmong completed observations group = some scan ↔
      ∃ found, Picked Observation.isLater (observations.filter (Observation.isScanOf group)) found ∧
        found.scanId = some scan := by
  have holds := latestSeen_holds unfinished (.inl ⟨rfl, Table.get?_empty group⟩) observations
  simp only [countedAmong, countedScan?, unfinished, Option.map_eq_some_iff,
    holds.get?_eq_some_iff, List.nil_append]
  constructor
  · rintro ⟨_, ⟨found, picked, rfl⟩, rfl⟩
    have scanned := (List.mem_filter.1 picked.mem).2
    simp only [Observation.isScanOf, Bool.and_eq_true, Option.isSome_iff_exists] at scanned
    obtain ⟨⟨scan, scanned⟩, -⟩ := scanned
    exact ⟨found, picked, by simp [scanned]⟩
  · rintro ⟨found, picked, scanned⟩
    exact ⟨_, ⟨found, picked, rfl⟩, by simp [scanned]⟩

theorem countedScan?_eq_some_iff (observations : List Observation) (entries : List Operation)
    (group scan : String) :
    countedScan? (latestCompletedScans entries)
        (latestSeen (latestCompletedScans entries) Table.empty observations) group = some scan ↔
      Counts observations entries group scan := by
  change countedAmong (latestCompletedScans entries) observations group = some scan ↔ _
  cases known : (latestCompletedScans entries).get? group with
  | some found =>
    obtain ⟨entry, picked, rfl⟩ := (latestCompletedScans_get? entries group found).1 known
    simp only [countedAmong_of_completed known, Option.some.injEq]
    constructor
    · rintro rfl
      exact .completed picked
    · rintro (latest | ⟨nothing, _, _⟩)
      · rw [picked.unique latest]
      · exact absurd nothing picked.ne_nil
  | none =>
    have nothing := (latestCompletedScans_get?_eq_none_iff entries group).1 known
    rw [countedAmong_of_unfinished known]
    constructor
    · rintro ⟨found, picked, scanned⟩
      exact .seen nothing picked scanned
    · rintro (latest | ⟨_, picked, scanned⟩)
      · exact absurd nothing latest.ne_nil
      · exact ⟨_, picked, scanned⟩

theorem mem_latestScanOnly {observations : List Observation} {completed : Table String}
    {observation : Observation} :
    observation ∈ latestScanOnly observations completed ↔
      observation ∈ observations ∧
        ∀ scan, observation.scanId = some scan →
          countedAmong completed observations observation.groupName = some scan := by
  rw [latestScanOnly, List.mem_filter]
  refine and_congr_right fun _ => ?_
  cases observation.scanId with
  | none => simp
  | some scan => simp [countedAmong]

/-- A listing keeps what comes from no scan and what comes from the scan that counts. -/
theorem mem_latestScanOnly_iff (observations : List Observation) (entries : List Operation)
    (observation : Observation) :
    observation ∈ latestScanOnly observations (latestCompletedScans entries) ↔
      observation ∈ observations ∧
        ∀ scan, observation.scanId = some scan →
          Counts observations entries observation.groupName scan := by
  simp only [mem_latestScanOnly, ← countedScan?_eq_some_iff, countedAmong]

end Service

end CloudAudit
