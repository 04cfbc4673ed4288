import Mathlib.Data.List.Basic
import CloudAudit.Proofs.Store.Keeping
import CloudAudit.Proofs.Time.Order
/-!
# What filters select

To whoever lists it the store is one list of all that ever came. A listing has the records of this
list that its filter admits, resources and observations by group, entries of the operation log by
time. Records of one group or of one time keep the order in which they came.
-/
set_option autoImplicit false

namespace CloudAudit

/-! ## Order that keeps equals as they are -/

/-- Whether a list has the wanted records in the order of a key, and those of one key in the order
in which they are wanted. -/
structure Arranged {α κ : Type} [BEq κ] (keyOf : α → κ) (before : κ → κ → Prop)
    (wanted found : List α) : Prop where
  complete : found.Perm wanted
  ordered : found.Pairwise fun first second =>
    keyOf first = keyOf second ∨ before (keyOf first) (keyOf second)
  stable : ∀ key, (found.filter fun record => keyOf record == key) =
    wanted.filter fun record => keyOf record == key

theorem Arranged.of_stable {α κ : Type} [DecidableEq α] [BEq κ] [LawfulBEq κ] {keyOf : α → κ}
    {before : κ → κ → Prop} {wanted found : List α}
    (ordered : found.Pairwise fun first second =>
      keyOf first = keyOf second ∨ before (keyOf first) (keyOf second))
    (stable : ∀ key, (found.filter fun record => keyOf record == key) =
      wanted.filter fun record => keyOf record == key) :
    Arranged keyOf before wanted found where
  complete := by
    rw [List.perm_iff_count]
    intro record
    have own : (keyOf record == keyOf record) = true := beq_self_eq_true _
    have inFound := @List.count_filter _ _ _ (fun other => keyOf other == keyOf record) record found
      own
    have inWanted := @List.count_filter _ _ _ (fun other => keyOf other == keyOf record) record
      wanted own
    rw [← inFound, ← inWanted, stable]
  ordered := ordered
  stable := stable

theorem arranged_mergeSort (entries : List Operation) :
    Arranged Operation.statusTime (fun first second => second.after first = true) entries
      (entries.mergeSort fun first second => second.statusTime.notBefore first.statusTime) := by
  have transitive : ∀ first second third : Operation,
      second.statusTime.notBefore first.statusTime = true →
      third.statusTime.notBefore second.statusTime = true →
      third.statusTime.notBefore first.statusTime = true :=
    fun first second third earlier later => Instant.notBefore_trans later earlier
  have total : ∀ first second : Operation,
      (second.statusTime.notBefore first.statusTime ||
        first.statusTime.notBefore second.statusTime) = true := by
    intro first second
    rw [Bool.or_eq_true, Instant.notBefore_iff]
    by_cases later : first.statusTime.after second.statusTime = true
    · exact .inr (Instant.notBefore_of_after later)
    · exact .inl later
  have sorted := List.pairwise_mergeSort transitive total entries
  have complete := List.mergeSort_perm entries fun first second =>
    second.statusTime.notBefore first.statusTime
  refine ⟨complete, sorted.imp fun {first second} notBefore => ?_, fun time => ?_⟩
  · by_cases later : second.statusTime.after first.statusTime = true
    · exact .inr later
    · exact .inl (Instant.eq_of_notBefore ((Instant.notBefore_iff _ _).2 later) notBefore)
  · -- Entries of one time may stand as they are, so sorting keeps them as a sublist.
    have equals : (entries.filter fun entry => entry.statusTime == time).Pairwise
        fun first second => second.statusTime.notBefore first.statusTime = true := by
      refine List.pairwise_of_forall_mem_list fun first isFirst second isSecond => ?_
      have early := beq_iff_eq.1 (List.mem_filter.1 isFirst).2
      have late := beq_iff_eq.1 (List.mem_filter.1 isSecond).2
      rw [early, late]
      exact Instant.notBefore_refl time
    have kept := (List.sublist_mergeSort transitive total equals List.filter_sublist).filter
      fun entry => entry.statusTime == time
    rw [List.filter_filter] at kept
    simp only [Bool.and_self] at kept
    exact (kept.eq_of_length (complete.filter _).length_eq.symm).symm

/-! ## What a filter admits -/

/-- What a filter can look at in a record. -/
structure Traits where
  group : String
  /-- The name of the resource that the record is about, if it is about one. -/
  name : Option String := none
  /-- The kind of the resource that the record is. -/
  kind : Option ResourceKind := none
  /-- The collections and scans that the record comes from. -/
  operations : List String
  time : Option Instant

def Resource.traits (resource : Resource) : Traits where
  group := resource.resourceGroupName
  name := some resource.name
  kind := some resource.kind
  operations := resource.collectionUid.toList
  time := resource.timestamp

def Observation.traits (observation : Observation) : Traits where
  group := observation.groupName
  name := some observation.resourceRef.name
  operations := observation.collectionId.toList ++ observation.scanId.toList
  time := observation.timestamp

def Operation.traits (entry : Operation) : Traits where
  group := entry.resourceGroup
  operations := [entry.id]
  time := some entry.statusTime

namespace StoreChange

def logged : StoreChange → List Operation
  | .log entries => entries
  | .addResources _ | .addObservations _ | .flush => []

def isFlush : StoreChange → Bool
  | .flush => true
  | .addResources _ | .addObservations _ | .log _ => false

/-- The logged entries that some flush came after. -/
def flushed : List StoreChange → List Operation
  | [] => []
  | change :: later => (if later.any isFlush then change.logged else []) ++ flushed later

end StoreChange

namespace Filter

/-- Whether a record meets every constraint of a filter. A name and a kind are asked of records that
have one; an undated record lies in no window. -/
structure Admits (filter : Filter) (traits : Traits) : Prop where
  group : ∀ groups ∈ filter.groups, traits.group ∈ groups
  name : ∀ names ∈ filter.names, ∀ name ∈ traits.name, name ∈ names
  kind : ∀ kinds ∈ filter.kinds, ∀ kind ∈ traits.kind, kind ∈ kinds
  operation : ∀ id ∈ filter.operation, id ∈ traits.operations
  window : ∀ start ∈ filter.start, ∀ offset ∈ filter.offset,
    ∃ stop ∈ start.add? offset, ∃ time ∈ traits.time,
      time.after start = true ∧ stop.notBefore time = true

theorem admits_iff (filter : Filter) (traits : Traits) :
    filter.Admits traits ↔
      (∀ groups ∈ filter.groups, traits.group ∈ groups) ∧
      (∀ names ∈ filter.names, ∀ name ∈ traits.name, name ∈ names) ∧
      (∀ kinds ∈ filter.kinds, ∀ kind ∈ traits.kind, kind ∈ kinds) ∧
      (∀ id ∈ filter.operation, id ∈ traits.operations) ∧
      ∀ start ∈ filter.start, ∀ offset ∈ filter.offset,
        ∃ stop ∈ start.add? offset, ∃ time ∈ traits.time,
          time.after start = true ∧ stop.notBefore time = true := by
  constructor
  · rintro ⟨group, name, kind, operation, window⟩
    exact ⟨group, name, kind, operation, window⟩
  · rintro ⟨group, name, kind, operation, window⟩
    exact ⟨group, name, kind, operation, window⟩

instance (filter : Filter) (traits : Traits) : Decidable (filter.Admits traits) :=
  decidable_of_iff _ (filter.admits_iff traits).symm

/-- Whether a filter has the start of a window or its length, but not both. -/
def HalfOpen (filter : Filter) : Prop :=
  filter.start.isSome ≠ filter.offset.isSome

instance (filter : Filter) : Decidable filter.HalfOpen :=
  inferInstanceAs (Decidable (_ ≠ _))

/-- Whether the window of a filter, if it has one, ends in the calendar. -/
def InRange (filter : Filter) : Prop :=
  ∀ start ∈ filter.start, ∀ offset ∈ filter.offset, start.add? offset ≠ none

/-- Whether a group stands before another one in a listing: in the order in which the filter names
them, and in ascending order if it names none. -/
def Before (filter : Filter) (first second : String) : Prop :=
  match filter.groups with
  | some groups => [first, second].Sublist groups
  | none => first < second

/-- How a listing answers a filter, given the records that it is to find: all of them in order, or
as many of the first ones as the filter asks for, but an error if it has half a window. -/
structure Answered {α κ : Type} [BEq κ] (filter : Filter) (keyOf : α → κ) (before : κ → κ → Prop)
    (wanted : List α) (answer : Except AuditError (List α)) : Prop where
  refused : ∀ error, answer = .error error ↔
    filter.HalfOpen ∧ error = .invalidInput "start_time and time_offset must both be set"
  found : ¬ filter.HalfOpen → ∃ found, Arranged keyOf before wanted found ∧
    answer = .ok (filter.limit.elim found fun limit => found.take limit)

theorem window?_halfOpen {filter : Filter} (halfOpen : filter.HalfOpen) :
    filter.window? = .error (.invalidInput "start_time and time_offset must both be set") := by
  rw [HalfOpen] at halfOpen
  rw [window?]
  cases start : filter.start <;> cases offset : filter.offset <;> simp_all

theorem exists_window {filter : Filter} (inRange : filter.InRange) (whole : ¬ filter.HalfOpen) :
    ∃ window, filter.window? = .ok window := by
  rw [HalfOpen] at whole
  rw [window?]
  cases start : filter.start with
  | none =>
    cases offset : filter.offset with
    | none => exact ⟨none, rfl⟩
    | some length => simp [start, offset] at whole
  | some time =>
    cases offset : filter.offset with
    | none => simp [start, offset] at whole
    | some length =>
      obtain ⟨stop, ends⟩ := Option.ne_none_iff_exists'.1 (inRange time start length offset)
      simp [ends]

/-- A listing answers as it should if what it selects with the window of the filter is arranged. -/
theorem answered_of_arranged {α κ : Type} [BEq κ] {filter : Filter} (inRange : filter.InRange)
    {keyOf : α → κ} {before : κ → κ → Prop} {wanted : List α} {select : Option Window → List α}
    (arranged : ∀ window, filter.window? = .ok window →
      Arranged keyOf before wanted (select window)) :
    filter.Answered keyOf before wanted
      (filter.window? >>= fun window => .ok (filter.cut (select window))) := by
  by_cases halfOpen : filter.HalfOpen
  · rw [window?_halfOpen halfOpen]
    refine ⟨fun error => ⟨fun refused => ⟨halfOpen, ?_⟩, ?_⟩, absurd halfOpen⟩
    · exact (Except.error.inj refused).symm
    · rintro ⟨-, rfl⟩
      rfl
  · obtain ⟨window, asked⟩ := exists_window inRange halfOpen
    rw [asked]
    refine ⟨fun error => ⟨fun refused => ?_, fun refused => absurd refused.1 halfOpen⟩, fun _ => ?_⟩
    · cases refused
    · refine ⟨select window, arranged window asked, congrArg Except.ok ?_⟩
      rw [cut]
      cases filter.limit <;> rfl

theorem allows_iff {α : Type} [BEq α] [LawfulBEq α] (constraint : Option (List α)) (value : α) :
    allows constraint value = true ↔ ∀ allowed ∈ constraint, value ∈ allowed := by
  cases constraint <;> simp [allows]

theorem inWindow_iff {filter : Filter} {window : Option Window}
    (asked : filter.window? = .ok window) (stamp : Option Instant) :
    inWindow window stamp = true ↔
      ∀ start ∈ filter.start, ∀ offset ∈ filter.offset,
        ∃ stop ∈ start.add? offset, ∃ time ∈ stamp,
          time.after start = true ∧ stop.notBefore time = true := by
  rw [window?] at asked
  cases start : filter.start with
  | none =>
    cases offset : filter.offset with
    | none =>
      rw [start, offset] at asked
      obtain rfl := Except.ok.inj asked
      simp [inWindow]
    | some length => simp [start, offset] at asked
  | some begun =>
    cases offset : filter.offset with
    | none => simp [start, offset] at asked
    | some length =>
      cases ends : begun.add? length with
      | none => simp [start, offset, ends] at asked
      | some stop =>
        simp only [start, offset, ends] at asked
        obtain rfl := Except.ok.inj asked
        cases stamp <;> simp [inWindow, Window.has, ends]

end Filter

namespace Store

section

variable {filter : Filter} {window : Option Window} (asked : filter.window? = .ok window)
include asked

theorem admits_resource_iff (resource : Resource) :
    filter.Admits resource.traits ↔
      (∀ groups ∈ filter.groups, resource.resourceGroupName ∈ groups) ∧
        resourceMatches filter window resource = true := by
  simp only [filter.admits_iff, Resource.traits, resourceMatches, Bool.and_eq_true,
    Filter.allows_iff, Filter.inWindow_iff asked, Option.all_eq_true, beq_iff_eq,
    Option.mem_toList, Option.mem_def, Option.some.injEq, forall_eq']
  constructor
  · rintro ⟨group, name, kind, operation, window⟩
    exact ⟨group, ⟨⟨kind, operation⟩, name⟩, window⟩
  · rintro ⟨group, ⟨⟨kind, operation⟩, name⟩, window⟩
    exact ⟨group, name, kind, operation, window⟩

theorem admits_observation_iff (observation : Observation) :
    filter.Admits observation.traits ↔
      (∀ groups ∈ filter.groups, observation.groupName ∈ groups) ∧
        observationMatches filter window observation = true := by
  simp only [filter.admits_iff, Observation.traits, observationMatches, Bool.and_eq_true,
    Bool.or_eq_true, Filter.allows_iff, Filter.inWindow_iff asked, Option.all_eq_true, beq_iff_eq,
    List.mem_append, Option.mem_toList, Option.mem_def, Option.some.injEq, forall_eq', reduceCtorEq,
    false_implies, implies_true, true_and]
  constructor
  · rintro ⟨group, name, operation, window⟩
    exact ⟨group, ⟨operation, name⟩, window⟩
  · rintro ⟨group, ⟨operation, name⟩, window⟩
    exact ⟨group, name, operation, window⟩

theorem admits_operation_iff (entry : Operation) :
    filter.Admits entry.traits ↔ operationMatches filter window entry = true := by
  simp only [filter.admits_iff, Operation.traits, operationMatches, Bool.and_eq_true,
    Filter.allows_iff, Filter.inWindow_iff asked, Option.all_eq_true, beq_iff_eq,
    List.mem_singleton, Option.mem_def, reduceCtorEq, false_implies, implies_true, true_and,
    and_assoc]

end

/-! ## Groups in their order -/

section

variable {α : Type} {groupOf : α → String} {records : Table (List α)}

def groupsFor (records : Table (List α)) (filter : Filter) : List String :=
  filter.groups.getD records.names

theorem selected_eq (records : Table (List α)) (filter : Filter) :
    selected records filter =
      (groupsFor records filter).flatMap fun group => (records.get? group).getD [] := by
  rw [selected, groupsFor]
  cases filter.groups with
  | some groups => rfl
  | none =>
    rw [Option.getD_none, Table.values, Table.names, List.flatMap_map, ← List.flatMap_def]
    refine List.flatMap_congr fun entry isEntry => ?_
    rw [(records.get?_eq_some_iff entry.1 entry.2).2 isEntry]
    rfl

theorem groupsFor_before (records : Table (List α)) (filter : Filter) :
    (groupsFor records filter).Pairwise filter.Before := by
  rw [groupsFor]
  unfold Filter.Before
  cases filter.groups with
  | some groups => exact List.pairwise_iff_forall_sublist.2 id
  | none => exact records.ascending_names

theorem nodup_groupsFor (records : Table (List α)) {filter : Filter}
    (distinct : ∀ groups ∈ filter.groups, groups.Nodup) : (groupsFor records filter).Nodup := by
  rw [groupsFor]
  cases named : filter.groups with
  | some groups => exact distinct groups named
  | none => exact records.nodup_names

variable {flat : List α}
  (kept : ∀ group, (records.get? group).getD [] = flat.filter fun record => groupOf record == group)
include kept

theorem mem_groupsFor (filter : Filter) {record : α} (member : record ∈ flat) :
    groupOf record ∈ groupsFor records filter ↔
      ∀ groups ∈ filter.groups, groupOf record ∈ groups := by
  rw [groupsFor]
  cases filter.groups with
  | some groups => simp
  | none =>
    have found : record ∈ (records.get? (groupOf record)).getD [] := by
      rw [kept]
      exact List.mem_filter.2 ⟨member, beq_self_eq_true _⟩
    refine iff_of_true ((records.mem_names_iff _).2 ?_) (by simp)
    rw [Table.contains]
    cases under : records.get? (groupOf record) with
    | some records => rfl
    | none =>
      rw [under] at found
      cases found

variable [DecidableEq α] {filter : Filter} {matching wanted : α → Bool}

/-- Where under each group stand the records of a list that belong to it, in the order of the list,
a listing arranges those of them that its filter admits. -/
theorem arranged_selected (distinct : ∀ groups ∈ filter.groups, groups.Nodup)
    (admitted : ∀ record, wanted record = true ↔
      (∀ groups ∈ filter.groups, groupOf record ∈ groups) ∧ matching record = true) :
    Arranged groupOf filter.Before (flat.filter wanted)
      ((selected records filter).filter matching) := by
  have own : ∀ group, ∀ record ∈ (records.get? group).getD [], groupOf record = group := by
    intro group record member
    rw [kept] at member
    exact beq_iff_eq.1 (List.mem_filter.1 member).2
  rw [selected_eq]
  refine .of_stable ?_ fun group => ?_
  · refine List.Pairwise.filter _ (List.pairwise_flatMap.2 ⟨fun group _ => ?_, ?_⟩)
    · refine List.pairwise_of_forall_mem_list fun first isFirst second isSecond => .inl ?_
      rw [own group first isFirst, own group second isSecond]
    · refine (groupsFor_before records filter).imp fun {group other} before => ?_
      intro first isFirst second isSecond
      rw [own group first isFirst, own other second isSecond]
      exact .inr before
  · have block := filter_flatMap_own groupOf (nodup_groupsFor records distinct)
      (fun group _ => own group) group
    rw [List.filter_comm, block]
    split
    · rename_i covered
      rw [kept, List.filter_filter, List.filter_filter]
      refine List.filter_congr fun record member => ?_
      rw [Bool.eq_iff_iff, Bool.and_eq_true, Bool.and_eq_true, admitted, beq_iff_eq,
        ← mem_groupsFor kept filter member]
      constructor
      · rintro ⟨meets, rfl⟩
        exact ⟨rfl, covered, meets⟩
      · rintro ⟨here, -, meets⟩
        exact ⟨meets, here⟩
    · rename_i uncovered
      rw [List.filter_nil, eq_comm, List.filter_eq_nil_iff]
      intro record isWanted here
      obtain ⟨member, wanted⟩ := List.mem_filter.1 isWanted
      have covered := (mem_groupsFor kept filter member).2 ((admitted record).1 wanted).1
      rw [beq_iff_eq.1 here] at covered
      exact uncovered covered

end

/-! ## Listings of a history -/

/-- What was flushed is what changes logged that some flush came after. -/
theorem operations_foldl (changes : List StoreChange) (store : Store) :
    (changes.foldl changed store).operations =
      store.operations ++ (if changes.any StoreChange.isFlush then store.pending else []) ++
        StoreChange.flushed changes := by
  induction changes generalizing store with
  | nil => simp [StoreChange.flushed]
  | cons change later ih =>
    rw [List.foldl_cons, ih, StoreChange.flushed, List.any_cons]
    cases change with
    | addResources batch | addObservations batch =>
      simp [changed, addResources, addObservations, StoreChange.isFlush, StoreChange.logged]
    | log entries =>
      simp only [changed, log, StoreChange.isFlush, StoreChange.logged, Bool.false_or]
      split <;> simp
    | flush => simp [changed, flush, StoreChange.isFlush, StoreChange.logged]

/-- After any history of changes a listing finds the records of one list, which is all that ever
came (or was flushed): those that its filter admits, by group or by time, in the order in which they
came where these are equal, up to the limit. It refuses just a filter with half a window. -/
theorem listings_refine_one_list (changes : List StoreChange) (filter : Filter)
    (distinct : ∀ groups ∈ filter.groups, groups.Nodup) (inRange : filter.InRange) :
    filter.Answered Resource.resourceGroupName filter.Before
        ((changes.flatMap StoreChange.resources).filter fun resource =>
          filter.Admits resource.traits)
        ((ofChanges changes).listResources filter) ∧
      filter.Answered Observation.groupName filter.Before
        ((changes.flatMap StoreChange.observations).filter fun observation =>
          observation.groupName ≠ "" ∧ filter.Admits observation.traits)
        ((ofChanges changes).listObservations filter) ∧
      filter.Answered Operation.statusTime (fun first second => second.after first = true)
        ((StoreChange.flushed changes).filter fun entry => filter.Admits entry.traits)
        ((ofChanges changes).listOperations filter) := by
  refine ⟨Filter.answered_of_arranged inRange fun window asked => ?_,
    Filter.answered_of_arranged inRange fun window asked => ?_,
    Filter.answered_of_arranged inRange fun window asked => ?_⟩
  · refine arranged_selected (resourcesOf_ofChanges changes) distinct fun resource => ?_
    rw [decide_eq_true_iff]
    exact admits_resource_iff asked resource
  · have grouped : ((changes.flatMap StoreChange.observations).filter fun observation =>
          observation.groupName ≠ "" ∧ filter.Admits observation.traits) =
        ((changes.flatMap StoreChange.observations).filter fun observation =>
          observation.groupName ≠ "").filter fun observation =>
            filter.Admits observation.traits := by
      rw [List.filter_filter]
      refine List.filter_congr fun observation _ => ?_
      rw [Bool.decide_and, Bool.and_comm]
    rw [grouped]
    refine arranged_selected (fun group => ?_) distinct fun observation => ?_
    · refine (stored_ofChanges changes group).trans ?_
      rw [List.filter_filter]
      refine List.filter_congr fun observation _ => ?_
      rw [isFiled, Bool.and_comm, Bool.eq_iff_iff]
      simp
    · rw [decide_eq_true_iff]
      exact admits_observation_iff asked observation
  · have flushed : (ofChanges changes).operations = StoreChange.flushed changes := by
      rw [ofChanges, operations_foldl]
      simp
    have admitted : (StoreChange.flushed changes).filter (operationMatches filter window) =
        (StoreChange.flushed changes).filter fun entry => filter.Admits entry.traits := by
      refine List.filter_congr fun entry _ => ?_
      rw [Bool.eq_iff_iff, decide_eq_true_iff]
      exact (admits_operation_iff asked entry).symm
    rw [flushed, admitted]
    exact arranged_mergeSort _

/-! Two groups, in one of which resources come at different times, some of them too late. -/
namespace Shelf

def bucket (name group : String) (time : Instant) : Resource :=
  { Resource.member name group .bucket with timestamp := some time }

def changes : List StoreChange :=
  [.addResources [bucket "b1" "b" ⟨1, 0⟩, bucket "a1" "a" ⟨2, 0⟩], .flush,
    .addResources [bucket "b2" "b" ⟨2, 0⟩, bucket "b3" "b" ⟨3, 0⟩, bucket "b4" "b" ⟨1, 0⟩]]

def filter : Filter where
  groups := some ["b", "a"]
  limit := some 3
  start := some ⟨0, 0⟩
  offset := some ⟨2000000000⟩

theorem two_groups_in_order :
    (∀ groups ∈ filter.groups, groups.Nodup) ∧ filter.InRange ∧
      ∃ found, Arranged Resource.resourceGroupName filter.Before
          [bucket "b1" "b" ⟨1, 0⟩, bucket "a1" "a" ⟨2, 0⟩, bucket "b2" "b" ⟨2, 0⟩,
            bucket "b4" "b" ⟨1, 0⟩] found ∧
        (ofChanges changes).listResources filter = .ok (found.take 3) := by
  have distinct : ∀ groups ∈ filter.groups, groups.Nodup := by decide
  have inRange : filter.InRange := by
    rintro _ ⟨⟩ _ ⟨⟩
    decide
  exact ⟨distinct, inRange,
    (listings_refine_one_list changes filter distinct inRange).1.found (by decide)⟩

end Shelf

end Store

end CloudAudit
