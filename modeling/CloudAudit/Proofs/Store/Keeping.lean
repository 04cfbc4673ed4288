import CloudAudit.Store
/-!
# What the store keeps

Under each group stand the records of that group in the order in which they came. A batch is put
behind what is there, and nothing else about a group changes.
-/
set_option autoImplicit false

namespace CloudAudit

namespace Store

def resourcesOf (store : Store) (group : String) : List Resource :=
  (store.resources.get? group).getD []

def stored (store : Store) (group : String) : List Observation :=
  (store.observations.get? group).getD []

def isFiled (group : String) (observation : Observation) : Bool :=
  !observation.groupName.isEmpty && observation.groupName == group

theorem groupName_of_isFiled {group : String} {observation : Observation}
    (filed : isFiled group observation = true) : observation.groupName = group := by
  simp only [isFiled, Bool.and_eq_true, beq_iff_eq] at filed
  exact filed.2

theorem isFiled_iff {group : String} (named : group ≠ "") (observation : Observation) :
    isFiled group observation = true ↔ observation.groupName = group := by
  simp only [isFiled, Bool.and_eq_true, Bool.not_eq_true', beq_iff_eq, String.isEmpty_eq_false_iff]
  constructor
  · intro filed
    exact filed.2
  · rintro rfl
    exact ⟨named, rfl⟩

section

variable {α : Type} (groupOf : α → String)

theorem get?_append (records : Table (List α)) (record : α) (group : String) :
    ((append records (groupOf record) record).get? group).getD [] =
      (records.get? group).getD [] ++ [record].filter fun found => groupOf found == group := by
  rw [append, Table.get?_update]
  by_cases own : groupOf record = group
  · rw [if_pos own.symm, List.filter_cons_of_pos (by simp [own]), own]
    rfl
  · rw [if_neg (Ne.symm own), List.filter_cons_of_neg (by simp [own])]
    simp

theorem get?_foldl_append (batch : List α) (records : Table (List α)) (group : String) :
    ((batch.foldl (fun records record => append records (groupOf record) record)
        records).get? group).getD [] =
      (records.get? group).getD [] ++ batch.filter fun found => groupOf found == group := by
  induction batch generalizing records with
  | nil => simp
  | cons record batch ih =>
    rw [List.foldl_cons, ih, get?_append, List.append_assoc, ← List.filter_append,
      List.singleton_append]

section

variable {β : Type} {label : β → String} {indices : List β} {block : β → List α}
  (own : ∀ index ∈ indices, ∀ record ∈ block index, groupOf record = label index)
include own

/-- Of blocks whose records bear the label of their block the blocks with this label are left. -/
theorem filter_flatMap_blocks (group : String) :
    ((indices.flatMap block).filter fun record => groupOf record == group) =
      (indices.filter fun index => label index == group).flatMap block := by
  induction indices with
  | nil => rfl
  | cons first rest ih =>
    obtain ⟨ownFirst, ownRest⟩ := List.forall_mem_cons.1 own
    rw [List.flatMap_cons, List.filter_append, ih ownRest]
    by_cases here : label first = group
    · have everything : ((block first).filter fun record => groupOf record == group) =
          block first := by
        rw [List.filter_eq_self]
        intro record member
        rw [ownFirst record member, here, beq_self_eq_true]
      rw [everything, List.filter_cons_of_pos (by simpa using here), List.flatMap_cons]
    · have nothing : ((block first).filter fun record => groupOf record == group) = [] := by
        rw [List.filter_eq_nil_iff]
        intro record member
        rw [ownFirst record member, beq_iff_eq]
        exact here
      rw [nothing, List.filter_cons_of_neg (by simpa using here), List.nil_append]

/-- Blocks whose records bear the label of their block come out one by one. -/
theorem filter_flatMap_labelled (distinct : (indices.map label).Nodup) {index : β}
    (known : index ∈ indices) :
    ((indices.flatMap block).filter fun record => groupOf record == label index) = block index := by
  have alone : (indices.filter fun other => label other == label index) = [index] := by
    clear own
    induction indices with
    | nil => cases known
    | cons first rest ih =>
      obtain ⟨notAgain, distinct⟩ := List.nodup_cons.1 distinct
      rcases List.mem_cons.1 known with rfl | known
      · rw [List.filter_cons_of_pos (by simp), List.cons_inj_right, List.filter_eq_nil_iff]
        intro other member same
        exact notAgain (beq_iff_eq.1 same ▸ List.mem_map_of_mem member)
      · have differs : label first ≠ label index := by
          intro same
          exact notAgain (same ▸ List.mem_map_of_mem known)
        rw [List.filter_cons_of_neg (by simpa using differs)]
        exact ih distinct known
  rw [filter_flatMap_blocks groupOf own, alone, List.flatMap_singleton]

end

theorem filter_flatMap_repeated {groups : List String} {block : String → List α}
    (own : ∀ group ∈ groups, ∀ record ∈ block group, groupOf record = group) (group : String) :
    ((groups.flatMap block).filter fun record => groupOf record == group) =
      (List.replicate (groups.count group) (block group)).flatten := by
  have labelled : ∀ index ∈ groups, ∀ record ∈ block index, groupOf record = id index := own
  have same : (groups.filter fun index => id index == group) =
      List.replicate (groups.count group) group := List.filter_beq group
  rw [filter_flatMap_blocks groupOf labelled, same, List.flatMap_replicate]

/-- Blocks that hold records of their own group only come out one by one. -/
theorem filter_flatMap_own {groups : List String} (distinct : groups.Nodup)
    {block : String → List α}
    (own : ∀ group ∈ groups, ∀ record ∈ block group, groupOf record = group) (group : String) :
    ((groups.flatMap block).filter fun record => groupOf record == group) =
      if group ∈ groups then block group else [] := by
  rw [filter_flatMap_repeated groupOf own, distinct.count]
  split
  · exact List.flatten_singleton
  · rfl

end

theorem resourcesOf_addResources (store : Store) (batch : List Resource) (group : String) :
    (store.addResources batch).resourcesOf group =
      store.resourcesOf group ++
        batch.filter fun resource => resource.resourceGroupName == group :=
  get?_foldl_append Resource.resourceGroupName batch store.resources group

theorem foldl_addObservation (batch : List Observation) (records : Table (List Observation)) :
    batch.foldl addObservation records =
      (batch.filter fun observation => !observation.groupName.isEmpty).foldl
        (fun records observation => append records observation.groupName observation) records := by
  induction batch generalizing records with
  | nil => rfl
  | cons observation batch ih =>
    rw [List.foldl_cons, ih, addObservation]
    by_cases nowhere : observation.groupName.isEmpty = true
    · rw [if_pos nowhere, List.filter_cons_of_neg (by simp [nowhere])]
    · rw [if_neg nowhere, List.filter_cons_of_pos (by simp [nowhere])]
      rfl

theorem stored_addObservations (store : Store) (batch : List Observation) (group : String) :
    (store.addObservations batch).stored group =
      store.stored group ++ batch.filter (isFiled group) := by
  have filed : batch.filter (isFiled group) =
      (batch.filter fun observation => !observation.groupName.isEmpty).filter
        fun observation => observation.groupName == group := by
    rw [List.filter_filter]
    exact List.filter_congr fun observation _ => Bool.and_comm _ _
  rw [filed, stored, addObservations, foldl_addObservation]
  exact get?_foldl_append Observation.groupName _ store.observations group

theorem addObservations_append (store : Store) (first second : List Observation) :
    (store.addObservations first).addObservations second =
      store.addObservations (first ++ second) := by
  simp [addObservations, List.foldl_append]

/-! ## Collections -/

def taggedIn (store : Store) (collectId group : String) : List Resource :=
  (store.resourcesOf group).filter fun resource => resource.collectionUid == some collectId

def Unused (store : Store) (collectId : String) : Prop :=
  ∀ group, ∀ resource ∈ store.resourcesOf group, resource.collectionUid ≠ some collectId

theorem Unused.taggedIn_addResources {store : Store} {collectId : String}
    (unused : store.Unused collectId) {batch : List Resource}
    (tagged : ∀ resource ∈ batch, resource.collectionUid = some collectId) (group : String) :
    (store.addResources batch).taggedIn collectId group =
      batch.filter fun resource => resource.resourceGroupName == group := by
  have nothing : store.taggedIn collectId group = [] := by
    rw [taggedIn, List.filter_eq_nil_iff]
    intro resource member matching
    exact unused group resource member (beq_iff_eq.1 matching)
  have everything : ((batch.filter fun resource => resource.resourceGroupName == group).filter
      fun resource => resource.collectionUid == some collectId) =
        batch.filter fun resource => resource.resourceGroupName == group := by
    rw [List.filter_eq_self]
    intro resource member
    exact beq_iff_eq.2 (tagged resource (List.mem_filter.1 member).1)
  rw [taggedIn] at nothing
  rw [taggedIn, resourcesOf_addResources, List.filter_append, nothing, everything, List.nil_append]

/-! ## Listings -/

theorem listObservations_operation (store : Store) (groups : List String) (id : String) :
    store.listObservations { groups := some groups, operation := some id } =
      .ok ((groups.flatMap store.stored).filter fun observation =>
        observation.collectionId == some id || observation.scanId == some id) := by
  have matching : observationMatches { groups := some groups, operation := some id } none =
      fun observation =>
        observation.collectionId == some id || observation.scanId == some id := by
    funext observation
    simp [observationMatches, Filter.allows, Filter.inWindow]
  change Except.ok (List.filter _ _) = _
  rw [matching]
  rfl

theorem listResources_kinds (store : Store) (groups : List String) (kinds : List ResourceKind) :
    store.listResources { groups := some groups, kinds := some kinds } =
      .ok ((groups.flatMap store.resourcesOf).filter
        fun resource => kinds.contains resource.kind) := by
  have matching : resourceMatches { groups := some groups, kinds := some kinds } none =
      fun resource => kinds.contains resource.kind := by
    funext resource
    simp [resourceMatches, Filter.allows, Filter.inWindow]
  change Except.ok (List.filter _ _) = _
  rw [matching]
  rfl

/-- Resources lie under their own group. -/
def Filed (store : Store) : Prop :=
  ∀ group, ∀ resource ∈ store.resourcesOf group, resource.resourceGroupName = group

theorem Filed.append {store after : Store} (filed : store.Filed) {batch : List Resource}
    (stored : ∀ group, after.resourcesOf group = store.resourcesOf group ++
      batch.filter fun resource => resource.resourceGroupName == group) : after.Filed := by
  intro group resource member
  rw [stored] at member
  rcases List.mem_append.1 member with isOld | isNew
  · exact filed group resource isOld
  · exact beq_iff_eq.1 (List.mem_filter.1 isNew).2

theorem Filed.of_resources_eq {store after : Store} (filed : store.Filed)
    (same : after.resources = store.resources) : after.Filed := by
  intro group resource member
  rw [resourcesOf, same] at member
  exact filed group resource member

theorem filed_empty : ({} : Store).Filed := by
  intro group resource member
  cases member

end Store

/-- What can be asked of the store. -/
inductive StoreChange where
  | addResources (batch : List Resource)
  | addObservations (batch : List Observation)
  | log (entries : List Operation)
  | flush

def StoreChange.resources : StoreChange → List Resource
  | .addResources batch => batch
  | .addObservations _ | .log _ | .flush => []

/-- The observations that a change brings to the store, which keeps those that have a group. -/
def StoreChange.observations : StoreChange → List Observation
  | .addObservations batch => batch
  | .addResources _ | .log _ | .flush => []

namespace Store

def changed (store : Store) : StoreChange → Store
  | .addResources batch => store.addResources batch
  | .addObservations batch => store.addObservations batch
  | .log entries => store.log entries
  | .flush => store.flush

/-- The content of a store that was empty before the changes. -/
def ofChanges (changes : List StoreChange) : Store :=
  changes.foldl changed {}

theorem resourcesOf_changed (store : Store) (change : StoreChange) (group : String) :
    (store.changed change).resourcesOf group =
      store.resourcesOf group ++
        change.resources.filter fun resource => resource.resourceGroupName == group := by
  cases change with
  | addResources batch => exact resourcesOf_addResources store batch group
  | addObservations batch | log entries | flush => exact (List.append_nil _).symm

theorem stored_changed (store : Store) (change : StoreChange) (group : String) :
    (store.changed change).stored group =
      store.stored group ++ change.observations.filter (isFiled group) := by
  cases change with
  | addObservations batch => exact stored_addObservations store batch group
  | addResources batch | log entries | flush => exact (List.append_nil _).symm

/-- A part of the store that every change adds to is made up of all that the changes added. -/
theorem ofChanges_grows {α : Type} (part : Store → List α) (added : StoreChange → List α)
    (start : part {} = [])
    (grows : ∀ store change, part (store.changed change) = part store ++ added change)
    (changes : List StoreChange) : part (ofChanges changes) = changes.flatMap added := by
  have further : ∀ store : Store,
      part (changes.foldl changed store) = part store ++ changes.flatMap added := by
    induction changes with
    | nil => exact fun store => (List.append_nil _).symm
    | cons change changes ih =>
      intro store
      rw [List.foldl_cons, ih, grows, List.flatMap_cons, List.append_assoc]
  rw [ofChanges, further, start, List.nil_append]

/-- What is stored of a group are all resources of the group that ever came, in their order. -/
theorem resourcesOf_ofChanges (changes : List StoreChange) (group : String) :
    (ofChanges changes).resourcesOf group =
      (changes.flatMap StoreChange.resources).filter fun resource =>
        resource.resourceGroupName == group := by
  rw [List.filter_flatMap]
  exact ofChanges_grows (fun store => store.resourcesOf group) _ rfl
    (fun store change => resourcesOf_changed store change group) changes

/-- What is stored of a group are all observations of the group that ever came, in their order. -/
theorem stored_ofChanges (changes : List StoreChange) (group : String) :
    (ofChanges changes).stored group =
      (changes.flatMap StoreChange.observations).filter (isFiled group) := by
  rw [List.filter_flatMap]
  exact ofChanges_grows (fun store => store.stored group) _ rfl
    (fun store change => stored_changed store change group) changes

theorem Filed.changed {store : Store} (filed : store.Filed) (change : StoreChange) :
    (store.changed change).Filed :=
  filed.append (resourcesOf_changed store change)

/-- What holds of the empty store and is kept by every change holds of every content. -/
theorem ofChanges_keeps {holds : Store → Prop} (start : holds {})
    (keeps : ∀ store change, holds store → holds (store.changed change))
    (changes : List StoreChange) : holds (ofChanges changes) := by
  have all : ∀ store, holds store → holds (changes.foldl Store.changed store) := by
    induction changes with
    | nil =>
      intro store held
      exact held
    | cons change changes ih =>
      intro store held
      exact ih (store.changed change) (keeps store change held)
  exact all {} start

theorem filed_ofChanges (changes : List StoreChange) : (ofChanges changes).Filed :=
  ofChanges_keeps filed_empty (fun _ change filed => filed.changed change) changes

def Placed (store : Store) : Prop :=
  ∀ group, ∀ observation ∈ store.stored group, observation.groupName = group

theorem Placed.changed {store : Store} (placed : store.Placed) (change : StoreChange) :
    (store.changed change).Placed := by
  intro group observation member
  rw [stored_changed] at member
  rcases List.mem_append.1 member with isOld | isNew
  · exact placed group observation isOld
  · exact groupName_of_isFiled (List.mem_filter.1 isNew).2

theorem placed_ofChanges (changes : List StoreChange) : (ofChanges changes).Placed := by
  refine ofChanges_keeps ?_ (fun _ change placed => placed.changed change) changes
  intro group observation member
  cases member

end Store

end CloudAudit
