import Mathlib.Data.List.Perm.Subperm
import CloudAudit.Risk
/-!
# The way up from a group

From a group its parents lead upwards until a name is empty, unknown, or on the way already. Of each
label the nearest resource on this way that bears it decides. So labels off the way, and labels
behind a nearer one of the same key, leave the impact of the group as it is.
-/
set_option autoImplicit false

namespace CloudAudit.Hierarchy

/-! ## Lineages -/

/-- Whether the way up ends at a name, given the names on it so far. -/
def EndsAt (hierarchy : Hierarchy) (visited : List String) (name : String) : Prop :=
  name = "" ∨ hierarchy.get? name = none ∨ name ∈ visited

instance (hierarchy : Hierarchy) (visited : List String) (name : String) :
    Decidable (hierarchy.EndsAt visited name) :=
  inferInstanceAs (Decidable (_ ∨ _ ∨ _))

/-- The names from one upwards by the parents of their resources, up to where the way ends. -/
inductive Lineage (hierarchy : Hierarchy) : List String → String → List String → Prop
  | ends {visited : List String} {name : String} (ended : hierarchy.EndsAt visited name) :
    Lineage hierarchy visited name []
  | climbs {visited : List String} {name : String} {resource : Resource} {farther : List String}
      (goesOn : ¬ hierarchy.EndsAt visited name) (found : hierarchy.get? name = some resource)
      (above : Lineage hierarchy (name :: visited) resource.parent farther) :
    Lineage hierarchy visited name (name :: farther)

namespace Lineage

variable {hierarchy : Hierarchy} {visited : List String} {name : String} {lineage : List String}

theorem unique {other : List String} (first : hierarchy.Lineage visited name lineage)
    (second : hierarchy.Lineage visited name other) : other = lineage := by
  induction first generalizing other with
  | ends ended =>
    cases second with
    | ends _ => rfl
    | climbs goesOn _ _ => exact absurd ended goesOn
  | climbs goesOn found _ ih =>
    cases second with
    | ends ended => exact absurd ended goesOn
    | climbs _ foundToo above =>
      obtain rfl := Option.some.inj (found.symm.trans foundToo)
      rw [ih above]

/-- Each name stands on the way once, and is a new one that the hierarchy knows. -/
theorem of_mem (up : hierarchy.Lineage visited name lineage) {other : String}
    (member : other ∈ lineage) : other ∉ visited ∧ other ∈ hierarchy.names := by
  induction up with
  | ends _ => cases member
  | climbs goesOn found _ ih =>
    rcases List.mem_cons.1 member with rfl | farther
    · refine ⟨fun seen => goesOn (.inr (.inr seen)), ?_⟩
      exact (hierarchy.mem_names_iff _).2 ((hierarchy.contains_iff _).2 ⟨_, found⟩)
    · obtain ⟨fresh, known⟩ := ih farther
      exact ⟨fun seen => fresh (List.mem_cons_of_mem _ seen), known⟩

theorem nodup (up : hierarchy.Lineage visited name lineage) : lineage.Nodup := by
  induction up with
  | ends _ => exact List.nodup_nil
  | climbs _ _ above ih =>
    exact List.nodup_cons.2 ⟨fun again => (above.of_mem again).1 List.mem_cons_self, ih⟩

theorem length_le (up : hierarchy.Lineage visited name lineage) :
    lineage.length ≤ hierarchy.size := by
  have known : lineage ⊆ hierarchy.names := fun _ member => (up.of_mem member).2
  have count := (List.subperm_of_subset up.nodup known).length_le
  rwa [Table.names, List.length_map] at count

theorem congr {other : Hierarchy}
    (parents : ∀ name, (other.get? name).map Resource.parent =
      (hierarchy.get? name).map Resource.parent)
    (up : hierarchy.Lineage visited name lineage) : other.Lineage visited name lineage := by
  have ends_iff : ∀ visited name, other.EndsAt visited name ↔ hierarchy.EndsAt visited name := by
    intro visited name
    rw [EndsAt, EndsAt, ← Option.map_eq_none_iff (f := Resource.parent), parents,
      Option.map_eq_none_iff]
  induction up with
  | ends ended => exact .ends ((ends_iff _ _).2 ended)
  | @climbs _ name _ _ goesOn found _ ih =>
    have alike := parents name
    rw [found, Option.map_some, Option.map_eq_some_iff] at alike
    obtain ⟨resource, foundToo, sameParent⟩ := alike
    rw [← sameParent] at ih
    exact .climbs (fun ended => goesOn ((ends_iff _ _).1 ended)) foundToo ih

end Lineage

/-! ## Merged labels -/

def label? (hierarchy : Hierarchy) (name key : String) : Option String :=
  (hierarchy.get? name).bind fun resource => resource.labels.get? key

/-- What the first of some names says of a label whose resource bears it. -/
def nearest? (hierarchy : Hierarchy) (lineage : List String) (key : String) : Option String :=
  lineage.findSome? fun name => hierarchy.label? name key

theorem nearest?_cons (hierarchy : Hierarchy) (name : String) (farther : List String)
    (key : String) :
    hierarchy.nearest? (name :: farther) key =
      (hierarchy.label? name key).or (hierarchy.nearest? farther key) := by
  rw [nearest?, List.findSome?_cons]
  cases hierarchy.label? name key <;> rfl

theorem nearest?_eq_some_iff {hierarchy : Hierarchy} {lineage : List String}
    {key value : String} :
    hierarchy.nearest? lineage key = some value ↔
      ∃ nearer name farther, lineage = nearer ++ name :: farther ∧
        hierarchy.label? name key = some value ∧
          ∀ other ∈ nearer, hierarchy.label? other key = none :=
  List.findSome?_eq_some_iff

theorem get?_addLabels (merged more : Table String) (key : String) :
    (addLabels merged more).get? key = (merged.get? key).or (more.get? key) := by
  have added : ∀ (entries : List (String × String)) (merged : Table String),
      (entries.foldl (fun merged label =>
        if merged.contains label.1 then merged else merged.insert label.1 label.2) merged).get?
          key = (merged.get? key).or (entries.lookup key) := by
    intro entries
    induction entries with
    | nil =>
      intro merged
      exact (Option.or_none).symm
    | cons label entries ih =>
      intro merged
      rw [List.foldl_cons, ih, Table.lookup_entry]
      by_cases own : key = label.1
      · subst own
        cases present : merged.get? label.1 with
        | none => simp [Table.contains, present]
        | some value => simp [Table.contains, present]
      · rw [if_neg own]
        split
        · rfl
        · rw [Table.get?_insert_of_ne _ _ own]
  exact added more.entries merged

/-- The names that are left are those of the hierarchy that were not visited, each once. -/
structure Left (hierarchy : Hierarchy) (visited left : List String) : Prop where
  distinct : left.Nodup
  mem_iff : ∀ name, name ∈ left ↔ name ∈ hierarchy.names ∧ name ∉ visited

theorem left_names (hierarchy : Hierarchy) : hierarchy.Left [] hierarchy.names where
  distinct := hierarchy.ascending_names.imp String.ne_of_lt
  mem_iff := by simp

theorem Left.visit {hierarchy : Hierarchy} {visited left : List String}
    (stays : hierarchy.Left visited left) (name : String) :
    hierarchy.Left (name :: visited) (left.erase name) where
  distinct := stays.distinct.erase name
  mem_iff := by
    intro other
    rw [stays.distinct.mem_erase_iff, stays.mem_iff, List.mem_cons]
    tauto

/-- A table of labels to which the first ones on the way up from a name were added. -/
def MergedUp (hierarchy : Hierarchy) (visited : List String) (name : String)
    (merged result : Table String) : Prop :=
  ∃ lineage, hierarchy.Lineage visited name lineage ∧
    ∀ key, result.get? key = (merged.get? key).or (hierarchy.nearest? lineage key)

theorem MergedUp.ends {hierarchy : Hierarchy} {visited : List String} {name : String}
    (ended : hierarchy.EndsAt visited name) (merged : Table String) :
    hierarchy.MergedUp visited name merged merged :=
  ⟨[], .ends ended, fun _ => Option.or_none.symm⟩

theorem MergedUp.climbs {hierarchy : Hierarchy} {visited : List String} {name : String}
    {resource : Resource} {merged result : Table String}
    (goesOn : ¬ hierarchy.EndsAt visited name) (found : hierarchy.get? name = some resource)
    (above : hierarchy.MergedUp (name :: visited) resource.parent
      (addLabels merged resource.labels) result) :
    hierarchy.MergedUp visited name merged result := by
  obtain ⟨farther, up, labels⟩ := above
  refine ⟨name :: farther, .climbs goesOn found up, fun key => ?_⟩
  have own : hierarchy.label? name key = resource.labels.get? key := by
    rw [label?, found, Option.bind_some]
  rw [labels, get?_addLabels, Option.or_assoc, nearest?_cons, own]

theorem mergeFrom_mergedUp (hierarchy : Hierarchy) (left : List String) (merged : Table String)
    (name : String) {visited : List String} (stays : hierarchy.Left visited left) :
    hierarchy.MergedUp visited name merged (hierarchy.mergeFrom left merged name) := by
  induction left, merged, name using mergeFrom.induct hierarchy generalizing visited with
  | case1 left merged name blank =>
    rw [mergeFrom, if_pos blank]
    exact .ends (.inl (String.isEmpty_iff.1 blank)) merged
  | case2 left merged name named member resource found ih =>
    have goesOn : ¬ hierarchy.EndsAt visited name := by
      rintro (blank | unknown | seen)
      · exact named (String.isEmpty_iff.2 blank)
      · rw [found] at unknown
        cases unknown
      · exact ((stays.mem_iff name).1 member).2 seen
    rw [mergeFrom, if_neg named, dif_pos member, found]
    exact .climbs goesOn found (ih (stays.visit name))
  | case3 left merged name named member unknown =>
    rw [mergeFrom, if_neg named, dif_pos member, unknown]
    exact .ends (.inr (.inl unknown)) merged
  | case4 left merged name named gone =>
    rw [mergeFrom, if_neg named, dif_neg gone]
    refine .ends (.inr ?_) merged
    cases found : hierarchy.get? name with
    | none => exact .inl rfl
    | some resource =>
      right
      by_contra fresh
      have known := (hierarchy.mem_names_iff name).2 ((hierarchy.contains_iff name).2 ⟨_, found⟩)
      exact gone ((stays.mem_iff name).2 ⟨known, fresh⟩)

/-- The way up from a group, of which the first label of each key is merged. -/
theorem exists_lineage (hierarchy : Hierarchy) (group : String) :
    ∃ lineage, hierarchy.Lineage [] group lineage ∧
      ∀ key, (hierarchy.mergedLabels group).get? key = hierarchy.nearest? lineage key :=
  hierarchy.mergeFrom_mergedUp hierarchy.names Table.empty group hierarchy.left_names

theorem Lineage.get?_mergedLabels {hierarchy : Hierarchy} {group : String}
    {lineage : List String} (up : hierarchy.Lineage [] group lineage) (key : String) :
    (hierarchy.mergedLabels group).get? key = hierarchy.nearest? lineage key := by
  obtain ⟨found, upToo, labels⟩ := hierarchy.exists_lineage group
  rw [labels, upToo.unique up]

/-! ## Impacts -/

def classification? (labels : Table String) (label : String) : Option String :=
  (labels.get? label).filter isTruthy

theorem impact_eq (hierarchy : Hierarchy) (group : String) :
    hierarchy.impact group =
      match classification? (hierarchy.mergedLabels group) "customer_data",
        classification? (hierarchy.mergedLabels group) "employee_data" with
      | some value, _ => (.high, some ("customer_data=" ++ value))
      | none, some value => (.medium, some ("employee_data=" ++ value))
      | none, none => (.medium, none) := by
  have classified : ∀ label impact,
      classified? (hierarchy.mergedLabels group) label impact =
        (classification? (hierarchy.mergedLabels group) label).map
          fun value => (impact, label ++ "=" ++ value) := by
    intro label impact
    rw [classified?, classification?]
    cases (hierarchy.mergedLabels group).get? label with
    | none => rfl
    | some value => by_cases truthy : isTruthy value = true <;> simp [Option.filter, truthy]
  simp only [impact, classifications, List.filterMap_cons, List.filterMap_nil, classified]
  cases classification? (hierarchy.mergedLabels group) "customer_data" <;>
    cases classification? (hierarchy.mergedLabels group) "employee_data" <;> rfl

theorem high_iff (hierarchy : Hierarchy) (group : String) :
    (hierarchy.impact group).1 = .high ↔
      ∃ value, (hierarchy.mergedLabels group).get? "customer_data" = some value ∧
        isTruthy value = true := by
  have customer : (hierarchy.impact group).1 = .high ↔
      (classification? (hierarchy.mergedLabels group) "customer_data").isSome = true := by
    rw [impact_eq]
    cases classification? (hierarchy.mergedLabels group) "customer_data" <;>
      cases classification? (hierarchy.mergedLabels group) "employee_data" <;> simp
  rw [customer, classification?, Option.isSome_iff_exists]
  simp only [Option.filter_eq_some_iff]

theorem isTruthy_iff (value : String) :
    isTruthy value = true ↔
      Text.lower (Text.trim value) = "yes" ∨ Text.lower (Text.trim value) = "true" := by
  simp [isTruthy]

/-- Hierarchies with the same parents, and the same labels on a lineage as far as no nearer name
bears them. -/
structure AlikeOn (hierarchy : Hierarchy) (lineage : List String) (other : Hierarchy) : Prop where
  parents : ∀ name, (other.get? name).map Resource.parent =
    (hierarchy.get? name).map Resource.parent
  labels : ∀ nearer name farther key, lineage = nearer ++ name :: farther →
    (∀ before ∈ nearer, hierarchy.label? before key = none) →
      other.label? name key = hierarchy.label? name key

theorem AlikeOn.nearest?_eq {hierarchy other : Hierarchy} {lineage : List String}
    (alike : hierarchy.AlikeOn lineage other) (key : String) :
    other.nearest? lineage key = hierarchy.nearest? lineage key := by
  -- Names that bear no label in the one bear none in the other, as long as none before them does.
  have silent : ∀ nearer farther, lineage = nearer ++ farther →
      (∀ name ∈ nearer, hierarchy.label? name key = none) →
        ∀ name ∈ nearer, other.label? name key = none := by
    rintro nearer farther rfl silent name member
    obtain ⟨before, between, rfl⟩ := List.append_of_mem member
    rw [alike.labels before name (between ++ farther) key (by simp)
      fun earlier isEarlier => silent earlier (List.mem_append_left _ isEarlier)]
    exact silent name member
  cases found : hierarchy.nearest? lineage key with
  | none =>
    rw [nearest?, List.findSome?_eq_none_iff] at found ⊢
    exact silent lineage [] (by simp) found
  | some value =>
    obtain ⟨nearer, name, farther, place, own, before⟩ := nearest?_eq_some_iff.1 found
    refine nearest?_eq_some_iff.2 ⟨nearer, name, farther, place, ?_, silent nearer _ place before⟩
    rw [alike.labels nearer name farther key place before, own]

/-- From every group there is one way up, and it is not longer than there are resources. Of each
label the first resource on it that bears the label is merged. So whatever else changes of the
labels of resources, the impact of the group does not; it is high just if the first resource that
says whether there is customer data says so. -/
theorem nearest_labels_decide (hierarchy : Hierarchy) (group : String) :
    ∃ lineage, (∀ other, hierarchy.Lineage [] group other ↔ other = lineage) ∧
      lineage.Nodup ∧ lineage.length ≤ hierarchy.size ∧
      (∀ key, (hierarchy.mergedLabels group).get? key = hierarchy.nearest? lineage key) ∧
      (∀ other, hierarchy.AlikeOn lineage other → other.impact group = hierarchy.impact group) ∧
      ((hierarchy.impact group).1 = .high ↔
        ∃ value, hierarchy.nearest? lineage "customer_data" = some value ∧
          (Text.lower (Text.trim value) = "yes" ∨ Text.lower (Text.trim value) = "true")) := by
  obtain ⟨lineage, up, labels⟩ := hierarchy.exists_lineage group
  refine ⟨lineage, fun other => ⟨up.unique, ?_⟩, up.nodup, up.length_le, labels, ?_, ?_⟩
  · rintro rfl
    exact up
  · intro other alike
    have upToo := up.congr alike.parents
    have merged : other.mergedLabels group = hierarchy.mergedLabels group := by
      refine Table.ext_get? fun key => ?_
      rw [upToo.get?_mergedLabels, up.get?_mergedLabels, alike.nearest?_eq]
    rw [impact, impact, merged]
  · simp only [high_iff, labels, isTruthy_iff]

/-! ## A folder below its own project -/

namespace Looped

/-- A project that says that it holds no customer data, in a folder that says that it does. The
folder lies in the project again, and another folder somewhere else. -/
def hierarchy : Hierarchy :=
  .ofResources
    [{ (Resource.group "project").withLabel "customer_data" "no" with parent := "folder" },
     { ((Resource.group "folder").withLabel "customer_data" "yes").withLabel
          "employee_data" "Yes " with parent := "project" },
     { Resource.group "elsewhere" with parent := "folder" }]

def relabelled : Hierarchy :=
  hierarchy.map fun resource =>
    if resource.name = "project" then resource else resource.withLabel "customer_data" "true"

theorem lineage_project : hierarchy.Lineage [] "project" ["project", "folder"] :=
  .climbs (by decide +kernel) rfl (.climbs (by decide +kernel) rfl (.ends (by decide +kernel)))

theorem alikeOn_relabelled : hierarchy.AlikeOn ["project", "folder"] relabelled where
  parents := by
    intro name
    rw [relabelled, Table.get?_map, Option.map_map]
    congr 1
    funext resource
    rw [Function.comp_apply]
    split <;> rfl
  labels := by
    intro nearer name farther key place silent
    by_cases changed : key = "customer_data"
    · subst changed
      cases nearer with
      | nil =>
        obtain ⟨rfl, -⟩ := List.cons.inj place
        decide +kernel
      | cons first nearer =>
        obtain ⟨rfl, -⟩ := List.cons.inj place
        exact absurd (silent "project" List.mem_cons_self) (by decide +kernel)
    · rw [label?, label?, relabelled, Table.get?_map]
      cases hierarchy.get? name with
      | none => rfl
      | some resource =>
        simp only [Option.map_some, Option.bind_some]
        split
        · rfl
        · exact Table.get?_insert_of_ne _ _ changed

theorem project_unmoved :
    hierarchy.AlikeOn ["project", "folder"] relabelled ∧
      relabelled.label? "folder" "customer_data" ≠ hierarchy.label? "folder" "customer_data" ∧
      relabelled.impact "project" = hierarchy.impact "project" ∧
      (hierarchy.impact "project").1 ≠ .high := by
  obtain ⟨lineage, only, -, -, -, unmoved, high⟩ := nearest_labels_decide hierarchy "project"
  obtain rfl := (only _).1 lineage_project
  refine ⟨alikeOn_relabelled, by decide +kernel, unmoved _ alikeOn_relabelled, ?_⟩
  have denied : hierarchy.nearest? ["project", "folder"] "customer_data" = some "no" := by
    decide +kernel
  rw [Ne, high, denied]
  rintro ⟨value, same, truthy⟩
  obtain rfl := Option.some.inj same
  exact absurd truthy (by decide +kernel)

end Looped

end CloudAudit.Hierarchy
