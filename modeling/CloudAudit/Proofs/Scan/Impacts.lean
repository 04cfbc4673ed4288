import Mathlib.Data.List.Nodup
import CloudAudit.Proofs.Collect.Snapshots
/-!
# What an impact depends on

The walk from a group to its parents reads names, labels and parents. Hierarchies that agree in
these give every group the same impact.
-/
set_option autoImplicit false

namespace CloudAudit

namespace Hierarchy

/-- What the walk through a hierarchy reads. -/
def outline (hierarchy : Hierarchy) : Table (Labels × String) :=
  hierarchy.map fun resource => (resource.labels, resource.parent)

theorem mergeFrom_congr {first second : Hierarchy} (same : first.outline = second.outline)
    (left : List String) (merged : Table String) (name : String) :
    first.mergeFrom left merged name = second.mergeFrom left merged name := by
  have step : ∀ name, (first.get? name).map (fun resource => (resource.labels, resource.parent)) =
      (second.get? name).map fun resource => (resource.labels, resource.parent) := by
    intro name
    rw [← Table.get?_map, ← Table.get?_map]
    exact congrArg (fun table => table.get? name) same
  induction left, merged, name using mergeFrom.induct first with
  | case1 left merged name ends =>
    rw [mergeFrom, mergeFrom, if_pos ends, if_pos ends]
  | case2 left merged name goesOn member resource found ih =>
    have other := step name
    rw [found, Option.map_some, eq_comm, Option.map_eq_some_iff] at other
    obtain ⟨alike, foundAlike, outlined⟩ := other
    obtain ⟨labels, parent⟩ := Prod.mk.inj outlined
    rw [mergeFrom, mergeFrom, if_neg goesOn, if_neg goesOn, dif_pos member, dif_pos member, found,
      foundAlike]
    simp only
    rw [labels, parent]
    exact ih
  | case3 left merged name goesOn member nothing =>
    have other := step name
    rw [nothing, Option.map_none, eq_comm, Option.map_eq_none_iff] at other
    rw [mergeFrom, mergeFrom, if_neg goesOn, if_neg goesOn, dif_pos member, dif_pos member, nothing,
      other]
  | case4 left merged name goesOn unknown =>
    rw [mergeFrom, mergeFrom, if_neg goesOn, if_neg goesOn, dif_neg unknown, dif_neg unknown]

theorem impact_congr {first second : Hierarchy} (same : first.outline = second.outline)
    (group : String) : first.impact group = second.impact group := by
  have outlineNames : ∀ hierarchy : Hierarchy, hierarchy.outline.names = hierarchy.names := by
    intro hierarchy
    simp [outline, Table.names, Table.map]
  have names : first.names = second.names := by
    rw [← outlineNames, ← outlineNames, same]
  have labels : first.mergedLabels group = second.mergedLabels group := by
    rw [mergedLabels, mergedLabels, names, mergeFrom_congr same]
  rw [impact, impact, labels]

theorem outline_ofResources {records resources : List Resource}
    (distinct : (records.map Resource.name).Nodup)
    (faithful : ∀ resource ∈ resources, ∃ record ∈ records,
      record.name = resource.name ∧ record.labels = resource.labels ∧
        record.parent = resource.parent)
    (complete : ∀ record ∈ records, ∃ resource ∈ resources, resource.name = record.name) :
    (ofResources resources).outline = (ofResources records).outline := by
  have lookup : ∀ (list : List Resource) (name : String),
      (ofResources list).get? name = list.reverse.find? fun resource => resource.name == name :=
    Collector.get?_byName
  apply Table.ext_get?
  intro name
  rw [outline, outline, Table.get?_map, Table.get?_map, lookup, lookup]
  cases found : resources.reverse.find? fun resource => resource.name == name with
  | none =>
    have nothing : (records.reverse.find? fun record => record.name == name) = none := by
      rw [List.find?_eq_none] at found ⊢
      intro record member named
      obtain ⟨resource, isResource, same⟩ := complete record (List.mem_reverse.1 member)
      exact found resource (List.mem_reverse.2 isResource)
        (beq_iff_eq.2 (same.trans (beq_iff_eq.1 named)))
    rw [nothing]
  | some resource =>
    have named := List.find?_some found
    obtain ⟨record, isRecord, sameName, labels, parent⟩ :=
      faithful resource (List.mem_reverse.1 (List.mem_of_find?_eq_some found))
    have foundRecord : (records.reverse.find? fun record => record.name == name) = some record := by
      have atName := sameName.trans (beq_iff_eq.1 named)
      have isFound : ((records.reverse.find? fun record => record.name == name)).isSome = true :=
        List.find?_isSome.2 ⟨record, List.mem_reverse.2 isRecord, beq_iff_eq.2 atName⟩
      obtain ⟨other, foundOther⟩ := Option.isSome_iff_exists.1 isFound
      have isOther := List.mem_reverse.1 (List.mem_of_find?_eq_some foundOther)
      have otherNamed := List.find?_some foundOther
      rw [foundOther, List.inj_on_of_nodup_map distinct isOther isRecord
        ((beq_iff_eq.1 otherNamed).trans atName.symm)]
    rw [foundRecord, Option.map_some, Option.map_some, labels, parent]

end Hierarchy

end CloudAudit
