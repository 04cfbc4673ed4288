import CloudAudit.Proofs.Risk.Lineage
/-!
# The nearest classification

A resource on the way up from a group classifies the group by a label if its value is truthy and no
nearer resource bears the label. The nearest classification decides the impact, customer data before
employee data at one distance, unless employee data is nearer than customer data: there customer
data decides from afar.
-/
set_option autoImplicit false

namespace CloudAudit.Hierarchy

/-- Whether the resource at a distance on a lineage classifies the group by a label: the value is
truthy, and no nearer resource bears the label. -/
def Classifies (hierarchy : Hierarchy) (lineage : List String) (distance : Nat)
    (label value : String) : Prop :=
  ∃ name, lineage[distance]? = some name ∧ hierarchy.label? name label = some value ∧
    isTruthy value = true ∧ ∀ nearer ∈ lineage.take distance, hierarchy.label? nearer label = none

/-- What the nearest classification on a lineage decides, customer data before employee data on one
resource. -/
inductive NearestDecides (hierarchy : Hierarchy) (lineage : List String) :
    Impact × Option String → Prop
  | customer {distance : Nat} {value : String}
      (classifies : hierarchy.Classifies lineage distance "customer_data" value)
      (nearest : ∀ other value, hierarchy.Classifies lineage other "employee_data" value →
        distance ≤ other) :
    NearestDecides hierarchy lineage (.high, some ("customer_data=" ++ value))
  | employee {distance : Nat} {value : String}
      (classifies : hierarchy.Classifies lineage distance "employee_data" value)
      (nearest : ∀ other value, hierarchy.Classifies lineage other "customer_data" value →
        distance < other) :
    NearestDecides hierarchy lineage (.medium, some ("employee_data=" ++ value))
  | unclassified
      (nothing : ∀ label ∈ ["customer_data", "employee_data"], ∀ distance value,
        ¬ hierarchy.Classifies lineage distance label value) :
    NearestDecides hierarchy lineage (.medium, none)

/-- Employee data classifies a group from nearer than customer data does. -/
def Outranked (hierarchy : Hierarchy) (lineage : List String) : Prop :=
  ∃ near nearValue far farValue, near < far ∧
    hierarchy.Classifies lineage near "employee_data" nearValue ∧
    hierarchy.Classifies lineage far "customer_data" farValue

namespace Classifies

variable {hierarchy : Hierarchy} {lineage : List String} {label : String}

theorem not_nearer {distance other : Nat} {value otherValue : String}
    (classifies : hierarchy.Classifies lineage distance label value)
    (also : hierarchy.Classifies lineage other label otherValue) : ¬ distance < other := by
  intro nearer
  obtain ⟨name, here, bears, -, -⟩ := classifies
  obtain ⟨-, -, -, -, silent⟩ := also
  have passed : name ∈ lineage.take other := by
    refine List.mem_of_getElem? (i := distance) ?_
    rw [List.getElem?_take_of_lt nearer, here]
  rw [silent name passed] at bears
  cases bears

theorem unique {distance other : Nat} {value otherValue : String}
    (classifies : hierarchy.Classifies lineage distance label value)
    (also : hierarchy.Classifies lineage other label otherValue) :
    other = distance ∧ otherValue = value := by
  obtain rfl : other = distance := by
    have := classifies.not_nearer also
    have := also.not_nearer classifies
    omega
  obtain ⟨name, here, bears, -⟩ := classifies
  obtain ⟨name', here', bears', -⟩ := also
  obtain rfl := Option.some.inj (here.symm.trans here')
  exact ⟨rfl, Option.some.inj (bears'.symm.trans bears)⟩

end Classifies

/-- The merged labels say by what a group is classified, but not from where. -/
theorem Lineage.classification?_eq_some_iff {hierarchy : Hierarchy} {group : String}
    {lineage : List String} (up : hierarchy.Lineage [] group lineage) (label value : String) :
    classification? (hierarchy.mergedLabels group) label = some value ↔
      ∃ distance, hierarchy.Classifies lineage distance label value := by
  rw [classification?, Option.filter_eq_some_iff, up.get?_mergedLabels, nearest?_eq_some_iff]
  constructor
  · rintro ⟨⟨nearer, name, farther, rfl, bears, silent⟩, truthy⟩
    refine ⟨nearer.length, name, by simp, bears, truthy, ?_⟩
    rwa [List.take_left]
  · rintro ⟨distance, name, here, bears, truthy, silent⟩
    obtain ⟨within, rfl⟩ := List.getElem?_eq_some_iff.1 here
    refine ⟨⟨lineage.take distance, _, lineage.drop (distance + 1), ?_, bears, silent⟩, truthy⟩
    rw [List.getElem_cons_drop, List.take_append_drop]

/-! ## What decides -/

section

variable {hierarchy : Hierarchy} {group : String} {lineage : List String}
  (up : hierarchy.Lineage [] group lineage)
include up

theorem Lineage.classification?_eq_none_iff (label : String) :
    classification? (hierarchy.mergedLabels group) label = none ↔
      ∀ distance value, ¬ hierarchy.Classifies lineage distance label value := by
  simp only [Option.eq_none_iff_forall_ne_some, ne_eq, up.classification?_eq_some_iff, not_exists]
  exact forall_comm

theorem Lineage.impact_of_customer {distance : Nat} {value : String}
    (classifies : hierarchy.Classifies lineage distance "customer_data" value) :
    hierarchy.impact group = (.high, some ("customer_data=" ++ value)) := by
  rw [impact_eq, (up.classification?_eq_some_iff _ _).2 ⟨distance, classifies⟩]

theorem Lineage.impact_of_employee {distance : Nat} {value : String}
    (classifies : hierarchy.Classifies lineage distance "employee_data" value)
    (noCustomer : ∀ distance value, ¬ hierarchy.Classifies lineage distance "customer_data" value) :
    hierarchy.impact group = (.medium, some ("employee_data=" ++ value)) := by
  rw [impact_eq, (up.classification?_eq_none_iff _).2 noCustomer,
    (up.classification?_eq_some_iff _ _).2 ⟨distance, classifies⟩]

theorem Lineage.impact_of_nothing
    (nothing : ∀ label ∈ ["customer_data", "employee_data"], ∀ distance value,
      ¬ hierarchy.Classifies lineage distance label value) :
    hierarchy.impact group = (.medium, none) := by
  rw [impact_eq, (up.classification?_eq_none_iff _).2 (nothing _ (by simp)),
    (up.classification?_eq_none_iff _).2 (nothing _ (by simp))]

end

theorem exists_nearestDecides (hierarchy : Hierarchy) (lineage : List String) :
    ∃ result, hierarchy.NearestDecides lineage result := by
  by_cases customer : ∃ distance value,
      hierarchy.Classifies lineage distance "customer_data" value
  · obtain ⟨far, customerValue, customer⟩ := customer
    by_cases nearer : ∃ near value, near < far ∧
        hierarchy.Classifies lineage near "employee_data" value
    · obtain ⟨near, value, nearer, employee⟩ := nearer
      refine ⟨_, .employee employee fun other _ also => ?_⟩
      rw [(customer.unique also).1]
      exact nearer
    · refine ⟨_, .customer customer fun other value employee => ?_⟩
      by_contra below
      exact nearer ⟨other, value, Nat.lt_of_not_le below, employee⟩
  · by_cases employee : ∃ distance value,
        hierarchy.Classifies lineage distance "employee_data" value
    · obtain ⟨distance, value, employee⟩ := employee
      exact ⟨_, .employee employee fun other value also => absurd ⟨other, value, also⟩ customer⟩
    · refine ⟨_, .unclassified fun label isLabel distance value classifies => ?_⟩
      rcases List.mem_pair.1 isLabel with rfl | rfl
      · exact customer ⟨distance, value, classifies⟩
      · exact employee ⟨distance, value, classifies⟩

theorem NearestDecides.unique {hierarchy : Hierarchy} {lineage : List String}
    {first second : Impact × Option String} (decides : hierarchy.NearestDecides lineage first)
    (also : hierarchy.NearestDecides lineage second) : second = first := by
  cases decides with
  | customer classifies nearest =>
    cases also with
    | customer alsoClassifies _ => rw [(classifies.unique alsoClassifies).2]
    | employee alsoClassifies alsoNearest =>
      have := nearest _ _ alsoClassifies
      have := alsoNearest _ _ classifies
      omega
    | unclassified nothing => exact absurd classifies (nothing _ (by simp) _ _)
  | employee classifies nearest =>
    cases also with
    | customer alsoClassifies alsoNearest =>
      have := nearest _ _ alsoClassifies
      have := alsoNearest _ _ classifies
      omega
    | employee alsoClassifies _ => rw [(classifies.unique alsoClassifies).2]
    | unclassified nothing => exact absurd classifies (nothing _ (by simp) _ _)
  | unclassified nothing =>
    cases also with
    | customer classifies _ | employee classifies _ =>
      exact absurd classifies (nothing _ (by simp) _ _)
    | unclassified _ => rfl

/-- The impact of a group is what the nearest classification decides exactly if employee data does
not classify it from nearer than customer data does. Customer data decides from anywhere. -/
theorem nearest_decides_iff (hierarchy : Hierarchy) (group : String) :
    ∃ lineage, hierarchy.Lineage [] group lineage ∧
      (∃! result, hierarchy.NearestDecides lineage result) ∧
      (hierarchy.NearestDecides lineage (hierarchy.impact group) ↔
        ¬ hierarchy.Outranked lineage) ∧
      (∀ distance value, hierarchy.Classifies lineage distance "customer_data" value →
        hierarchy.impact group = (.high, some ("customer_data=" ++ value))) ∧
      (∀ distance value, hierarchy.Classifies lineage distance "employee_data" value →
        (∀ distance value, ¬ hierarchy.Classifies lineage distance "customer_data" value) →
          hierarchy.impact group = (.medium, some ("employee_data=" ++ value))) ∧
      ((∀ label ∈ ["customer_data", "employee_data"], ∀ distance value,
          ¬ hierarchy.Classifies lineage distance label value) →
        hierarchy.impact group = (.medium, none)) := by
  obtain ⟨lineage, up, -⟩ := hierarchy.exists_lineage group
  obtain ⟨result, decides⟩ := hierarchy.exists_nearestDecides lineage
  refine ⟨lineage, up, ⟨result, decides, fun _ also => decides.unique also⟩, ?_,
    fun _ _ => up.impact_of_customer, fun _ _ => up.impact_of_employee, up.impact_of_nothing⟩
  constructor
  · rintro agrees ⟨near, nearValue, far, farValue, nearer, employee, customer⟩
    rw [up.impact_of_customer customer] at agrees
    have nearest : hierarchy.NearestDecides lineage
        (.medium, some ("employee_data=" ++ nearValue)) :=
      .employee employee fun other _ also => (customer.unique also).1 ▸ nearer
    cases nearest.unique agrees
  · intro inOrder
    suffices same : hierarchy.impact group = result from same ▸ decides
    cases decides with
    | customer classifies _ => exact up.impact_of_customer classifies
    | @employee near value classifies nearest =>
      refine up.impact_of_employee classifies fun far farValue customer => ?_
      exact inOrder ⟨near, value, far, farValue, nearest _ _ customer, classifies, customer⟩
    | unclassified nothing => exact up.impact_of_nothing nothing

/-! ## Customer data behind employee data -/

namespace Outranking

def hierarchy : Hierarchy :=
  .ofResources
    [{ (Resource.group "project").withLabel "employee_data" "yes" with parent := "folder" },
     (Resource.group "folder").withLabel "customer_data" "yes"]

theorem lineage_project : hierarchy.Lineage [] "project" ["project", "folder"] :=
  .climbs (by decide +kernel) rfl (.climbs (by decide +kernel) rfl (.ends (by decide +kernel)))

theorem employee_classifies :
    hierarchy.Classifies ["project", "folder"] 0 "employee_data" "yes" :=
  ⟨"project", rfl, by decide +kernel, by decide +kernel, by simp⟩

theorem customer_classifies :
    hierarchy.Classifies ["project", "folder"] 1 "customer_data" "yes" :=
  ⟨"folder", rfl, by decide +kernel, by decide +kernel, by decide +kernel⟩

/-- On the way up from the project employee data comes first, so the nearest does not decide. -/
theorem project_by_customer :
    hierarchy.Outranked ["project", "folder"] ∧
      ¬ hierarchy.NearestDecides ["project", "folder"] (hierarchy.impact "project") ∧
      hierarchy.impact "project" = (.high, some "customer_data=yes") := by
  have outranked : hierarchy.Outranked ["project", "folder"] :=
    ⟨0, "yes", 1, "yes", by decide, employee_classifies, customer_classifies⟩
  obtain ⟨lineage, up, -, decides_iff, byCustomer, -, -⟩ := nearest_decides_iff hierarchy "project"
  obtain rfl := lineage_project.unique up
  exact ⟨outranked, fun decides => decides_iff.1 decides outranked,
    byCustomer 1 "yes" customer_classifies⟩

end Outranking

theorem nearest_does_not_decide :
    ¬ ∀ (hierarchy : Hierarchy) (group : String) (lineage : List String),
      hierarchy.Lineage [] group lineage →
        hierarchy.NearestDecides lineage (hierarchy.impact group) := by
  intro always
  have decides := always Outranking.hierarchy "project" _ Outranking.lineage_project
  have nearest : Outranking.hierarchy.NearestDecides ["project", "folder"]
      (.medium, some ("employee_data=" ++ "yes")) :=
    .employee Outranking.employee_classifies fun other _ also =>
      (Outranking.customer_classifies.unique also).1 ▸ Nat.zero_lt_one
  have same := nearest.unique decides
  exact absurd same (by decide +kernel)

end CloudAudit.Hierarchy
