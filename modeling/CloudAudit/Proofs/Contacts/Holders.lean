import CloudAudit.Proofs.Contacts.Addresses
/-!
# Contacts and who holds what

Of a policy the contacts of a group depend only on which principals it grants which roles, however
this is spread over permissions, and of the configured roles only on what they name. More grants and
more roles give more contacts.
-/
set_option autoImplicit false

namespace CloudAudit

namespace Text

/-! ## What a text starts with -/

theorem dropLeading?_eq_some_iff {lead text rest : List Char} :
    dropLeading? lead text = some rest ↔ text = lead ++ rest := by
  induction lead generalizing text with
  | nil => rw [dropLeading?, List.nil_append, Option.some_inj]
  | cons c lead ih =>
    cases text with
    | nil => simp [dropLeading?]
    | cons d text =>
      by_cases same : c = d
      · rw [dropLeading?, if_pos (beq_iff_eq.2 same), ih, same, List.cons_append,
          List.cons_inj_right]
      · rw [dropLeading?, if_neg (by simpa using same), List.cons_append, List.cons.injEq]
        exact iff_of_false (Option.some_ne_none rest).symm fun equal => same equal.1.symm

theorem dropLeading_append (lead rest : String) : dropLeading lead (lead ++ rest) = rest := by
  rw [dropLeading, dropLeading?_eq_some_iff.2 String.toList_append]
  exact String.ofList_toList

theorem dropLeading_other {lead text : String} (other : ¬ lead.toList <+: text.toList) :
    dropLeading lead text = text := by
  cases found : dropLeading? lead.toList text.toList with
  | none => rw [dropLeading, found]
  | some rest => exact absurd ⟨rest, (dropLeading?_eq_some_iff.1 found).symm⟩ other

theorem strip_padded {front text back : List Char} (blankFront : ∀ c ∈ front, isBlank c = true)
    (trimmed : Trimmed text) (blankBack : ∀ c ∈ back, isBlank c = true) :
    strip isBlank (front ++ (text ++ back)) = text := by
  have atFront : (front ++ (text ++ back)).dropWhile isBlank = (text ++ back).dropWhile isBlank :=
    List.dropWhile_append_of_pos blankFront
  cases text with
  | nil =>
    have nothing : back.dropWhile isBlank = [] := List.dropWhile_eq_nil_iff.2 blankBack
    rw [strip, atFront, List.nil_append, nothing]
    rfl
  | cons c text =>
    have visible : isBlank c = false := trimmed.starts c rfl
    have atBack : (c :: text ++ back).reverse.dropWhile isBlank =
        (c :: text).reverse.dropWhile isBlank := by
      rw [List.reverse_append]
      exact List.dropWhile_append_of_pos fun d member => blankBack d (List.mem_reverse.1 member)
    have whole := trimmed.strip_eq
    rw [strip, List.dropWhile_cons_of_neg (by simp [visible])] at whole
    rw [strip, atFront, List.cons_append, List.dropWhile_cons_of_neg (by simp [visible]),
      ← List.cons_append, atBack, whole]

end Text

namespace Resource

/-! ## Who holds what -/

/-- A role is granted to a principal by some permission, whatever else that one grants. -/
def Grants (group : Resource) (role principal : String) : Prop :=
  ∃ permission ∈ group.permissions, permission.roleName = role ∧ principal ∈ permission.principals

theorem grants_withPermission {group : Resource} {permission : Permission}
    {role principal : String} :
    (group.withPermission permission).Grants role principal ↔
      group.Grants role principal ∨
        permission.roleName = role ∧ principal ∈ permission.principals := by
  have added : (group.withPermission permission).permissions = group.permissions ++ [permission] :=
    rfl
  simp only [Grants, added, List.mem_append, List.mem_singleton, or_and_right, exists_or,
    exists_eq_left]

def SameContactLabels (group other : Resource) : Prop :=
  ∀ key ∈ contactLabels, group.labels.get? key = other.labels.get? key

end Resource

namespace ContactResolver

/-! ## Roles that are configured -/

/-- The roles whose holders are contacted if the given ones are configured. -/
def adminRolesWith (configured : List String) : List String :=
  (usualAdminRoles ++ configured.map normalRole).filter fun role => !role.isEmpty

theorem mem_adminRolesWith {configured : List String} {role : String} :
    role ∈ adminRolesWith configured ↔
      role ≠ "" ∧ (role ∈ usualAdminRoles ∨ ∃ written ∈ configured, normalRole written = role) := by
  rw [adminRolesWith, List.mem_filter, List.mem_append, List.mem_map, and_comm]
  simp

theorem adminRolesWith_mono {configured more : List String} (fewer : configured ⊆ more) :
    adminRolesWith configured ⊆ adminRolesWith more := by
  intro role member
  obtain ⟨named, usual | ⟨written, listed, names⟩⟩ := mem_adminRolesWith.1 member
  · exact mem_adminRolesWith.2 ⟨named, .inl usual⟩
  · exact mem_adminRolesWith.2 ⟨named, .inr ⟨written, fewer listed, names⟩⟩

theorem ofSettings_ok {settings : NotificationSettings} {resolver : ContactResolver}
    (made : ofSettings settings = .ok resolver) :
    resolver.orgSuffix = settings.orgSuffix ∧
      resolver.adminRoles = adminRolesWith settings.additionalAdminRoles := by
  rw [ofSettings] at made
  cases compiled : Pattern.compile? settings.labelPattern with
  | none =>
    rw [compiled] at made
    cases made
  | some pattern =>
    rw [compiled] at made
    cases made
    exact ⟨rfl, rfl⟩

/-- Settings that differ in the roles give resolvers that differ in the roles. -/
theorem ofSettings_withRoles (settings : NotificationSettings) (configured : List String) :
    ofSettings { settings with additionalAdminRoles := configured } =
      (ofSettings settings).map fun resolver =>
        { resolver with adminRoles := adminRolesWith configured } := by
  rw [ofSettings, ofSettings]
  cases Pattern.compile? settings.labelPattern <;> rfl

/-- The ways to write a role in the settings: with blanks around it, and with `roles/` or without.
-/
inductive Written (role : String) : String → Prop where
  | plain {lead trail : String} (blankLead : Text.allBlank lead = true)
      (blankTrail : Text.allBlank trail = true) : Written role (lead ++ (role ++ trail))
  | full {lead trail : String} (blankLead : Text.allBlank lead = true)
      (blankTrail : Text.allBlank trail = true) :
    Written role (lead ++ ("roles/" ++ role ++ trail))

theorem Written.self (role : String) : Written role role := by
  have written : Written role ("" ++ (role ++ "")) := .plain rfl rfl
  rwa [String.append_empty, String.empty_append] at written

section

variable {role : String} (trimmed : Text.Trimmed role.toList)
include trimmed

theorem trimmed_full : Text.Trimmed ("roles/" ++ role).toList := by
  rw [String.toList_append]
  constructor
  · rintro c ⟨⟩
    decide
  · intro c last
    rw [List.getLast?_append] at last
    cases ends : role.toList.getLast? with
    | none =>
      rw [ends] at last
      cases last
      decide
    | some d =>
      rw [ends] at last
      exact trimmed.ends c (ends.trans last)

theorem trim_padded {lead trail : String} (blankLead : Text.allBlank lead = true)
    (blankTrail : Text.allBlank trail = true) : Text.trim (lead ++ (role ++ trail)) = role := by
  rw [Text.trim, String.toList_append, String.toList_append,
    Text.strip_padded (List.all_eq_true.1 blankLead) trimmed (List.all_eq_true.1 blankTrail),
    String.ofList_toList]

variable (bare : ¬ "roles/".toList <+: role.toList) {written : String}
include bare

theorem normalRole_written (isWritten : Written role written) : normalRole written = role := by
  cases isWritten with
  | plain blankLead blankTrail =>
    rw [normalRole, trim_padded trimmed blankLead blankTrail, Text.dropLeading_other bare]
  | full blankLead blankTrail =>
    rw [normalRole, trim_padded (trimmed_full trimmed) blankLead blankTrail,
      Text.dropLeading_append]

theorem adminRolesWith_written (isWritten : Written role written) (before after : List String) :
    adminRolesWith (before ++ written :: after) = adminRolesWith (before ++ role :: after) := by
  have same : normalRole written = normalRole role := by
    rw [normalRole_written trimmed bare isWritten,
      normalRole_written trimmed bare (Written.self role)]
  simp only [adminRolesWith, List.map_append, List.map_cons, same]

end

/-! ## Where contacts come from -/

/-- A principal with everything up to its first colon removed. -/
inductive Untyped : String → String → Prop where
  | typed {kind rest : List Char} (first : ':' ∉ kind) :
    Untyped (.ofList (kind ++ ':' :: rest)) (.ofList rest)
  | plain {principal : String} (unmarked : ':' ∉ principal.toList) : Untyped principal principal

theorem untyped_iff {principal contact : String} :
    Untyped principal contact ↔ address principal = contact := by
  constructor
  · rintro (first | absent)
    · rw [address, String.toList_ofList, Text.cutAt_append first]
    · rw [address, Text.cutAt_eq_none absent]
  · rintro rfl
    by_cases marked : ':' ∈ principal.toList
    · obtain ⟨kind, rest, parts, first⟩ := List.eq_append_cons_of_mem marked
      rw [address, parts, Text.cutAt_append first, ← String.ofList_toList (s := principal), parts]
      exact .typed first
    · rw [address, Text.cutAt_eq_none marked]
      exact .plain marked

/-- Whoever holds an administrative role as a member of the organisation, and whoever a label
names. -/
inductive Source (resolver : ContactResolver) (group : Resource) : String → Prop where
  | admin {role principal contact : String} (administers : role ∈ resolver.adminRoles)
      (holds : group.Grants role principal)
      (belongs : resolver.orgSuffix.toList <:+ principal.toList)
      (untyped : Untyped principal contact) : Source resolver group contact
  | label {key value : String} (isContact : key ∈ contactLabels)
      (labelled : group.labels.get? key = some value) (named : value ≠ "") :
    Source resolver group (resolver.labelToEmail value)

section

variable {resolver : ContactResolver} {group : Resource} {contact : String}

theorem mem_admins_iff :
    contact ∈ resolver.admins group ↔
      ∃ role principal, role ∈ resolver.adminRoles ∧ group.Grants role principal ∧
        resolver.orgSuffix.toList <:+ principal.toList ∧ Untyped principal contact := by
  simp only [admins, List.mem_flatMap, List.mem_filter, List.mem_map, List.contains_iff_mem,
    isMember, List.isSuffixOf_iff_suffix]
  constructor
  · rintro ⟨permission, ⟨granted, administers⟩, principal, ⟨held, belongs⟩, untyped⟩
    exact ⟨permission.roleName, principal, administers, ⟨permission, granted, rfl, held⟩, belongs,
      untyped_iff.2 untyped⟩
  · rintro ⟨_, principal, administers, ⟨permission, granted, rfl, held⟩, belongs, untyped⟩
    exact ⟨permission, ⟨granted, administers⟩, principal, ⟨held, belongs⟩, untyped_iff.1 untyped⟩

theorem mem_labelled_iff :
    contact ∈ resolver.labelled group ↔
      ∃ key ∈ contactLabels, ∃ value, group.labels.get? key = some value ∧ value ≠ "" ∧
        resolver.labelToEmail value = contact := by
  rw [labelled, List.mem_filterMap]
  refine exists_congr fun key => and_congr_right fun _ => ?_
  cases group.labels.get? key with
  | none => simp
  | some value => by_cases empty : value = "" <;> simp [empty]

theorem mem_contacts_iff :
    contact ∈ resolver.contacts group ↔ contact ≠ "" ∧ resolver.Source group contact := by
  have sources : contact ∈ resolver.admins group ++ resolver.labelled group ↔
      resolver.Source group contact := by
    rw [List.mem_append, mem_admins_iff, mem_labelled_iff]
    constructor
    · rintro (⟨role, principal, administers, holds, belongs, untyped⟩ |
        ⟨key, isContact, value, labelled, named, rfl⟩)
      · exact .admin administers holds belongs untyped
      · exact .label isContact labelled named
    · rintro (⟨administers, holds, belongs, untyped⟩ | ⟨isContact, labelled, named⟩)
      · exact .inl ⟨_, _, administers, holds, belongs, untyped⟩
      · exact .inr ⟨_, isContact, _, labelled, named, rfl⟩
  rw [contacts, NameSet.mem_names_ofNames, List.mem_filter, sources, and_comm]
  simp

/-- With more roles to contact the holders of, and more holders, nobody is left out. -/
theorem Source.mono {more : Resource} {roles : List String}
    (source : resolver.Source group contact) (fewer : resolver.adminRoles ⊆ roles)
    (labels : group.SameContactLabels more)
    (grants : ∀ role principal, group.Grants role principal → more.Grants role principal) :
    Source { resolver with adminRoles := roles } more contact := by
  cases source with
  | admin administers holds belongs untyped =>
    exact .admin (fewer administers) (grants _ _ holds) belongs untyped
  | label isContact labelled named =>
    exact .label isContact ((labels _ isContact).symm.trans labelled) named

theorem contacts_mono {more : Resource} {roles : List String}
    (fewer : resolver.adminRoles ⊆ roles) (labels : group.SameContactLabels more)
    (grants : ∀ role principal, group.Grants role principal → more.Grants role principal) :
    resolver.contacts group ⊆ contacts { resolver with adminRoles := roles } more := by
  intro contact member
  obtain ⟨named, source⟩ := mem_contacts_iff.1 member
  exact mem_contacts_iff.2 ⟨named, source.mono fewer labels grants⟩

theorem contacts_congr {other : Resource}
    (labels : group.SameContactLabels other)
    (grants : ∀ role principal, group.Grants role principal ↔ other.Grants role principal) :
    resolver.contacts group = resolver.contacts other := by
  refine Table.names_eq_of_mem_iff fun contact => ⟨fun member => ?_, fun member => ?_⟩
  · exact contacts_mono (List.Subset.refl _) labels (fun _ _ => (grants _ _).1) member
  · exact contacts_mono (List.Subset.refl _) (fun key isContact => (labels key isContact).symm)
      (fun _ _ => (grants _ _).2) member

end

theorem exists_resolver {settings : Settings} (accepted : settings.validate = .ok ()) :
    ∃ resolver, ofSettings settings.notifications = .ok resolver := by
  obtain ⟨-, compiles, -⟩ := Settings.validate_eq_ok_iff.1 accepted
  obtain ⟨pattern, compiled⟩ := Option.isSome_iff_exists.1 compiles
  rw [ofSettings, compiled]
  exact ⟨_, rfl⟩

/-- Accepted settings give a resolver whose contacts are just the texts with a `Source` that are not
empty. They do not change with the permissions as long as these grant the same; further grants and
further roles only add to them; and how a role is written in the settings does not matter. -/
theorem contacts_depend_on_holders {settings : Settings} (accepted : settings.validate = .ok ()) :
    ∃ resolver, ofSettings settings.notifications = .ok resolver ∧
      resolver.orgSuffix = settings.notifications.orgSuffix ∧
      (∀ role, role ∈ resolver.adminRoles ↔ role ≠ "" ∧ (role ∈ usualAdminRoles ∨
        ∃ written ∈ settings.notifications.additionalAdminRoles, normalRole written = role)) ∧
      (∀ group contact, contact ∈ resolver.contacts group ↔
        contact ≠ "" ∧ resolver.Source group contact) ∧
      (∀ group other : Resource, group.SameContactLabels other →
        (∀ role principal, group.Grants role principal ↔ other.Grants role principal) →
        resolver.contacts group = resolver.contacts other) ∧
      (∀ group more : Resource, group.SameContactLabels more →
        (∀ role principal, group.Grants role principal → more.Grants role principal) →
        resolver.contacts group ⊆ resolver.contacts more) ∧
      (∀ more, settings.notifications.additionalAdminRoles ⊆ more →
        ∃ wider,
          ofSettings { settings.notifications with additionalAdminRoles := more } = .ok wider ∧
          ∀ group, resolver.contacts group ⊆ wider.contacts group) ∧
      (∀ before after role written, Text.Trimmed role.toList → ¬ "roles/".toList <+: role.toList →
        Written role written →
        ofSettings
            { settings.notifications with additionalAdminRoles := before ++ written :: after } =
          ofSettings
            { settings.notifications with additionalAdminRoles := before ++ role :: after }) := by
  obtain ⟨resolver, resolves⟩ := exists_resolver accepted
  obtain ⟨suffix, roles⟩ := ofSettings_ok resolves
  refine ⟨resolver, resolves, suffix, ?_, fun _ _ => mem_contacts_iff,
    fun _ _ labels grants => contacts_congr labels grants,
    fun _ _ labels grants => contacts_mono (List.Subset.refl _) labels grants, ?_, ?_⟩
  · intro role
    rw [roles, mem_adminRolesWith]
  · intro more fewer
    refine ⟨{ resolver with adminRoles := adminRolesWith more }, ?_, fun group => ?_⟩
    · rw [ofSettings_withRoles, resolves]
      rfl
    · have fewerRoles : resolver.adminRoles ⊆ adminRolesWith more := by
        rw [roles]
        exact adminRolesWith_mono fewer
      exact contacts_mono fewerRoles (fun _ _ => rfl) (fun _ _ holds => holds)
  · intro before after role written trimmed bare isWritten
    rw [ofSettings_withRoles _ (before ++ written :: after),
      ofSettings_withRoles _ (before ++ role :: after),
      adminRolesWith_written trimmed bare isWritten before after]

/-! Two holders of a role, bound together by one policy and one after the other by another. -/
namespace Bindings

def settings : Settings where
  notifications := { orgSuffix := "@org.com", additionalAdminRoles := ["custom.auditor"] }

def group (permissions : List Permission) : Resource where
  name := "g"
  resourceGroupName := "g"
  kind := .resourceGroup
  iamPolicy := some ⟨permissions⟩

def together : Resource :=
  group [⟨"roles/owner", ["user:ann@org.com", "group:sec@org.com"]⟩]

def apart : Resource :=
  group [⟨"owner", ["group:sec@org.com"]⟩, ⟨"roles/viewer", []⟩,
    ⟨"roles/owner", ["user:ann@org.com", "user:ann@org.com"]⟩]

def auditors : Permission where
  role := "roles/custom.auditor"
  principals := ["user:bob@org.com"]

theorem accepted : settings.validate = .ok () :=
  Settings.validate_usual rfl rfl (by decide)

theorem grants_iff (role principal : String) :
    together.Grants role principal ↔ apart.Grants role principal := by
  have full : Text.dropLeading "roles/" "roles/owner" = "owner" := by decide
  have bare : Text.dropLeading "roles/" "owner" = "owner" := by decide
  simp only [Resource.Grants, together, apart, group, Resource.permissions, List.mem_cons,
    List.not_mem_nil, or_false, exists_eq_or_imp, exists_eq_left, Permission.roleName, full, bare,
    and_false, false_or]
  rw [← and_or_left, or_self, or_comm]

theorem holders_are_contacts :
    settings.validate = .ok () ∧
    ∃ resolver, ofSettings settings.notifications = .ok resolver ∧
      resolver.contacts together = resolver.contacts apart ∧
      "ann@org.com" ∈ resolver.contacts apart ∧
      "ann@org.com" ∈ resolver.contacts (apart.withPermission auditors) ∧
      "bob@org.com" ∈ resolver.contacts (apart.withPermission auditors) ∧
      ofSettings { settings.notifications with
        additionalAdminRoles := [" " ++ ("roles/" ++ "custom.auditor" ++ "\n")] } =
          .ok resolver := by
  obtain ⟨resolver, resolves, suffix, roles, sources, same, more, -, spelling⟩ :=
    contacts_depend_on_holders accepted
  have owner : "owner" ∈ resolver.adminRoles := (roles "owner").2 ⟨by decide, .inl (by decide)⟩
  have auditor : "custom.auditor" ∈ resolver.adminRoles :=
    (roles "custom.auditor").2 ⟨by decide, .inr ⟨"custom.auditor", by decide, rfl⟩⟩
  have ann : resolver.Source apart "ann@org.com" := by
    refine .admin owner ⟨_, .tail _ (.tail _ (.head _)), by decide, List.mem_cons_self⟩ ?_
      (untyped_iff.2 (by decide))
    rw [suffix]
    exact ⟨"user:ann".toList, by decide⟩
  have bob : resolver.Source (apart.withPermission auditors) "bob@org.com" := by
    refine .admin auditor
      (Resource.grants_withPermission.2 (.inr ⟨by decide, List.mem_cons_self⟩)) ?_
      (untyped_iff.2 (by decide))
    rw [suffix]
    exact ⟨"user:bob".toList, by decide⟩
  have annListed := (sources apart "ann@org.com").2 ⟨by decide, ann⟩
  refine ⟨accepted, resolver, resolves, same together apart (fun _ _ => rfl) grants_iff, annListed,
    ?_, (sources _ "bob@org.com").2 ⟨by decide, bob⟩, ?_⟩
  · exact more apart (apart.withPermission auditors) (fun _ _ => rfl)
      (fun _ _ holds => Resource.grants_withPermission.2 (.inl holds)) annListed
  · exact (spelling [] [] "custom.auditor" _ (by decide) (by decide) (.full rfl rfl)).trans resolves

end Bindings

end ContactResolver

end CloudAudit
