import CloudAudit.Proofs.Contacts.Rewriting
/-!
# What the usual rewriting makes of a label

A label with two underscores has just one way to be cut at its last two. If it is a single line,
what stands before them becomes the user of an address, with dots for underscores, and what stands
behind them becomes its domain. A label with fewer underscores only gets dots.
-/
set_option autoImplicit false

namespace CloudAudit.ContactResolver

/-! ## The last two underscores -/

theorem exists_last_occurrence {c : Char} {text : List Char} (member : c ∈ text) :
    ∃ front back, text = front ++ c :: back ∧ c ∉ back := by
  obtain ⟨back, front, parts, absent⟩ := List.eq_append_cons_of_mem (List.mem_reverse.2 member)
  refine ⟨front.reverse, back.reverse, ?_, by simpa using absent⟩
  rw [← List.reverse_reverse text, parts]
  simp

theorem last_occurrence_unique {c : Char} {front back otherFront otherBack : List Char}
    (same : front ++ c :: back = otherFront ++ c :: otherBack) (absent : c ∉ back)
    (otherAbsent : c ∉ otherBack) : front = otherFront ∧ back = otherBack := by
  rcases List.append_eq_append_iff.1 same with ⟨between, rfl, rest⟩ | ⟨between, rfl, rest⟩
  · cases between with
    | nil => exact ⟨(List.append_nil front).symm, (List.cons.inj rest).2⟩
    | cons d between =>
      have inside : c ∈ back := by
        rw [(List.cons.inj rest).2]
        exact List.mem_append_right between List.mem_cons_self
      exact absurd inside absent
  · cases between with
    | nil => exact ⟨List.append_nil otherFront, (List.cons.inj rest).2.symm⟩
    | cons d between =>
      have inside : c ∈ otherBack := by
        rw [(List.cons.inj rest).2]
        exact List.mem_append_right between List.mem_cons_self
      exact absurd inside otherAbsent

/-- A line cut at its last two underscores. -/
structure CutAtUnderscores (line user domain top : List Char) : Prop where
  parts : line = user ++ '_' :: (domain ++ '_' :: top)
  wholeDomain : '_' ∉ domain
  wholeTop : '_' ∉ top

theorem CutAtUnderscores.unique {line user domain top otherUser otherDomain otherTop : List Char}
    (cut : CutAtUnderscores line user domain top)
    (other : CutAtUnderscores line otherUser otherDomain otherTop) :
    otherUser = user ∧ otherDomain = domain ∧ otherTop = top := by
  have same : (otherUser ++ '_' :: otherDomain) ++ '_' :: otherTop =
      (user ++ '_' :: domain) ++ '_' :: top := by
    rw [List.append_assoc, List.cons_append, ← other.parts, cut.parts, List.append_assoc,
      List.cons_append]
  obtain ⟨before, tops⟩ := last_occurrence_unique same other.wholeTop cut.wholeTop
  obtain ⟨users, domains⟩ := last_occurrence_unique before other.wholeDomain cut.wholeDomain
  exact ⟨users, domains, tops⟩

theorem exists_cutAtUnderscores {line : List Char} (enough : 2 ≤ line.count '_') :
    ∃ user domain top, CutAtUnderscores line user domain top := by
  obtain ⟨front, top, rfl, wholeTop⟩ :=
    exists_last_occurrence (List.count_pos_iff.1 (Nat.lt_of_lt_of_le Nat.zero_lt_two enough))
  rw [List.count_append, List.count_cons_self, List.count_eq_zero.2 wholeTop] at enough
  obtain ⟨user, domain, rfl, wholeDomain⟩ :=
    exists_last_occurrence (List.count_pos_iff.1 (by omega : 0 < front.count '_'))
  exact ⟨user, domain, top, by simp, wholeDomain, wholeTop⟩

/-! ## Labels of one line -/

section

variable {resolver : ContactResolver} (usual : resolver.RewritesAsUsual) {label : String}
include usual

theorem labelToEmail_line (plain : '\n' ∉ label.toList) {user domain top : List Char}
    (cut : CutAtUnderscores label.toList user domain top) :
    (resolver.labelToEmail label).toList = user.map dotted ++ '@' :: (domain ++ '.' :: top) := by
  have plainParts : '\n' ∉ user ++ domain ++ top := by
    rw [cut.parts] at plain
    simp only [List.mem_append, List.mem_cons, not_or] at plain ⊢
    exact ⟨⟨plain.1, plain.2.2.1⟩, plain.2.2.2.2⟩
  have found := labelToEmail_found usual (.inl rfl : EarlierLines []) cut.parts plainParts
    cut.wholeDomain cut.wholeTop
  rwa [List.nil_append] at found

theorem labelToEmail_few (few : label.toList.count '_' < 2) :
    (resolver.labelToEmail label).toList = label.toList.map dotted := by
  obtain ⟨front, line, parts, lines, -⟩ := exists_lastLine label.toList
  rw [parts, List.count_append] at few
  exact labelToEmail_unfound usual lines parts (by omega)

end

/-- The usual settings give a resolver that rewrites every label of one line with two underscores at
the last two of them, which are found in only one way, and every label with fewer character by
character. -/
theorem labels_become_addresses {settings : NotificationSettings}
    (pattern : settings.labelPattern = ({} : NotificationSettings).labelPattern)
    (template : settings.labelTemplate = ({} : NotificationSettings).labelTemplate) :
    ∃ resolver, ofSettings settings = .ok resolver ∧
      ∀ label : String,
        ('\n' ∉ label.toList → 2 ≤ label.toList.count '_' →
          ∃ user domain top, CutAtUnderscores label.toList user domain top ∧
            (∀ otherUser otherDomain otherTop,
              CutAtUnderscores label.toList otherUser otherDomain otherTop →
              otherUser = user ∧ otherDomain = domain ∧ otherTop = top) ∧
            (resolver.labelToEmail label).toList =
              user.map dotted ++ '@' :: (domain ++ '.' :: top)) ∧
        (label.toList.count '_' < 2 →
          (resolver.labelToEmail label).toList = label.toList.map dotted) := by
  obtain ⟨resolver, resolves, usual, -⟩ := rewritesAsUsual_of_settings pattern template
  refine ⟨resolver, resolves, fun label => ⟨fun plain enough => ?_, labelToEmail_few usual⟩⟩
  obtain ⟨user, domain, top, cut⟩ := exists_cutAtUnderscores enough
  exact ⟨user, domain, top, cut, fun _ _ _ other => cut.unique other,
    labelToEmail_line usual plain cut⟩

/-- What looks like a reference to a group is kept where it stands in the label itself. -/
theorem label_may_look_like_template :
    ({} : NotificationSettings).labelPattern = "(.*)_(.*?)_(.*?)$" ∧
    ({} : NotificationSettings).labelTemplate = "$1@$2.$3" ∧
    ∃ resolver, ofSettings {} = .ok resolver ∧
      resolver.labelToEmail "first_last_org_com" = "first.last@org.com" ∧
      resolver.labelToEmail "$2__$1_" = "$2.@$1." ∧
      resolver.labelToEmail "bob_\norg" = "bob.\norg" := by
  obtain ⟨resolver, resolves, each⟩ :=
    labels_become_addresses (rfl : ({} : NotificationSettings).labelPattern = _)
      (rfl : ({} : NotificationSettings).labelTemplate = _)
  have rewritten {label : String} (user domain top : List Char)
      (cut : CutAtUnderscores label.toList user domain top) (plain : '\n' ∉ label.toList)
      (enough : 2 ≤ label.toList.count '_') :
      resolver.labelToEmail label = .ofList (user.map dotted ++ '@' :: (domain ++ '.' :: top)) := by
    obtain ⟨_, _, _, -, only, result⟩ := (each label).1 plain enough
    obtain ⟨rfl, rfl, rfl⟩ := only user domain top cut
    rw [← result, String.ofList_toList]
  refine ⟨rfl, rfl, resolver, resolves, ?_, ?_, ?_⟩
  · exact rewritten "first_last".toList "org".toList "com".toList
      ⟨rfl, by decide, by decide⟩ (by decide) (by decide)
  · exact rewritten "$2_".toList "$1".toList [] ⟨rfl, by decide, by decide⟩ (by decide) (by decide)
  · rw [← String.ofList_toList (s := resolver.labelToEmail "bob_\norg"),
      (each "bob_\norg").2 (by decide)]
    rfl

end CloudAudit.ContactResolver
