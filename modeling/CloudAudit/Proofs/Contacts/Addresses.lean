import Mathlib.Data.List.DropRight
import Mathlib.Data.List.TakeWhile
import CloudAudit.Identity
import CloudAudit.Proofs.Contacts.Labels
/-!
# Contacts that can present themselves

A caller is known by an address without blanks at its ends, with a user before the first at sign and
a dot behind an at sign. The contacts of a group have such a domain if they come from a member of
the organisation or from a label with two underscores in its last line; what stands in front of it
they take over as it is.
-/
set_option autoImplicit false

namespace CloudAudit

namespace Text

structure Trimmed (text : List Char) : Prop where
  starts : ∀ c, text.head? = some c → isBlank c = false
  ends : ∀ c, text.getLast? = some c → isBlank c = false

theorem Trimmed.strip_eq {text : List Char} (trimmed : Trimmed text) :
    strip isBlank text = text := by
  have front : text.dropWhile isBlank = text := by
    rw [List.dropWhile_eq_self_iff]
    intro nonempty
    rw [trimmed.starts text[0] (by rw [List.head?_eq_getElem?, List.getElem?_eq_getElem])]
    exact Bool.false_ne_true
  have back : text.rdropWhile isBlank = text := by
    rw [List.rdropWhile_eq_self_iff]
    intro nonempty
    rw [trimmed.ends _ (List.getLast?_eq_some_getLast nonempty)]
    exact Bool.false_ne_true
  change (text.dropWhile isBlank).rdropWhile isBlank = text
  rw [front, back]

theorem trimmed_strip (text : List Char) : Trimmed (strip isBlank text) := by
  change Trimmed ((text.dropWhile isBlank).rdropWhile isBlank)
  constructor
  · intro c first
    obtain ⟨dropped, parts⟩ := List.rdropWhile_prefix isBlank (text.dropWhile isBlank)
    have visible := List.head?_dropWhile_not isBlank text
    rw [← parts, List.head?_append, first] at visible
    exact visible
  · intro c last
    have visible := List.rdropWhile_last_not isBlank (text.dropWhile isBlank)
      (fun empty => by simp [empty] at last)
    rw [Bool.not_eq_true] at visible
    rw [List.getLast?_eq_some_getLast (fun empty => by simp [empty] at last)] at last
    rw [← Option.some.inj last]
    exact visible

instance (text : List Char) : Decidable (Trimmed text) :=
  decidable_of_iff (strip isBlank text = text)
    ⟨fun same => same ▸ trimmed_strip text, Trimmed.strip_eq⟩

theorem cutAt_append {mark : Char} {before : List Char} (absent : mark ∉ before)
    (after : List Char) : cutAt mark (before ++ mark :: after) = some (before, after) := by
  induction before with
  | nil => simp [cutAt]
  | cons c before ih =>
    rw [List.mem_cons, not_or] at absent
    have other : (c == mark) = false := by simpa using Ne.symm absent.1
    rw [List.cons_append, cutAt, other, if_neg Bool.false_ne_true, ih absent.2]
    rfl

theorem cutAt_eq_none {mark : Char} {text : List Char} (absent : mark ∉ text) :
    cutAt mark text = none := by
  induction text with
  | nil => rfl
  | cons c text ih =>
    rw [List.mem_cons, not_or] at absent
    have other : (c == mark) = false := by simpa using Ne.symm absent.1
    rw [cutAt, other, if_neg Bool.false_ne_true, ih absent.2]
    rfl

end Text

namespace Identity

/-- An at sign, with a dot anywhere behind it. -/
def HasDomain (text : List Char) : Prop :=
  ∃ user domain, text = user ++ '@' :: domain ∧ '.' ∈ domain

/-- What a caller can present to be known by just that. -/
structure Presentable (text : List Char) : Prop extends Text.Trimmed text where
  domain : HasDomain text
  user : text.head? ≠ some '@'

theorem HasDomain.of_append {text : List Char} (has : HasDomain text) (front : List Char) :
    HasDomain (front ++ text) := by
  obtain ⟨user, domain, rfl, dotted⟩ := has
  exact ⟨front ++ user, domain, by simp, dotted⟩

theorem HasDomain.after_first {user domain : List Char} (has : HasDomain (user ++ '@' :: domain))
    (first : '@' ∉ user) : '.' ∈ domain := by
  obtain ⟨otherUser, otherDomain, parts, dotted⟩ := has
  rcases List.append_eq_append_iff.1 parts with ⟨between, rfl, rest⟩ | ⟨between, rfl, rest⟩
  · cases between with
    | nil => rwa [(List.cons.inj rest).2]
    | cons c between =>
      rw [(List.cons.inj rest).2]
      exact List.mem_append_right _ (List.mem_cons_of_mem _ dotted)
  · cases between with
    | nil => rwa [← (List.cons.inj rest).2]
    | cons c between =>
      have sign := (List.cons.inj rest).1
      exact absurd (List.mem_append_right _ (sign ▸ List.mem_cons_self)) first

theorem isEmail_iff (text : String) :
    isEmail text = true ↔ HasDomain text.toList ∧ text.toList.head? ≠ some '@' := by
  by_cases marked : '@' ∈ text.toList
  · obtain ⟨user, domain, parts, first⟩ := List.eq_append_cons_of_mem marked
    rw [isEmail, parts, Text.cutAt_append first]
    simp only [Bool.and_eq_true, Bool.not_eq_true', List.isEmpty_eq_false_iff,
      List.contains_iff_mem]
    constructor
    · rintro ⟨nonempty, dotted⟩
      refine ⟨⟨user, domain, rfl, dotted⟩, ?_⟩
      obtain ⟨c, user, rfl⟩ := List.exists_cons_of_ne_nil nonempty
      rintro ⟨⟩
      exact first List.mem_cons_self
    · rintro ⟨domain, other⟩
      refine ⟨?_, domain.after_first first⟩
      rintro rfl
      exact other rfl
  · rw [isEmail, Text.cutAt_eq_none marked]
    refine iff_of_false Bool.false_ne_true ?_
    rintro ⟨⟨user, domain, parts, -⟩, -⟩
    exact marked (by simp [parts])

/-- Whoever is known as somebody is known by an address that can be presented as it is. -/
theorem presentable_of_authenticate {presented : Option String} {email : String}
    (known : authenticate presented = .ok email) : Presentable email.toList := by
  cases presented with
  | none => cases known
  | some text =>
    by_cases email : isEmail (Text.trim text) = true
    · rw [authenticate, if_pos email] at known
      obtain ⟨domain, user⟩ := (isEmail_iff _).1 email
      rw [← Except.ok.inj known]
      refine ⟨?_, domain, user⟩
      rw [Text.trim, String.toList_ofList]
      exact Text.trimmed_strip text.toList
    · rw [authenticate, if_neg email] at known
      cases known

theorem authenticate_of_presentable {text : String} (presentable : Presentable text.toList) :
    authenticate (some text) = .ok text := by
  have same : Text.trim text = text := by
    rw [Text.trim, presentable.strip_eq, String.ofList_toList]
  have isEmail : isEmail (Text.trim text) = true := by
    rw [same]
    exact (isEmail_iff text).2 ⟨presentable.domain, presentable.user⟩
  rw [authenticate, if_pos isEmail, same]

end Identity

namespace ContactResolver

/-- Contacts of a group that have a domain wherever they come from. -/
inductive Addressed (resolver : ContactResolver) (group : Resource) : String → Prop where
  /-- A principal that ends in the suffix of the organisation, also without its type. -/
  | member {permission : Permission} {principal : String}
      (granted : permission ∈ group.permissions) (held : principal ∈ permission.principals)
      (belongs : resolver.isMember (address principal) = true) :
    Addressed resolver group (address principal)
  /-- A label whose last line has two underscores. -/
  | label {key value : String} {front line : List Char} (isContact : key ∈ contactLabels)
      (labelled : group.labels.get? key = some value) (parts : value.toList = front ++ line)
      (lines : EarlierLines front) (plain : '\n' ∉ line) (enough : 2 ≤ line.count '_') :
    Addressed resolver group (resolver.labelToEmail value)

variable {resolver : ContactResolver} (usual : resolver.RewritesAsUsual)
include usual

/-- A label without two underscores in its last line is taken over with dots for underscores. -/
theorem addressed_or_dotted {group : Resource} {key value : String}
    (isContact : key ∈ contactLabels) (labelled : group.labels.get? key = some value) :
    resolver.Addressed group (resolver.labelToEmail value) ∨
      (resolver.labelToEmail value).toList = value.toList.map dotted := by
  obtain ⟨front, line, parts, lines, plain⟩ := exists_lastLine value.toList
  by_cases enough : 2 ≤ line.count '_'
  · exact .inl (.label isContact labelled parts lines plain enough)
  · exact .inr (labelToEmail_unfound usual lines parts (by omega))

variable {domain : List Char} (suffix : resolver.orgSuffix.toList = '@' :: domain)
  (dotted : '.' ∈ domain)
include suffix dotted

theorem Addressed.hasDomain {group : Resource} {contact : String}
    (addressed : resolver.Addressed group contact) : Identity.HasDomain contact.toList := by
  cases addressed with
  | @member _ principal _ _ belongs =>
    rw [isMember, List.isSuffixOf_iff_suffix, suffix] at belongs
    obtain ⟨front, parts⟩ := belongs
    rw [← parts]
    exact Identity.HasDomain.of_append ⟨[], domain, rfl, dotted⟩ front
  | label _ _ parts lines plain enough =>
    obtain ⟨user, place, top, rfl, wholePlace, wholeTop⟩ := exists_cutAtUnderscores enough
    rw [labelToEmail_found usual lines parts (by simpa using plain) wholePlace wholeTop]
    exact ⟨_, _, rfl, by simp⟩

end ContactResolver

end CloudAudit
