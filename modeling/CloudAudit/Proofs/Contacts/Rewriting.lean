import Mathlib.Data.List.Basic
import CloudAudit.Contacts
/-!
# Labels as addresses

The usual pattern matches the last line of a label from its start, if this line has two underscores.
The greedy first group takes all before the last two of them, so that these two become the at sign
and the dot of the address. Every other underscore becomes a dot.
-/
set_option autoImplicit false

namespace CloudAudit.Pattern

/-- What is found from a place, given how many characters stand before it and the rest. -/
abbrev Finder := Nat → List Char → Option Found

def Row.ofFinder (finder : Finder) : Nat → List Char → Row
  | index, [] => [finder index []]
  | index, c :: text => finder index (c :: text) :: ofFinder finder (index + 1) text

namespace Finder

/-- Whatever is found at the end of the text. -/
def ended : Finder := fun index text => if text.isEmpty then some ⟨index, []⟩ else none

def noting (mark : Mark) (finder : Finder) : Finder :=
  fun index text => (finder index text).map (Found.note mark index)

/-- One character of a set, and what is found after it. -/
def behind (chars : CharSet) (finder : Finder) : Finder
  | _, [] => none
  | index, c :: text => if chars.has c.toNat then finder (index + 1) text else none

/-- Characters of a set, as many or as few as there can be, and what is found after them. -/
def rounds (greedy : Bool) (chars : CharSet) (leave : Finder) : Finder
  | index, [] => leave index []
  | index, c :: text =>
    let again := if chars.has c.toNat then rounds greedy chars leave (index + 1) text else none
    if greedy then again.or (leave index (c :: text)) else (leave index (c :: text)).or again

end Finder

/-! ## Rows as finders -/

section

variable {finder : Finder} {index : Nat} {before : Option Char} {text : List Char}

theorem Row.head?_ofFinder :
    (Row.ofFinder finder index text).head?.join = finder index text := by
  cases text <;> rfl

theorem Row.ofFinder_ends :
    (Place.listFrom index before text).map (fun place => some (Found.mk place.index [])) =
      Row.ofFinder (fun index _ => some ⟨index, []⟩) index text := by
  induction text generalizing index before with
  | nil => rfl
  | cons c text ih => exact congrArg (some ⟨index, []⟩ :: ·) ih

theorem Row.holding_textEnd :
    Row.holding .textEnd (Place.listFrom index before text)
        (Row.ofFinder (fun index _ => some ⟨index, []⟩) index text) =
      Row.ofFinder Finder.ended index text := by
  induction text generalizing index before with
  | nil => rfl
  | cons c text ih => exact congrArg (none :: ·) ih

theorem Row.noting_ofFinder (mark : Nat → Mark) (group : Nat) :
    Row.noting mark group (Place.listFrom index before text)
        (Row.ofFinder finder index text) =
      Row.ofFinder (finder.noting (mark group)) index text := by
  induction text generalizing index before with
  | nil => rfl
  | cons c text ih => exact congrArg (List.cons _) ih

theorem Row.afterChar_ofFinder (chars : CharSet) :
    Row.afterChar chars (Place.listFrom index before text)
        (Row.ofFinder finder index text) =
      Row.ofFinder (finder.behind chars) index text := by
  induction text generalizing index before with
  | nil => rfl
  | cons c text ih =>
    simp only [Place.listFrom, Row.ofFinder, Row.afterChar, Row.head?_ofFinder, ih]
    rfl

theorem Row.endless_ofFinder (greedy : Bool) (chars : CharSet) :
    (Row.endless greedy (Row.afterChar chars) (Place.listFrom index before text)
        (Row.ofFinder finder index text)).map (·.2) =
      Row.ofFinder (finder.rounds greedy chars) index text := by
  induction text generalizing index before with
  | nil => cases greedy <;> simp [Place.listFrom, Row.ofFinder, Row.endless, Row.afterChar,
      Place.startsIn, Finder.rounds]
  | cons c text ih =>
    simp only [Place.listFrom, Row.ofFinder, Row.endless, List.map_cons, ih, Row.afterChar,
      List.head?_cons, Option.join_some, Row.head?_ofFinder]
    rfl

end

/-! ## The usual pattern -/

theorem has_only (mark c : Char) : (CharSet.only mark).has c.toNat = (c == mark) := by
  rw [Bool.eq_iff_iff, beq_iff_eq, ← Char.toNat_inj]
  simp [CharSet.only, CharSet.has, Text.Ranges.has]
  omega

def dot : CharSet := .other (.only '\n')

theorem has_dot (c : Char) : dot.has c.toNat = (c != '\n') := by
  rw [dot, CharSet.has, has_only]
  rfl

/-- A group of characters of one line. -/
def lineGroup (index : Nat) (greedy : Bool) : Node :=
  .group index (.rounds 0 none greedy (.set dot))

def usualNode : Node :=
  .sequence (lineGroup 1 true) (.sequence (.set (.only '_'))
    (.sequence (lineGroup 2 false) (.sequence (.set (.only '_'))
      (.sequence (lineGroup 3 false) (.look .textEnd)))))

theorem compile?_usual :
    compile? ({} : NotificationSettings).labelPattern = some ⟨usualNode, 3, []⟩ :=
  rfl

theorem ofText_usual :
    Template.ofText ({} : NotificationSettings).labelTemplate =
      [.numbered 1, .char '@', .numbered 2, .char '.', .numbered 3] :=
  rfl

def Finder.lineGroup (index : Nat) (greedy : Bool) (after : Finder) : Finder :=
  ((after.noting (.closed index)).rounds greedy dot).noting (.opened index)

namespace Usual

def third : Finder := Finder.ended.lineGroup 3 false

def second : Finder := (third.behind (.only '_')).lineGroup 2 false

def whole : Finder := (second.behind (.only '_')).lineGroup 1 true

end Usual

theorem lineGroup_row (group : Nat) (greedy : Bool) (after : Finder) (index : Nat)
    (before : Option Char) (text : List Char) :
    (lineGroup group greedy).row (Place.listFrom index before text)
        (Row.ofFinder after index text) =
      Row.ofFinder (after.lineGroup group greedy) index text := by
  change Row.noting .opened group _ ((Row.endless greedy (Row.afterChar dot) _
    (Row.noting .closed group _ _)).map (·.2)) = _
  rw [Row.noting_ofFinder, Row.endless_ofFinder, Row.noting_ofFinder]
  rfl

theorem usualNode_found (text : List Char) :
    usualNode.found text = Row.ofFinder Usual.whole 0 text := by
  rw [Node.found, Place.all]
  simp only [Row.ofFinder_ends]
  rw [usualNode]
  simp only [Node.row, Row.holding_textEnd, lineGroup_row, Row.afterChar_ofFinder]
  rfl

/-! ## Where the usual pattern matches -/

namespace Finder

variable {chars : CharSet} {leave : Finder} {greedy : Bool}

theorem rounds_cons (index : Nat) (c : Char) (text : List Char) :
    leave.rounds greedy dot index (c :: text) =
      if greedy then
        (if c = '\n' then none else leave.rounds greedy dot (index + 1) text).or
          (leave index (c :: text))
      else
        (leave index (c :: text)).or
          (if c = '\n' then none else leave.rounds greedy dot (index + 1) text) := by
  rw [rounds, has_dot]
  by_cases feed : c = '\n' <;> simp [feed]

/-- No rounds lead to a match if there is none at any of the places that they reach. -/
theorem rounds_eq_none (hopeless : List Char → Prop)
    (lasts : ∀ c text, c ≠ '\n' → hopeless (c :: text) → hopeless text)
    (unfound : ∀ index text, hopeless text → leave index text = none) (index : Nat)
    {text : List Char} (start : hopeless text) : leave.rounds greedy dot index text = none := by
  induction text generalizing index with
  | nil => exact unfound index [] start
  | cons c text ih =>
    rw [rounds_cons, unfound index _ start]
    by_cases feed : c = '\n'
    · simp [feed]
    · simp [feed, ih (index + 1) (lasts c text feed start)]

/-- As few rounds as possible go on while nothing is found. -/
theorem rounds_lazy {front : List Char} (plain : '\n' ∉ front)
    (unfound : ∀ index text, ∀ c ∈ front, leave index (c :: text) = none) (index : Nat)
    (text : List Char) :
    leave.rounds false dot index (front ++ text) =
      leave.rounds false dot (index + front.length) text := by
  induction front generalizing index with
  | nil => rfl
  | cons c front ih =>
    rw [List.mem_cons, not_or] at plain
    rw [List.cons_append, rounds_cons, unfound index _ c List.mem_cons_self,
      if_neg (Ne.symm plain.1), ih plain.2 fun index text d member =>
        unfound index text d (List.mem_cons_of_mem _ member)]
    simp [Nat.add_comm, Nat.add_left_comm]

/-- As many rounds as possible go as far as anything is found. -/
theorem rounds_greedy {front : List Char} (plain : '\n' ∉ front) (index : Nat)
    {text : List Char} {found : Found}
    (later : leave.rounds true dot (index + front.length) text = some found) :
    leave.rounds true dot index (front ++ text) = some found := by
  induction front generalizing index with
  | nil => exact later
  | cons c front ih =>
    rw [List.mem_cons, not_or] at plain
    have next : leave.rounds true dot (index + 1) (front ++ text) = some found := by
      apply ih plain.2
      rw [← later, List.length_cons]
      congr 1
      omega
    rw [List.cons_append, rounds_cons, if_neg (Ne.symm plain.1), next]
    rfl

end Finder

namespace Usual

theorem third_eq {text : List Char} (plain : '\n' ∉ text) (index : Nat) :
    third index text =
      some ⟨index + text.length,
        [(.opened 3, index), (.closed 3, index + text.length)]⟩ := by
  have reached : (Finder.ended.noting (.closed 3)).rounds false dot index (text ++ []) = _ :=
    Finder.rounds_lazy plain (fun index text c _ => rfl) index []
  rw [List.append_nil] at reached
  rw [third, Finder.lineGroup, Finder.noting, reached]
  rfl

theorem third_eq_none {text : List Char} (broken : '\n' ∈ text) (index : Nat) :
    third index text = none := by
  rw [third, Finder.lineGroup, Finder.noting, Option.map_eq_none_iff]
  refine Finder.rounds_eq_none (fun text => '\n' ∈ text) ?_ ?_ index broken
  · intro c text other member
    exact (List.mem_cons.1 member).resolve_left (Ne.symm other)
  · intro index text member
    cases text with
    | nil => cases member
    | cons => rfl

theorem behind_underscore (after : Finder) (index : Nat) (text : List Char) :
    after.behind (.only '_') index ('_' :: text) = after (index + 1) text :=
  rfl

theorem behind_eq_none (after : Finder) (index : Nat) {c : Char} (other : c ≠ '_')
    (text : List Char) : after.behind (.only '_') index (c :: text) = none := by
  rw [Finder.behind, has_only, if_neg (by simpa using other)]

theorem second_eq {domain top : List Char} (plain : '\n' ∉ domain) (plainTop : '\n' ∉ top)
    (whole : '_' ∉ domain) (index : Nat) :
    second index (domain ++ '_' :: top) =
      some ⟨index + domain.length + 1 + top.length,
        [(.opened 2, index), (.closed 2, index + domain.length),
         (.opened 3, index + domain.length + 1),
         (.closed 3, index + domain.length + 1 + top.length)]⟩ := by
  have unfound : ∀ index text, ∀ c ∈ domain,
      (third.behind (.only '_')).noting (.closed 2) index (c :: text) = none := by
    intro index text c member
    have other : c ≠ '_' := fun same => whole (same ▸ member)
    rw [Finder.noting, behind_eq_none _ _ other]
    rfl
  rw [second, Finder.lineGroup, Finder.noting, Finder.rounds_lazy plain unfound,
    Finder.rounds_cons, if_neg Bool.false_ne_true, Finder.noting, behind_underscore,
    third_eq plainTop]
  rfl

/-- Two underscores in one line are needed behind each other. -/
theorem second_eq_none {text : List Char} (hopeless : '\n' ∈ text ∨ '_' ∉ text) (index : Nat) :
    second index text = none := by
  rw [second, Finder.lineGroup, Finder.noting, Option.map_eq_none_iff]
  refine Finder.rounds_eq_none (fun text => '\n' ∈ text ∨ '_' ∉ text) ?_ ?_ index hopeless
  · intro c text other
    exact Or.imp (fun member => (List.mem_cons.1 member).resolve_left (Ne.symm other))
      fun absent member => absent (List.mem_cons_of_mem c member)
  · intro index text hopeless
    rw [Finder.noting, Option.map_eq_none_iff]
    cases text with
    | nil => rfl
    | cons c text =>
      by_cases here : c = '_'
      · subst here
        rw [behind_underscore]
        apply third_eq_none
        simpa using hopeless
      · exact behind_eq_none _ _ here _

def first : Finder := (second.behind (.only '_')).noting (.closed 1)

theorem first_eq_none {text : List Char} (hopeless : '\n' ∈ text ∨ text.count '_' < 2)
    (index : Nat) : first.rounds true dot index text = none := by
  refine Finder.rounds_eq_none (fun text => '\n' ∈ text ∨ text.count '_' < 2) ?_ ?_ index hopeless
  · intro c text other
    exact Or.imp (fun member => (List.mem_cons.1 member).resolve_left (Ne.symm other))
      fun few => Nat.lt_of_le_of_lt List.count_le_count_cons few
  · intro index text hopeless
    rw [first, Finder.noting, Option.map_eq_none_iff]
    cases text with
    | nil => rfl
    | cons c text =>
      by_cases here : c = '_'
      · subst here
        rw [behind_underscore]
        apply second_eq_none
        refine Or.imp (fun member => by simpa using member) (fun few => ?_) hopeless
        rw [List.count_cons_self] at few
        exact List.count_eq_zero.1 (by omega)
      · exact behind_eq_none _ _ here _

theorem whole_eq_none {text : List Char} (hopeless : '\n' ∈ text ∨ text.count '_' < 2)
    (index : Nat) : whole index text = none :=
  Option.map_eq_none_iff.2 (first_eq_none hopeless index)

/-- What is found in a line with two underscores, of which the last two separate the groups. -/
def found (index : Nat) (user domain top : List Char) : Found where
  stop := index + user.length + 1 + domain.length + 1 + top.length
  marks :=
    [(.opened 1, index), (.closed 1, index + user.length),
     (.opened 2, index + user.length + 1),
     (.closed 2, index + user.length + 1 + domain.length),
     (.opened 3, index + user.length + 1 + domain.length + 1),
     (.closed 3, index + user.length + 1 + domain.length + 1 + top.length)]

variable {user domain top : List Char} (plainUser : '\n' ∉ user) (plain : '\n' ∉ domain)
  (plainTop : '\n' ∉ top) (wholeDomain : '_' ∉ domain) (wholeTop : '_' ∉ top)
include plainUser plain plainTop wholeDomain wholeTop

theorem whole_eq (index : Nat) :
    whole index (user ++ '_' :: (domain ++ '_' :: top)) = some (found index user domain top) := by
  -- Behind the last but one underscore the first group leads nowhere.
  have stuck : first.rounds true dot (index + user.length + 1) (domain ++ '_' :: top) = none := by
    refine first_eq_none (.inr ?_) _
    rw [List.count_append, List.count_cons_self, List.count_eq_zero.2 wholeDomain,
      List.count_eq_zero.2 wholeTop]
    decide
  have last : first.rounds true dot (index + user.length)
      ('_' :: (domain ++ '_' :: top)) = some
        { found index user domain top with marks := (found index user domain top).marks.tail } := by
    rw [Finder.rounds_cons, stuck, if_pos rfl, if_neg (by decide), Option.none_or, first,
      Finder.noting, behind_underscore, second_eq plain plainTop wholeDomain]
    rfl
  change (first.rounds true dot index _).map _ = _
  rw [Finder.rounds_greedy plainUser index last]
  rfl

end Usual

/-! ## Replacing the match -/

section

variable {finder : Finder} {replace : Nat → Found → List Char} {resume : Nat} {last : Option Nat}

theorem counted?_none (index : Nat) : counted? index resume last none = none := by
  rw [counted?]
  split <;> rfl

/-- A text is kept up to where something is found. -/
theorem replaceFrom_front {front text : List Char}
    (unfound : ∀ rest, rest ≠ [] → rest <:+ front → ∀ index, finder index (rest ++ text) = none)
    (index : Nat) (resumed : resume ≤ index) :
    replaceFrom replace index resume last (front ++ text)
        (Row.ofFinder finder index (front ++ text)) =
      front ++ replaceFrom replace (index + front.length) resume last text
        (Row.ofFinder finder (index + front.length) text) := by
  induction front generalizing index with
  | nil => rfl
  | cons c front ih =>
    have here := unfound (c :: front) (List.cons_ne_nil _ _) (List.suffix_refl _) index
    have later := ih
      (fun rest some suffix => unfound rest some (suffix.trans (List.suffix_cons c front)))
      (index + 1) (by omega)
    have shift : index + 1 + front.length = index + (c :: front).length := by
      rw [List.length_cons]
      omega
    rw [List.cons_append] at here
    rw [shift] at later
    simp only [List.cons_append, Row.ofFinder, replaceFrom, List.head?_cons, Option.join_some, here,
      counted?_none, List.tail_cons, later]
    rw [if_neg (by omega)]
    rfl

theorem replaceFrom_unfound {text : List Char}
    (unfound : ∀ rest, rest <:+ text → ∀ index, finder index rest = none) (index : Nat)
    (resumed : resume ≤ index) :
    replaceFrom replace index resume last text (Row.ofFinder finder index text) = text := by
  have kept : replaceFrom replace index resume last (text ++ [])
      (Row.ofFinder finder index (text ++ [])) = _ :=
    replaceFrom_front (fun rest _ suffix index => by
      rw [List.append_nil]
      exact unfound rest suffix index) index resumed
  rw [List.append_nil] at kept
  rw [kept, Row.ofFinder, replaceFrom, List.head?_cons, Option.join_some,
    unfound [] List.nil_suffix, counted?_none, List.append_nil]

theorem replaceFrom_inside {text : List Char} (unfound : ∀ index, finder index [] = none)
    (index : Nat) (inside : index + text.length = resume) :
    replaceFrom replace index resume last text (Row.ofFinder finder index text) = [] := by
  induction text generalizing index with
  | nil =>
    simp only [Row.ofFinder, replaceFrom, List.head?_cons, Option.join_some, unfound,
      counted?_none]
  | cons c text ih =>
    rw [List.length_cons] at inside
    have skipped : counted? index resume last (finder index (c :: text)) = none :=
      if_pos (by omega)
    simp only [Row.ofFinder, replaceFrom, List.head?_cons, Option.join_some, skipped,
      List.tail_cons, ih (index + 1) (by omega)]
    rw [if_pos (by omega)]
    rfl

/-- A match up to the end of the text is all that is replaced. -/
theorem replaceFrom_found {text : List Char} (nonempty : text ≠ [])
    (unfound : ∀ index, finder index [] = none) (index : Nat) {found : Found}
    (here : finder index text = .some found) (stops : found.stop = index + text.length) :
    replaceFrom replace index 0 none text (Row.ofFinder finder index text) =
      replace index found := by
  obtain ⟨c, text, rfl⟩ := List.exists_cons_of_ne_nil nonempty
  have counts : counted? index 0 none (.some found) = .some found := by
    rw [counted?, if_neg (Nat.not_lt_zero index)]
    exact if_neg (by simp)
  rw [List.length_cons] at stops
  simp only [Row.ofFinder, replaceFrom, List.head?_cons, Option.join_some, here, counts,
    List.tail_cons]
  have more : (found.stop == index) = false := by
    rw [beq_eq_false_iff_ne]
    omega
  rw [replaceFrom_inside unfound (index + 1) (by omega), more, if_neg Bool.false_ne_true,
    List.append_nil, List.append_nil]

end

theorem slice_middle (front middle rest : List Char) {text : List Char} {start stop : Nat}
    (parts : text = front ++ middle ++ rest) (starts : start = front.length)
    (stops : stop = start + middle.length) : slice text start stop = middle := by
  rw [slice, parts, starts, stops, starts, List.append_assoc, List.drop_left,
    Nat.add_sub_cancel_left, List.take_left]

theorem groupText_usual (front user domain top : List Char) :
    groupText (front ++ (user ++ '_' :: (domain ++ '_' :: top))) front.length
        (Usual.found front.length user domain top) 1 = user ∧
    groupText (front ++ (user ++ '_' :: (domain ++ '_' :: top))) front.length
        (Usual.found front.length user domain top) 2 = domain ∧
    groupText (front ++ (user ++ '_' :: (domain ++ '_' :: top))) front.length
        (Usual.found front.length user domain top) 3 = top := by
  refine ⟨?_, ?_, ?_⟩
  · exact slice_middle front user ('_' :: (domain ++ '_' :: top)) (by simp) rfl rfl
  · exact slice_middle (front ++ user ++ ['_']) domain ('_' :: top) (by simp)
      (by simp; omega) rfl
  · exact slice_middle (front ++ user ++ '_' :: domain ++ ['_']) top [] (by simp)
      (by simp; omega) rfl

theorem replacement_usual (front user domain top : List Char) :
    replacement ⟨usualNode, 3, []⟩
        [.numbered 1, .char '@', .numbered 2, .char '.', .numbered 3]
        (front ++ (user ++ '_' :: (domain ++ '_' :: top))) front.length
        (Usual.found front.length user domain top) =
      user ++ '@' :: (domain ++ '.' :: top) := by
  obtain ⟨one, two, three⟩ := groupText_usual front user domain top
  simp only [replacement, Template.expand, List.flatMap_cons, List.flatMap_nil, one, two, three,
    List.append_nil, List.cons_append, List.nil_append]

end CloudAudit.Pattern

namespace CloudAudit

theorem Settings.validate_eq_ok_iff {settings : Settings} :
    settings.validate = .ok () ↔
      Text.allBlank settings.notifications.orgSuffix = false ∧
      (Pattern.compile? settings.notifications.labelPattern).isSome = true ∧
      settings.pipeline.interval.totalNanos ≠ 0 := by
  rw [validate]
  cases Text.allBlank settings.notifications.orgSuffix with
  | true => simp
  | false =>
    cases Pattern.compile? settings.notifications.labelPattern with
    | none => simp
    | some pattern => by_cases zero : settings.pipeline.interval.totalNanos = 0 <;> simp [zero]

theorem Settings.validate_usual {settings : Settings}
    (usual : settings.notifications.labelPattern = ({} : NotificationSettings).labelPattern)
    (visible : Text.allBlank settings.notifications.orgSuffix = false)
    (positive : settings.pipeline.interval.totalNanos ≠ 0) : settings.validate = .ok () := by
  refine validate_eq_ok_iff.2 ⟨visible, ?_, positive⟩
  rw [usual, Pattern.compile?_usual]
  rfl

namespace ContactResolver

/-- Labels are rewritten by the usual pattern and template. -/
structure RewritesAsUsual (resolver : ContactResolver) : Prop where
  pattern : resolver.labelPattern = ⟨Pattern.usualNode, 3, []⟩
  template :
    resolver.labelTemplate = [.numbered 1, .char '@', .numbered 2, .char '.', .numbered 3]

theorem rewritesAsUsual_of_settings {settings : NotificationSettings}
    (pattern : settings.labelPattern = ({} : NotificationSettings).labelPattern)
    (template : settings.labelTemplate = ({} : NotificationSettings).labelTemplate) :
    ∃ resolver, ofSettings settings = .ok resolver ∧ resolver.RewritesAsUsual ∧
      resolver.orgSuffix = settings.orgSuffix := by
  rw [ofSettings, pattern, Pattern.compile?_usual]
  exact ⟨_, rfl, ⟨rfl, by rw [template, Pattern.ofText_usual]⟩, rfl⟩

def dotted (c : Char) : Char :=
  if c == '_' then '.' else c

theorem map_dotted {text : List Char} (absent : '_' ∉ text) : text.map dotted = text := by
  conv_rhs => rw [← List.map_id text]
  refine List.map_congr_left fun c member => ?_
  have other : c ≠ '_' := fun same => absent (same ▸ member)
  simp [dotted, other]

/-- The lines before the last one, each with the line feed behind it. -/
def EarlierLines (front : List Char) : Prop :=
  front = [] ∨ front.getLast? = some '\n'

theorem EarlierLines.suffix {front rest : List Char} (lines : EarlierLines front)
    (nonempty : rest ≠ []) (suffix : rest <:+ front) : '\n' ∈ rest := by
  obtain ⟨before, rfl⟩ := suffix
  rcases lines with empty | last
  · exact absurd (List.append_eq_nil_iff.1 empty).2 nonempty
  · rw [List.getLast?_append_of_ne_nil _ nonempty] at last
    exact List.mem_of_getLast? last

/-- Every label ends in a line of its own. -/
theorem exists_lastLine (text : List Char) :
    ∃ front line, text = front ++ line ∧ EarlierLines front ∧ '\n' ∉ line := by
  induction text with
  | nil => exact ⟨[], [], rfl, .inl rfl, List.not_mem_nil⟩
  | cons c text ih =>
    obtain ⟨front, line, rfl, lines, plain⟩ := ih
    by_cases first : front = [] ∧ c ≠ '\n'
    · obtain ⟨rfl, other⟩ := first
      refine ⟨[], c :: line, rfl, .inl rfl, ?_⟩
      rw [List.mem_cons, not_or]
      exact ⟨other.symm, plain⟩
    · refine ⟨c :: front, line, rfl, .inr ?_, plain⟩
      rcases lines with rfl | last
      · have feed : c = '\n' := by simpa using first
        rw [feed]
        rfl
      · rw [List.getLast?_cons, last]
        rfl

section

variable {resolver : ContactResolver} (usual : resolver.RewritesAsUsual) {label : String}
  {front line : List Char} (lines : EarlierLines front) (parts : label.toList = front ++ line)

include usual in
theorem toList_labelToEmail :
    (resolver.labelToEmail label).toList =
      (Pattern.replaceFrom
        (Pattern.replacement ⟨Pattern.usualNode, 3, []⟩
          [.numbered 1, .char '@', .numbered 2, .char '.', .numbered 3] label.toList)
        0 0 none label.toList (.ofFinder Pattern.Usual.whole 0 label.toList)).map dotted := by
  rw [labelToEmail, Pattern.replaceAll, usual.pattern, usual.template,
    ← Pattern.usualNode_found]
  simp only [String.toList_ofList]
  rfl

include usual lines parts in
theorem toList_labelToEmail_front :
    (resolver.labelToEmail label).toList =
      front.map dotted ++ (Pattern.replaceFrom
        (Pattern.replacement ⟨Pattern.usualNode, 3, []⟩
          [.numbered 1, .char '@', .numbered 2, .char '.', .numbered 3] (front ++ line))
        front.length 0 none line (.ofFinder Pattern.Usual.whole front.length line)).map dotted := by
  have unfound : ∀ rest, rest ≠ [] → rest <:+ front → ∀ index,
      Pattern.Usual.whole index (rest ++ line) = none := fun rest nonempty suffix index =>
    Pattern.Usual.whole_eq_none (.inl (List.mem_append_left _ (lines.suffix nonempty suffix))) index
  rw [toList_labelToEmail usual, parts, Pattern.replaceFrom_front unfound 0 (Nat.le_refl 0),
    Nat.zero_add, List.map_append]

include usual lines in
/-- The last two underscores of a line become the at sign and the dot of an address. -/
theorem labelToEmail_found {user domain top : List Char}
    (parts : label.toList = front ++ (user ++ '_' :: (domain ++ '_' :: top)))
    (plain : '\n' ∉ user ++ domain ++ top) (wholeDomain : '_' ∉ domain) (wholeTop : '_' ∉ top) :
    (resolver.labelToEmail label).toList =
      (front ++ user).map dotted ++ '@' :: (domain ++ '.' :: top) := by
  simp only [List.mem_append, not_or] at plain
  obtain ⟨⟨plainUser, plainDomain⟩, plainTop⟩ := plain
  have found := Pattern.Usual.whole_eq plainUser plainDomain plainTop wholeDomain wholeTop
    front.length
  have stops : (Pattern.Usual.found front.length user domain top).stop =
      front.length + (user ++ '_' :: (domain ++ '_' :: top)).length := by
    simp [Pattern.Usual.found]
    omega
  rw [toList_labelToEmail_front usual lines parts,
    Pattern.replaceFrom_found (by simp) (Pattern.Usual.whole_eq_none (.inr (by decide)))
      front.length found stops,
    Pattern.replacement_usual, List.map_append, List.map_cons, List.map_append, List.map_cons,
    map_dotted wholeDomain, map_dotted wholeTop, List.map_append, List.append_assoc]
  rfl

include usual lines in
theorem labelToEmail_unfound (parts : label.toList = front ++ line) (few : line.count '_' < 2) :
    (resolver.labelToEmail label).toList = label.toList.map dotted := by
  have unfound : ∀ rest, rest <:+ line → ∀ index, Pattern.Usual.whole index rest = none :=
    fun rest suffix index => Pattern.Usual.whole_eq_none
      (.inr (Nat.lt_of_le_of_lt (suffix.sublist.count_le '_') few)) index
  rw [toList_labelToEmail_front usual lines parts,
    Pattern.replaceFrom_unfound unfound front.length (Nat.zero_le _), parts, List.map_append]

end

end ContactResolver

end CloudAudit
