import Mathlib.Data.List.Chain
import Mathlib.Data.List.Nodup
import Mathlib.Data.List.Perm.Subperm
import CloudAudit.Proofs.Exceptions.OptOut
/-!
# Paging through exceptions

A client goes through the exceptions of a user page by page: it asks for those after the last one of
the page before, until a page is empty. Meanwhile anybody may create, change and delete exceptions.
Identifiers stand in ascending order and a token only says where to go on, so nothing is lost or
repeated even if the exception that it names is gone.
-/
set_option autoImplicit false

namespace CloudAudit

def Keyed (exceptions : Table NotificationException) : Prop :=
  ∀ uuid wish, exceptions.get? uuid = some wish → wish.uuid = uuid

theorem Keyed.ascending {exceptions : Table NotificationException} (keyed : Keyed exceptions) :
    exceptions.values.Pairwise fun first second => first.uuid < second.uuid := by
  refine List.pairwise_map.2 (exceptions.ascending.imp_of_mem ?_)
  intro first second isFirst isSecond below
  rw [keyed first.1 first.2 ((exceptions.get?_eq_some_iff _ _).2 isFirst),
    keyed second.1 second.2 ((exceptions.get?_eq_some_iff _ _).2 isSecond)]
  exact below

theorem Keyed.mem_values_iff {exceptions : Table NotificationException} (keyed : Keyed exceptions)
    (wish : NotificationException) :
    wish ∈ exceptions.values ↔ exceptions.get? wish.uuid = some wish := by
  rw [exceptions.mem_values_iff]
  constructor
  · rintro ⟨uuid, stored⟩
    rwa [keyed uuid wish stored]
  · exact fun stored => ⟨_, stored⟩

namespace Notifier

/-! ## One page -/

section

variable {exceptions : Table NotificationException} {email : String} {size : Nat}
  {token : Option String}

theorem mem_pageOf_zero {wish : NotificationException} :
    wish ∈ pageOf exceptions email 0 token ↔
      wish ∈ exceptions.values ∧ wish.userEmail = email ∧ ∀ seen ∈ token, seen < wish.uuid := by
  simp [pageOf, Option.all_eq_true]

theorem left_of_stored (keyed : Keyed exceptions) {uuid : String} {wish : NotificationException}
    (stored : exceptions.get? uuid = some wish) (own : wish.userEmail = email)
    (after : ∀ seen ∈ token, seen < uuid) : wish ∈ pageOf exceptions email 0 token := by
  refine mem_pageOf_zero.2 ⟨(exceptions.mem_values_iff wish).2 ⟨uuid, stored⟩, own, ?_⟩
  rwa [keyed uuid wish stored]

theorem pageOf_begins : pageOf exceptions email size token <+: pageOf exceptions email 0 token := by
  change (if size == 0 then _ else List.take size _) <+: _
  split
  · exact List.prefix_rfl
  · exact List.take_prefix size _

theorem pageOf_zero_eq_nil (empty : pageOf exceptions email size token = []) :
    pageOf exceptions email 0 token = [] := by
  change (if size == 0 then _ else List.take size _) = [] at empty
  split at empty
  · exact empty
  · rename_i positive
    rw [beq_iff_eq] at positive
    exact (List.take_eq_nil_iff.1 empty).resolve_left positive

/-- What is left after a later token is what was left, from there on. -/
theorem pageOf_zero_later {uuid : String} (later : ∀ seen ∈ token, seen < uuid) :
    pageOf exceptions email 0 (some uuid) =
      (pageOf exceptions email 0 token).filter fun wish => decide (uuid < wish.uuid) := by
  change List.filter _ _ = List.filter _ (List.filter _ _)
  rw [List.filter_filter]
  refine List.filter_congr fun wish _ => ?_
  rw [Bool.eq_iff_iff]
  simp only [Option.all_some, Bool.and_eq_true, decide_eq_true_eq, beq_iff_eq,
    Option.all_eq_true]
  constructor
  · rintro ⟨own, after⟩
    exact ⟨after, own, fun seen isToken => String.lt_trans (later seen isToken) after⟩
  · rintro ⟨after, own, -⟩
    exact ⟨own, after⟩

theorem ascending_pageOf (keyed : Keyed exceptions) :
    (pageOf exceptions email size token).Pairwise fun first second => first.uuid < second.uuid :=
  (keyed.ascending.filter _).sublist pageOf_begins.sublist

variable {last : NotificationException}
  (isLast : (pageOf exceptions email size token).getLast? = some last)
include isLast

theorem after_token : ∀ seen ∈ token, seen < last.uuid :=
  (mem_pageOf_zero.1 (pageOf_begins.subset (List.mem_of_getLast? isLast))).2.2

theorem goes_on {pages : List (List NotificationException)}
    (finished : [] ∈ pageOf exceptions email size token :: pages) : [] ∈ pages := by
  refine (List.mem_cons.1 finished).resolve_left fun isEmpty => ?_
  rw [← isEmpty] at isLast
  cases isLast

theorem eq_or_before_last (keyed : Keyed exceptions) {wish : NotificationException}
    (member : wish ∈ pageOf exceptions email size token) : wish = last ∨ wish.uuid < last.uuid := by
  obtain ⟨before, isPage⟩ := List.getLast?_eq_some_iff.1 isLast
  have ordered : (pageOf exceptions email size token).Pairwise _ := ascending_pageOf keyed
  rw [isPage] at member ordered
  rcases List.mem_append.1 member with early | isWish
  · exact .inr ((List.pairwise_append.1 ordered).2.2 wish early last (List.mem_singleton_self last))
  · exact .inl (List.mem_singleton.1 isWish)

/-- What is left begins with the page, and goes on with what is left after its last exception. -/
theorem pageOf_append_rest (keyed : Keyed exceptions) :
    pageOf exceptions email 0 token =
      pageOf exceptions email size token ++ pageOf exceptions email 0 (some last.uuid) := by
  obtain ⟨rest, whole⟩ : pageOf exceptions email size token <+: pageOf exceptions email 0 token :=
    pageOf_begins
  have ordered : (pageOf exceptions email 0 token).Pairwise _ := ascending_pageOf keyed
  rw [← whole] at ordered
  have onPage : (pageOf exceptions email size token).filter
      (fun wish => decide (last.uuid < wish.uuid)) = [] := by
    refine List.filter_eq_nil_iff.2 fun wish member => mt of_decide_eq_true ?_
    rcases eq_or_before_last isLast keyed member with rfl | early
    · exact String.lt_irrefl _
    · exact String.lt_asymm early
  have afterIt : rest.filter (fun wish => decide (last.uuid < wish.uuid)) = rest :=
    List.filter_eq_self.2 fun wish member => decide_eq_true
      ((List.pairwise_append.1 ordered).2.2 last (List.mem_of_getLast? isLast) wish member)
  rw [pageOf_zero_later (after_token isLast), ← whole, List.filter_append, onPage, afterIt,
    List.nil_append]

end

end Notifier

/-! ## What there is from moment to moment -/

namespace Books

/-- Whether a user has no exception in later books that was not there. -/
def Fewer (email : String) (books after : Books) : Prop :=
  ∀ uuid wish, after.exceptions.get? uuid = some wish → wish.userEmail = email →
    ∃ old, books.exceptions.get? uuid = some old ∧ old.userEmail = email

theorem Fewer.left_length_le {email : String} {books after : Books}
    (fewer : Fewer email books after) (keyed : Keyed books.exceptions)
    (keyedAfter : Keyed after.exceptions) (token : Option String) :
    (Notifier.pageOf after.exceptions email 0 token).length ≤
      (Notifier.pageOf books.exceptions email 0 token).length := by
  have distinct : ((Notifier.pageOf after.exceptions email 0 token).map (·.uuid)).Nodup :=
    List.pairwise_map.2 ((Notifier.ascending_pageOf keyedAfter).imp String.ne_of_lt)
  have among : (Notifier.pageOf after.exceptions email 0 token).map (·.uuid) ⊆
      (Notifier.pageOf books.exceptions email 0 token).map (·.uuid) := by
    intro uuid member
    obtain ⟨wish, isLeft, rfl⟩ := List.mem_map.1 member
    obtain ⟨isStored, own, isAfter⟩ := Notifier.mem_pageOf_zero.1 isLeft
    obtain ⟨old, known, same⟩ :=
      fewer wish.uuid wish ((keyedAfter.mem_values_iff wish).1 isStored) own
    exact List.mem_map.2
      ⟨old, Notifier.left_of_stored keyed known same isAfter, keyed wish.uuid old known⟩
  have shorter := (List.subperm_of_subset distinct among).length_le
  rwa [List.length_map, List.length_map] at shorter

theorem Onward.served {deployment : Deployment} {allowed : Option String → ExceptionCall → Prop}
    {start books : Books} (onward : Onward deployment allowed start books)
    {calls : List (Option String × ExceptionCall)}
    (areAllowed : ∀ call ∈ calls, allowed call.1 call.2) :
    Onward deployment allowed start (books.served deployment calls) := by
  induction calls generalizing books with
  | nil => exact onward
  | cons call calls ih =>
    obtain ⟨isAllowed, areAllowed⟩ := List.forall_mem_cons.1 areAllowed
    exact ih (onward.asked isAllowed) areAllowed

variable {deployment : Deployment} (keeping : deployment.notifier = .keeping)
include keeping

theorem Tended.along {allowed : Option String → ExceptionCall → Prop} {start : Books}
    (tended : start.Tended deployment) {moments : List Books}
    (reached : (start :: moments).IsChain (Onward deployment allowed)) :
    ∀ books ∈ moments, books.Tended deployment := by
  induction moments generalizing start with
  | nil => simp
  | cons books later ih =>
    rw [List.isChain_cons_cons] at reached
    have here := tended.onward keeping reached.1
    exact List.forall_mem_cons.2 ⟨here, ih here reached.2⟩

theorem Onward.fewer {email : String} {start books : Books} (tended : start.Tended deployment)
    (onward : Onward deployment
      (fun caller call => Identity.authenticate caller = .ok email → ∀ asked, call ≠ .create asked)
      start books) : Fewer email start books := by
  induction onward with
  | refl => exact fun _ wish stored own => ⟨wish, stored, own⟩
  | @asked books caller call before isAllowed ih =>
    intro uuid wish stored own
    have does := call.does keeping (tended.onward keeping before).keyed caller
    rcases does.origin uuid wish stored with ⟨old, known, same⟩ |
      ⟨asked, user, created, known, -, rfl, -, -⟩
    · exact ih uuid old known (same.userEmail.symm.trans own)
    · exact absurd created (isAllowed (own ▸ known) asked)
  | elsewhere _ same _ ih =>
    intro uuid wish stored
    rw [same] at stored
    exact ih uuid wish stored

end Books

namespace Notifier

/-! ## Page after page -/

/-- The pages that a client gets who goes on after a token: one at each moment, after the last
exception of the page before, until one is empty or there is no moment left. -/
def browse (deployment : Deployment) (email : String) (size : Nat) :
    Option String → List Books → Except AuditError (List (List NotificationException))
  | _, [] => .ok []
  | token, books :: later => do
    let page ← ((listExceptions deployment email size token).run.run books).1
    match page.getLast? with
    | none => .ok [page]
    | some last =>
      (fun pages => page :: pages) <$> browse deployment email size (some last.uuid) later

/-- The pages of a client who is never refused one. -/
inductive Browsed (email : String) (size : Nat) :
    Option String → List Books → List (List NotificationException) → Prop where
  | stopped (token : Option String) : Browsed email size token [] []
  | finished {token : Option String} {books : Books} (later : List Books)
      (empty : pageOf books.exceptions email size token = []) :
    Browsed email size token (books :: later) [[]]
  | turned {token : Option String} {books : Books} {later : List Books}
      {last : NotificationException} {pages : List (List NotificationException)}
      (isLast : (pageOf books.exceptions email size token).getLast? = some last)
      (rest : Browsed email size (some last.uuid) later pages) :
    Browsed email size token (books :: later)
      (pageOf books.exceptions email size token :: pages)

theorem listExceptions_run {deployment : Deployment} (keeping : deployment.notifier = .keeping)
    (email : String) (size : Nat) (token : Option String) (books : Books) :
    (listExceptions deployment email size token).run.run books =
      (.ok (pageOf books.exceptions email size token), books) := by
  rw [listExceptions, Books.bind_run_ok (Service.requireExceptions_run keeping books)]
  rfl

theorem browse_browsed {deployment : Deployment} (keeping : deployment.notifier = .keeping)
    (email : String) (size : Nat) (token : Option String) (moments : List Books) :
    ∃ pages, browse deployment email size token moments = .ok pages ∧
      Browsed email size token moments pages := by
  induction moments generalizing token with
  | nil => exact ⟨[], rfl, .stopped token⟩
  | cons books later ih =>
    rw [browse, listExceptions_run keeping]
    cases isLast : (pageOf books.exceptions email size token).getLast? with
    | none =>
      have empty := List.getLast?_eq_none_iff.1 isLast
      refine ⟨[[]], ?_, .finished later empty⟩
      simp only [bind, Except.bind, empty, List.getLast?_nil]
    | some last =>
      obtain ⟨pages, answered, browsed⟩ := ih (some last.uuid)
      refine ⟨_ :: pages, ?_, .turned isLast browsed⟩
      simp only [bind, Except.bind, isLast, answered]
      rfl

namespace Browsed

variable {email : String} {size : Nat} {token : Option String} {moments : List Books}
  {pages : List (List NotificationException)} (browsed : Browsed email size token moments pages)
include browsed

theorem after_token :
    ∀ wish ∈ pages.flatten, ∀ seen ∈ token, seen < wish.uuid := by
  induction browsed with
  | stopped => simp
  | finished => simp
  | turned isLast rest ih =>
    intro wish member seen isToken
    rw [List.flatten_cons, List.mem_append] at member
    rcases member with onPage | later
    · exact (mem_pageOf_zero.1 (pageOf_begins.subset onPage)).2.2 seen isToken
    · exact String.lt_trans (Notifier.after_token isLast seen isToken) (ih wish later _ rfl)

variable (keyed : ∀ books ∈ moments, Keyed books.exceptions)
include keyed

theorem ascending :
    pages.flatten.Pairwise fun first second => first.uuid < second.uuid := by
  induction browsed with
  | stopped => simp
  | finished => simp
  | turned isLast rest ih =>
    obtain ⟨here, later⟩ := List.forall_mem_cons.1 keyed
    rw [List.flatten_cons, List.pairwise_append]
    refine ⟨ascending_pageOf here, ih later, fun first onPage second isLater => ?_⟩
    have after := rest.after_token second isLater _ rfl
    rcases eq_or_before_last isLast here onPage with rfl | early
    · exact after
    · exact String.lt_trans early after

/-- A client comes to an end who has a moment more than there are exceptions left, if there get no
more of them. -/
theorem finishes (fewer : moments.IsChain (Books.Fewer email)) {first : Books}
    (isFirst : moments.head? = some first)
    (enough : (pageOf first.exceptions email 0 token).length < moments.length) : [] ∈ pages := by
  induction browsed generalizing first with
  | stopped => cases isFirst
  | finished => exact List.mem_singleton_self []
  | @turned token books later last pages isLast rest ih =>
    obtain rfl := Option.some.inj isFirst
    obtain ⟨here, laterKeyed⟩ := List.forall_mem_cons.1 keyed
    refine List.mem_cons_of_mem _ ?_
    have turned : 0 < (pageOf books.exceptions email size token).length :=
      List.length_pos_of_mem (List.mem_of_getLast? isLast)
    rw [pageOf_append_rest isLast here, List.length_append, List.length_cons] at enough
    cases later with
    | nil =>
      rw [List.length_nil] at enough
      omega
    | cons next later =>
      rw [List.isChain_cons_cons] at fewer
      have lessLeft := fewer.1.left_length_le here (laterKeyed next List.mem_cons_self)
        (some last.uuid)
      exact ih laterKeyed fewer.2 rfl (by omega)

variable (finished : [] ∈ pages)
include finished

/-- A client who came to an end got whatever was there every time. -/
theorem found {uuid : String} (after : ∀ seen ∈ token, seen < uuid)
    (present : ∀ books ∈ moments.take pages.length,
      ∃ wish, books.exceptions.get? uuid = some wish ∧ wish.userEmail = email) :
    ∃ wish ∈ pages.flatten, wish.uuid = uuid := by
  induction browsed with
  | stopped => cases finished
  | @finished token books later empty =>
    obtain ⟨wish, stored, own⟩ := present books List.mem_cons_self
    have left := left_of_stored (keyed books List.mem_cons_self) stored own after
    rw [pageOf_zero_eq_nil empty] at left
    cases left
  | @turned token books later last pages isLast rest ih =>
    obtain ⟨here, laterKeyed⟩ := List.forall_mem_cons.1 keyed
    rw [List.length_cons, List.take_succ_cons, List.forall_mem_cons] at present
    obtain ⟨⟨wish, stored, own⟩, laterPresent⟩ := present
    obtain rfl := here uuid wish stored
    have left := left_of_stored here stored own after
    rw [pageOf_append_rest isLast here, List.mem_append] at left
    rcases left with onPage | isLater
    · exact ⟨wish, List.mem_append_left _ onPage, rfl⟩
    · obtain ⟨got, member, same⟩ := ih laterKeyed (goes_on isLast finished)
        (mem_pageOf_zero.1 isLater).2.2 laterPresent
      exact ⟨got, List.mem_append_right _ member, same⟩

theorem whole {all : List NotificationException}
    (same : ∀ books ∈ moments.take pages.length,
      pageOf books.exceptions email 0 token = all) : pages.flatten = all := by
  induction browsed generalizing all with
  | stopped => cases finished
  | @finished token books later empty =>
    rw [← same books List.mem_cons_self, pageOf_zero_eq_nil empty]
    rfl
  | @turned token books later last pages isLast rest ih =>
    obtain ⟨here, laterKeyed⟩ := List.forall_mem_cons.1 keyed
    rw [List.length_cons, List.take_succ_cons, List.forall_mem_cons] at same
    obtain ⟨isAll, laterSame⟩ := same
    have rest : pages.flatten = pageOf books.exceptions email 0 (some last.uuid) := by
      refine ih laterKeyed (goes_on isLast finished) fun next isNext => ?_
      rw [pageOf_zero_later (Notifier.after_token isLast), laterSame next isNext, ← isAll,
        ← pageOf_zero_later (Notifier.after_token isLast)]
    rw [List.flatten_cons, rest, ← isAll, pageOf_append_rest isLast here]

end Browsed

end Notifier

/-- A client who goes through the exceptions of a user gets none of them twice, whatever is created,
changed and deleted from page to page. Who came to an end got once whatever was there each time they
asked, and just the whole list if it was the same each time. If the user creates none meanwhile, the
end comes at the latest when the client has asked once more than there were exceptions at first. -/
theorem paging_loses_and_repeats_nothing (deployment : Deployment)
    (keeping : deployment.notifier = .keeping) (start : Books)
    (empty : start.exceptions = Table.empty) (email : String) (size : Nat)
    (first : Books) (later : List Books)
    (reached : (start :: first :: later).IsChain (Books.Onward deployment fun _ _ => True)) :
    ∃ pages,
      Notifier.browse deployment email size none (first :: later) = .ok pages ∧
      (pages.flatten.map (·.uuid)).Nodup ∧
      ([] ∈ pages → ∀ uuid,
        (∀ books ∈ (first :: later).take pages.length,
          ∃ wish, books.exceptions.get? uuid = some wish ∧ wish.userEmail = email) →
        (pages.flatten.map (·.uuid)).count uuid = 1) ∧
      ([] ∈ pages → ∀ whole,
        (∀ books ∈ (first :: later).take pages.length,
          ((Notifier.listExceptions deployment email 0 none).run.run books).1 = .ok whole) →
        pages.flatten = whole) ∧
      ((first :: later).IsChain (Books.Onward deployment fun caller call =>
          Identity.authenticate caller = .ok email → ∀ asked, call ≠ .create asked) →
        (∀ whole,
          ((Notifier.listExceptions deployment email 0 none).run.run first).1 = .ok whole →
          whole.length ≤ later.length) →
        [] ∈ pages) := by
  have tended := (Books.tended_of_empty empty).along keeping reached
  have keyed : ∀ books ∈ first :: later, Keyed books.exceptions :=
    fun books member => (tended books member).keyed
  have listed : ∀ books, ((Notifier.listExceptions deployment email 0 none).run.run books).1 =
      .ok (Notifier.pageOf books.exceptions email 0 none) :=
    fun books => congrArg Prod.fst (Notifier.listExceptions_run keeping email 0 none books)
  obtain ⟨pages, answered, browsed⟩ :=
    Notifier.browse_browsed keeping email size none (first :: later)
  have once : (pages.flatten.map (·.uuid)).Nodup :=
    List.pairwise_map.2 ((browsed.ascending keyed).imp String.ne_of_lt)
  refine ⟨pages, answered, once, ?_, ?_, ?_⟩
  · intro finished uuid present
    obtain ⟨wish, member, rfl⟩ := browsed.found keyed finished nofun present
    exact List.count_eq_one_of_mem once (List.mem_map_of_mem member)
  · intro finished whole same
    refine browsed.whole keyed finished fun books member => ?_
    exact Except.ok.inj ((listed books).symm.trans (same books member))
  · intro onward few
    have fewer : (first :: later).IsChain (Books.Fewer email) :=
      onward.imp_of_mem_imp fun books _ member _ =>
        Books.Onward.fewer keeping (tended books member)
    exact browsed.finishes keyed fewer rfl (Nat.lt_succ_of_le (few _ (listed first)))

/-! Between two pages the exception that the token names is deleted and another one is created. -/
namespace Turning

open Forged (deployment start)

def ann : String := "ann@org.com"

def asked : ExceptionCall := .create { notificationName := "OPEN_BUCKET" }

def first : Books :=
  start.served deployment [(some ann, asked), (some ann, asked), (some ann, asked)]

def second : Books :=
  first.served deployment [(some ann, .delete (Supply.idText 1)), (some ann, asked)]

theorem pages_of_two :
    (Notifier.browse deployment ann 2 none [first, second, second]).map
        (fun pages => pages.map fun page => page.map (·.uuid)) =
      .ok [[Supply.idText 0, Supply.idText 1], [Supply.idText 2, Supply.idText 3], []] ∧
    ∀ books ∈ [first, second, second],
      (books.exceptions.get? (Supply.idText 2)).map (·.userEmail) = some ann := by
  decide +kernel

theorem third_is_found_once :
    deployment.notifier = .keeping ∧ start.exceptions = Table.empty ∧
    [start, first, second, second].IsChain (Books.Onward deployment fun _ _ => True) ∧
    ∃ pages, Notifier.browse deployment ann 2 none [first, second, second] = .ok pages ∧
      pages.map (fun page => page.map (·.uuid)) =
        [[Supply.idText 0, Supply.idText 1], [Supply.idText 2, Supply.idText 3], []] ∧
      (pages.flatten.map (·.uuid)).Nodup ∧
      (pages.flatten.map (·.uuid)).count (Supply.idText 2) = 1 := by
  have reached : [start, first, second, second].IsChain
      (Books.Onward deployment fun _ _ => True) := by
    have begun : Books.Onward deployment (fun _ _ => True) start first :=
      Books.Onward.refl.served fun _ _ => trivial
    have changed : Books.Onward deployment (fun _ _ => True) first second :=
      Books.Onward.refl.served fun _ _ => trivial
    exact .cons_cons begun (.cons_cons changed (.cons_cons .refl (.singleton second)))
  obtain ⟨evaluated, present⟩ := pages_of_two
  obtain ⟨pages, answered, once, found, -⟩ := paging_loses_and_repeats_nothing deployment rfl start
    rfl ann 2 first [second, second] reached
  rw [answered] at evaluated
  have names : pages.map (fun page => page.map (·.uuid)) = _ := Except.ok.inj evaluated
  refine ⟨rfl, rfl, reached, pages, answered, names, once, found ?_ _ ?_⟩
  · have isLast : [] ∈ pages.map fun page => page.map (·.uuid) := by
      rw [names]
      simp
    obtain ⟨page, member, empty⟩ := List.mem_map.1 isLast
    rwa [List.map_eq_nil_iff.1 empty] at member
  · intro books member
    exact Option.map_eq_some_iff.1 (present books (List.mem_of_mem_take member))

end Turning

end CloudAudit
