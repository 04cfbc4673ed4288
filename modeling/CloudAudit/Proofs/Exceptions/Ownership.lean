import Mathlib.Data.List.Induction
import CloudAudit.Service
import CloudAudit.Proofs.World.Identifiers
/-!
# Whose exceptions these are

An exception belongs to the caller who created it, whatever the request said. Its identifier, its
owner, its source and the instant of its creation stay as long as it exists, and nobody but its
owner gets to see, change or delete it.
-/
set_option autoImplicit false

namespace CloudAudit

/-- Whether two exceptions agree in what never changes about one. -/
structure NotificationException.SameOrigin (one other : NotificationException) : Prop where
  uuid : one.uuid = other.uuid
  sourceSystem : one.sourceSystem = other.sourceSystem
  userEmail : one.userEmail = other.userEmail
  createdOn : one.createdOn = other.createdOn

namespace NotificationException.SameOrigin

variable {one other third : NotificationException}

theorem refl (wish : NotificationException) : wish.SameOrigin wish :=
  ⟨rfl, rfl, rfl, rfl⟩

theorem trans (first : one.SameOrigin other) (second : other.SameOrigin third) :
    one.SameOrigin third :=
  ⟨first.uuid.trans second.uuid, first.sourceSystem.trans second.sourceSystem,
    first.userEmail.trans second.userEmail, first.createdOn.trans second.createdOn⟩

end NotificationException.SameOrigin

def NotificationException.replacedBy (existing asked : NotificationException) :
    NotificationException :=
  { asked with
    notificationName :=
      if Text.allBlank asked.notificationName then existing.notificationName
      else asked.notificationName
    uuid := existing.uuid
    sourceSystem := existing.sourceSystem
    userEmail := existing.userEmail
    createdOn := existing.createdOn }

theorem NotificationException.sameOrigin_replacedBy (existing asked : NotificationException) :
    (existing.replacedBy asked).SameOrigin existing :=
  ⟨rfl, rfl, rfl, rfl⟩

/-- What callers can ask for about exceptions. -/
inductive ExceptionCall where
  | create (asked : NotificationException)
  | get (uuid : String)
  | update (uuid : String) (asked : NotificationException)
  | delete (uuid : String)
  | list (size : Nat) (token : Option String)

/-- Answers the exceptions that the caller gets to see. -/
def ExceptionCall.perform (deployment : Deployment) (caller : Option String) :
    ExceptionCall → Act (List NotificationException)
  | .create asked => (fun wish => [wish]) <$> Service.createException deployment caller asked
  | .get uuid => (fun wish => [wish]) <$> Service.getException deployment caller uuid
  | .update uuid asked =>
    (fun wish => [wish]) <$> Service.updateException deployment caller uuid asked
  | .delete uuid => (fun _ => []) <$> Service.deleteException deployment caller uuid
  | .list size token => Service.listExceptions deployment caller size token

namespace Books

/-- The books after calls about exceptions, each by some caller. -/
def served (deployment : Deployment) (books : Books)
    (calls : List (Option String × ExceptionCall)) : Books :=
  calls.foldl (fun books call => ((call.2.perform deployment call.1).run.run books).2) books

theorem served_append (deployment : Deployment) (books : Books)
    (first second : List (Option String × ExceptionCall)) :
    books.served deployment (first ++ second) =
      (books.served deployment first).served deployment second :=
  List.foldl_append

/-- The exception that a user gets who asks for one. -/
def granted (books : Books) (deployment : Deployment) (user : String)
    (asked : NotificationException) : NotificationException :=
  { asked with
    uuid := Supply.idText books.supply.minted
    userEmail := user
    sourceSystem := deployment.sourceSystem
    createdOn := some books.supply.reading }

def withException (books : Books) (wish : NotificationException) : Books :=
  { books with
    supply := ⟨books.supply.turned, books.supply.minted + 1⟩
    exceptions := books.exceptions.insert wish.uuid wish }

end Books

/-! ## What one call does -/

/-- What a call about exceptions answers, and the books after it. -/
inductive ExceptionCall.Does (deployment : Deployment) (caller : Option String) (books : Books) :
    ExceptionCall → Except AuditError (List NotificationException) → Books → Prop where
  | refuses (call : ExceptionCall) (error : AuditError) :
    Does deployment caller books call (.error error) books
  | creates (asked : NotificationException) {user : String}
      (known : Identity.authenticate caller = .ok user) :
    Does deployment caller books (.create asked) (.ok [books.granted deployment user asked])
      (books.withException (books.granted deployment user asked))
  | shows {uuid : String} {wish : NotificationException}
      (stored : books.exceptions.get? uuid = some wish)
      (own : Identity.authenticate caller = .ok wish.userEmail) :
    Does deployment caller books (.get uuid) (.ok [wish]) books
  | replaces {uuid : String} (asked : NotificationException) {existing : NotificationException}
      (stored : books.exceptions.get? uuid = some existing)
      (own : Identity.authenticate caller = .ok existing.userEmail) :
    Does deployment caller books (.update uuid asked) (.ok [existing.replacedBy asked])
      { books with exceptions := books.exceptions.insert uuid (existing.replacedBy asked) }
  | deletes {uuid : String} {wish : NotificationException}
      (stored : books.exceptions.get? uuid = some wish)
      (own : Identity.authenticate caller = .ok wish.userEmail) :
    Does deployment caller books (.delete uuid) (.ok [])
      { books with exceptions := books.exceptions.erase uuid }
  | lists (size : Nat) (token : Option String) {user : String}
      (known : Identity.authenticate caller = .ok user) {page : List NotificationException}
      (own : ∀ wish ∈ page, wish.userEmail = user ∧
        ∃ uuid, books.exceptions.get? uuid = some wish) :
    Does deployment caller books (.list size token) (.ok page) books

namespace Service

variable {deployment : Deployment} (keeping : deployment.notifier = .keeping)

theorem authenticate_run (caller : Option String) (books : Books) :
    (authenticate caller).run.run books = (Identity.authenticate caller, books) :=
  rfl

include keeping

theorem requireExceptions_run (books : Books) :
    (Notifier.requireExceptions deployment).run.run books = (.ok (), books) := by
  rw [Notifier.requireExceptions, keeping]
  rfl

theorem getException_run (uuid : String) (books : Books) :
    (Notifier.getException deployment uuid).run.run books =
      ((books.exceptions.get? uuid).elim (.error (Notifier.missing uuid)) .ok, books) := by
  rw [Notifier.getException, Books.bind_run_ok (requireExceptions_run keeping books),
    Books.bind_run_ok books.get_run]
  cases books.exceptions.get? uuid <;> rfl

theorem replaceException_run (wish : NotificationException) {existing : NotificationException}
    {books : Books} (stored : books.exceptions.get? wish.uuid = some existing) :
    (Notifier.updateException deployment wish).run.run books =
      (.ok { wish with createdOn := existing.createdOn },
        { books with
          exceptions :=
            books.exceptions.insert wish.uuid { wish with createdOn := existing.createdOn } }) := by
  rw [Notifier.updateException, Books.bind_run_ok (requireExceptions_run keeping books),
    Books.bind_run_ok books.get_run, stored]
  rfl

theorem removeException_run {uuid : String} {wish : NotificationException} {books : Books}
    (stored : books.exceptions.get? uuid = some wish) :
    (Notifier.deleteException deployment uuid).run.run books =
      (.ok (), { books with exceptions := books.exceptions.erase uuid }) := by
  rw [Notifier.deleteException, Books.bind_run_ok (requireExceptions_run keeping books),
    Books.bind_run_ok books.get_run, if_pos ((books.exceptions.contains_iff uuid).2 ⟨wish, stored⟩)]
  rfl

theorem ownedException_run (user uuid : String) (books : Books) :
    (∃ error, (ownedException deployment user uuid).run.run books = (.error error, books)) ∨
    ∃ wish, books.exceptions.get? uuid = some wish ∧ wish.userEmail = user ∧
      (ownedException deployment user uuid).run.run books = (.ok wish, books) := by
  have found := getException_run keeping uuid books
  cases stored : books.exceptions.get? uuid with
  | none =>
    rw [stored] at found
    exact .inl ⟨Notifier.missing uuid, Books.bind_run_error found⟩
  | some wish =>
    rw [stored] at found
    rw [ownedException, Books.bind_run_ok found]
    by_cases own : wish.userEmail = user
    · right
      refine ⟨wish, rfl, own, ?_⟩
      rw [if_pos (beq_iff_eq.2 own)]
      rfl
    · left
      rw [if_neg (by simpa using own)]
      exact ⟨_, rfl⟩

end Service

namespace ExceptionCall

variable {deployment : Deployment} (keeping : deployment.notifier = .keeping) {books : Books}
include keeping

omit keeping in
/-- A call that asks first who calls is refused, or it goes on for a user. -/
theorem Does.of_user {caller : Option String} {call : ExceptionCall}
    {next : String → Act (List NotificationException)}
    (asks : call.perform deployment caller = Service.authenticate caller >>= next)
    (goesOn : ∀ user, Identity.authenticate caller = .ok user →
      Does deployment caller books call ((next user).run.run books).1
        ((next user).run.run books).2) :
    Does deployment caller books call ((call.perform deployment caller).run.run books).1
      ((call.perform deployment caller).run.run books).2 := by
  have identified := Service.authenticate_run caller books
  rw [asks]
  cases known : Identity.authenticate caller with
  | error error =>
    rw [known] at identified
    rw [Books.bind_run_error identified]
    exact .refuses _ error
  | ok user =>
    rw [known] at identified
    rw [Books.bind_run_ok identified]
    exact goesOn user known

theorem create_does (caller : Option String) (asked : NotificationException) :
    Does deployment caller books (.create asked)
      ((perform deployment caller (.create asked)).run.run books).1
      ((perform deployment caller (.create asked)).run.run books).2 := by
  refine .of_user (map_bind _ _ _) fun user known => ?_
  rw [Books.map_run]
  by_cases blank : Text.allBlank asked.notificationName = true
  · rw [if_pos blank]
    exact .refuses _ _
  · rw [if_neg blank, Notifier.createException,
      Books.bind_run_ok (Service.requireExceptions_run keeping books)]
    exact .creates asked known

theorem get_does (caller : Option String) (uuid : String) :
    Does deployment caller books (.get uuid)
      ((perform deployment caller (.get uuid)).run.run books).1
      ((perform deployment caller (.get uuid)).run.run books).2 := by
  refine .of_user (map_bind _ _ _) fun user known => ?_
  rw [Books.map_run]
  rcases Service.ownedException_run keeping user uuid books with
    ⟨error, ran⟩ | ⟨wish, stored, rfl, ran⟩
  · rw [ran]
    exact .refuses _ error
  · rw [ran]
    exact .shows stored known

theorem update_does (keyed : ∀ uuid wish, books.exceptions.get? uuid = some wish → wish.uuid = uuid)
    (caller : Option String) (uuid : String) (asked : NotificationException) :
    Does deployment caller books (.update uuid asked)
      ((perform deployment caller (.update uuid asked)).run.run books).1
      ((perform deployment caller (.update uuid asked)).run.run books).2 := by
  refine .of_user (map_bind _ _ _) fun user known => ?_
  rw [Books.map_run]
  rcases Service.ownedException_run keeping user uuid books with
    ⟨error, ran⟩ | ⟨existing, stored, rfl, ran⟩
  · rw [Books.bind_run_error ran]
    exact .refuses _ error
  · -- The record that is looked up again is the one that was found before.
    obtain rfl := keyed uuid existing stored
    have replaced : (Notifier.updateException deployment
        { existing.replacedBy asked with createdOn := asked.createdOn }).run.run books = _ :=
      Service.replaceException_run keeping _ stored
    rw [Books.bind_run_ok ran]
    simp only [NotificationException.replacedBy] at replaced
    rw [replaced]
    exact .replaces asked stored known

theorem delete_does (caller : Option String) (uuid : String) :
    Does deployment caller books (.delete uuid)
      ((perform deployment caller (.delete uuid)).run.run books).1
      ((perform deployment caller (.delete uuid)).run.run books).2 := by
  refine .of_user (map_bind _ _ _) fun user known => ?_
  rw [Books.map_run]
  rcases Service.ownedException_run keeping user uuid books with
    ⟨error, ran⟩ | ⟨wish, stored, rfl, ran⟩
  · rw [Books.bind_run_error ran]
    exact .refuses _ error
  · rw [Books.bind_run_ok ran, Service.removeException_run keeping stored]
    exact .deletes stored known

theorem list_does (caller : Option String) (size : Nat) (token : Option String) :
    Does deployment caller books (.list size token)
      ((perform deployment caller (.list size token)).run.run books).1
      ((perform deployment caller (.list size token)).run.run books).2 := by
  refine .of_user rfl fun user known => ?_
  rw [Notifier.listExceptions, Books.bind_run_ok (Service.requireExceptions_run keeping books)]
  refine .lists size token known ?_
  intro wish member
  have found : wish ∈ books.exceptions.values.filter fun wish =>
      wish.userEmail == user && token.all fun token => decide (token < wish.uuid) := by
    change wish ∈ (if size == 0 then _ else List.take size _) at member
    split at member
    · exact member
    · exact List.mem_of_mem_take member
  obtain ⟨stored, own⟩ := List.mem_filter.1 found
  rw [Bool.and_eq_true, beq_iff_eq] at own
  exact ⟨own.1, (books.exceptions.mem_values_iff wish).1 stored⟩

theorem does (keyed : ∀ uuid wish, books.exceptions.get? uuid = some wish → wish.uuid = uuid)
    (caller : Option String) (call : ExceptionCall) :
    Does deployment caller books call ((call.perform deployment caller).run.run books).1
      ((call.perform deployment caller).run.run books).2 := by
  cases call with
  | create asked => exact create_does keeping caller asked
  | get uuid => exact get_does keeping caller uuid
  | update uuid asked => exact update_does keeping keyed caller uuid asked
  | delete uuid => exact delete_does keeping caller uuid
  | list size token => exact list_does keeping caller size token

end ExceptionCall

/-! ## What any calls leave -/

/-- What holds of the exceptions at every time: each stands under its own identifier, which was
handed out before, and comes from the configured source. -/
structure Books.Tended (deployment : Deployment) (books : Books) : Prop where
  keyed : ∀ uuid wish, books.exceptions.get? uuid = some wish → wish.uuid = uuid
  issued : ∀ uuid wish, books.exceptions.get? uuid = some wish → books.supply.Issued uuid
  source : ∀ uuid wish, books.exceptions.get? uuid = some wish →
    wish.sourceSystem = deployment.sourceSystem

/-- Later books have no exception under a known identifier but the one that was there. -/
structure Books.Keeps (books after : Books) : Prop where
  minted : books.supply.minted ≤ after.supply.minted
  same : ∀ uuid, books.supply.Issued uuid → ∀ wish, after.exceptions.get? uuid = some wish →
    ∃ old, books.exceptions.get? uuid = some old ∧ wish.SameOrigin old

theorem Books.Keeps.refl (books : Books) : books.Keeps books where
  minted := Nat.le_refl _
  same _ _ wish stored := ⟨wish, stored, .refl wish⟩

theorem Books.Keeps.trans {first second third : Books} (one : first.Keeps second)
    (two : second.Keeps third) : first.Keeps third where
  minted := Nat.le_trans one.minted two.minted
  same uuid issued wish stored := by
    obtain ⟨between, known, laterSame⟩ := two.same uuid (issued.mono one.minted) wish stored
    obtain ⟨old, isOld, same⟩ := one.same uuid issued between known
    exact ⟨old, isOld, laterSame.trans same⟩

/-- Whether an exception was created by a call in a history, for the caller of this call. -/
def ExceptionCall.Created (deployment : Deployment) (start : Books)
    (calls : List (Option String × ExceptionCall)) (made : NotificationException) : Prop :=
  ∃ before caller asked after, calls = before ++ (caller, .create asked) :: after ∧
    Identity.authenticate caller = .ok made.userEmail ∧
    ((ExceptionCall.perform deployment caller (.create asked)).run.run
      (start.served deployment before)).1 = .ok [made]

theorem ExceptionCall.Created.append {deployment : Deployment} {start : Books}
    {calls : List (Option String × ExceptionCall)} {made : NotificationException}
    (created : ExceptionCall.Created deployment start calls made)
    (more : List (Option String × ExceptionCall)) :
    ExceptionCall.Created deployment start (calls ++ more) made := by
  obtain ⟨before, caller, asked, after, rfl, known, answered⟩ := created
  exact ⟨before, caller, asked, after ++ more, by simp, known, answered⟩

namespace ExceptionCall.Does

variable {deployment : Deployment} {caller : Option String} {books after : Books}
  {call : ExceptionCall} {answer : Except AuditError (List NotificationException)}
  (does : Does deployment caller books call answer after)
include does

theorem minted : books.supply.minted ≤ after.supply.minted := by
  cases does with
  | creates => exact Nat.le_succ _
  | refuses | shows | replaces | deletes | lists => exact Nat.le_refl _

/-- An exception that is there after a call was there before, or the call created it. -/
theorem origin (uuid : String) (wish : NotificationException)
    (stored : after.exceptions.get? uuid = some wish) :
    (∃ old, books.exceptions.get? uuid = some old ∧ wish.SameOrigin old) ∨
    ∃ asked user, call = .create asked ∧ Identity.authenticate caller = .ok user ∧
      answer = .ok [wish] ∧ wish = books.granted deployment user asked ∧ uuid = wish.uuid ∧
      after.supply.minted = books.supply.minted + 1 := by
  cases does with
  | refuses | shows | lists => exact .inl ⟨wish, stored, .refl wish⟩
  | creates asked known =>
    rw [Books.withException, Table.get?_insert] at stored
    split at stored
    · rename_i same
      obtain rfl := Option.some.inj stored
      exact .inr ⟨asked, _, rfl, known, rfl, rfl, same, rfl⟩
    · exact .inl ⟨wish, stored, .refl wish⟩
  | replaces asked known own =>
    rw [Table.get?_insert] at stored
    split at stored
    · rename_i here
      obtain rfl := Option.some.inj stored
      exact .inl ⟨_, here ▸ known, NotificationException.sameOrigin_replacedBy _ asked⟩
    · exact .inl ⟨wish, stored, .refl wish⟩
  | deletes known own =>
    rw [Table.get?_erase] at stored
    split at stored
    · cases stored
    · exact .inl ⟨wish, stored, .refl wish⟩

theorem tended (before : books.Tended deployment) : after.Tended deployment where
  keyed uuid wish stored := by
    rcases does.origin uuid wish stored with ⟨old, known, same⟩ |
      ⟨_, _, _, _, _, _, named, _⟩
    · exact same.uuid.trans (before.keyed uuid old known)
    · exact named.symm
  issued uuid wish stored := by
    rcases does.origin uuid wish stored with ⟨old, known, -⟩ |
      ⟨_, _, _, _, _, rfl, rfl, minted⟩
    · exact (before.issued uuid old known).mono does.minted
    · exact ⟨books.supply.minted, by omega, rfl⟩
  source uuid wish stored := by
    rcases does.origin uuid wish stored with ⟨old, known, same⟩ | ⟨_, _, _, _, _, rfl, _, _⟩
    · exact same.sourceSystem.trans (before.source uuid old known)
    · rfl

theorem keeps (lasting : after.supply.minted ≤ 2 ^ 128) :
    books.Keeps after where
  minted := does.minted
  same uuid issued wish stored := by
    rcases does.origin uuid wish stored with found | ⟨_, _, _, _, _, rfl, rfl, minted⟩
    · exact found
    · exact absurd issued (Supply.not_issued (Nat.le_refl _) (by omega))

/-- Whoever does not own an exception neither changes nor sees it. -/
theorem isolated (tended : books.Tended deployment) (lasting : books.supply.minted < 2 ^ 128)
    {uuid : String} {wish : NotificationException}
    (stored : books.exceptions.get? uuid = some wish)
    (foreign : Identity.authenticate caller ≠ .ok wish.userEmail) :
    after.exceptions.get? uuid = some wish ∧
      ∀ shown, answer = .ok shown → ∀ other ∈ shown, other.uuid ≠ uuid := by
  have notNew : uuid ≠ Supply.idText books.supply.minted := by
    rintro rfl
    exact Supply.not_issued (Nat.le_refl _) lasting (tended.issued _ wish stored)
  -- What belongs to the caller stands under another identifier.
  have elsewhere : ∀ {name found}, books.exceptions.get? name = some found →
      Identity.authenticate caller = .ok found.userEmail → uuid ≠ name := by
    rintro name found known own rfl
    obtain rfl := Option.some.inj (stored.symm.trans known)
    exact foreign own
  cases does with
  | refuses => exact ⟨stored, by simp⟩
  | creates asked known =>
    constructor
    · exact (Table.get?_insert_of_ne books.exceptions _ notNew).trans stored
    · simpa [Books.granted] using notNew.symm
  | shows known own =>
    refine ⟨stored, ?_⟩
    simp only [Except.ok.injEq, forall_eq', List.mem_singleton, forall_eq]
    rw [tended.keyed _ _ known]
    exact (elsewhere known own).symm
  | replaces asked known own =>
    have distinct := elsewhere known own
    refine ⟨by rw [Table.get?_insert_of_ne _ _ distinct, stored], ?_⟩
    simp only [Except.ok.injEq, forall_eq', List.mem_singleton, forall_eq]
    rw [(NotificationException.sameOrigin_replacedBy _ asked).uuid, tended.keyed _ _ known]
    exact distinct.symm
  | deletes known own =>
    refine ⟨?_, by simp⟩
    rw [Table.get?_erase, if_neg (elsewhere known own), stored]
  | lists size token known own =>
    refine ⟨stored, ?_⟩
    simp only [Except.ok.injEq, forall_eq']
    intro other member
    obtain ⟨rfl, name, isStored⟩ := own other member
    rw [tended.keyed name other isStored]
    exact (elsewhere isStored known).symm

omit does in
theorem listed {size : Nat} {token : Option String} {page : List NotificationException}
    (does : Does deployment caller books (.list size token) (.ok page) after)
    (tended : books.Tended deployment) :
    ∃ user, Identity.authenticate caller = .ok user ∧
      ∀ wish ∈ page, wish.userEmail = user ∧ books.exceptions.get? wish.uuid = some wish := by
  cases does with
  | lists size token known own =>
    refine ⟨_, known, ?_⟩
    intro wish member
    obtain ⟨mine, uuid, stored⟩ := own wish member
    rw [tended.keyed uuid wish stored]
    exact ⟨mine, stored⟩

end ExceptionCall.Does

/-! ## What a history of calls leaves -/

namespace Books

variable {deployment : Deployment} (keeping : deployment.notifier = .keeping) {start : Books}
include keeping

theorem served_does (tended : start.Tended deployment) (caller : Option String)
    (call : ExceptionCall) :
    ∃ answer, call.Does deployment caller start answer
      (start.served deployment [(caller, call)]) :=
  ⟨_, call.does keeping tended.keyed caller⟩

theorem Tended.served (tended : start.Tended deployment)
    (calls : List (Option String × ExceptionCall)) :
    (start.served deployment calls).Tended deployment := by
  induction calls using List.reverseRecOn with
  | nil => exact tended
  | append_singleton calls call before =>
    obtain ⟨answer, does⟩ := served_does keeping before call.1 call.2
    rw [served_append]
    exact does.tended before

theorem Tended.keeps_served (tended : start.Tended deployment)
    (calls : List (Option String × ExceptionCall))
    (lasting : (start.served deployment calls).supply.minted ≤ 2 ^ 128) :
    start.Keeps (start.served deployment calls) := by
  induction calls using List.reverseRecOn with
  | nil => exact .refl start
  | append_singleton calls call before =>
    obtain ⟨answer, does⟩ := served_does keeping (tended.served keeping calls) call.1 call.2
    rw [served_append] at lasting ⊢
    exact (before (Nat.le_trans does.minted lasting)).trans (does.keeps lasting)

/-- Whatever is stored after a history that began with no exception was created in it. -/
theorem Tended.created_served (tended : start.Tended deployment)
    (empty : start.exceptions = Table.empty) (calls : List (Option String × ExceptionCall))
    (uuid : String) (wish : NotificationException)
    (stored : (start.served deployment calls).exceptions.get? uuid = some wish) :
    ∃ made, ExceptionCall.Created deployment start calls made ∧ wish.SameOrigin made := by
  induction calls using List.reverseRecOn generalizing wish with
  | nil =>
    change start.exceptions.get? uuid = some wish at stored
    rw [empty, Table.get?_empty] at stored
    cases stored
  | append_singleton calls call before =>
    have does := call.2.does keeping (tended.served keeping calls).keyed call.1
    rw [served_append] at stored
    rcases does.origin uuid wish stored with ⟨old, known, same⟩ |
      ⟨asked, user, created, known, answered, rfl, -, -⟩
    · obtain ⟨made, isCreated, origin⟩ := before old known
      exact ⟨made, isCreated.append [call], same.trans origin⟩
    · refine ⟨_, ⟨calls, call.1, asked, [], ?_, known, ?_⟩, .refl _⟩
      · rw [← created]
      · rw [← created]
        exact answered

end Books

theorem Books.tended_of_empty {deployment : Deployment} {start : Books}
    (empty : start.exceptions = Table.empty) : start.Tended deployment where
  keyed uuid wish stored := by simp [empty] at stored
  issued uuid wish stored := by simp [empty] at stored
  source uuid wish stored := by simp [empty] at stored

/-- Whose exceptions there are, whoever asked for what: every stored one stands under its own
identifier, is of the configured source and has the origin that it was created with, for the caller
who created it. As long as it is there this origin stays, no call of anyone else changes it or shows
it, and whoever lists exceptions gets their own. -/
theorem exceptions_are_isolated (deployment : Deployment) (keeping : deployment.notifier = .keeping)
    (start : Books) (empty : start.exceptions = Table.empty)
    (calls : List (Option String × ExceptionCall))
    (lasting : (start.served deployment calls).supply.minted < 2 ^ 128) :
    let books := start.served deployment calls
    (∀ uuid wish, books.exceptions.get? uuid = some wish →
      wish.uuid = uuid ∧
      wish.sourceSystem = deployment.sourceSystem ∧
      (∃ made, ExceptionCall.Created deployment start calls made ∧ wish.SameOrigin made) ∧
      (∀ more later, (books.served deployment more).supply.minted ≤ 2 ^ 128 →
        (books.served deployment more).exceptions.get? uuid = some later →
        later.SameOrigin wish) ∧
      ∀ caller call, Identity.authenticate caller ≠ .ok wish.userEmail →
        (books.served deployment [(caller, call)]).exceptions.get? uuid = some wish ∧
        ∀ shown, ((ExceptionCall.perform deployment caller call).run.run books).1 = .ok shown →
          ∀ other ∈ shown, other.uuid ≠ uuid) ∧
    ∀ caller size token page,
      ((Service.listExceptions deployment caller size token).run.run books).1 = .ok page →
      ∃ user, Identity.authenticate caller = .ok user ∧
        ∀ wish ∈ page, wish.userEmail = user ∧ books.exceptions.get? wish.uuid = some wish := by
  intro books
  have begun : start.Tended deployment := Books.tended_of_empty empty
  have tended : books.Tended deployment := begun.served keeping calls
  constructor
  · intro uuid wish stored
    refine ⟨tended.keyed uuid wish stored, tended.source uuid wish stored,
      begun.created_served keeping empty calls uuid wish stored, ?_, ?_⟩
    · intro more later lastingLater isLater
      have kept := tended.keeps_served keeping more lastingLater
      obtain ⟨old, wasOld, same⟩ := kept.same uuid (tended.issued uuid wish stored) later isLater
      obtain rfl := Option.some.inj (stored.symm.trans wasOld)
      exact same
    · intro caller call foreign
      exact (call.does keeping tended.keyed caller).isolated tended lasting stored foreign
  · intro caller size token page answered
    have does : ExceptionCall.Does deployment caller books (.list size token)
        ((Service.listExceptions deployment caller size token).run.run books).1 _ :=
      ExceptionCall.list_does keeping caller size token
    rw [answered] at does
    exact does.listed tended

/-! A request that names another owner and another identifier, and a stranger's calls after it. -/
namespace Forged

def deployment : Deployment where
  inventory := ⟨[]⟩
  contacts := default
  notificationInterval := .zero
  sourceSystem := "CloudAudit"

def start : Books := { supply := { now := ⟨0, 0⟩ } }

def asked : NotificationException where
  uuid := "mine"
  sourceSystem := "elsewhere"
  userEmail := "eve@org.com"
  notificationName := "OPEN_BUCKET"

def uuid : String := Supply.idText 0

def calls : List (Option String × ExceptionCall) :=
  [(some " ann@org.com ", .create asked),
   (some "eve@org.com", .update uuid asked),
   (some "eve@org.com", .delete uuid)]

def stored : NotificationException :=
  start.granted deployment "ann@org.com" asked

theorem calls_store :
    (start.served deployment calls).exceptions.get? uuid = some stored ∧
      (start.served deployment calls).supply.minted = 1 ∧
      Identity.authenticate (some "eve@org.com") ≠ .ok stored.userEmail := by
  decide +kernel

theorem exception_stays_with_ann :
    deployment.notifier = .keeping ∧ start.exceptions = Table.empty ∧
    (start.served deployment calls).supply.minted < 2 ^ 128 ∧
    stored.userEmail = "ann@org.com" ∧
    (∃ made, ExceptionCall.Created deployment start calls made ∧ stored.SameOrigin made) ∧
    ∀ call, ((start.served deployment calls).served deployment
      [(some "eve@org.com", call)]).exceptions.get? uuid = some stored := by
  obtain ⟨isStored, minted, foreign⟩ := calls_store
  have lasting : (start.served deployment calls).supply.minted < 2 ^ 128 := by
    rw [minted]
    decide
  obtain ⟨-, -, created, -, isolated⟩ :=
    (exceptions_are_isolated deployment rfl start rfl calls lasting).1 uuid stored isStored
  exact ⟨rfl, rfl, lasting, rfl, created, fun call => (isolated _ call foreign).1⟩

end Forged

end CloudAudit
