import CloudAudit.Proofs.Contacts.Addresses
import CloudAudit.Proofs.Dispatch.Delivery
import CloudAudit.Proofs.Exceptions.Ownership
/-!
# Opting out

An exception without an end silences every later notification of its name to whoever created it,
until its owner changes or deletes it. So a contact can opt out of notifications just if it is an
address that a caller can present.
-/
set_option autoImplicit false

namespace CloudAudit

namespace ExceptionCall

inductive Touches (uuid : String) : ExceptionCall → Prop where
  | update (asked : NotificationException) : Touches uuid (.update uuid asked)
  | delete : Touches uuid (.delete uuid)

theorem Does.undisturbed {deployment : Deployment} {caller : Option String} {books after : Books}
    {call : ExceptionCall} {answer : Except AuditError (List NotificationException)}
    (does : Does deployment caller books call answer after) (tended : books.Tended deployment)
    (lasting : after.supply.minted ≤ 2 ^ 128) {uuid : String} {wish : NotificationException}
    (stored : books.exceptions.get? uuid = some wish)
    (spared : Identity.authenticate caller = .ok wish.userEmail → ¬ call.Touches uuid) :
    after.exceptions.get? uuid = some wish := by
  cases does with
  | refuses | shows | lists => exact stored
  | creates asked known =>
    have below : books.supply.minted < 2 ^ 128 := lasting
    have other : uuid ≠ Supply.idText books.supply.minted := by
      rintro rfl
      exact Supply.not_issued (Nat.le_refl _) below (tended.issued _ wish stored)
    exact (Table.get?_insert_of_ne books.exceptions _ other).trans stored
  | @replaces name asked existing found own =>
    have other : uuid ≠ name := by
      rintro rfl
      obtain rfl := Option.some.inj (stored.symm.trans found)
      exact spared own (.update asked)
    rw [Table.get?_insert_of_ne _ _ other, stored]
  | @deletes name existing found own =>
    have other : uuid ≠ name := by
      rintro rfl
      obtain rfl := Option.some.inj (stored.symm.trans found)
      exact spared own .delete
    rw [Table.get?_erase, if_neg other, stored]

end ExceptionCall

/-! ## What becomes of exceptions -/

namespace Books

/-- Books after allowed calls about exceptions, and after anything else, which leaves the
exceptions as they are. -/
inductive Onward (deployment : Deployment) (allowed : Option String → ExceptionCall → Prop)
    (start : Books) : Books → Prop where
  | refl : Onward deployment allowed start start
  | asked {books : Books} {caller : Option String} {call : ExceptionCall}
      (before : Onward deployment allowed start books) (isAllowed : allowed caller call) :
    Onward deployment allowed start ((call.perform deployment caller).run.run books).2
  | elsewhere {books after : Books} (before : Onward deployment allowed start books)
      (same : after.exceptions = books.exceptions)
      (minted : books.supply.minted ≤ after.supply.minted) :
    Onward deployment allowed start after

variable {deployment : Deployment} (keeping : deployment.notifier = .keeping)
  {allowed : Option String → ExceptionCall → Prop} {start books : Books}
include keeping

theorem Tended.onward (tended : start.Tended deployment)
    (onward : Onward deployment allowed start books) : books.Tended deployment := by
  induction onward with
  | refl => exact tended
  | @asked _ caller call _ _ ih => exact (call.does keeping ih.keyed caller).tended ih
  | elsewhere _ same minted ih =>
    constructor
    · rw [same]
      exact ih.keyed
    · rw [same]
      exact fun uuid wish stored => (ih.issued uuid wish stored).mono minted
    · rw [same]
      exact ih.source

theorem Onward.undisturbed (tended : start.Tended deployment)
    {uuid : String} {wish : NotificationException}
    (stored : start.exceptions.get? uuid = some wish)
    (onward : Onward deployment
      (fun caller call => Identity.authenticate caller = .ok wish.userEmail → ¬ call.Touches uuid)
      start books)
    (lasting : books.supply.minted ≤ 2 ^ 128) : books.exceptions.get? uuid = some wish := by
  induction onward with
  | refl => exact stored
  | @asked books caller call before isAllowed ih =>
    have kept := tended.onward keeping before
    have does := call.does keeping kept.keyed caller
    exact does.undisturbed kept lasting (ih (Nat.le_trans does.minted lasting)) isAllowed
  | elsewhere _ same minted ih =>
    rw [same]
    exact ih (Nat.le_trans minted lasting)

end Books

/-! ## What is delivered -/

namespace Notifier

theorem isSilenced_of_stored {exceptions : Table NotificationException} {uuid : String}
    {wish : NotificationException} (stored : exceptions.get? uuid = some wish)
    (endless : wish.validUntil = none) (now : Instant) {notification : Notification}
    (recipient : notification.recipient = wish.userEmail)
    (name : notification.name = wish.notificationName) :
    isSilenced exceptions now notification = true := by
  rw [isSilenced, List.any_eq_true]
  refine ⟨wish, (exceptions.mem_values_iff wish).2 ⟨uuid, stored⟩, ?_⟩
  simp [NotificationException.silences, NotificationException.isValid, recipient, name, endless]

/-- Whatever is delivered no exception silences. -/
theorem deliver_run {deployment : Deployment} (keeping : deployment.notifier = .keeping)
    (batch : List Notification) (books : Books) :
    ∃ delivered supply, books.supply.minted ≤ supply.minted ∧
      (deliver deployment batch).run.run books = (.ok delivered, { books with supply }) ∧
      ∀ notification ∈ delivered, ∀ uuid wish, books.exceptions.get? uuid = some wish →
        wish.validUntil = none → notification.recipient = wish.userEmail →
        notification.name ≠ wish.notificationName := by
  obtain ⟨delivered, supply, minted, ran, same⟩ := deliver_keeping keeping batch books
  refine ⟨delivered, supply, minted, ran, ?_⟩
  intro notification member uuid wish stored endless recipient name
  have alike : notification.unnumbered ∈ delivered.map Notification.unnumbered :=
    List.mem_map_of_mem member
  rw [same] at alike
  obtain ⟨submitted, isSubmitted, isAlike⟩ := List.mem_map.1 alike
  have sameRecipient := congrArg Notification.recipient isAlike
  have sameName := congrArg Notification.name isAlike
  have loud := (List.mem_filter.1 isSubmitted).2
  have silenced : isSilenced books.exceptions books.supply.reading submitted = true :=
    isSilenced_of_stored stored endless _ (sameRecipient.trans recipient) (sameName.trans name)
  rw [silenced] at loud
  cases loud

end Notifier

/-! ## Who can opt out -/

/-- Whoever presents an address can silence all notifications of a name to this address, until they
change or delete the exception that does so. -/
def CanOptOut (deployment : Deployment) (address : String) : Prop :=
  ∀ (start before : Books) (asked : NotificationException), start.exceptions = Table.empty →
    Books.Onward deployment (fun _ _ => True) start before →
    Text.allBlank asked.notificationName = false → asked.validUntil = none →
    ∃ made created,
      (Service.createException deployment (some address) asked).run.run before =
        (.ok made, created) ∧
      made.userEmail = address ∧ made.notificationName = asked.notificationName ∧
      ∀ later, Books.Onward deployment
          (fun caller call => Identity.authenticate caller = .ok address →
            ¬ call.Touches made.uuid) created later →
        later.supply.minted ≤ 2 ^ 128 →
        ∀ batch, ∃ delivered after,
          (Notifier.deliver deployment batch).run.run later = (.ok delivered, after) ∧
          after.exceptions = later.exceptions ∧
          ∀ notification ∈ delivered, notification.recipient = address →
            notification.name ≠ asked.notificationName

namespace CanOptOut

variable {deployment : Deployment} (keeping : deployment.notifier = .keeping) {address : String}
include keeping

theorem of_known (known : Identity.authenticate (some address) = .ok address) :
    CanOptOut deployment address := by
  intro start before asked empty begun named endless
  have made : (Service.createException deployment (some address) asked).run.run before =
      (.ok (before.granted deployment address asked),
        before.withException (before.granted deployment address asked)) := by
    have identified : (Service.authenticate (some address)).run.run before =
        (.ok address, before) := by
      rw [Service.authenticate_run, known]
    rw [Service.createException, Books.bind_run_ok identified, if_neg (by simp [named]),
      Notifier.createException, Books.bind_run_ok (Service.requireExceptions_run keeping before)]
    rfl
  refine ⟨_, _, made, rfl, rfl, ?_⟩
  intro later onward lasting batch
  obtain ⟨delivered, supply, -, ran, loud⟩ := Notifier.deliver_run keeping batch later
  refine ⟨delivered, _, ran, rfl, ?_⟩
  have tended := (Books.tended_of_empty empty).onward keeping begun
  have does : ExceptionCall.Does deployment (some address) before (.create asked) _ _ :=
    .creates asked known
  have stored := Books.Onward.undisturbed keeping (does.tended tended)
    (Table.get?_insert_self before.exceptions _ (before.granted deployment address asked))
    onward lasting
  exact fun notification member recipient =>
    loud notification member _ (before.granted deployment address asked) stored endless recipient

theorem known (canOptOut : CanOptOut deployment address) :
    Identity.authenticate (some address) = .ok address := by
  let start : Books := { supply := default }
  let asked : NotificationException := { notificationName := "ANY" }
  obtain ⟨made, created, ran, owner, -⟩ :=
    canOptOut start start asked rfl .refl (by decide) rfl
  have does : ExceptionCall.Does deployment (some address) start (.create asked) _ _ :=
    ExceptionCall.create_does keeping (some address) asked
  have answered : ((ExceptionCall.create asked).perform deployment (some address)).run.run start =
      (.ok [made], created) := by
    rw [ExceptionCall.perform, Books.map_run, ran]
    rfl
  rw [answered] at does
  cases does with
  | creates _ known => exact known.trans (congrArg Except.ok owner)

end CanOptOut

section

variable {settings : Settings} (accepted : settings.validate = .ok ())
  (usualPattern :
    settings.notifications.labelPattern = ({} : NotificationSettings).labelPattern)
  (usualTemplate :
    settings.notifications.labelTemplate = ({} : NotificationSettings).labelTemplate)
  {domain : List Char} (suffix : settings.notifications.orgSuffix.toList = '@' :: domain)
  (dotted : '.' ∈ domain)
include accepted usualPattern usualTemplate suffix dotted

/-- With the usual rewriting of labels and a suffix that is a domain, a contact of a group can opt
out just if it can be presented, which is to be known by just what it is; nobody at all is known by
another one. All that can keep a contact from it which comes from a member, or from a label with two
underscores, is what it begins and ends with. Other labels are contacts with dots for underscores.
-/
theorem contacts_can_opt_out (inventory : Inventory) (collector : CollectorKind)
    (rules : List Rule) (access : Access) :
    ∃ deployment,
      Deployment.make settings inventory collector rules .keeping access = .ok deployment ∧
      ∀ group,
        (∀ contact ∈ deployment.contacts.contacts group,
          (Identity.authenticate (some contact) = .ok contact ↔
            Identity.Presentable contact.toList) ∧
          ((∃ presented, Identity.authenticate presented = .ok contact) ↔
            Identity.Presentable contact.toList) ∧
          (CanOptOut deployment contact ↔ Identity.Presentable contact.toList) ∧
          (deployment.contacts.Addressed group contact →
            (Identity.Presentable contact.toList ↔
              Text.Trimmed contact.toList ∧ contact.toList.head? ≠ some '@'))) ∧
        ∀ key ∈ contactLabels, ∀ value, group.labels.get? key = some value →
          deployment.contacts.Addressed group (deployment.contacts.labelToEmail value) ∨
          (deployment.contacts.labelToEmail value).toList =
            value.toList.map ContactResolver.dotted := by
  obtain ⟨resolver, resolves, usual, suffixes⟩ :=
    ContactResolver.rewritesAsUsual_of_settings usualPattern usualTemplate
  have made : Deployment.make settings inventory collector rules .keeping access = .ok {
      inventory, collector, rules, access
      contacts := resolver
      notificationInterval := settings.notifications.interval
      sourceSystem := settings.notifications.sourceSystem } := by
    rw [Deployment.make, accepted, resolves]
    rfl
  refine ⟨_, made, fun group => ⟨?_, fun key isContact value labelled =>
    ContactResolver.addressed_or_dotted usual isContact labelled⟩⟩
  intro contact _
  refine ⟨?_, ?_, ?_, ?_⟩
  · exact ⟨Identity.presentable_of_authenticate, Identity.authenticate_of_presentable⟩
  · exact ⟨fun ⟨_, known⟩ => Identity.presentable_of_authenticate known,
      fun presentable => ⟨_, Identity.authenticate_of_presentable presentable⟩⟩
  · constructor
    · exact fun canOptOut => Identity.presentable_of_authenticate (canOptOut.known rfl)
    · exact fun presentable =>
        CanOptOut.of_known rfl (Identity.authenticate_of_presentable presentable)
  · intro addressed
    constructor
    · exact fun presentable => ⟨presentable.toTrimmed, presentable.user⟩
    · rintro ⟨trimmed, user⟩
      exact ⟨trimmed, addressed.hasDomain usual (suffixes ▸ suffix) dotted, user⟩

end

/-! A group with a member and two labels, of which one names nobody. -/
namespace Labelled

def settings : Settings where
  notifications := { orgSuffix := "@org.com" }

def group : Resource where
  name := "g"
  resourceGroupName := "g"
  kind := .resourceGroup
  labels := .ofList [("contact1", "ann_b_org_com"), ("contact2", "bob")]
  iamPolicy := some ⟨[⟨"roles/owner", ["user:cem@org.com"]⟩]⟩

theorem accepted : settings.validate = .ok () :=
  Settings.validate_usual rfl rfl (by decide)

theorem contacts_group {deployment : Deployment}
    (made : Deployment.make settings ⟨[]⟩ .plain [] .keeping (.owned []) = .ok deployment) :
    deployment.contacts.contacts group = ["ann.b@org.com", "bob", "cem@org.com"] := by
  have evaluated :
      (Deployment.make settings ⟨[]⟩ .plain [] .keeping (.owned [])).toOption.map
        (fun deployment => deployment.contacts.contacts group) =
          some ["ann.b@org.com", "bob", "cem@org.com"] := rfl
  rw [made] at evaluated
  exact Option.some.inj evaluated

theorem bob_unknown : Identity.authenticate (some "bob") ≠ .ok "bob" := by
  have refused : Identity.authenticate (some "bob") =
      .error (.unauthenticated "malformed caller identity") := rfl
  rw [refused]
  exact nofun

theorem ann_opts_out_bob_does_not :
    settings.validate = .ok () ∧
    settings.notifications.labelPattern = ({} : NotificationSettings).labelPattern ∧
    settings.notifications.labelTemplate = ({} : NotificationSettings).labelTemplate ∧
    settings.notifications.orgSuffix.toList = '@' :: "org.com".toList ∧
    '.' ∈ "org.com".toList ∧
    ∃ deployment,
      Deployment.make settings ⟨[]⟩ .plain [] .keeping (.owned []) = .ok deployment ∧
      deployment.contacts.contacts group = ["ann.b@org.com", "bob", "cem@org.com"] ∧
      CanOptOut deployment "ann.b@org.com" ∧ ¬ CanOptOut deployment "bob" := by
  have dotted : '.' ∈ "org.com".toList := by decide
  obtain ⟨deployment, made, each⟩ := contacts_can_opt_out accepted rfl rfl rfl dotted ⟨[]⟩ .plain []
    (.owned [])
  have contacts := contacts_group made
  obtain ⟨-, -, ann, -⟩ := (each group).1 "ann.b@org.com" (by rw [contacts]; decide)
  obtain ⟨bobKnown, -, bob, -⟩ := (each group).1 "bob" (by rw [contacts]; decide)
  refine ⟨accepted, rfl, rfl, rfl, dotted, deployment, made, contacts, ?_, ?_⟩
  · exact ann.2 (Identity.presentable_of_authenticate (rfl :
      Identity.authenticate (some "ann.b@org.com") = .ok "ann.b@org.com"))
  · intro canOptOut
    exact bob_unknown (bobKnown.2 (bob.1 canOptOut))

end Labelled

/-- A contact that a label names without an at sign is nobody who could call. -/
theorem contact_may_be_nobody :
    ¬ ∀ (settings : Settings) (domain : List Char) (resolver : ContactResolver) (group : Resource),
      settings.validate = .ok () →
      settings.notifications.labelPattern = ({} : NotificationSettings).labelPattern →
      settings.notifications.labelTemplate = ({} : NotificationSettings).labelTemplate →
      settings.notifications.orgSuffix.toList = '@' :: domain → '.' ∈ domain →
      ContactResolver.ofSettings settings.notifications = .ok resolver →
      ∀ contact ∈ resolver.contacts group,
        Identity.authenticate (some contact) = .ok contact := by
  intro known
  obtain ⟨deployment, made⟩ :
      ∃ deployment, Deployment.make Labelled.settings ⟨[]⟩ .plain [] .keeping (.owned []) =
        .ok deployment := ⟨_, rfl⟩
  have resolves : ContactResolver.ofSettings Labelled.settings.notifications =
      .ok deployment.contacts := by
    rw [← Except.ok.inj made]
    rfl
  have listed : "bob" ∈ deployment.contacts.contacts Labelled.group := by
    rw [Labelled.contacts_group made]
    decide
  exact Labelled.bob_unknown
    (known Labelled.settings _ _ Labelled.group Labelled.accepted rfl rfl rfl (by decide)
      resolves "bob" listed)

end CloudAudit
