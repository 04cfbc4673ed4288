import CloudAudit.Dispatch
import CloudAudit.Proofs.Store.Keeping
import CloudAudit.Proofs.World.Actions
/-!
# What is delivered of a batch

The notifications of a batch of observations are those of one observation after the other, one for
each contact of the record of its group, in ascending order. An observation without a record or
without contacts contributes nothing. A notifier that keeps exceptions delivers all of them but
those that an exception silences when they are submitted.
-/
set_option autoImplicit false

namespace CloudAudit

theorem ContactResolver.ascending_contacts (resolver : ContactResolver) (group : Resource) :
    (resolver.contacts group).Pairwise (· < ·) :=
  Table.ascending_names _

namespace Dispatch

/-! ## The record of a group -/

/-- Whether a resource of the group of an observation is its record, from the collection of the
observation if it has one. -/
def isRecordFor (observation : Observation) (resource : Resource) : Bool :=
  resource.isGroup &&
    observation.collectionId.all (fun id => resource.collectionUid == some id) &&
      resource.name == observation.groupName

/-- The first record of the group of an observation among resources in the order in which they
came. -/
def record? (resources : List Resource) (observation : Observation) : Option Resource :=
  resources.find? fun resource =>
    resource.resourceGroupName == observation.groupName && isRecordFor observation resource

theorem listResources_record (store : Store) (observation : Observation) :
    store.listResources (recordFilter observation) =
      .ok (((store.resourcesOf observation.groupName).filter
        (isRecordFor observation)).take 2) := by
  have matching : Store.resourceMatches (recordFilter observation) none =
      isRecordFor observation := by
    funext resource
    rw [Bool.eq_iff_iff]
    simp [Store.resourceMatches, recordFilter, isRecordFor, Resource.isGroup, Filter.allows,
      Filter.inWindow]
  have selected : Store.selected store.resources (recordFilter observation) =
      store.resourcesOf observation.groupName := List.flatMap_singleton _ _
  change Except.ok (List.take 2 (List.filter _ (Store.selected _ _))) = _
  rw [matching, selected]

theorem head?_records (changes : List StoreChange) (observation : Observation) :
    ((((Store.ofChanges changes).resourcesOf observation.groupName).filter
      (isRecordFor observation)).take 2).head? =
        record? (changes.flatMap StoreChange.resources) observation := by
  rw [Store.resourcesOf_ofChanges, List.filter_filter, List.head?_take, record?]
  rw [if_neg (by decide), List.head?_filter]
  congr 1
  funext resource
  exact Bool.and_comm _ _

/-! ## The notifications of a batch -/

def addressed (deployment : Deployment) (observation : Observation) :
    Option Resource → List Notification
  | none => []
  | some record =>
    (deployment.contacts.contacts record).map (notification deployment observation)

theorem forRecords_addressed (deployment : Deployment) (observation : Observation)
    (records : List Resource) :
    ((forRecords deployment observation records).toOption.getD []) =
      addressed deployment observation records.head? := by
  cases records with
  | nil => rfl
  | cons record more =>
    rw [forRecords, List.head?_cons, addressed]
    cases deployment.contacts.contacts record with
    | nil => rfl
    | cons contact contacts => rfl

theorem notificationsFor_run {changes : List StoreChange} {books : Books}
    (reached : books.store = .ofChanges changes) (reliable : books.Reliable)
    (deployment : Deployment) (observation : Observation) :
    ∃ found, (notificationsFor deployment observation).run.run books = (found, books.counted) ∧
      found.toOption.getD [] = addressed deployment observation
        (record? (changes.flatMap StoreChange.resources) observation) := by
  have answers : books.failsAt .listResources = false := reliable _ _
  have listed : (Books.listResources (recordFilter observation)).run.run books =
      (.ok (((books.store.resourcesOf observation.groupName).filter
        (isRecordFor observation)).take 2), books.counted) := by
    rw [Books.listResources_run, answers, listResources_record]
    rfl
  refine ⟨_, by rw [notificationsFor, Books.bind_run_ok listed, Books.settled_run], ?_⟩
  rw [forRecords_addressed, reached, head?_records]

/-- An observation that has no record or no contacts takes nothing from the others. -/
theorem batchFor_run {changes : List StoreChange} {books : Books}
    (reached : books.store = .ofChanges changes) (reliable : books.Reliable)
    (deployment : Deployment) (observations : List Observation) :
    ∃ storeCalls, (batchFor deployment observations).run books =
      (observations.flatMap fun observation => addressed deployment observation
          (record? (changes.flatMap StoreChange.resources) observation),
        { books with storeCalls }) := by
  induction observations generalizing books with
  | nil => exact ⟨books.storeCalls, rfl⟩
  | cons observation observations ih =>
    obtain ⟨found, ran, isFound⟩ := notificationsFor_run reached reliable deployment observation
    have reachedStill : books.counted.store = .ofChanges changes := reached
    obtain ⟨storeCalls, ranOn⟩ := ih reachedStill reliable
    refine ⟨storeCalls, ?_⟩
    rw [batchFor, StateT.run_bind, ran]
    change (batchFor deployment observations >>= _ : Work _).run books.counted = _
    rw [StateT.run_bind, ranOn, List.flatMap_cons, ← isFound]
    cases found with
    | ok found => rfl
    | error error => rfl

end Dispatch

def Notification.unnumbered (notification : Notification) : Notification :=
  { notification with uuid := none }

namespace Notifier

/-! ## What a notifier delivers -/

theorem created_run (now : Instant) (batch : List Notification) (books : Books) :
    ∃ delivered supply, books.supply.minted ≤ supply.minted ∧
      (batch.mapM (created now)).run books = (delivered, { books with supply }) ∧
      delivered.map Notification.unnumbered = batch.map fun notification =>
        { notification with uuid := none, createdOn := some now } := by
  induction batch generalizing books with
  | nil => exact ⟨[], books.supply, Nat.le_refl _, rfl, rfl⟩
  | cons first batch ih =>
    obtain ⟨delivered, supply, minted, ran, same⟩ :=
      ih { books with supply := books.supply.mint.2 }
    refine ⟨{ first with uuid := Uuid.ofText? books.supply.mint.1, createdOn := some now } ::
      delivered, supply, Nat.le_trans (Nat.le_succ _) minted, ?_, ?_⟩
    · rw [List.mapM_cons]
      exact congrArg (fun result : List Notification × Books => (_ :: result.1, result.2)) ran
    · rw [List.map_cons, List.map_cons, same]
      rfl

theorem deliver_keeping {deployment : Deployment} (keeping : deployment.notifier = .keeping)
    (batch : List Notification) (books : Books) :
    ∃ delivered supply, books.supply.minted ≤ supply.minted ∧
      (deliver deployment batch).run.run books = (.ok delivered, { books with supply }) ∧
      delivered.map Notification.unnumbered =
        (batch.filter fun notification =>
          !isSilenced books.exceptions books.supply.reading notification).map fun notification =>
            { notification with uuid := none, createdOn := some books.supply.reading } := by
  obtain ⟨delivered, supply, minted, ran, same⟩ := created_run books.supply.reading
    (batch.filter fun notification =>
      !isSilenced books.exceptions books.supply.reading notification)
    { books with supply := books.supply.read.2 }
  refine ⟨delivered, supply, minted, ?_, same⟩
  rw [deliver, keeping]
  exact congrArg (fun result : List Notification × Books =>
    ((.ok result.1 : Except AuditError (List Notification)), result.2)) ran

/-- What comes of delivering a batch, given the exceptions and the instant. -/
def Delivers (notifier : NotifierKind) (exceptions : Table NotificationException) (now : Instant)
    (batch : List Notification) (outcome : Option (List Notification)) : Prop :=
  match notifier with
  | .keeping => ∃ delivered, outcome = some delivered ∧
      delivered.map Notification.unnumbered =
        (batch.filter fun notification => !isSilenced exceptions now notification).map
          fun notification => { notification with uuid := none, createdOn := some now }
  | .rejecting => outcome = none
  | .bare => outcome = some batch

theorem deliver_delivers (deployment : Deployment) (batch : List Notification) (books : Books) :
    ∃ answer supply, (deliver deployment batch).run.run books = (answer, { books with supply }) ∧
      Delivers deployment.notifier books.exceptions books.supply.reading batch
        answer.toOption := by
  cases notifier : deployment.notifier with
  | keeping =>
    obtain ⟨delivered, supply, -, ran, same⟩ := deliver_keeping notifier batch books
    exact ⟨.ok delivered, supply, ran, delivered, rfl, same⟩
  | rejecting =>
    exact ⟨.error (.notification "service unavailable"), books.supply,
      by rw [deliver, notifier]; rfl, rfl⟩
  | bare => exact ⟨.ok batch, books.supply, by rw [deliver, notifier]; rfl, rfl⟩

theorem Delivers.eq_nil {notifier : NotifierKind} {exceptions : Table NotificationException}
    {now : Instant} {outcome : Option (List Notification)}
    (delivers : Delivers notifier exceptions now [] outcome) : outcome.getD [] = [] := by
  cases notifier with
  | keeping =>
    obtain ⟨delivered, rfl, same⟩ := delivers
    exact List.map_eq_nil_iff.1 same
  | rejecting | bare =>
    rw [delivers]
    rfl

theorem submit_run {deployment : Deployment} {batch : List Notification} {books after : Books}
    {answer : Except AuditError (List Notification)}
    (ran : (deliver deployment batch).run.run books = (answer, after)) :
    (submit deployment batch).run.run books = (answer, { after with
      deliveries := ⟨batch.length, answer.toOption⟩ :: after.deliveries }) := by
  rw [submit, Books.bind_run_ok (Books.outcome_run ran)]
  cases answer <;> rfl

/-- Whether no exception that has not run out keeps a contact from notifications of a name. -/
def Hears (exceptions : Table NotificationException) (now : Instant) (name contact : String) :
    Prop :=
  ∀ wish ∈ exceptions.values, wish.userEmail = contact → wish.notificationName = name →
    wish.isValid now = false

instance (exceptions : Table NotificationException) (now : Instant) (name contact : String) :
    Decidable (Hears exceptions now name contact) :=
  inferInstanceAs (Decidable (∀ wish ∈ exceptions.values, _))

theorem not_isSilenced_iff (exceptions : Table NotificationException) (now : Instant)
    (notification : Notification) :
    (!isSilenced exceptions now notification) = true ↔
      Hears exceptions now notification.name notification.recipient := by
  simp only [isSilenced, NotificationException.silences, Hears, Bool.not_eq_true',
    List.any_eq_false, Bool.and_eq_true, beq_iff_eq, not_and, Bool.not_eq_true, and_imp]

end Notifier

namespace Dispatch

/-- What is to be delivered for an observation: one notification for each contact of the record of
its group that no exception silences. -/
def due (deployment : Deployment) (resources : List Resource)
    (exceptions : Table NotificationException) (now : Instant) (observation : Observation) :
    List Notification :=
  match record? resources observation with
  | none => []
  | some record =>
    ((deployment.contacts.contacts record).filter fun contact =>
        Notifier.Hears exceptions now observation.name contact).map fun contact =>
      { sourceSystem := deployment.sourceSystem
        name := observation.name
        recipient := contact
        content := observation.remediation.description ++ "\n\n" ++
          observation.remediation.recommendation
        createdOn := some now
        interval := deployment.notificationInterval }

theorem due_eq (deployment : Deployment) (resources : List Resource)
    (exceptions : Table NotificationException) (now : Instant) (observation : Observation) :
    ((addressed deployment observation (record? resources observation)).filter fun notification =>
      !Notifier.isSilenced exceptions now notification).map (fun notification =>
        { notification with uuid := none, createdOn := some now }) =
      due deployment resources exceptions now observation := by
  rw [due]
  cases record? resources observation with
  | none => rfl
  | some record =>
    have hears : ∀ contact, (!Notifier.isSilenced exceptions now
        (notification deployment observation contact)) =
          decide (Notifier.Hears exceptions now observation.name contact) := by
      intro contact
      rw [Bool.eq_iff_iff, Notifier.not_isSilenced_iff, decide_eq_true_iff]
      rfl
    rw [addressed, List.filter_map, List.map_map]
    simp only [Function.comp_def, hears]
    rfl

theorem dispatch_run {deployment : Deployment} {observations : List Observation}
    {books middle after : Books} {batch : List Notification}
    {answer : Except AuditError (List Notification)}
    (gathered : (batchFor deployment observations).run books = (batch, middle))
    (ran : (Notifier.deliver deployment batch).run.run middle = (answer, after)) :
    (dispatch deployment observations).run books =
      if batch = [] then (0, middle)
      else ((answer.toOption.getD []).length, { after with
        deliveries := ⟨batch.length, answer.toOption⟩ :: after.deliveries }) := by
  rw [dispatch, StateT.run_bind, gathered]
  cases batch with
  | nil => rfl
  | cons first more =>
    rw [if_neg (List.cons_ne_nil _ _)]
    change ((Notifier.submit deployment (first :: more)).run >>= _ : Work _).run middle = _
    rw [StateT.run_bind, Notifier.submit_run ran]
    cases answer <;> rfl

/-- Dispatching answers how many notifications were delivered: for each observation in turn those
that are due, or none if the notifier refuses the batch. -/
theorem dispatch_delivers {changes : List StoreChange} {books : Books}
    (reached : books.store = .ofChanges changes) (reliable : books.Reliable)
    (deployment : Deployment) (observations : List Observation) :
    let resources := changes.flatMap StoreChange.resources
    let batch := observations.flatMap fun observation =>
      addressed deployment observation (record? resources observation)
    let result := (dispatch deployment observations).run books
    (∀ record, (deployment.contacts.contacts record).Pairwise (· < ·)) ∧
    ∃ outcome : Option (List Notification),
      result.1 = (outcome.getD []).length ∧
      result.2.deliveries =
        (if batch = [] then [] else [⟨batch.length, outcome⟩]) ++ books.deliveries ∧
      match deployment.notifier with
      | .keeping => ∃ delivered, outcome = some delivered ∧
          delivered.map Notification.unnumbered = observations.flatMap
            (due deployment resources books.exceptions books.supply.reading)
      | .rejecting => outcome = none
      | .bare => outcome = some batch := by
  intro resources batch result
  refine ⟨deployment.contacts.ascending_contacts, ?_⟩
  obtain ⟨storeCalls, gathered⟩ := batchFor_run reached reliable deployment observations
  obtain ⟨answer, supply, ran, delivers⟩ :=
    Notifier.deliver_delivers deployment batch { books with storeCalls }
  have dispatched : result = _ := dispatch_run gathered ran
  refine ⟨answer.toOption, ?_, ?_, ?_⟩
  · -- An empty batch is not submitted; had it been, nothing would have been delivered of it.
    rw [dispatched]
    by_cases nothing : batch = []
    · rw [nothing] at delivers
      rw [if_pos nothing, delivers.eq_nil]
      rfl
    · rw [if_neg nothing]
  · rw [dispatched]
    by_cases nothing : batch = []
    · rw [if_pos nothing, if_pos nothing]
      rfl
    · rw [if_neg nothing, if_neg nothing]
      rfl
  · cases notifier : deployment.notifier with
    | keeping =>
      rw [notifier] at delivers
      obtain ⟨delivered, isDelivered, same⟩ := delivers
      refine ⟨delivered, isDelivered, same.trans ?_⟩
      rw [List.filter_flatMap, List.map_flatMap]
      exact congrArg (List.flatMap · observations)
        (funext fun observation => due_eq _ _ _ _ observation)
    | rejecting | bare =>
      rw [notifier] at delivers
      exact delivers

namespace Batch

def deployment : Deployment where
  inventory := ⟨[]⟩
  contacts := { (default : ContactResolver) with orgSuffix := "@org.com", adminRoles := ["owner"] }
  notificationInterval := .zero
  sourceSystem := "CloudAudit"

def changes : List StoreChange :=
  [.addResources [(Resource.group "g").withPermission
      ⟨"roles/owner", ["user:bob@org.com", "user:ann@org.com"]⟩, Resource.group "empty"]]

def books : Books where
  store := .ofChanges changes
  exceptions := .ofList [("1", { userEmail := "bob@org.com", notificationName := "OLD" })]
  supply := { now := ⟨0, 0⟩ }

/-- Two findings on one group, and in front of each of them one that nobody can be told of. -/
def observations : List Observation :=
  [{ name := "OLD", resourceRef := ⟨"gone", "gone", none⟩ },
   { name := "OLD", resourceRef := ⟨"g", "g", none⟩ },
   { name := "OLD", resourceRef := ⟨"empty", "empty", none⟩ },
   { name := "NEW", resourceRef := ⟨"g", "g", none⟩ }]

theorem bob_hears_of_new_only :
    books.store = .ofChanges changes ∧ books.Reliable ∧
      ∃ delivered, ((dispatch deployment observations).run books).2.deliveries =
          [⟨4, some delivered⟩] ∧
        ((dispatch deployment observations).run books).1 = 3 ∧
        delivered.map (fun notification => (notification.recipient, notification.name)) =
          [("ann@org.com", "OLD"), ("ann@org.com", "NEW"), ("bob@org.com", "NEW")] := by
  have reached : books.store = .ofChanges changes := rfl
  have reliable : books.Reliable := fun _ _ => rfl
  obtain ⟨-, outcome, count, deliveries, delivered, rfl, same⟩ :=
    dispatch_delivers reached reliable deployment observations
  have heard : delivered.map (fun notification => (notification.recipient, notification.name)) =
      [("ann@org.com", "OLD"), ("ann@org.com", "NEW"), ("bob@org.com", "NEW")] := by
    have view := congrArg
      (List.map fun notification => (notification.recipient, notification.name)) same
    rw [List.map_map] at view
    exact view.trans (by decide +kernel)
  refine ⟨reached, reliable, delivered, ?_, ?_, heard⟩
  · rw [deliveries, if_neg (by decide +kernel)]
    rfl
  · rw [count]
    exact (List.length_map _).symm.trans (congrArg List.length heard)

end Batch

end Dispatch

end CloudAudit
