import CloudAudit.Notification
import CloudAudit.Operation
import CloudAudit.Report
import CloudAudit.Proofs.Wire.Records
/-!
# Every model type is read back as written

The types that the service takes in and gives out, one after another, each faithful because its
parts are. Whatever text a value was read from, the text written for it stands for the same value.
-/
set_option autoImplicit false

namespace CloudAudit

namespace Wire

/-! ## Names -/

instance : Faithful ResourceKind :=
  faithful_of_tag (fun _ => rfl) (fun _ => rfl) fun value => by cases value <;> rfl

instance : Faithful Severity :=
  faithful_of_tag (fun _ => rfl) (fun _ => rfl) fun value => by cases value <;> rfl

instance : Faithful Impact :=
  faithful_of_tag (fun _ => rfl) (fun _ => rfl) fun value => by cases value <;> rfl

instance : Faithful RequestStatus :=
  faithful_of_tag (fun _ => rfl) (fun _ => rfl) fun value => by cases value <;> rfl

instance : Faithful ScanType :=
  faithful_of_tag (fun _ => rfl) (fun _ => rfl) fun value => by cases value <;> rfl

instance : Faithful OperationKind :=
  faithful_of_tag (fun _ => rfl) (fun _ => rfl) fun value => by cases value <;> rfl

instance : Faithful OperationStatus :=
  faithful_of_tag (fun _ => rfl) (fun _ => rfl) fun value => by cases value <;> rfl

instance : Faithful CollectId where
  bounded id := .string id.text
  returns _ := rfl

instance : Faithful ScanId where
  bounded id := .string id.text
  returns _ := rfl

/-! ## Durations -/

theorem make?_self (length : Duration) :
    Duration.make? length.seconds length.nanos = some length := by
  obtain ⟨seconds, nanos, secondsBelow, nanosBelow⟩ := length
  have carried : nanos / 1000000000 = 0 := Nat.div_eq_of_lt nanosBelow
  have rest : nanos % 1000000000 = nanos := Nat.mod_eq_of_lt nanosBelow
  simp [Duration.make?, carried, rest, secondsBelow]

theorem readBelow_written {bound count : Nat} (below : count < bound) :
    readBelow bound (Json.number count).draft = .ok count := by
  rw [Json.draft, readBelow, if_pos (by omega)]
  rfl

theorem countField_of_lookup {fields : Fields} {name : String} {bound : Nat} {draft : Draft}
    (isField : fields.lookup name = some draft) :
    countField fields name bound = readBelow bound draft := by
  rw [countField, isField]

instance : Faithful Duration where
  bounded length := by
    have seconds := length.seconds_lt
    have nanos := length.nanos_lt
    exact .object (by simp; exact ⟨.number (by omega), .number (by omega)⟩)
  returns {_ length} _ := by
    have nanosFit : length.nanos < 4294967296 := Nat.lt_trans length.nanos_lt (by decide)
    have inSeconds := readBelow_written length.seconds_lt
    have inNanos := readBelow_written nanosFit
    refine (Restores.cons (countColumn "secs" _) (fun _ => rfl) countField_of_lookup inSeconds <|
      .cons (countColumn "nanos" _) (fun _ => rfl) countField_of_lookup inNanos <|
      .done ?_).record (by decide)
    rw [make?_self]

/-! ## Resources -/

instance : Faithful Permission where
  bounded permission := .object (by simp [Faithful.bounded])
  returns {_ permission} found := by
    obtain ⟨_, -, found⟩ := Results.bind_ok_iff.1 found
    obtain ⟨role, found, withRole⟩ := restores_field found
    obtain ⟨principals, found, withPrincipals⟩ := restores_fieldOr found rfl
    cases found
    exact (withRole <| withPrincipals <| .done rfl).record (by decide)

instance : Faithful IamPolicy where
  bounded policy := .object (by simp [Faithful.bounded])
  returns {_ policy} found := by
    obtain ⟨_, -, found⟩ := Results.bind_ok_iff.1 found
    obtain ⟨permissions, found, withPermissions⟩ := restores_fieldOr found rfl
    cases found
    exact (withPermissions <| .done rfl).record (by decide)

instance : Present IamPolicy where
  written _ := nofun

instance : Faithful Resource where
  bounded resource := .object (by simp [Faithful.bounded])
  returns {_ resource} found := by
    obtain ⟨_, -, found⟩ := Results.bind_ok_iff.1 found
    obtain ⟨name, found, withName⟩ := restores_field found
    obtain ⟨uid, found, withUid⟩ := restores_fieldOr found rfl
    obtain ⟨displayName, found, withDisplayName⟩ := restores_fieldOr found rfl
    obtain ⟨parent, found, withParent⟩ := restores_fieldOr found rfl
    obtain ⟨resourceGroupName, found, withResourceGroupName⟩ := restores_field found
    obtain ⟨kind, found, withKind⟩ := restores_field found
    obtain ⟨collectionUid, found, withCollectionUid⟩ := restores_fieldOr found rfl
    obtain ⟨timestamp, found, withTimestamp⟩ := restores_fieldOr found rfl
    obtain ⟨labels, found, withLabels⟩ := restores_fieldOr found rfl
    obtain ⟨iamPolicy, found, withIamPolicy⟩ := restores_fieldOr found rfl
    cases found
    exact (withName <| withUid <| withDisplayName <| withParent <| withResourceGroupName <|
      withKind <| withCollectionUid <| withTimestamp <| withLabels <| withIamPolicy <|
      .done rfl).record (by decide)

instance : Faithful Inventory where
  bounded inventory := .object (by simp [Faithful.bounded])
  returns {_ inventory} found := by
    obtain ⟨_, -, found⟩ := Results.bind_ok_iff.1 found
    obtain ⟨resources, found, withResources⟩ := restores_fieldOr found rfl
    cases found
    exact (withResources <| .done rfl).record (by decide)

/-! ## Observations -/

instance : Faithful Remediation where
  bounded remediation := .object (by simp [Faithful.bounded])
  returns {_ remediation} found := by
    obtain ⟨_, -, found⟩ := Results.bind_ok_iff.1 found
    obtain ⟨description, found, withDescription⟩ := restores_field found
    obtain ⟨recommendation, found, withRecommendation⟩ := restores_field found
    cases found
    exact (withDescription <| withRecommendation <| .done rfl).record (by decide)

instance : Faithful ResourceRef where
  bounded target := .object (by simp [Faithful.bounded])
  returns {_ target} found := by
    obtain ⟨_, -, found⟩ := Results.bind_ok_iff.1 found
    obtain ⟨name, found, withName⟩ := restores_field found
    obtain ⟨resourceGroupName, found, withResourceGroupName⟩ := restores_fieldOr found rfl
    obtain ⟨uid, found, withUid⟩ := restores_fieldOr found rfl
    cases found
    exact (withName <| withResourceGroupName <| withUid <| .done rfl).record (by decide)

instance : Faithful Observation where
  bounded observation := .object (by simp [Faithful.bounded])
  returns {_ observation} found := by
    obtain ⟨_, -, found⟩ := Results.bind_ok_iff.1 found
    obtain ⟨uid, found, withUid⟩ := restores_fieldOr found rfl
    obtain ⟨name, found, withName⟩ := restores_field found
    obtain ⟨resourceRef, found, withResourceRef⟩ := restores_field found
    obtain ⟨collectionId, found, withCollectionId⟩ := restores_fieldOr found rfl
    obtain ⟨scanId, found, withScanId⟩ := restores_fieldOr found rfl
    obtain ⟨timestamp, found, withTimestamp⟩ := restores_fieldOr found rfl
    obtain ⟨expectedValue, found, withExpectedValue⟩ := restores_fieldOr found rfl
    obtain ⟨observedValue, found, withObservedValue⟩ := restores_fieldOr found rfl
    obtain ⟨remediation, found, withRemediation⟩ := restores_fieldOr found rfl
    obtain ⟨severity, found, withSeverity⟩ := restores_fieldOr found rfl
    obtain ⟨impact, found, withImpact⟩ := restores_fieldOr found rfl
    obtain ⟨riskScore, found, withRiskScore⟩ := restores_fieldOr found rfl
    cases found
    exact (withUid <| withName <| withResourceRef <| withCollectionId <| withScanId <|
      withTimestamp <| withExpectedValue <| withObservedValue <| withRemediation <| withSeverity <|
      withImpact <| withRiskScore <| .done rfl).record (by decide)

/-! ## Notifications and operations -/

instance : Faithful Notification where
  bounded notification := .object (by simp [Faithful.bounded])
  returns {_ notification} found := by
    obtain ⟨_, -, found⟩ := Results.bind_ok_iff.1 found
    obtain ⟨uuid, found, withUuid⟩ := restores_fieldOr found rfl
    obtain ⟨sourceSystem, found, withSourceSystem⟩ := restores_field found
    obtain ⟨name, found, withName⟩ := restores_field found
    obtain ⟨recipient, found, withRecipient⟩ := restores_field found
    obtain ⟨content, found, withContent⟩ := restores_field found
    obtain ⟨createdOn, found, withCreatedOn⟩ := restores_fieldOr found rfl
    obtain ⟨interval, found, withInterval⟩ := restores_field found
    cases found
    exact (withUuid <| withSourceSystem <| withName <| withRecipient <| withContent <|
      withCreatedOn <| withInterval <| .done rfl).record (by decide)

instance : Faithful NotificationException where
  bounded wish := .object (by simp [Faithful.bounded])
  returns {_ wish} found := by
    obtain ⟨_, -, found⟩ := Results.bind_ok_iff.1 found
    obtain ⟨uuid, found, withUuid⟩ := restores_fieldOr found rfl
    obtain ⟨sourceSystem, found, withSourceSystem⟩ := restores_fieldOr found rfl
    obtain ⟨userEmail, found, withUserEmail⟩ := restores_fieldOr found rfl
    obtain ⟨notificationName, found, withNotificationName⟩ := restores_field found
    obtain ⟨justification, found, withJustification⟩ := restores_fieldOr found rfl
    obtain ⟨createdOn, found, withCreatedOn⟩ := restores_fieldOr found rfl
    obtain ⟨validUntil, found, withValidUntil⟩ := restores_fieldOr found rfl
    cases found
    exact (withUuid <| withSourceSystem <| withUserEmail <| withNotificationName <|
      withJustification <| withCreatedOn <| withValidUntil <| .done rfl).record (by decide)

instance : Faithful Operation where
  bounded operation := .object (by simp [Faithful.bounded])
  returns {_ operation} found := by
    obtain ⟨_, -, found⟩ := Results.bind_ok_iff.1 found
    obtain ⟨id, found, withId⟩ := restores_field found
    obtain ⟨resourceGroup, found, withResourceGroup⟩ := restores_field found
    obtain ⟨kind, found, withKind⟩ := restores_field found
    obtain ⟨statusTime, found, withStatusTime⟩ := restores_field found
    obtain ⟨status, found, withStatus⟩ := restores_field found
    cases found
    exact (withId <| withResourceGroup <| withKind <| withStatusTime <| withStatus <|
      .done rfl).record (by decide)

/-! ## Requests and answers -/

instance : Faithful RunRequest where
  bounded request := .object (by simp [Faithful.bounded])
  returns {_ request} found := by
    obtain ⟨_, -, found⟩ := Results.bind_ok_iff.1 found
    obtain ⟨resourceGroupNames, found, withResourceGroupNames⟩ := restores_fieldOr found rfl
    cases found
    exact (withResourceGroupNames <| .done rfl).record (by decide)

instance : Faithful RunIds where
  bounded ids := .object (by simp [Faithful.bounded])
  returns {_ ids} found := by
    obtain ⟨_, -, found⟩ := Results.bind_ok_iff.1 found
    obtain ⟨collectId, found, withCollectId⟩ := restores_field found
    obtain ⟨scanId, found, withScanId⟩ := restores_field found
    cases found
    exact (withCollectId <| withScanId <| .done rfl).record (by decide)

instance : Faithful RunStatus where
  bounded status := .object (by simp [Faithful.bounded])
  returns {_ status} found := by
    obtain ⟨_, -, found⟩ := Results.bind_ok_iff.1 found
    obtain ⟨collectStatus, found, withCollectStatus⟩ := restores_field found
    obtain ⟨scanStatus, found, withScanStatus⟩ := restores_field found
    cases found
    exact (withCollectStatus <| withScanStatus <| .done rfl).record (by decide)

instance : Faithful RuleInfo where
  bounded info := .object (by simp [Faithful.bounded])
  returns {_ info} found := by
    obtain ⟨_, -, found⟩ := Results.bind_ok_iff.1 found
    obtain ⟨name, found, withName⟩ := restores_field found
    obtain ⟨acceptedKinds, found, withAcceptedKinds⟩ := restores_field found
    cases found
    exact (withName <| withAcceptedKinds <| .done rfl).record (by decide)

instance : Faithful RuleObservations where
  bounded entry := .object (by simp [Faithful.bounded])
  returns {_ entry} found := by
    obtain ⟨_, -, found⟩ := Results.bind_ok_iff.1 found
    obtain ⟨rule, found, withRule⟩ := restores_field found
    obtain ⟨observations, found, withObservations⟩ := restores_field found
    cases found
    exact (withRule <| withObservations <| .done rfl).record (by decide)

instance : Faithful GroupObservations where
  bounded entry := .object (by simp [Faithful.bounded])
  returns {_ entry} found := by
    obtain ⟨_, -, found⟩ := Results.bind_ok_iff.1 found
    obtain ⟨resourceGroupName, found, withResourceGroupName⟩ := restores_field found
    obtain ⟨rulesObservations, found, withRulesObservations⟩ := restores_field found
    cases found
    exact (withResourceGroupName <| withRulesObservations <| .done rfl).record (by decide)

end Wire

/-- The types of the values that the service takes in, keeps or gives out. -/
inductive ModelType : (α : Type) → [Wire α] → Prop where
  | resourceKind : ModelType ResourceKind
  | permission : ModelType Permission
  | iamPolicy : ModelType IamPolicy
  | resource : ModelType Resource
  | inventory : ModelType Inventory
  | severity : ModelType Severity
  | impact : ModelType Impact
  | remediation : ModelType Remediation
  | resourceRef : ModelType ResourceRef
  | observation : ModelType Observation
  | notification : ModelType Notification
  | notificationException : ModelType NotificationException
  | operationKind : ModelType OperationKind
  | operationStatus : ModelType OperationStatus
  | operation : ModelType Operation
  | requestStatus : ModelType RequestStatus
  | scanType : ModelType ScanType
  | collectId : ModelType CollectId
  | scanId : ModelType ScanId
  | runRequest : ModelType RunRequest
  | runIds : ModelType RunIds
  | runStatus : ModelType RunStatus
  | ruleInfo : ModelType RuleInfo
  | ruleObservations : ModelType RuleObservations
  | groupObservations : ModelType GroupObservations

namespace Wire

theorem faithful_of_model {α : Type} [Wire α] (model : ModelType α) : Faithful α := by
  cases model <;> infer_instance

/-- What is written for a value that some text stands for is read as that value, and for what is
read from it the same is written again. -/
theorem written_texts_return {α : Type} [Wire α] (model : ModelType α) {text : String} {value : α}
    (found : ofText text = .ok value) :
    ofText (write value).render = .ok value ∧
      ∀ again : α, ofText (write value).render = .ok again →
        (write again).render = (write value).render := by
  have := faithful_of_model model
  have back := ofText_render (Faithful.returns (read_of_ofText found))
  refine ⟨back, fun again readAgain => ?_⟩
  rw [back] at readAgain
  cases readAgain
  rfl

/-- Fields out of order, escapes with surrogates, a bare identifier in upper case, an array for a
length of time, and a leap second of another zone. -/
def lenientText : String :=
  "\x7b\"recipient\":\"a@b.c\",\"interval\":[3600,1500000000],\"name\":\"RULE\"," ++
    "\"content\":\"\\u00FC\\uD83D\\uDE00\",\"source_system\":\"audit\"," ++
    "\"uuid\":\"67E5504410B1426F9247BB680E5FE0C8\"," ++
    "\"created_on\":\"2016-12-31 23:59:60.25 -01:30\"\x7d"

def lenientNotification : Notification where
  uuid := some ⟨0x67e5504410b1426f9247bb680e5fe0c8⟩
  sourceSystem := "audit"
  name := "RULE"
  recipient := "a@b.c"
  content := "ü😀"
  createdOn := some ⟨1483234199, 1250000000⟩
  interval := ⟨3601, 500000000, by decide, by decide⟩

theorem lenientText_returns :
    (ofText lenientText : Except Fault Notification) = .ok lenientNotification ∧
      ofText (write lenientNotification).render = .ok lenientNotification := by
  have found : (ofText lenientText : Except Fault Notification) = .ok lenientNotification := by
    decide +kernel
  exact ⟨found, (written_texts_return .notification found).1⟩

end Wire

end CloudAudit
