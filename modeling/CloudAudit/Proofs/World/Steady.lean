import CloudAudit.Proofs.World.Actions
import CloudAudit.Service
/-!
# Work along a relation

A relation between books that the elementary changes respect is respected by all work made of them:
by every phase of a run and by everything that the service does for its callers. The fewer changes
some work makes, the more relations it keeps to: notifying leaves the store, the requests and the
runs as they are, a scan adds observations and entries of the operation log, a collection also
resources, and only starting a run and the end of an event change which runs are under way.
-/
set_option autoImplicit false

namespace CloudAudit

/-- Work that leaves the books only where a relation leads. -/
def Along (relation : Books → Books → Prop) {α : Type} (work : Work α) : Prop :=
  ∀ books, relation books (work.run books).2

/-- A preorder on books that every change respects which leaves the store, the requests and the runs
under way as they are. -/
structure Quiet (relation : Books → Books → Prop) : Prop where
  refl : ∀ books, relation books books
  trans : ∀ {first second third : Books},
    relation first second → relation second third → relation first third
  readClock : Along relation Books.readClock
  mintId : Along relation Books.mintId
  attempt : ∀ call, Along relation (Books.attempt call).run
  changeExceptions : ∀ books exceptions, relation books { books with exceptions }
  changeDeliveries : ∀ books deliveries, relation books { books with deliveries }
  changePermits : ∀ books permits, relation books { books with permits }

/-- A preorder that also respects what a scan adds to the store. Entries of the operation log are
dated and added in one change. -/
structure Scanning (relation : Books → Books → Prop) : Prop extends Quiet relation where
  keepObservations : ∀ books batch,
    relation books { books with store := books.store.addObservations batch }
  logGroups : ∀ id groups kind status, Along relation (Books.logGroups id groups kind status).run

/-- A preorder that also respects what a collection adds to the store. -/
structure Collecting (relation : Books → Books → Prop) : Prop extends Scanning relation where
  keepResources : ∀ books batch,
    relation books { books with store := books.store.addResources batch }

/-- A preorder that respects all that a phase of a run does. -/
structure Working (relation : Books → Books → Prop) : Prop extends Quiet relation where
  collect : ∀ deployment collectId groups skeletons,
    Along relation (Collector.collect deployment collectId groups skeletons).run
  checkRules : ∀ deployment scanId collectId groups skeletons,
    Along relation (Scan.checkRules deployment scanId collectId groups skeletons)
  moveLog : ∀ books, relation books { books with store := books.store.flush }
  changeRequests : ∀ books requests, relation books { books with requests }

/-- A preorder that also respects what else a phase of a run changes. -/
structure Running (relation : Books → Books → Prop) : Prop extends Collecting relation where
  moveLog : ∀ books, relation books { books with store := books.store.flush }
  changeRequests : ∀ books requests, relation books { books with requests }

/-- A preorder on books that every elementary change respects. -/
structure Steady (relation : Books → Books → Prop) : Prop extends Running relation where
  changeUnderWay : ∀ books underWay, relation books { books with underWay }

namespace Quiet

variable {relation : Books → Books → Prop} (quiet : Quiet relation) {α β : Type}
include quiet

/-! ## Composition -/

protected theorem pure (value : α) : Along relation (pure value : Work α) :=
  fun books => quiet.refl books

protected theorem bind {work : Work α} {next : α → Work β} (first : Along relation work)
    (second : ∀ value, Along relation (next value)) : Along relation (work >>= next) :=
  fun books => quiet.trans (first books) (second _ _)

protected theorem mapM {function : α → Work β} (each : ∀ value, Along relation (function value))
    (values : List α) : Along relation (values.mapM function) := by
  induction values with
  | nil => exact quiet.pure _
  | cons value values ih =>
    rw [List.mapM_cons]
    exact quiet.bind (each value) fun _ => quiet.bind ih fun _ => quiet.pure _

theorem act_pure (value : α) : Along relation (pure value : Act α).run :=
  fun books => quiet.refl books

theorem act_throw (error : AuditError) : Along relation (throw error : Act α).run :=
  fun books => quiet.refl books

theorem settled (result : Except AuditError α) : Along relation (Books.settled result).run :=
  fun books => quiet.refl books

theorem act_bind {action : Act α} {next : α → Act β} (first : Along relation action.run)
    (second : ∀ value, Along relation (next value).run) :
    Along relation (action >>= next).run := by
  rw [ExceptT.run_bind]
  refine quiet.bind first fun result => ?_
  cases result with
  | ok value => exact second value
  | error error => exact quiet.pure _

theorem act_lift {work : Work α} (first : Along relation work) :
    Along relation (liftM work : Act α).run :=
  quiet.bind first fun _ => quiet.pure _

theorem act_get : Along relation (get : Act Books).run :=
  fun books => quiet.refl books

omit quiet in
theorem act_get_bind {next : Books → Act α}
    (each : ∀ books, relation books ((next books).run.run books).2) :
    Along relation (get >>= next : Act α).run :=
  fun books => each books

theorem outcome {action : Act α} (first : Along relation action.run) :
    Along relation (Books.outcome action).run :=
  quiet.bind first fun _ => quiet.pure _

/-! ## The store -/

theorem listResources (filter : Filter) : Along relation (Books.listResources filter).run :=
  quiet.act_bind (quiet.attempt _) fun _ =>
    quiet.act_bind quiet.act_get fun _ => quiet.settled _

theorem listObservations (filter : Filter) :
    Along relation (Books.listObservations filter).run :=
  quiet.act_bind (quiet.attempt _) fun _ =>
    quiet.act_bind quiet.act_get fun _ => quiet.settled _

theorem listOperations (filter : Filter) : Along relation (Books.listOperations filter).run :=
  quiet.act_bind (quiet.attempt _) fun _ =>
    quiet.act_bind quiet.act_get fun _ => quiet.settled _

/-! ## Collecting and scanning -/

theorem groupRecords (deployment : Deployment) (names : Option (List String)) :
    Along relation (Collector.groupRecords deployment names).run := by
  unfold Collector.groupRecords
  split
  · exact quiet.act_throw _
  · exact quiet.act_pure _

theorem groupNames (deployment : Deployment) :
    Along relation (Collector.groupNames deployment).run := by
  unfold Collector.groupNames
  split
  · exact quiet.act_throw _
  · exact quiet.act_pure _

theorem resourcesFor (collectId : String) (groups : List String) (kinds : List ResourceKind)
    (skeletons : List Resource) :
    Along relation (Scan.resourcesFor collectId groups kinds skeletons).run :=
  quiet.act_bind (quiet.listResources _) fun _ => quiet.act_pure _

theorem dated (observation : Observation) : Along relation (Scan.dated observation) :=
  quiet.bind quiet.mintId fun _ => quiet.bind quiet.readClock fun _ => quiet.pure _

theorem checkResources (rule : Rule) (resources : List Resource) :
    Along relation (Scan.checkResources rule resources) := by
  induction resources with
  | nil => exact quiet.pure _
  | cons resource resources ih =>
    rw [Scan.checkResources]
    split
    · exact quiet.bind (quiet.mapM quiet.dated _) fun _ => quiet.bind ih fun _ => quiet.pure _
    · exact quiet.bind ih fun _ => quiet.pure _

theorem checkRule (rule : Rule) (collectId : String) (groups : List String)
    (skeletons : List Resource) :
    Along relation (Scan.checkRule rule collectId groups skeletons) := by
  refine quiet.bind (quiet.resourcesFor _ _ _ _) fun found => ?_
  split
  · exact quiet.checkResources _ _
  · exact quiet.pure _

/-! ## Notifying -/

theorem submit (deployment : Deployment) (batch : List Notification) :
    Along relation (Notifier.submit deployment batch).run := by
  have delivered : Along relation (Notifier.deliver deployment batch).run := by
    unfold Notifier.deliver
    split
    · refine quiet.act_lift (quiet.bind quiet.readClock fun now => ?_)
      refine quiet.bind (fun books => quiet.refl books) fun books => ?_
      exact quiet.mapM (fun _ => quiet.bind quiet.mintId fun _ => quiet.pure _) _
    · exact quiet.act_throw _
    · exact quiet.act_pure _
  have noted : ∀ delivery, Along relation (Notifier.note delivery) :=
    fun delivery books => quiet.changeDeliveries books _
  refine quiet.act_bind (quiet.outcome delivered) fun result => ?_
  split
  · exact quiet.act_bind (quiet.act_lift (noted _)) fun _ => quiet.act_pure _
  · exact quiet.act_bind (quiet.act_lift (noted _)) fun _ => quiet.act_throw _

theorem notificationsFor (deployment : Deployment) (observation : Observation) :
    Along relation (Dispatch.notificationsFor deployment observation).run :=
  quiet.act_bind (quiet.listResources _) fun _ => quiet.settled _

theorem batchFor (deployment : Deployment) (observations : List Observation) :
    Along relation (Dispatch.batchFor deployment observations) := by
  induction observations with
  | nil => exact quiet.pure _
  | cons observation observations ih =>
    rw [Dispatch.batchFor]
    refine quiet.bind (quiet.notificationsFor _ _) fun found => quiet.bind ih fun rest => ?_
    split <;> exact quiet.pure _

theorem dispatch (deployment : Deployment) (observations : List Observation) :
    Along relation (Dispatch.dispatch deployment observations) := by
  refine quiet.bind (quiet.batchFor _ _) fun batch => ?_
  split
  · exact quiet.pure _
  · refine quiet.bind (quiet.submit _ _) fun result => ?_
    split <;> exact quiet.pure _

theorem announce (deployment : Deployment) (observations : List Observation) :
    Along relation (Pipeline.announce deployment observations) := by
  unfold Pipeline.announce
  split
  · exact quiet.bind (quiet.dispatch _ _) fun _ => quiet.pure _
  · exact quiet.pure _

theorem orNone {action : Act (List α)} (first : Along relation action.run) :
    Along relation (Pipeline.orNone action) := by
  refine quiet.bind first fun result => ?_
  split <;> exact quiet.pure _

/-! ## Calls on the service -/

theorem validateGroups (deployment : Deployment) (requested : List String) :
    Along relation (Service.validateGroups deployment requested).run := by
  have owned : Along relation (Service.ownedGroups deployment).run := by
    unfold Service.ownedGroups
    split
    · exact quiet.act_throw _
    · exact quiet.act_bind (quiet.groupNames _) fun _ => quiet.act_pure _
    · exact quiet.act_pure _
  refine quiet.act_bind (quiet.outcome owned) fun result => ?_
  split
  · exact quiet.settled _
  · exact quiet.act_throw _

theorem serviceListObservations (deployment : Deployment) (requested : List String) :
    Along relation (Service.listObservations deployment requested).run := by
  refine quiet.act_bind (quiet.validateGroups _ _) fun groups => ?_
  refine quiet.act_bind (quiet.act_lift quiet.readClock) fun now => ?_
  refine quiet.act_bind (quiet.settled _) fun filter => ?_
  refine quiet.act_bind (quiet.listObservations _) fun observations => ?_
  exact quiet.act_bind (quiet.listOperations _) fun operations => quiet.act_pure _

theorem requireExceptions (deployment : Deployment) :
    Along relation (Notifier.requireExceptions deployment).run := by
  unfold Notifier.requireExceptions
  split
  · exact quiet.act_pure _
  · exact quiet.act_throw _

theorem keep (wish : NotificationException) : Along relation (Notifier.keep wish) :=
  fun books => quiet.changeExceptions books _

theorem ownedException (deployment : Deployment) (user uuid : String) :
    Along relation (Service.ownedException deployment user uuid).run := by
  refine quiet.act_bind ?_ fun wish => ?_
  · refine quiet.act_bind (quiet.requireExceptions _) fun _ => ?_
    refine quiet.act_bind quiet.act_get fun books => ?_
    split
    · exact quiet.act_pure _
    · exact quiet.act_throw _
  · split
    · exact quiet.act_pure _
    · exact quiet.act_throw _

theorem getException (deployment : Deployment) (caller : Option String) (uuid : String) :
    Along relation (Service.getException deployment caller uuid).run :=
  quiet.act_bind (quiet.settled _) fun _ => quiet.ownedException _ _ _

theorem createException (deployment : Deployment) (caller : Option String)
    (wish : NotificationException) :
    Along relation (Service.createException deployment caller wish).run := by
  have kept : ∀ wish, Along relation (Notifier.createException deployment wish).run := by
    refine fun wish => quiet.act_bind (quiet.requireExceptions _) fun _ => ?_
    refine quiet.act_bind (quiet.act_lift quiet.mintId) fun uuid => ?_
    refine quiet.act_bind (quiet.act_lift quiet.readClock) fun now => ?_
    exact quiet.act_bind (quiet.act_lift (quiet.keep _)) fun _ => quiet.act_pure _
  refine quiet.act_bind (quiet.settled _) fun user => ?_
  split
  · exact quiet.act_bind (quiet.act_throw _) fun _ => kept _
  · exact kept _

theorem updateException (deployment : Deployment) (caller : Option String) (uuid : String)
    (wish : NotificationException) :
    Along relation (Service.updateException deployment caller uuid wish).run := by
  refine quiet.act_bind (quiet.settled _) fun user => ?_
  refine quiet.act_bind (quiet.ownedException _ _ _) fun existing => ?_
  refine quiet.act_bind (quiet.requireExceptions _) fun _ => ?_
  refine quiet.act_bind quiet.act_get fun books => ?_
  split
  · exact quiet.act_bind (quiet.act_lift (quiet.keep _)) fun _ => quiet.act_pure _
  · exact quiet.act_throw _

theorem deleteException (deployment : Deployment) (caller : Option String) (uuid : String) :
    Along relation (Service.deleteException deployment caller uuid).run := by
  refine quiet.act_bind (quiet.settled _) fun user => ?_
  refine quiet.act_bind (quiet.ownedException _ _ _) fun _ => ?_
  refine quiet.act_bind (quiet.requireExceptions _) fun _ => ?_
  refine act_get_bind fun books => ?_
  split
  · exact quiet.changeExceptions books _
  · exact quiet.refl books

theorem listExceptions (deployment : Deployment) (caller : Option String) (size : Nat)
    (token : Option String) :
    Along relation (Service.listExceptions deployment caller size token).run := by
  refine quiet.act_bind (quiet.settled _) fun user => ?_
  refine quiet.act_bind (quiet.requireExceptions _) fun _ => ?_
  exact quiet.act_bind quiet.act_get fun books => quiet.act_pure _

end Quiet

namespace Scanning

variable {relation : Books → Books → Prop} (scanning : Scanning relation)
include scanning

theorem addObservations (batch : List Observation) :
    Along relation (Books.addObservations batch).run := by
  refine scanning.act_bind (scanning.attempt _) fun _ => scanning.act_bind ?_ fun _ =>
    scanning.act_bind scanning.act_get fun _ => scanning.act_pure _
  exact fun books => scanning.keepObservations books batch

theorem keepOutcomes (hierarchy : Hierarchy) (scanId collectId : String)
    (outcomes : List Scan.Outcome) :
    Along relation (Scan.keepOutcomes hierarchy scanId collectId outcomes) := by
  induction outcomes with
  | nil => exact scanning.pure _
  | cons outcome outcomes ih =>
    rw [Scan.keepOutcomes]
    split
    all_goals
      refine scanning.bind ?_ fun kept => scanning.bind ih fun rest => ?_
      · first
        | exact scanning.pure _
        | exact scanning.addObservations _
      · split
        split <;> exact scanning.pure _

theorem logStatus (scanId : String) (groups : List String) (status : OperationStatus) :
    Along relation (Scan.logStatus scanId groups status) :=
  scanning.bind (scanning.logGroups _ _ _ _) fun _ => scanning.pure _

theorem checkRules (deployment : Deployment) (scanId collectId : String) (groups : List String)
    (skeletons : List Resource) :
    Along relation (Scan.checkRules deployment scanId collectId groups skeletons) := by
  refine scanning.bind (scanning.logStatus _ _ _) fun _ => ?_
  refine scanning.bind (scanning.mapM (fun rule => scanning.checkRule rule _ _ _) _)
    fun outcomes => ?_
  refine scanning.bind (scanning.resourcesFor _ _ _ _) fun records => ?_
  refine scanning.bind (scanning.keepOutcomes _ _ _ _) fun kept => ?_
  exact scanning.bind (scanning.logStatus _ _ _) fun _ => scanning.pure _

theorem createObservation (observation : Observation) :
    Along relation (Service.createObservation observation).run := by
  have named : Along relation (Service.reportUid observation.uid) := by
    unfold Service.reportUid
    split
    · exact scanning.mintId
    · exact scanning.pure _
  refine scanning.act_bind (scanning.settled _) fun _ => ?_
  refine scanning.act_bind (scanning.listResources _) fun found => ?_
  refine scanning.act_bind (scanning.settled _) fun resource => ?_
  refine scanning.act_bind (scanning.act_lift named) fun uid => ?_
  refine scanning.act_bind (scanning.act_lift scanning.readClock) fun now => ?_
  exact scanning.act_bind (scanning.addObservations _) fun stored => scanning.settled _

end Scanning

namespace Collecting

variable {relation : Books → Books → Prop} (collecting : Collecting relation)
include collecting

theorem addResources (batch : List Resource) : Along relation (Books.addResources batch).run := by
  refine collecting.act_bind (collecting.attempt _) fun _ => collecting.act_bind ?_ fun _ =>
    collecting.act_pure _
  exact fun books => collecting.keepResources books batch

theorem keepSnapshots (deployment : Deployment) (collectId : String) (groups : List String)
    (skeletons : List Resource) :
    Along relation (Collector.keepSnapshots deployment collectId groups skeletons).run := by
  refine collecting.act_bind (collecting.logGroups _ _ _ _) fun _ => ?_
  refine collecting.act_bind (collecting.act_lift collecting.readClock) fun now => ?_
  refine collecting.act_bind (collecting.settled _) fun snapshots => ?_
  exact collecting.act_bind (collecting.addResources _) fun _ => collecting.logGroups _ _ _ _

theorem collect (deployment : Deployment) (collectId : String) (groups : List String)
    (skeletons : List Resource) :
    Along relation (Collector.collect deployment collectId groups skeletons).run := by
  have snapshots := collecting.keepSnapshots deployment collectId groups skeletons
  unfold Collector.collect
  split
  · exact snapshots
  · exact collecting.act_throw _
  · exact collecting.act_throw _
  · exact collecting.act_bind snapshots fun _ =>
      collecting.act_bind (collecting.addObservations _) fun _ => collecting.act_pure _
  · refine collecting.act_bind (collecting.act_lift ?_) fun _ => snapshots
    exact fun books => collecting.changePermits books _

end Collecting

namespace Working

variable {relation : Books → Books → Prop} (working : Working relation)
include working

theorem flush : Along relation Books.flush.run :=
  working.act_bind (working.attempt _) fun _ books => working.moveLog books

theorem claim (kind : OperationKind) (id : String) (groups : List String) :
    Along relation (Books.claim kind id groups) :=
  fun books => working.changeRequests books _

theorem release (claim : Claim) : Along relation (Books.release claim) :=
  fun books => working.changeRequests books _

theorem status (kind : OperationKind) (id : String) : Along relation (Books.status kind id) :=
  fun books => working.changeRequests books _

theorem abandon (run : Run) : Along relation (Pipeline.abandon run) :=
  fun books => working.changeRequests books _

theorem step (deployment : Deployment) (run : Run) :
    Along relation (Pipeline.step deployment run) := by
  unfold Pipeline.step
  split
  · refine working.bind ?_ fun result => ?_
    · exact working.act_bind (working.groupRecords _ _) fun _ => working.act_pure _
    · split
      · exact working.pure _
      · exact working.bind (working.abandon run) fun _ => working.pure _
  · exact working.bind (working.claim _ _ _) fun _ => working.pure _
  · split
    · exact working.bind (working.collect _ _ _ _) fun _ => working.pure _
    · exact working.pure _
  · exact working.bind (working.release _) fun _ => working.pure _
  · exact working.bind (working.orNone (working.listObservations _)) fun _ => working.pure _
  · exact working.bind (working.claim _ _ _) fun _ => working.pure _
  · split
    · exact working.bind (working.pure _) fun _ => working.pure _
    · exact working.bind (working.checkRules _ _ _ _ _) fun _ => working.pure _
  · refine working.bind (working.release _) fun _ => ?_
    split <;> exact working.pure _
  · exact working.bind working.flush fun _ => working.pure _
  · exact working.bind (working.announce _ _) fun _ =>
      working.bind (working.announce _ _) fun _ => working.pure _
  · exact working.pure _

end Working

namespace Running

variable {relation : Books → Books → Prop} (running : Running relation)
include running

theorem working : Working relation where
  toQuiet := running.toQuiet
  collect := running.toCollecting.collect
  checkRules := running.toScanning.checkRules
  moveLog := running.moveLog
  changeRequests := running.changeRequests

theorem step (deployment : Deployment) (run : Run) :
    Along relation (Pipeline.step deployment run) :=
  running.working.step deployment run

theorem advance (deployment : Deployment) (steps : Nat) (run : Run) :
    Along relation (Pipeline.advance deployment steps run) := by
  induction steps generalizing run with
  | zero => exact running.pure _
  | succ steps ih =>
    rw [Pipeline.advance]
    refine running.bind (fun books => running.refl books) fun books => ?_
    split
    · exact running.pure _
    · exact running.bind (running.step _ _) fun next => ih next

end Running

namespace Steady

variable {relation : Books → Books → Prop} (steady : Steady relation)
include steady

theorem settle (deployment : Deployment) : Along relation (Pipeline.settle deployment) := by
  refine steady.bind (fun books => steady.refl books) fun books => ?_
  refine steady.bind (steady.mapM (fun run => steady.advance _ _ run) _) fun runs => ?_
  exact fun books => steady.changeUnderWay books _

theorem start (deployment : Deployment) (scanType : ScanType) (groups : List String) :
    Along relation (Pipeline.start deployment scanType groups).run := by
  refine steady.act_bind (steady.act_lift steady.mintId) fun collectId => ?_
  refine steady.act_bind (steady.act_lift steady.mintId) fun scanId => ?_
  have accepted : ∀ groups : List String, Along relation (do
      modify fun books =>
        { books with underWay := books.underWay ++ [{ collectId, scanId, groups }] }
      return ⟨⟨collectId⟩, ⟨scanId⟩⟩ : Act RunIds).run :=
    fun groups => steady.act_bind (fun books => steady.changeUnderWay books _)
      fun _ => steady.act_pure _
  split
  · exact steady.act_bind (steady.groupNames _) accepted
  · exact steady.act_bind (steady.act_pure _) accepted

theorem collectAndScan (deployment : Deployment) (requested : List String) :
    Along relation (Service.collectAndScan deployment requested).run :=
  steady.act_bind (steady.validateGroups _ _) fun _ => steady.start _ _ _

end Steady

/-! ## Views of the books that work leaves as they are -/

section

variable {α : Type} (view : Books → α)

theorem Quiet.of_view
    (unread : ∀ (books : Books) exceptions deliveries permits supply storeCalls,
      view { books with exceptions, deliveries, permits, supply, storeCalls } = view books) :
    Quiet fun old new => view new = view old where
  refl _ := rfl
  trans one two := two.trans one
  readClock _ := unread _ _ _ _ _ _
  mintId _ := unread _ _ _ _ _ _
  attempt call books := by
    rw [Books.attempt_run]
    exact unread _ _ _ _ _ _
  changeExceptions _ _ := unread _ _ _ _ _ _
  changeDeliveries _ _ := unread _ _ _ _ _ _
  changePermits _ _ := unread _ _ _ _ _ _

theorem Scanning.of_view
    (unread : ∀ (books : Books) observations pending exceptions deliveries permits supply
      storeCalls, view { books with
        store := { books.store with observations, pending }
        exceptions, deliveries, permits, supply, storeCalls } = view books) :
    Scanning fun old new => view new = view old where
  toQuiet := .of_view view fun _ _ _ _ _ _ => unread _ _ _ _ _ _ _ _
  keepObservations _ _ := unread _ _ _ _ _ _ _ _
  logGroups id groups kind status books := by
    rw [Books.logGroups_run, Books.log_run]
    split
    · exact unread books _ _ _ _ _ _ _
    · exact unread books _ (books.store.pending ++ _) _ _ _ _ _

theorem Collecting.of_view
    (unread : ∀ (books : Books) store exceptions deliveries permits supply storeCalls,
      view { books with store, exceptions, deliveries, permits, supply, storeCalls } =
        view books) :
    Collecting fun old new => view new = view old where
  toScanning := .of_view view fun _ _ _ _ _ _ _ _ => unread _ _ _ _ _ _ _
  keepResources _ _ := unread _ _ _ _ _ _ _

theorem Running.of_view
    (unread : ∀ (books : Books) store requests exceptions deliveries permits supply storeCalls,
      view { books with
        store, requests, exceptions, deliveries, permits, supply, storeCalls } = view books) :
    Running fun old new => view new = view old where
  toCollecting := .of_view view fun _ _ _ _ _ _ _ => unread _ _ _ _ _ _ _ _
  moveLog _ := unread _ _ _ _ _ _ _ _
  changeRequests _ _ := unread _ _ _ _ _ _ _ _

theorem Steady.of_view
    (unread : ∀ (books : Books) store requests exceptions deliveries underWay permits supply
      storeCalls,
      view { books with
        store, requests, exceptions, deliveries, underWay, permits, supply, storeCalls } =
          view books) :
    Steady fun old new => view new = view old where
  toRunning := .of_view view fun _ _ _ _ _ _ _ _ => unread _ _ _ _ _ _ _ _ _
  changeUnderWay _ _ := unread _ _ _ _ _ _ _ _ _

end

end CloudAudit
