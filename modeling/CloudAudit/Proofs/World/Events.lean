import CloudAudit.Web.Api
import CloudAudit.Proofs.World.Steady
/-!
# What happens to a service

Calls of any callers, phases of the runs under way in any order, permits for a gated collector, and
changes in which calls on the store fail. Everything that can be reached is reached by a list of
such events.
-/
set_option autoImplicit false

namespace CloudAudit

/-- What may happen next while the service runs. -/
inductive Event where
  /-- A caller asks for something. -/
  | call (caller : Option String) (request : Web.Call)
  /-- The run at a place among those under way goes through its next phase, unless it waits. -/
  | turn (place : Nat)
  /-- The runs under way go as far as they can, one after the other. -/
  | settle
  | permit (count : Nat)
  /-- From now on other calls on the store fail. -/
  | disturb (fails : Nat → StoreCall → Bool) (losesCreated : Bool)

namespace Event

/-- The next phase of the run at a place among those under way. -/
def takeTurn (deployment : Deployment) (place : Nat) : Work Unit := do
  let books ← get
  match books.underWay[place]? with
  | none => return ()
  | some run =>
    if Pipeline.isWaiting deployment books run then return ()
    else
      let next ← Pipeline.step deployment run
      modify fun books =>
        { books with
          underWay :=
            if next.isFinished then books.underWay.eraseIdx place
            else books.underWay.set place next }

/-- Whether an event leaves it as it is which calls on the store fail. -/
def isCalm : Event → Bool
  | .disturb .. => false
  | _ => true

def happen (deployment : Deployment) : Event → Work Unit
  | .call caller request => do
    let _ ← (request.perform deployment caller).run
  | .turn place => takeTurn deployment place
  | .settle => Pipeline.settle deployment
  | .permit count => Pipeline.permit count
  | .disturb fails losesCreated => modify fun books => { books with fails, losesCreated }

end Event

namespace Books

def fresh (supply : Supply) : Books := { supply }

def after (deployment : Deployment) (books : Books) (events : List Event) : Books :=
  events.foldl (fun books event => ((event.happen deployment).run books).2) books

theorem after_cons (deployment : Deployment) (books : Books) (event : Event)
    (events : List Event) :
    books.after deployment (event :: events) =
      Books.after deployment ((event.happen deployment).run books).2 events :=
  rfl

theorem after_append (deployment : Deployment) (books : Books) (first second : List Event) :
    books.after deployment (first ++ second) =
      (books.after deployment first).after deployment second :=
  List.foldl_append

end Books

namespace Web.Call

def asksForRun : Web.Call → Bool
  | .collectAndScan _ | .collectAndScanAll => true
  | _ => false

end Web.Call

theorem Quiet.act_map {relation : Books → Books → Prop} (quiet : Quiet relation) {α β : Type}
    {action : Act α} (function : α → β) (first : Along relation action.run) :
    Along relation (function <$> action).run := by
  rw [map_eq_pure_bind]
  exact quiet.act_bind first fun _ => quiet.act_pure _

/-- A call that asks for no run at most stores a report or asks for statuses. -/
theorem Quiet.perform {relation : Books → Books → Prop} (quiet : Quiet relation)
    (creates : ∀ report, Along relation (Service.createObservation report).run)
    (polls : ∀ kind id, Along relation (Books.status kind id)) (deployment : Deployment)
    (caller : Option String) {call : Web.Call} (noRun : call.asksForRun = false) :
    Along relation (call.perform deployment caller).run := by
  cases call with
  | health => exact quiet.act_pure _
  | collectAndScan groups => cases noRun
  | collectAndScanAll => cases noRun
  | status collectId scanId =>
    refine quiet.act_bind (quiet.act_lift ?_) fun _ => quiet.act_pure _
    exact quiet.bind (polls _ _) fun _ => quiet.bind (polls _ _) fun _ => quiet.pure _
  | listObservations groups => exact quiet.act_map _ (quiet.serviceListObservations _ _)
  | createObservation observation => exact quiet.act_map _ (creates _)
  | listExceptions size token => exact quiet.act_map _ (quiet.listExceptions _ _ _ _)
  | createException wish => exact quiet.act_map _ (quiet.createException _ _ _)
  | getException uuid => exact quiet.act_map _ (quiet.getException _ _ _)
  | updateException uuid wish => exact quiet.act_map _ (quiet.updateException _ _ _ _)
  | deleteException uuid =>
    exact quiet.act_bind (quiet.deleteException _ _ _) fun _ => quiet.act_pure _

theorem Running.perform {relation : Books → Books → Prop} (running : Running relation)
    (deployment : Deployment) (caller : Option String) {call : Web.Call}
    (noRun : call.asksForRun = false) :
    Along relation (call.perform deployment caller).run :=
  running.toQuiet.perform running.createObservation running.working.status deployment caller noRun

namespace Steady

variable {relation : Books → Books → Prop} (steady : Steady relation)
include steady

theorem perform (deployment : Deployment) (caller : Option String) (call : Web.Call) :
    Along relation (call.perform deployment caller).run := by
  cases asks : call.asksForRun with
  | false => exact steady.toRunning.perform deployment caller asks
  | true =>
    cases call with
    | collectAndScan groups => exact steady.act_map _ (steady.collectAndScan _ _)
    | collectAndScanAll => exact steady.act_map _ (steady.start _ _ _)
    | _ => cases asks

theorem takeTurn (deployment : Deployment) (place : Nat) :
    Along relation (Event.takeTurn deployment place) := by
  refine steady.bind (fun books => steady.refl books) fun books => ?_
  split
  · exact steady.pure _
  · split
    · exact steady.pure _
    · refine steady.bind (steady.step _ _) fun next => ?_
      exact fun books => steady.changeUnderWay books _

theorem happen_calm (deployment : Deployment) {event : Event} (calm : event.isCalm = true) :
    Along relation (event.happen deployment) := by
  cases event with
  | call caller request => exact steady.bind (steady.perform _ _ _) fun _ => steady.pure _
  | turn place => exact steady.takeTurn _ _
  | settle => exact steady.settle _
  | permit count => exact fun books => steady.changePermits books _
  | disturb fails losesCreated => cases calm

theorem after_each {deployment : Deployment} {events : List Event}
    (each : ∀ event ∈ events, Along relation (event.happen deployment)) (books : Books) :
    relation books (books.after deployment events) := by
  induction events generalizing books with
  | nil => exact steady.refl books
  | cons event events ih =>
    obtain ⟨first, rest⟩ := List.forall_mem_cons.1 each
    rw [Books.after_cons]
    exact steady.trans (first books) (ih rest _)

theorem after_calm (deployment : Deployment) {events : List Event}
    (calm : ∀ event ∈ events, event.isCalm = true) (books : Books) :
    relation books (books.after deployment events) :=
  steady.after_each (fun event member => steady.happen_calm deployment (calm event member)) books

/-- All events keep to a steady relation that also bears a change of what fails. -/
theorem after
    (failing : ∀ books fails losesCreated, relation books { books with fails, losesCreated })
    (deployment : Deployment) (events : List Event) (books : Books) :
    relation books (books.after deployment events) := by
  refine steady.after_each (fun event _ => ?_) books
  cases calm : event.isCalm with
  | true => exact steady.happen_calm deployment calm
  | false =>
    cases event with
    | disturb fails losesCreated => exact fun books => failing books fails losesCreated
    | call | turn | settle | permit => cases calm

end Steady

end CloudAudit
