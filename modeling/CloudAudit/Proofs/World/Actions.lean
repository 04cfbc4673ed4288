import Mathlib.Logic.Function.Iterate
import CloudAudit.Books
/-!
# What the actions on the books do

Answers and books after them, as equations. A call on the store that fails leaves nothing behind but
its count.
-/
set_option autoImplicit false

namespace CloudAudit.Books

variable (books : Books)

/-- The books after one more call on the store. -/
def counted : Books :=
  { books with storeCalls := books.storeCalls + 1 }

@[simp] theorem counted_store : books.counted.store = books.store := rfl

/-- Whether the next call on the store fails. -/
def failsAt (call : StoreCall) : Bool :=
  books.fails books.storeCalls call

/-- No call on the store fails. -/
def Reliable : Prop :=
  ∀ count call, books.fails count call = false

/-- The failure of a call on the store. -/
def failure (call : StoreCall) : AuditError :=
  .storage (call.name ++ " failed")

omit books in
/-- An action that succeeds succeeded in both of its parts. -/
theorem bind_ok {α β : Type} {action : Act α} {next : α → Act β} {books after : Books} {result : β}
    (ran : (action >>= next).run.run books = (.ok result, after)) :
    ∃ value middle, action.run.run books = (.ok value, middle) ∧
      (next value).run.run middle = (.ok result, after) := by
  rw [ExceptT.run_bind, StateT.run_bind] at ran
  cases first : action.run.run books with
  | mk answer middle =>
    rw [first] at ran
    cases answer with
    | ok value => exact ⟨value, middle, rfl, ran⟩
    | error error => cases ran

omit books in
theorem bind_run_ok {α β : Type} {action : Act α} {next : α → Act β} {books middle : Books}
    {value : α} (ran : action.run.run books = (.ok value, middle)) :
    (action >>= next).run.run books = (next value).run.run middle := by
  rw [ExceptT.run_bind, StateT.run_bind, ran]
  rfl

omit books in
theorem bind_run_error {α β : Type} {action : Act α} {next : α → Act β} {books middle : Books}
    {error : AuditError} (ran : action.run.run books = (.error error, middle)) :
    (action >>= next).run.run books = (.error error, middle) := by
  rw [ExceptT.run_bind, StateT.run_bind, ran]
  rfl

omit books in
/-- An action that fails failed in its first part, or in its second one after the first one
succeeded. -/
theorem bind_error {α β : Type} {action : Act α} {next : α → Act β} {books after : Books}
    {error : AuditError} (ran : (action >>= next).run.run books = (.error error, after)) :
    action.run.run books = (.error error, after) ∨
      ∃ value middle, action.run.run books = (.ok value, middle) ∧
        (next value).run.run middle = (.error error, after) := by
  cases first : action.run.run books with
  | mk answer middle =>
    cases answer with
    | ok value =>
      rw [bind_run_ok first] at ran
      exact .inr ⟨value, middle, rfl, ran⟩
    | error error =>
      rw [bind_run_error first] at ran
      cases ran
      exact .inl rfl

theorem settled_run {α : Type} (given : Except AuditError α) :
    (settled given).run.run books = (given, books) := by
  cases given <;> rfl

omit books in
theorem settled_ok {α : Type} {given : Except AuditError α} {books after : Books} {result : α}
    (ran : (settled given).run.run books = (.ok result, after)) :
    given = .ok result ∧ after = books := by
  rw [settled_run] at ran
  exact ⟨congrArg Prod.fst ran, (congrArg Prod.snd ran).symm⟩

omit books in
theorem outcome_run {α : Type} {action : Act α} {books after : Books}
    {answer : Except AuditError α} (ran : action.run.run books = (answer, after)) :
    (outcome action).run.run books = (.ok answer, after) :=
  congrArg (fun result : Except AuditError α × Books =>
    ((.ok result.1, result.2) : Except AuditError (Except AuditError α) × Books)) ran

theorem get_run : (get : Act Books).run.run books = (.ok books, books) :=
  rfl

theorem attempt_run (call : StoreCall) :
    (attempt call).run.run books =
      (if books.failsAt call then .error (failure call) else .ok (), books.counted) := by
  by_cases failing : books.fails books.storeCalls call
  · simp only [failsAt, failing, if_true]
    change ((if books.fails books.storeCalls call then throw (failure call) else pure () :
      Act Unit).run.run books.counted) = _
    rw [if_pos failing]
    rfl
  · simp only [failsAt, failing]
    change ((if books.fails books.storeCalls call then throw (failure call) else pure () :
      Act Unit).run.run books.counted) = _
    rw [if_neg failing]
    rfl

theorem attempt_bind_run {α : Type} (call : StoreCall) (next : Act α) :
    (attempt call >>= fun _ => next).run.run books =
      if books.failsAt call then (.error (failure call), books.counted)
      else next.run.run books.counted := by
  rw [ExceptT.run_bind, StateT.run_bind, attempt_run]
  split <;> rfl

theorem map_run {α β : Type} (function : α → β) (action : Act α) :
    (function <$> action).run.run books =
      ((action.run.run books).1.map function, (action.run.run books).2) := by
  rw [map_eq_pure_bind, ExceptT.run_bind, StateT.run_bind]
  cases action.run.run books with
  | mk answer after => cases answer <;> rfl

theorem addResources_run (batch : List Resource) :
    (addResources batch).run.run books =
      if books.failsAt .batchCreateResources then
        (.error (failure .batchCreateResources), books.counted)
      else (.ok batch, { books.counted with store := books.store.addResources batch }) :=
  attempt_bind_run books _ _

theorem listResources_run (filter : Filter) :
    (listResources filter).run.run books =
      if books.failsAt .listResources then (.error (failure .listResources), books.counted)
      else (books.store.listResources filter, books.counted) :=
  attempt_bind_run books _ _

theorem addObservations_run (batch : List Observation) :
    (addObservations batch).run.run books =
      if books.failsAt .batchCreateObservations then
        (.error (failure .batchCreateObservations), books.counted)
      else
        (.ok (if books.losesCreated then [] else batch),
          { books.counted with store := books.store.addObservations batch }) :=
  attempt_bind_run books _ _

theorem listObservations_run (filter : Filter) :
    (listObservations filter).run.run books =
      if books.failsAt .listObservations then (.error (failure .listObservations), books.counted)
      else (books.store.listObservations filter, books.counted) :=
  attempt_bind_run books _ _

theorem listOperations_run (filter : Filter) :
    (listOperations filter).run.run books =
      if books.failsAt .listOperations then (.error (failure .listOperations), books.counted)
      else (books.store.listOperations filter, books.counted) :=
  attempt_bind_run books _ _

theorem log_run (entries : List Operation) :
    (log entries).run.run books =
      if books.failsAt .addOperationLog then (.error (failure .addOperationLog), books.counted)
      else (.ok (), { books.counted with store := books.store.log entries }) :=
  attempt_bind_run books _ _

/-- The entries that work on groups adds to the operation log, one clock reading after the other. -/
def stamped (id : String) (kind : OperationKind) (status : OperationStatus) :
    Clock → List String → List Operation
  | _, [] => []
  | clock, group :: groups =>
    ⟨id, group, kind, clock.reading, status⟩ :: stamped id kind status clock.turned groups

omit books in
theorem mem_stamped {groups : List String} {group : String} (member : group ∈ groups)
    (id : String) (kind : OperationKind) (status : OperationStatus) (clock : Clock) :
    ∃ time, ⟨id, group, kind, time, status⟩ ∈ stamped id kind status clock groups := by
  induction groups generalizing clock with
  | nil => cases member
  | cons first groups ih =>
    rcases List.mem_cons.1 member with rfl | member
    · exact ⟨clock.reading, List.mem_cons_self⟩
    · obtain ⟨time, found⟩ := ih member clock.turned
      exact ⟨time, List.mem_cons_of_mem _ found⟩

omit books in
theorem eq_of_mem_stamped {groups : List String} {id : String} {kind : OperationKind}
    {status : OperationStatus} {clock : Clock} {entry : Operation}
    (member : entry ∈ stamped id kind status clock groups) :
    entry = ⟨id, entry.resourceGroup, kind, entry.statusTime, status⟩ ∧
      entry.resourceGroup ∈ groups := by
  induction groups generalizing clock with
  | nil => cases member
  | cons group groups ih =>
    rcases List.mem_cons.1 member with rfl | member
    · exact ⟨rfl, List.mem_cons_self⟩
    · obtain ⟨same, covered⟩ := ih member
      exact ⟨same, List.mem_cons_of_mem _ covered⟩

omit books in
theorem own_of_mem_stamped_append {groups : List String} {id : String} {kind : OperationKind}
    {first second : OperationStatus} {clock later : Clock} {entry : Operation}
    (member : entry ∈ stamped id kind first clock groups ++ stamped id kind second later groups) :
    entry.id = id ∧ entry.kind = kind ∧ entry.resourceGroup ∈ groups := by
  rcases List.mem_append.1 member with isFirst | isSecond
  · obtain ⟨same, covered⟩ := eq_of_mem_stamped isFirst
    exact ⟨by rw [same], by rw [same], covered⟩
  · obtain ⟨same, covered⟩ := eq_of_mem_stamped isSecond
    exact ⟨by rw [same], by rw [same], covered⟩

/-- The books after a number of clock readings. -/
def ticked (count : Nat) : Books :=
  { books with
    supply := { books.supply with toClock := Clock.turned^[count] books.supply.toClock } }

theorem readClock_run :
    (liftM readClock : Act Instant).run.run books = (.ok books.supply.reading, books.ticked 1) :=
  rfl

theorem entries_run (id : String) (kind : OperationKind) (status : OperationStatus)
    (groups : List String) :
    (groups.mapM fun group => (liftM (entry id group kind status) : Act Operation)).run.run books =
      (.ok (stamped id kind status books.supply.toClock groups), books.ticked groups.length) := by
  induction groups generalizing books with
  | nil => rfl
  | cons group groups ih =>
    rw [List.mapM_cons]
    have first : ((liftM (entry id group kind status) : Act Operation).run.run books) =
        (.ok ⟨id, group, kind, books.supply.reading, status⟩, books.ticked 1) := rfl
    rw [ExceptT.run_bind, StateT.run_bind, first]
    have rest := ih (books.ticked 1)
    change ((List.mapM _ groups >>= _ : Act (List Operation)).run.run (books.ticked 1)) = _
    rw [ExceptT.run_bind, StateT.run_bind, rest]
    rfl

theorem logGroups_run (id : String) (groups : List String) (kind : OperationKind)
    (status : OperationStatus) :
    (logGroups id groups kind status).run.run books =
      (log (stamped id kind status books.supply.toClock groups)).run.run
        (books.ticked groups.length) := by
  rw [logGroups, ExceptT.run_bind, StateT.run_bind, entries_run]
  rfl

/-- The books after entries for groups came to the operation log. -/
def logged (id : String) (groups : List String) (kind : OperationKind)
    (status : OperationStatus) : Books :=
  { (books.ticked groups.length).counted with
    store := books.store.log (stamped id kind status books.supply.toClock groups) }

theorem logGroups_logged (id : String) (groups : List String) (kind : OperationKind)
    (status : OperationStatus) :
    (logGroups id groups kind status).run.run books =
      if (books.ticked groups.length).failsAt .addOperationLog then
        (.error (failure .addOperationLog), (books.ticked groups.length).counted)
      else (.ok (), books.logged id groups kind status) := by
  rw [logGroups_run, log_run]
  rfl

/-! ## Without failures -/

variable {books}

theorem Reliable.of_fails {later : Books} (reliable : books.Reliable)
    (same : later.fails = books.fails) : later.Reliable := by
  intro count call
  rw [same]
  exact reliable count call

theorem Reliable.logGroups (reliable : books.Reliable) (id : String) (groups : List String)
    (kind : OperationKind) (status : OperationStatus) :
    (logGroups id groups kind status).run.run books =
      (.ok (), books.logged id groups kind status) := by
  have writes : (books.ticked groups.length).failsAt .addOperationLog = false := reliable _ _
  rw [logGroups_logged, writes]
  rfl

theorem Reliable.flush (reliable : books.Reliable) :
    flush.run.run books = (.ok (), { books.counted with store := books.store.flush }) := by
  have writes : books.failsAt .flushOpsLog = false := reliable _ _
  rw [Books.flush, attempt_bind_run, writes]
  rfl

end CloudAudit.Books
