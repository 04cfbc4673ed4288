import CloudAudit.Proofs.Store.Keeping
import CloudAudit.Proofs.Time.Order
import CloudAudit.Proofs.World.Actions
import CloudAudit.Proofs.World.Events
/-!
# What events leave of the past

The clock never goes back. Observations are only added, each behind those of its group. The
operation log only grows at its end, by entries dated no earlier than those before. A flush moves
its oldest entries to those that can be listed.
-/
set_option autoImplicit false

namespace CloudAudit

namespace Store

/-- The whole operation log, flushed or not. -/
def journal (store : Store) : List Operation :=
  store.operations ++ store.pending

theorem journal_flush (store : Store) : store.flush.journal = store.journal := by
  rw [journal, flush, List.append_nil, journal]

end Store

/-- Entries dated one after the other, none before an instant and none after another one. -/
structure Dated (start stop : Instant) (entries : List Operation) : Prop where
  ascending : entries.Pairwise fun earlier later =>
    later.statusTime.notBefore earlier.statusTime = true
  within : ∀ entry ∈ entries,
    entry.statusTime.notBefore start = true ∧ stop.notBefore entry.statusTime = true

namespace Dated

theorem nil (start stop : Instant) : Dated start stop [] where
  ascending := .nil
  within := by simp

theorem append {start middle next stop : Instant} {earlier later : List Operation}
    (first : Dated start middle earlier) (second : Dated next stop later)
    (between : next.notBefore middle = true) (before : next.notBefore start = true)
    (after : stop.notBefore middle = true) : Dated start stop (earlier ++ later) where
  ascending := by
    refine List.pairwise_append.2 ⟨first.ascending, second.ascending, ?_⟩
    intro old isOld new isNew
    exact Instant.notBefore_trans (second.within new isNew).1
      (Instant.notBefore_trans between (first.within old isOld).2)
  within := by
    intro entry member
    rcases List.mem_append.1 member with isOld | isNew
    · have inside := first.within entry isOld
      exact ⟨inside.1, Instant.notBefore_trans after inside.2⟩
    · have inside := second.within entry isNew
      exact ⟨Instant.notBefore_trans inside.1 before, inside.2⟩

theorem stamped (id : String) (kind : OperationKind) (status : OperationStatus) (clock : Clock)
    (groups : List String) :
    Dated clock.reading (Clock.turned^[groups.length] clock).now
      (Books.stamped id kind status clock groups) := by
  induction groups generalizing clock with
  | nil => exact nil clock.reading clock.now
  | cons group groups ih =>
    have first : Dated clock.reading clock.turned.now
        [⟨id, group, kind, clock.reading, status⟩] :=
      { ascending := List.pairwise_singleton _ _
        within := by
          intro entry member
          rw [List.mem_singleton] at member
          subst member
          exact ⟨Instant.notBefore_refl _, Instant.notBefore_refl _⟩ }
    exact first.append (ih clock.turned) clock.turned.reading_notBefore
      (Clock.Becomes.turned clock).reading_notBefore
      (Clock.Becomes.turns clock.turned groups.length).now_notBefore

end Dated

/-- What later books keep of earlier ones. -/
structure Grows (old new : Books) : Prop where
  becomes : old.supply.Becomes new.supply.toClock
  observations : ∀ group, ∃ added,
    new.store.stored group = old.store.stored group ++ added ∧
      ∀ observation ∈ added, observation.groupName = group
  flushed : old.store.operations <+: new.store.operations
  journal : ∃ added,
    new.store.journal = old.store.journal ++ added ∧
      Dated old.supply.reading new.supply.now added

namespace Grows

theorem clock {old new : Books} (grows : Grows old new) :
    new.supply.now.notBefore old.supply.now = true :=
  grows.becomes.now_notBefore

theorem of_same_store {old new : Books} (becomes : old.supply.Becomes new.supply.toClock)
    (observations : new.store.observations = old.store.observations)
    (operations : new.store.operations = old.store.operations)
    (pending : new.store.pending = old.store.pending) : Grows old new where
  becomes := becomes
  observations group := ⟨[], by simp [Store.stored, observations], by simp⟩
  flushed := ⟨[], by simp [operations]⟩
  journal := ⟨[], by simp [Store.journal, operations, pending], Dated.nil _ _⟩

theorem same_clock {old new : Books} (clock : new.supply.toClock = old.supply.toClock)
    (observations : new.store.observations = old.store.observations)
    (operations : new.store.operations = old.store.operations)
    (pending : new.store.pending = old.store.pending) : Grows old new :=
  of_same_store (clock ▸ .refl _) observations operations pending

theorem trans {first second third : Books} (one : Grows first second) (two : Grows second third) :
    Grows first third where
  becomes := one.becomes.trans two.becomes
  observations group := by
    obtain ⟨added, addedEq, own⟩ := one.observations group
    obtain ⟨more, moreEq, moreOwn⟩ := two.observations group
    refine ⟨added ++ more, by rw [moreEq, addedEq, List.append_assoc], ?_⟩
    intro observation member
    rcases List.mem_append.1 member with isOld | isNew
    · exact own observation isOld
    · exact moreOwn observation isNew
  flushed := one.flushed.trans two.flushed
  journal := by
    obtain ⟨added, addedEq, dated⟩ := one.journal
    obtain ⟨more, moreEq, moreDated⟩ := two.journal
    exact ⟨added ++ more, by rw [moreEq, addedEq, List.append_assoc],
      dated.append moreDated second.supply.reading_notBefore one.becomes.reading_notBefore
        two.clock⟩

theorem ticked (books : Books) (count : Nat) : Grows books (books.ticked count) :=
  of_same_store (.turns books.supply.toClock count) rfl rfl rfl

theorem logGroups (id : String) (groups : List String) (kind : OperationKind)
    (status : OperationStatus) :
    Along Grows (Books.logGroups id groups kind status).run := by
  intro books
  have ticks : Grows books (books.ticked groups.length) := ticked books groups.length
  rw [Books.logGroups_run, Books.log_run]
  split
  · exact ticks.trans (same_clock rfl rfl rfl rfl)
  · exact {
      becomes := ticks.becomes
      observations := ticks.observations
      flushed := ticks.flushed
      journal :=
        ⟨Books.stamped id kind status books.supply.toClock groups,
          (List.append_assoc _ _ _).symm,
          Dated.stamped id kind status books.supply.toClock groups⟩ }

theorem steady : Steady Grows where
  refl books := same_clock rfl rfl rfl rfl
  trans := trans
  readClock books := ticked books 1
  mintId books := same_clock rfl rfl rfl rfl
  attempt call books := by
    rw [Books.attempt_run]
    exact same_clock rfl rfl rfl rfl
  keepResources books batch := same_clock rfl rfl rfl rfl
  keepObservations books batch :=
    { becomes := .refl _
      observations := fun group =>
        ⟨batch.filter (Store.isFiled group), Store.stored_addObservations _ _ _,
          fun _ member => Store.groupName_of_isFiled (List.mem_filter.1 member).2⟩
      flushed := List.prefix_rfl
      journal := ⟨[], (List.append_nil _).symm, Dated.nil _ _⟩ }
  logGroups := logGroups
  moveLog books :=
    { becomes := .refl _
      observations := fun group => ⟨[], (List.append_nil _).symm, by simp⟩
      flushed := List.prefix_append _ _
      journal := ⟨[], by rw [Store.journal_flush, List.append_nil], Dated.nil _ _⟩ }
  changeRequests books requests := same_clock rfl rfl rfl rfl
  changeExceptions books exceptions := same_clock rfl rfl rfl rfl
  changeDeliveries books deliveries := same_clock rfl rfl rfl rfl
  changeUnderWay books underWay := same_clock rfl rfl rfl rfl
  changePermits books permits := same_clock rfl rfl rfl rfl

theorem after (deployment : Deployment) (books : Books) (events : List Event) :
    Grows books (books.after deployment events) :=
  steady.after (fun _ _ _ => same_clock rfl rfl rfl rfl) deployment events books

end Grows

/-- Nothing that is stored of a group is ever taken away. -/
theorem steady_resources : Steady fun old new =>
    ∀ group, old.store.resourcesOf group <+: new.store.resourcesOf group where
  refl _ _ := List.prefix_rfl
  trans one two group := (one group).trans (two group)
  readClock _ _ := List.prefix_rfl
  mintId _ _ := List.prefix_rfl
  attempt call books group := by
    rw [Books.attempt_run]
    exact List.prefix_rfl
  keepResources books batch group :=
    (Store.resourcesOf_addResources books.store batch group).symm ▸ List.prefix_append _ _
  keepObservations _ _ _ := List.prefix_rfl
  logGroups id groups kind status books group := by
    rw [Books.logGroups_run, Books.log_run]
    split <;> exact List.prefix_rfl
  moveLog _ _ := List.prefix_rfl
  changeRequests _ _ _ := List.prefix_rfl
  changeExceptions _ _ _ := List.prefix_rfl
  changeDeliveries _ _ _ := List.prefix_rfl
  changeUnderWay _ _ _ := List.prefix_rfl
  changePermits _ _ _ := List.prefix_rfl

theorem steady_filed : Steady fun old new => old.store.Filed → new.store.Filed where
  refl _ filed := filed
  trans one two filed := two (one filed)
  readClock _ filed := filed
  mintId _ filed := filed
  attempt call books filed := by
    rw [Books.attempt_run]
    exact filed
  keepResources books batch filed := filed.changed (.addResources batch)
  keepObservations _ _ filed := filed
  logGroups id groups kind status books filed := by
    rw [Books.logGroups_run, Books.log_run]
    split <;> exact filed
  moveLog _ filed := filed
  changeRequests _ _ filed := filed
  changeExceptions _ _ filed := filed
  changeDeliveries _ _ filed := filed
  changeUnderWay _ _ filed := filed
  changePermits _ _ filed := filed

/-- Books that agree in all but the clock, the identifiers, the calls counted and what notifying
keeps. -/
structure Undisturbed (books after : Books) : Prop where
  store : after.store = books.store
  requests : after.requests = books.requests
  fails : after.fails = books.fails
  underWay : after.underWay = books.underWay
  becomes : books.supply.Becomes after.supply.toClock
  minted : books.supply.minted ≤ after.supply.minted

theorem Undisturbed.clock {books after : Books} (same : Undisturbed books after) :
    after.supply.now.notBefore books.supply.now = true :=
  same.becomes.now_notBefore

theorem Undisturbed.quiet : Quiet Undisturbed where
  refl _ := ⟨rfl, rfl, rfl, rfl, .refl _, Nat.le_refl _⟩
  trans one two :=
    ⟨two.store.trans one.store, two.requests.trans one.requests, two.fails.trans one.fails,
      two.underWay.trans one.underWay, one.becomes.trans two.becomes,
      Nat.le_trans one.minted two.minted⟩
  readClock _ := ⟨rfl, rfl, rfl, rfl, .turned _, Nat.le_refl _⟩
  mintId _ := ⟨rfl, rfl, rfl, rfl, .refl _, Nat.le_succ _⟩
  attempt call books := by
    rw [Books.attempt_run]
    exact ⟨rfl, rfl, rfl, rfl, .refl _, Nat.le_refl _⟩
  changeExceptions _ _ := ⟨rfl, rfl, rfl, rfl, .refl _, Nat.le_refl _⟩
  changeDeliveries _ _ := ⟨rfl, rfl, rfl, rfl, .refl _, Nat.le_refl _⟩
  changePermits _ _ := ⟨rfl, rfl, rfl, rfl, .refl _, Nat.le_refl _⟩

theorem Undisturbed.grows {books after : Books} (same : Undisturbed books after) :
    Grows books after :=
  .of_same_store same.becomes (congrArg Store.observations same.store)
    (congrArg Store.operations same.store) (congrArg Store.pending same.store)

/-- Observations lie under their own group, and the operation log is in the order of its times, none
of them to come. -/
structure Books.Orderly (books : Books) : Prop where
  filed : ∀ group, ∀ observation ∈ books.store.stored group, observation.groupName = group
  chronological : books.store.journal.Pairwise fun earlier later =>
    later.statusTime.notBefore earlier.statusTime = true
  past : ∀ entry ∈ books.store.journal, books.supply.now.notBefore entry.statusTime = true

theorem Books.Orderly.grows {old new : Books} (orderly : old.Orderly) (grows : Grows old new) :
    new.Orderly where
  filed group observation member := by
    obtain ⟨added, addedEq, own⟩ := grows.observations group
    rw [addedEq] at member
    rcases List.mem_append.1 member with isOld | isNew
    · exact orderly.filed group observation isOld
    · exact own observation isNew
  chronological := by
    obtain ⟨added, addedEq, dated⟩ := grows.journal
    rw [addedEq]
    refine List.pairwise_append.2 ⟨orderly.chronological, dated.ascending, ?_⟩
    intro earlier isOld later isNew
    exact Instant.notBefore_trans (dated.within later isNew).1
      (Instant.notBefore_trans old.supply.reading_notBefore (orderly.past earlier isOld))
  past entry member := by
    obtain ⟨added, addedEq, dated⟩ := grows.journal
    rw [addedEq] at member
    rcases List.mem_append.1 member with isOld | isNew
    · exact Instant.notBefore_trans grows.clock (orderly.past entry isOld)
    · exact (dated.within entry isNew).2

theorem Books.orderly_fresh (supply : Supply) : (Books.fresh supply).Orderly where
  filed := by simp [Books.fresh, Store.stored]
  chronological := .nil
  past := by simp [Books.fresh, Store.journal]

/-- Every state that the service can reach is orderly. -/
theorem Books.orderly_after (deployment : Deployment) (supply : Supply) (events : List Event) :
    ((Books.fresh supply).after deployment events).Orderly :=
  (Books.orderly_fresh supply).grows (Grows.after deployment _ events)

end CloudAudit
