import Mathlib.Data.List.Nodup
import CloudAudit.Proofs.Listing.Selection
/-!
# One scan of each group

Of the observations of each group a listing keeps those of no scan and those of one scan: the latest
completed one in the operation log, even if it found nothing, or else the one of the latest
observation. Choosing again changes nothing, and where no two entries of the log have the same time
their order does not matter.
-/
set_option autoImplicit false

namespace CloudAudit

namespace Operation

theorem picked_iff_of_distinct {entries : List Operation}
    (distinct : (entries.map Operation.statusTime).Nodup) (entry : Operation) :
    Picked isNewer entries entry ↔
      entry ∈ entries ∧ ∀ other ∈ entries, entry.statusTime.notBefore other.statusTime = true := by
  constructor
  · intro picked
    exact ⟨picked.mem, fun other member => notBefore_of_picked picked member⟩
  · rintro ⟨member, latest⟩
    obtain ⟨found, picked⟩ :=
      Picked.exists_of_ne_nil isNewer_preference (List.ne_nil_of_mem member)
    have sameTime : entry.statusTime = found.statusTime :=
      Instant.eq_of_notBefore (latest found picked.mem) (notBefore_of_picked picked member)
    rw [List.inj_on_of_nodup_map distinct member picked.mem sameTime]
    exact picked

end Operation

namespace Service

/-- Where no two entries of the log have the same time, their order does not matter. -/
theorem latestCompletedScans_perm {entries others : List Operation} (same : entries.Perm others)
    (distinct : (entries.map Operation.statusTime).Nodup) :
    latestCompletedScans others = latestCompletedScans entries := by
  refine Table.ext_get? fun group => Option.ext fun scan => ?_
  have sameCompletions := same.filter (Operation.completes group)
  have distinctCompletions :
      ((entries.filter (Operation.completes group)).map Operation.statusTime).Nodup :=
    distinct.sublist (List.filter_sublist.map _)
  have distinctOthers :
      ((others.filter (Operation.completes group)).map Operation.statusTime).Nodup :=
    (sameCompletions.map _).nodup_iff.1 distinctCompletions
  rw [latestCompletedScans_get?, latestCompletedScans_get?]
  simp only [Operation.picked_iff_of_distinct distinctCompletions,
    Operation.picked_iff_of_distinct distinctOthers, sameCompletions.mem_iff]

/-! ## Choosing among observations -/

section

variable (observations : List Observation) (completed : Table String)

theorem latestScanOnly_sublist : (latestScanOnly observations completed).Sublist observations :=
  List.filter_sublist

theorem filter_unscanned_latestScanOnly :
    ((latestScanOnly observations completed).filter fun found => found.scanId.isNone) =
      observations.filter fun found => found.scanId.isNone := by
  rw [latestScanOnly, List.filter_filter]
  refine List.filter_congr fun found _ => ?_
  cases found.scanId <;> simp

theorem filter_scanned_latestScanOnly (group : String) :
    (latestScanOnly observations completed).filter (Observation.isScanOf group) =
      (observations.filter (Observation.isScanOf group)).filter fun found =>
        found.scanId == countedAmong completed observations group := by
  rw [latestScanOnly, List.filter_comm]
  refine List.filter_congr fun found member => ?_
  have scanned := (List.mem_filter.1 member).2
  simp only [Observation.isScanOf, Bool.and_eq_true, Option.isSome_iff_exists,
    beq_iff_eq] at scanned
  obtain ⟨⟨scan, scanned⟩, rfl⟩ := scanned
  simp only [scanned]
  rw [Bool.eq_iff_iff, beq_iff_eq, beq_iff_eq, eq_comm]
  rfl

variable {observations completed}

theorem countedAmong_latestScanOnly {group scan : String}
    (counted : countedAmong completed observations group = some scan) :
    countedAmong completed (latestScanOnly observations completed) group = some scan := by
  cases known : completed.get? group with
  | some found =>
    rw [countedAmong_of_completed known] at counted ⊢
    exact counted
  | none =>
    obtain ⟨found, picked, scanned⟩ := (countedAmong_of_unfinished known _ scan).1 counted
    refine (countedAmong_of_unfinished known _ scan).2 ⟨found, ?_, scanned⟩
    -- The observation that decided is itself of the scan that counts.
    rw [filter_scanned_latestScanOnly, counted]
    refine picked.filter ?_
    rw [scanned, beq_self_eq_true]

theorem latestScanOnly_idem :
    latestScanOnly (latestScanOnly observations completed) completed =
      latestScanOnly observations completed := by
  have all : ∀ found ∈ latestScanOnly observations completed,
      found ∈ latestScanOnly (latestScanOnly observations completed) completed := by
    intro found kept
    refine mem_latestScanOnly.2 ⟨kept, fun scan scanned => ?_⟩
    exact countedAmong_latestScanOnly ((mem_latestScanOnly.1 kept).2 scan scanned)
  rw [latestScanOnly, List.filter_eq_self]
  intro found kept
  exact (List.mem_filter.1 (all found kept)).2

end

/-! ## What is left of observations -/

/-- Some scan counts for every group that has a completed scan in the log or an observation of a
scan. -/
theorem exists_counts {observations : List Observation} {entries : List Operation} {group : String}
    (known : (∃ entry ∈ entries, entry.completes group = true) ∨
      ∃ found ∈ observations, Observation.isScanOf group found = true) :
    ∃ scan, Counts observations entries group scan := by
  by_cases nothing : entries.filter (Operation.completes group) = []
  · rcases known with ⟨entry, logged, completes⟩ | ⟨found, member, scanned⟩
    · exact absurd completes (List.filter_eq_nil_iff.1 nothing entry logged)
    · obtain ⟨latest, picked⟩ := Picked.exists_of_ne_nil Observation.isLater_preference
        (List.ne_nil_of_mem (List.mem_filter.2 ⟨member, scanned⟩))
      have isScan := (List.mem_filter.1 picked.mem).2
      simp only [Observation.isScanOf, Bool.and_eq_true, Option.isSome_iff_exists] at isScan
      obtain ⟨⟨scan, isScan⟩, -⟩ := isScan
      exact ⟨scan, .seen nothing picked isScan⟩
  · obtain ⟨entry, picked⟩ := Picked.exists_of_ne_nil Operation.isNewer_preference nothing
    exact ⟨entry.id, .completed picked⟩

/-- What is kept of observations, given the entries of the operation log. -/
structure OneScanEach (observations : List Observation) (entries : List Operation)
    (kept : List Observation) : Prop where
  /-- Nothing is added, and nothing changes its place. -/
  ordered : kept.Sublist observations
  /-- What comes from no scan stays. -/
  unscanned : (kept.filter fun found => found.scanId.isNone) =
    observations.filter fun found => found.scanId.isNone
  /-- Of the scans of a group exactly the one that counts stays, and all of it does. -/
  scanned : ∀ group scan, Counts observations entries group scan →
    kept.filter (Observation.isScanOf group) =
      observations.filter fun found => found.groupName == group && found.scanId == some scan
  /-- One scan counts wherever there is one to choose. -/
  decided : ∀ group,
    ((∃ entry ∈ entries, entry.completes group = true) ∨
        ∃ found ∈ observations, Observation.isScanOf group found = true) →
      ∃ scan, Counts observations entries group scan ∧
        ∀ other, Counts observations entries group other → other = scan
  /-- Without a completed scan a group keeps some observation of a scan if it has any. -/
  remains : ∀ group, (∀ entry ∈ entries, ¬ entry.completes group = true) →
    (∃ found ∈ observations, Observation.isScanOf group found = true) →
      ∃ found ∈ kept, Observation.isScanOf group found = true

theorem oneScanEach_latestScanOnly (observations : List Observation) (entries : List Operation) :
    OneScanEach observations entries
      (latestScanOnly observations (latestCompletedScans entries)) where
  ordered := latestScanOnly_sublist _ _
  unscanned := filter_unscanned_latestScanOnly _ _
  scanned := by
    intro group scan counts
    have counted : countedAmong (latestCompletedScans entries) observations group = some scan :=
      (countedScan?_eq_some_iff _ _ _ _).2 counts
    rw [filter_scanned_latestScanOnly, counted, List.filter_filter]
    refine List.filter_congr fun found _ => ?_
    cases scanned : found.scanId with
    | none => simp
    | some other => simp [Observation.isScanOf, scanned, Bool.and_comm]
  decided := by
    intro group known
    obtain ⟨scan, counts⟩ := exists_counts known
    exact ⟨scan, counts, fun other alike => alike.unique counts⟩
  remains := by
    intro group nothing known
    obtain ⟨scan, counts⟩ : ∃ scan, Counts observations entries group scan :=
      exists_counts (.inr known)
    cases counts with
    | completed latest =>
      obtain ⟨logged, completes⟩ := List.mem_filter.1 latest.mem
      exact absurd completes (nothing _ logged)
    | @seen observation _ none latest scanned =>
      obtain ⟨member, isScan⟩ := List.mem_filter.1 latest.mem
      have own : observation.groupName = group := by
        simp only [Observation.isScanOf, Bool.and_eq_true, beq_iff_eq] at isScan
        exact isScan.2
      refine ⟨observation, (mem_latestScanOnly_iff _ _ _).2 ⟨member, ?_⟩, isScan⟩
      intro other isOther
      obtain rfl : scan = other := Option.some.inj (scanned.symm.trans isOther)
      rw [own]
      exact .seen none latest scanned

/-- Of each group one scan is kept with all that it left, beside what comes from no scan; to choose
again changes nothing; and entries of different times may stand in any order. -/
theorem latest_scan_chosen (observations : List Observation) (entries : List Operation) :
    OneScanEach observations entries
        (latestScanOnly observations (latestCompletedScans entries)) ∧
      (∀ completed, latestScanOnly (latestScanOnly observations completed) completed =
        latestScanOnly observations completed) ∧
      ∀ others, entries.Perm others → (entries.map Operation.statusTime).Nodup →
        latestCompletedScans others = latestCompletedScans entries :=
  ⟨oneScanEach_latestScanOnly observations entries, fun _ => latestScanOnly_idem,
    fun _ same distinct => latestCompletedScans_perm same distinct⟩

theorem later_entry_counts :
    latestCompletedScans
        [⟨"new", "g1", .scan, ⟨60, 0⟩, .completed⟩, ⟨"old", "g1", .scan, ⟨0, 0⟩, .completed⟩] =
      latestCompletedScans
        [⟨"old", "g1", .scan, ⟨0, 0⟩, .completed⟩, ⟨"new", "g1", .scan, ⟨60, 0⟩, .completed⟩] :=
  (latest_scan_chosen [] _).2.2 _ (.swap _ _ _) (by decide)

end Service

end CloudAudit
