import Mathlib.Algebra.Ring.Nat
import CloudAudit.Proofs.World.Actions
import CloudAudit.Proofs.World.Events
/-!
# Identifiers

Identifiers are handed out by number and never taken back. Two of the first 2^128 are the same only
if their numbers are.
-/
set_option autoImplicit false

namespace CloudAudit

theorem Text.hexDigit_injective :
    ∀ first < 16, ∀ second < 16, hexDigit first = hexDigit second → first = second := by
  decide

namespace Uuid

theorem hyphenate_injective (sizes : List Nat) {first second : List Char}
    (firstLength : first.length = sizes.sum) (secondLength : second.length = sizes.sum)
    (same : hyphenate sizes first = hyphenate sizes second) : first = second := by
  induction sizes generalizing first second with
  | nil =>
    rw [List.sum_nil, List.length_eq_zero_iff] at firstLength secondLength
    rw [firstLength, secondLength]
  | cons size sizes ih =>
    simp only [List.sum_cons] at firstLength secondLength
    have starts : (first.take size).length = (second.take size).length := by
      simp only [List.length_take]
      omega
    cases sizes with
    | nil =>
      simp only [List.sum_nil, Nat.add_zero] at firstLength secondLength
      simp only [hyphenate] at same
      rwa [← firstLength, List.take_length, firstLength, ← secondLength, List.take_length] at same
    | cons next sizes =>
      simp only [hyphenate] at same
      obtain ⟨front, back⟩ := List.append_inj same starts
      have rest : first.drop size = second.drop size := by
        apply ih
        · rw [List.length_drop]
          omega
        · rw [List.length_drop]
          omega
        · exact (List.cons.inj back).2
      rw [← List.take_append_drop size first, ← List.take_append_drop size second, front, rest]

/-- Numbers with the same lowest digits leave the same remainder. -/
theorem mod_pow_eq_of_digits {base first second : Nat} (count : Nat)
    (same : ∀ place < count, first / base ^ place % base = second / base ^ place % base) :
    first % base ^ count = second % base ^ count := by
  induction count with
  | zero => simp [Nat.mod_one]
  | succ count ih =>
    have lower := ih fun place below => same place (by omega)
    rw [Nat.mod_pow_succ, Nat.mod_pow_succ, lower, same count (by omega)]

theorem digits_injective {first second : Uuid} (same : first.digits = second.digits) :
    first = second := by
  have each : ∀ place < 32,
      first.bits.toNat / 16 ^ place % 16 = second.bits.toNat / 16 ^ place % 16 := by
    intro place below
    have listed := List.map_inj_left.1 same (31 - place) (List.mem_range.2 (by omega))
    have back : 31 - (31 - place) = place := by omega
    rw [back] at listed
    exact listed
  have remainders := mod_pow_eq_of_digits 32 each
  have firstBelow : first.bits.toNat < 16 ^ 32 := first.bits.isLt
  have secondBelow : second.bits.toNat < 16 ^ 32 := second.bits.isLt
  rw [Nat.mod_eq_of_lt firstBelow, Nat.mod_eq_of_lt secondBelow] at remainders
  cases first
  cases second
  exact congrArg Uuid.mk (BitVec.eq_of_toNat_eq remainders)

theorem text_injective {first second : Uuid} (same : first.text = second.text) :
    first = second := by
  have length : ∀ id : Uuid, (id.digits.map Text.hexDigit).length = groups.sum := by
    intro id
    simp [digits, groups]
  have characters := hyphenate_injective groups (length first) (length second)
    (String.ofList_injective same)
  have small : ∀ id : Uuid, ∀ digit ∈ id.digits, digit < 16 := by
    intro id digit member
    obtain ⟨place, -, rfl⟩ := List.mem_map.1 member
    exact Nat.mod_lt _ (by decide)
  apply digits_injective
  apply List.ext_getElem
  · simp [digits]
  · intro place inFirst inSecond
    have character := List.getElem_of_eq characters (by simpa using inFirst)
    simp only [List.getElem_map] at character
    exact Text.hexDigit_injective _ (small first _ (List.getElem_mem _)) _
      (small second _ (List.getElem_mem _)) character

end Uuid

namespace Supply

theorem idText_injective {first second : Nat} (firstBelow : first < 2 ^ 128)
    (secondBelow : second < 2 ^ 128) (same : idText first = idText second) : first = second := by
  have bits := congrArg (fun id => id.bits.toNat) (Uuid.text_injective same)
  simp only [BitVec.toNat_ofNat] at bits
  omega

/-- Whether an identifier is one of those handed out so far. -/
def Issued (supply : Supply) (id : String) : Prop :=
  ∃ number < supply.minted, idText number = id

theorem Issued.mono {supply later : Supply} {id : String} (issued : supply.Issued id)
    (more : supply.minted ≤ later.minted) : later.Issued id := by
  obtain ⟨number, below, same⟩ := issued
  exact ⟨number, by omega, same⟩

theorem not_issued {supply : Supply} {number : Nat} (notYet : supply.minted ≤ number)
    (lasting : number < 2 ^ 128) : ¬ supply.Issued (idText number) := by
  rintro ⟨earlier, below, same⟩
  have := idText_injective (by omega) lasting same
  omega

end Supply

theorem steady_minted : Steady fun old new => old.supply.minted ≤ new.supply.minted where
  refl _ := Nat.le_refl _
  trans one two := Nat.le_trans one two
  readClock _ := Nat.le_refl _
  mintId books := Nat.le_succ books.supply.minted
  attempt call books := by
    rw [Books.attempt_run]
    exact Nat.le_refl _
  keepResources _ _ := Nat.le_refl _
  keepObservations _ _ := Nat.le_refl _
  logGroups id groups kind status books := by
    rw [Books.logGroups_run, Books.log_run]
    split <;> exact Nat.le_refl _
  moveLog _ := Nat.le_refl _
  changeRequests _ _ := Nat.le_refl _
  changeExceptions _ _ := Nat.le_refl _
  changeDeliveries _ _ := Nat.le_refl _
  changeUnderWay _ _ := Nat.le_refl _
  changePermits _ _ := Nat.le_refl _

theorem Books.minted_after (deployment : Deployment) (books : Books) (events : List Event) :
    books.supply.minted ≤ (books.after deployment events).supply.minted :=
  steady_minted.after (fun _ _ _ => Nat.le_refl _) deployment events books

end CloudAudit
