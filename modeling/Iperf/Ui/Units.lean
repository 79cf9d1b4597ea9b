import Iperf.Scale.Core
import Iperf.Ui
import Mathlib.Tactic.NormNum

/-!
# The units of printed quantities

A byte count is printed in the unit that fits it.  A bitrate should be too, but
only the first rung of its ladder tests the rate: the others test the byte count,
which tells where the rate stands only if no bound lies between the two.
-/

namespace Iperf

open Scale

/-- The bitrate of a measurement. -/
def bitsPerSec (bytes durationMillis : Nat) : Rat :=
  (bytes : Rat) * 8 * 1000 / durationMillis

section Rational

variable {bytes durationMillis : Nat}

theorem Rate.ofBits_eq (lasts : 1 ≤ durationMillis) :
    Rate.ofBits (bytes * 8) durationMillis = .defined (bitsPerSec bytes durationMillis) := by
  rw [Rate.ofBits, if_neg (Nat.one_le_iff_ne_zero.mp lasts), bitsPerSec]
  congr 1
  push_cast
  rw [div_mul_eq_mul_div]

/-- A bound is reached by a rate just where the bits of the bound are. -/
theorem le_bitsPerSec_iff (lasts : 1 ≤ durationMillis) (bound : Nat) :
    (bound : Rat) ≤ bitsPerSec bytes durationMillis ↔
      bound * durationMillis ≤ bytes * 8 * 1000 := by
  have positive : (0 : Rat) < durationMillis := by
    exact_mod_cast lasts
  rw [bitsPerSec, le_div_iff₀ positive]
  exact_mod_cast Iff.rfl

theorem lt_kBitsPerSec_iff (lasts : 1 ≤ durationMillis) :
    (Rate.ofBits (bytes * 8) durationMillis).lt kBitsPerSec ↔
      bytes * 8 * 1000 < kBitsPerSec * durationMillis := by
  rw [Rate.ofBits_eq lasts, Rate.lt, decide_eq_true_iff, ← not_le, le_bitsPerSec_iff lasts,
    not_le]

end Rational

/-! ## Byte counts -/

namespace ByteUnit

/-- The units of byte counts in ascending order. -/
def ladder : Ladder (fun unit : ByteUnit => (unit.size : Rat)) where
  first := .bytes
  rest := [.kbytes, .mbytes, .gbytes, .tbytes]
  ascending := by
    norm_num [size, kb, mb, gb, tb]
  complete := by
    intro unit
    cases unit <;> simp

theorem graded : Graded (fun unit : ByteUnit => (unit.size : Rat)) 1024 .tbytes := by
  constructor
  · intro unit
    rw [Nat.cast_pos]
    cases unit <;> exact Nat.succ_pos _
  · intro unit
    cases unit with
    | bytes => exact Or.inr ⟨.kbytes, by norm_num [size, kb]⟩
    | kbytes => exact Or.inr ⟨.mbytes, Nat.cast_mul ..⟩
    | mbytes => exact Or.inr ⟨.gbytes, Nat.cast_mul ..⟩
    | gbytes => exact Or.inr ⟨.tbytes, Nat.cast_mul ..⟩
    | tbytes => exact Or.inl rfl

end ByteUnit

/-- A byte count is printed in the unit that fits it, with a mantissa from one up
to the base if the units go that far. -/
structure FitsBytes (bytes : Nat) : Prop where
  unit : Fits (fun unit : ByteUnit => (unit.size : Rat)) bytes (humanizeBytes bytes).unit
  mantissa : 1 ≤ bytes → bytes < 1024 * tb →
    1 ≤ (humanizeBytes bytes).mantissa ∧ (humanizeBytes bytes).mantissa < 1024

theorem humanizeBytes_unit (bytes : Nat) :
    (humanizeBytes bytes).unit =
      ByteUnit.ladder.climb (fun unit => decide (unit.size ≤ bytes)) := by
  simp only [humanizeBytes, Ladder.climb, ByteUnit.ladder, climb, ByteUnit.size,
    decide_eq_true_eq, ← not_lt, ite_not]
  split_ifs <;> rfl

theorem humanizeBytes_mantissa (bytes : Nat) :
    (humanizeBytes bytes).mantissa = (bytes : Rat) / (humanizeBytes bytes).unit.size := by
  unfold humanizeBytes
  split_ifs <;> simp [ByteUnit.size]

theorem fits_bytes (bytes : Nat) : FitsBytes bytes := by
  have fits : Fits (fun unit : ByteUnit => (unit.size : Rat)) bytes
      (humanizeBytes bytes).unit := by
    rw [humanizeBytes_unit]
    apply ByteUnit.ladder.fits_climb
    intro unit _
    simp only [decide_eq_true_eq, Nat.cast_le]
  constructor
  · exact fits
  · intro some within
    rw [humanizeBytes_mantissa]
    constructor
    · have reached : (ByteUnit.bytes.size : Rat) ≤ bytes := by
        exact_mod_cast some
      exact fits.one_le_mantissa ByteUnit.graded reached
    · apply fits.mantissa_lt ByteUnit.graded (by norm_num)
      exact_mod_cast within

/-! ## Bitrates -/

namespace BitrateUnit

variable {bytes durationMillis : Nat}

/-- The units of bitrates in ascending order. -/
def ladder : Ladder (fun unit : BitrateUnit => (unit.size : Rat)) where
  first := .bits
  rest := [.kbits, .mbits, .gbits, .tbits]
  ascending := by
    norm_num [size, kBitsPerSec, mBitsPerSec, gBitsPerSec, tBitsPerSec]
  complete := by
    intro unit
    cases unit <;> simp

theorem graded : Graded (fun unit : BitrateUnit => (unit.size : Rat)) 1000 .tbits := by
  constructor
  · intro unit
    rw [Nat.cast_pos]
    cases unit <;> exact Nat.succ_pos _
  · intro unit
    cases unit with
    | bits => exact Or.inr ⟨.kbits, by norm_num [size, kBitsPerSec]⟩
    | kbits => exact Or.inr ⟨.mbits, Nat.cast_mul ..⟩
    | mbits => exact Or.inr ⟨.gbits, Nat.cast_mul ..⟩
    | gbits => exact Or.inr ⟨.tbits, Nat.cast_mul ..⟩
    | tbits => exact Or.inl rfl

/-- The test of each rung: only the first one tests the rate. -/
def reached (bytes durationMillis : Nat) : BitrateUnit → Bool
  | .bits => true
  | .kbits => !(Rate.ofBits (bytes * 8) durationMillis).lt kBitsPerSec
  | unit => unit.size ≤ bytes

theorem kbits_le {unit : BitrateUnit} (member : unit ∈ ladder.rest) :
    BitrateUnit.kbits.size ≤ unit.size := by
  revert member
  cases unit <;> decide

theorem kbits_lt {unit : BitrateUnit} (member : unit ∈ ladder.rest) (other : unit ≠ .kbits) :
    BitrateUnit.kbits.size < unit.size := by
  revert member other
  cases unit <;> decide

/-- The tests succeed up to a unit if the rate reaches the first bound and the byte
count reaches that of the unit. -/
theorem reached_up_to_iff (lasts : 1 ≤ durationMillis) {unit : BitrateUnit}
    (member : unit ∈ ladder.rest) :
    (∀ lower ∈ ladder.rest, (lower.size : Rat) ≤ (unit.size : Rat) →
        reached bytes durationMillis lower) ↔
      kBitsPerSec * durationMillis ≤ bytes * 8 * 1000 ∧
        (unit = .kbits ∨ unit.size ≤ bytes) := by
  have onRate : reached bytes durationMillis .kbits ↔
      kBitsPerSec * durationMillis ≤ bytes * 8 * 1000 := by
    rw [reached, Bool.not_eq_true', ← Bool.not_eq_true, lt_kBitsPerSec_iff lasts, not_lt]
  have onBytes : ∀ rung ∈ ladder.rest, rung ≠ .kbits →
      (reached bytes durationMillis rung ↔ rung.size ≤ bytes) := by
    intro rung rungMem other
    cases rung with
    | bits => exact absurd rungMem (by decide)
    | kbits => exact absurd rfl other
    | _ => exact decide_eq_true_iff
  simp only [Nat.cast_le]
  constructor
  · intro all
    constructor
    · exact onRate.mp (all .kbits (by decide) (kbits_le member))
    · by_cases slow : unit = .kbits
      · exact Or.inl slow
      · exact Or.inr ((onBytes unit member slow).mp (all unit member le_rfl))
  · rintro ⟨fast, reaches⟩ lower lowerMem lowerLe
    by_cases slow : lower = .kbits
    · rw [slow]
      exact onRate.mpr fast
    · rw [onBytes lower lowerMem slow]
      rcases reaches with rfl | reaches
      · exact absurd (kbits_lt lowerMem slow) (not_lt.mpr lowerLe)
      · exact le_trans lowerLe reaches

end BitrateUnit

/-- A bitrate is printed in the unit that fits it, with a mantissa from one up to
the base if the units go that far. -/
structure FitsBitrate (bytes durationMillis : Nat) : Prop where
  unit : Fits (fun unit : BitrateUnit => (unit.size : Rat)) (bitsPerSec bytes durationMillis)
    (humanizeBitrate bytes durationMillis).unit
  mantissa : 1 ≤ bitsPerSec bytes durationMillis →
    bitsPerSec bytes durationMillis < 1000 * tBitsPerSec →
      ∃ mantissa, (humanizeBitrate bytes durationMillis).mantissa = .defined mantissa ∧
        1 ≤ mantissa ∧ mantissa < 1000

/-- The rate is below the first bound, or no other bound lies between the rate and
the byte count. -/
def CountTellsRate (bytes durationMillis : Nat) : Prop :=
  bytes * 8 * 1000 < kBitsPerSec * durationMillis ∨
    ∀ bound ∈ [mBitsPerSec, gBitsPerSec, tBitsPerSec],
      bytes < bound ↔ bytes * 8 * 1000 < bound * durationMillis

instance (bytes durationMillis : Nat) : Decidable (CountTellsRate bytes durationMillis) :=
  inferInstanceAs (Decidable (_ ∨ _))

section Bitrate

variable {bytes durationMillis : Nat}

theorem humanizeBitrate_unit (bytes durationMillis : Nat) :
    (humanizeBitrate bytes durationMillis).unit =
      BitrateUnit.ladder.climb (BitrateUnit.reached bytes durationMillis) := by
  simp only [humanizeBitrate, Ladder.climb, BitrateUnit.ladder, climb, BitrateUnit.reached]
  by_cases below : (Rate.ofBits (bytes * 8) durationMillis).lt kBitsPerSec
  · simp only [below, if_true, Bool.not_true, Bool.false_eq_true, if_false]
  · simp only [below, BitrateUnit.size, decide_eq_true_eq, ← not_lt, ite_not, Bool.not_false,
      if_true, Bool.false_eq_true, if_false]

theorem humanizeBitrate_mantissa (lasts : 1 ≤ durationMillis) :
    (humanizeBitrate bytes durationMillis).mantissa =
      .defined (bitsPerSec bytes durationMillis /
        (humanizeBitrate bytes durationMillis).unit.size) := by
  have rate : (humanizeBitrate bytes durationMillis).rate =
      .defined (bitsPerSec bytes durationMillis) := Rate.ofBits_eq lasts
  rw [Bitrate.mantissa, rate, Rate.div]

/-- The tests agree with the rate on every rung if and only if the byte count tells
where the rate stands. -/
theorem rungs_agree_iff :
    (∀ unit ∈ BitrateUnit.ladder.rest,
      (kBitsPerSec * durationMillis ≤ bytes * 8 * 1000 ∧ (unit = .kbits ∨ unit.size ≤ bytes) ↔
        unit.size * durationMillis ≤ bytes * 8 * 1000)) ↔
      CountTellsRate bytes durationMillis := by
  rw [CountTellsRate]
  by_cases fast : kBitsPerSec * durationMillis ≤ bytes * 8 * 1000
  · have negated : ∀ bound : Nat,
        (bound ≤ bytes ↔ bound * durationMillis ≤ bytes * 8 * 1000) ↔
          (bytes < bound ↔ bytes * 8 * 1000 < bound * durationMillis) := by
      intro bound
      rw [← not_lt, ← not_lt, not_iff_not]
    rw [or_iff_right (not_lt.mpr fast)]
    simp only [BitrateUnit.ladder, List.forall_mem_cons, fast, true_and, true_or,
      BitrateUnit.size, reduceCtorEq, false_or, negated, List.not_mem_nil, false_implies,
      implies_true]
  · constructor
    · intro _
      exact Or.inl (not_le.mp fast)
    · rintro _ unit member
      constructor
      · rintro ⟨first, _⟩
        exact absurd first fast
      · intro reaches
        have lower := Nat.mul_le_mul_right durationMillis (BitrateUnit.kbits_le member)
        exact absurd (le_trans lower reaches) fast

theorem fits_unit_iff (lasts : 1 ≤ durationMillis) :
    Fits (fun unit : BitrateUnit => (unit.size : Rat)) (bitsPerSec bytes durationMillis)
        (humanizeBitrate bytes durationMillis).unit ↔
      CountTellsRate bytes durationMillis := by
  rw [humanizeBitrate_unit, BitrateUnit.ladder.fits_climb_iff, ← rungs_agree_iff]
  apply forall₂_congr
  intro unit member
  rw [BitrateUnit.reached_up_to_iff lasts member, le_bitsPerSec_iff lasts]

theorem fits_bitrate_iff (lasts : 1 ≤ durationMillis) :
    FitsBitrate bytes durationMillis ↔ CountTellsRate bytes durationMillis := by
  constructor
  · intro fitting
    exact (fits_unit_iff lasts).mp fitting.unit
  · intro tells
    have fits := (fits_unit_iff lasts).mpr tells
    constructor
    · exact fits
    · intro some within
      have reached : (BitrateUnit.bits.size : Rat) ≤ bitsPerSec bytes durationMillis := by
        rwa [BitrateUnit.size, Nat.cast_one]
      have larger : (1 : Rat) < 1000 := by
        norm_num
      exact ⟨_, humanizeBitrate_mantissa lasts, fits.one_le_mantissa BitrateUnit.graded reached,
        fits.mantissa_lt BitrateUnit.graded larger within⟩

end Bitrate

/-- Bytes moved in a millisecond or more.  Their bits fit in a machine word. -/
structure Measurement where
  bytes : Nat
  durationMillis : Nat
  below : bytes < 2 ^ 61
  lasts : 1 ≤ durationMillis

/-- All that is printed of some measurements is in the unit that fits it, and equal
bitrates are in the same unit. -/
structure PrintedToFit (measurements : Set Measurement) : Prop where
  bitrates : ∀ measured ∈ measurements, FitsBitrate measured.bytes measured.durationMillis
  byteCounts : ∀ measured ∈ measurements, FitsBytes measured.bytes
  sameUnit : ∀ measured ∈ measurements, ∀ other ∈ measurements,
    bitsPerSec measured.bytes measured.durationMillis =
        bitsPerSec other.bytes other.durationMillis →
      (humanizeBitrate measured.bytes measured.durationMillis).unit =
        (humanizeBitrate other.bytes other.durationMillis).unit

/-- Measurements are printed in the units that fit if and only if each byte count
tells where its rate stands. -/
theorem printedToFit_iff (measurements : Set Measurement) :
    PrintedToFit measurements ↔
      ∀ measured ∈ measurements, CountTellsRate measured.bytes measured.durationMillis := by
  constructor
  · intro fitting measured member
    exact (fits_bitrate_iff measured.lasts).mp (fitting.bitrates measured member)
  · intro tells
    have bitrates : ∀ measured ∈ measurements,
        FitsBitrate measured.bytes measured.durationMillis := by
      intro measured member
      exact (fits_bitrate_iff measured.lasts).mpr (tells measured member)
    constructor
    · exact bitrates
    · intro measured _
      exact fits_bytes measured.bytes
    · intro measured member other otherMem same
      have fits := (bitrates measured member).unit
      rw [same] at fits
      exact fits.unique BitrateUnit.ladder.injective (bitrates other otherMem).unit

/-- One megabit per second, measured over one second and over ten. -/
theorem one_rate_two_units :
    bitsPerSec 125000 1000 = 1000000 ∧ bitsPerSec 1250000 10000 = 1000000 ∧
      (humanizeBitrate 125000 1000).unit = .kbits ∧
      (humanizeBitrate 125000 1000).mantissa = .defined 1000 ∧
      (humanizeBitrate 1250000 10000).unit = .mbits ∧
      (humanizeBitrate 1250000 10000).mantissa = .defined 1 ∧
      ¬ PrintedToFit Set.univ := by
  have same : bitsPerSec 125000 1000 = bitsPerSec 1250000 10000 := by
    decide +kernel
  have other : (humanizeBitrate 125000 1000).unit ≠ (humanizeBitrate 1250000 10000).unit := by
    decide +kernel
  have misfit : ¬ PrintedToFit Set.univ := by
    intro fitting
    exact other (fitting.sameUnit ⟨125000, 1000, by decide, by decide⟩ trivial
      ⟨1250000, 10000, by decide, by decide⟩ trivial same)
  exact ⟨by decide +kernel, by decide +kernel, by decide +kernel, by decide +kernel,
    by decide +kernel, by decide +kernel, misfit⟩

end Iperf
