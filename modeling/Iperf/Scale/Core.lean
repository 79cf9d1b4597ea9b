import Mathlib.Algebra.Order.Field.Basic
import Mathlib.Data.List.Nodup

/-!
# Scales of units

A scale gives every unit a size.  The unit that fits a quantity is the largest
one that does not exceed it, or the smallest one where all of them do.  A ladder
of tests picks a unit rung by rung; it picks the one that fits if and only if
the tests tell where the quantity stands.
-/

namespace Iperf.Scale

universe u v

variable {υ : Type u} {α : Type v}

/-- The largest unit that does not exceed a quantity, or the smallest one where
all of them do. -/
structure Fits [LE α] (size : υ → α) (quantity : α) (unit : υ) : Prop where
  reached : size unit ≤ quantity ∨ ∀ other, size unit ≤ size other
  largest : ∀ other, size other ≤ quantity → size other ≤ size unit

section Order

variable [LinearOrder α] {size : υ → α} {quantity : α} {unit other : υ}

private theorem Fits.size_le (fits : Fits size quantity unit)
    (otherFits : Fits size quantity other) : size unit ≤ size other := by
  rcases fits.reached with reached | smallest
  · exact otherFits.largest unit reached
  · exact smallest other

/-- One quantity is fitted by one unit. -/
theorem Fits.unique (injective : Function.Injective size) (fits : Fits size quantity unit)
    (otherFits : Fits size quantity other) : unit = other := by
  apply injective
  exact le_antisymm (fits.size_le otherFits) (otherFits.size_le fits)

/-- Where some unit is reached, the one that fits is. -/
theorem Fits.le_of_reached (fits : Fits size quantity unit) (reached : size other ≤ quantity) :
    size unit ≤ quantity := by
  rcases fits.reached with fitting | smallest
  · exact fitting
  · exact le_trans (smallest other) reached

end Order

/-! ## Mantissas -/

/-- Every unit but the last has another one that is `base` times as large. -/
structure Graded [Mul α] [Zero α] [LT α] (size : υ → α) (base : α) (last : υ) : Prop where
  positive : ∀ unit, 0 < size unit
  next : ∀ unit, unit = last ∨ ∃ other, size other = base * size unit

section Field

variable [Field α] [LinearOrder α] [IsStrictOrderedRing α] {size : υ → α} {base quantity : α}
  {last unit : υ}

/-- In the unit that fits it, a quantity that reaches some unit is at least one. -/
theorem Fits.one_le_mantissa {other : υ} (fits : Fits size quantity unit)
    (graded : Graded size base last) (reached : size other ≤ quantity) :
    1 ≤ quantity / size unit := by
  rw [one_le_div (graded.positive unit)]
  exact fits.le_of_reached reached

/-- In the unit that fits it, a quantity that does not leave the scale is less than
the base. -/
theorem Fits.mantissa_lt (fits : Fits size quantity unit) (graded : Graded size base last)
    (larger : 1 < base) (within : quantity < base * size last) :
    quantity / size unit < base := by
  have positive := graded.positive unit
  rw [div_lt_iff₀ positive]
  rcases graded.next unit with rfl | ⟨other, next⟩
  · exact within
  · by_contra exceeded
    rw [not_lt, ← next] at exceeded
    have above : size unit < size other := by
      rw [next]
      exact lt_mul_of_one_lt_left positive larger
    exact absurd (fits.largest other exceeded) (not_le.mpr above)

end Field

/-! ## Ladders -/

/-- Climb the units in turn while the next one is said to be reached. -/
def climb (reached : υ → Bool) (unit : υ) : List υ → υ
  | [] => unit
  | next :: rest => if reached next then climb reached next rest else unit

/-- All units in ascending order. -/
structure Ladder [LT α] (size : υ → α) where
  first : υ
  rest : List υ
  ascending : (first :: rest).Pairwise (size · < size ·)
  complete : ∀ unit, unit ∈ first :: rest

/-- The unit a ladder of tests picks. -/
def Ladder.climb [LT α] {size : υ → α} (ladder : Ladder size) (reached : υ → Bool) : υ :=
  Scale.climb reached ladder.first ladder.rest

section Climb

variable [LinearOrder α] {size : υ → α} {reached : υ → Bool}

theorem first_le_climb {first : υ} {rest : List υ}
    (ascending : (first :: rest).Pairwise (size · < size ·)) :
    size first ≤ size (climb reached first rest) := by
  induction rest generalizing first with
  | nil => exact le_rfl
  | cons next rest ih =>
      rcases List.pairwise_cons.mp ascending with ⟨below, above⟩
      by_cases reach : reached next
      · simp only [climb, reach, if_true]
        exact le_trans (below next (List.mem_cons_self ..)).le (ih above)
      · simp only [climb, reach, if_false, Bool.false_eq_true]
        exact le_rfl

/-- A unit is climbed to if and only if every test up to it succeeds. -/
theorem le_climb_iff {first other : υ} {rest : List υ}
    (ascending : (first :: rest).Pairwise (size · < size ·)) (member : other ∈ rest) :
    size other ≤ size (climb reached first rest) ↔
      ∀ lower ∈ rest, size lower ≤ size other → reached lower := by
  induction rest generalizing first with
  | nil => cases member
  | cons next rest ih =>
      rcases List.pairwise_cons.mp ascending with ⟨below, above⟩
      have larger := (List.pairwise_cons.mp above).1
      have nextLe : size next ≤ size other := by
        rcases List.mem_cons.mp member with rfl | later
        · exact le_rfl
        · exact (larger other later).le
      rw [List.forall_mem_cons]
      by_cases reach : reached next
      · simp only [climb, reach, if_true, implies_true, true_and]
        rcases List.mem_cons.mp member with rfl | later
        · constructor
          · intro _ lower lowerMem lowerLe
            exact absurd (larger lower lowerMem) (not_lt.mpr lowerLe)
          · intro _
            exact first_le_climb above
        · exact ih above later
      · simp only [climb, reach, if_false, Bool.false_eq_true]
        constructor
        · intro otherLe
          exact absurd (below other member) (not_lt.mpr otherLe)
        · intro all
          exact absurd (all.1 nextLe) id

namespace Ladder

variable {quantity : α} (ladder : Ladder size)

theorem first_le (unit : υ) : size ladder.first ≤ size unit := by
  rcases List.mem_cons.mp (ladder.complete unit) with rfl | member
  · exact le_rfl
  · exact ((List.pairwise_cons.mp ladder.ascending).1 unit member).le

/-- No two units of a ladder are of the same size. -/
theorem injective (ladder : Ladder size) : Function.Injective size := by
  intro unit other same
  have nodup : ((ladder.first :: ladder.rest).map size).Nodup := by
    rw [List.Nodup, List.pairwise_map]
    exact ladder.ascending.imp ne_of_lt
  exact List.inj_on_of_nodup_map nodup (ladder.complete unit) (ladder.complete other) same

/-- The unit that fits is on the same side of every rung as the quantity. -/
theorem fits_iff {unit : υ} :
    Fits size quantity unit ↔
      ∀ other ∈ ladder.rest, size other ≤ size unit ↔ size other ≤ quantity := by
  constructor
  · intro fits other member
    constructor
    · intro otherLe
      rcases fits.reached with reached | smallest
      · exact le_trans otherLe reached
      · have above := (List.pairwise_cons.mp ladder.ascending).1 other member
        have below := le_trans otherLe (smallest ladder.first)
        exact absurd above (not_lt.mpr below)
    · exact fits.largest other
  · intro sides
    constructor
    · rcases List.mem_cons.mp (ladder.complete unit) with rfl | member
      · exact Or.inr ladder.first_le
      · exact Or.inl ((sides unit member).mp le_rfl)
    · intro other reached
      rcases List.mem_cons.mp (ladder.complete other) with rfl | member
      · exact ladder.first_le unit
      · exact (sides other member).mpr reached

/-- A ladder picks the unit that fits if and only if the tests up to each rung
succeed just where the quantity reaches the rung. -/
theorem fits_climb_iff :
    Fits size quantity (ladder.climb reached) ↔
      ∀ unit ∈ ladder.rest,
        (∀ lower ∈ ladder.rest, size lower ≤ size unit → reached lower) ↔
          size unit ≤ quantity := by
  rw [ladder.fits_iff]
  apply forall₂_congr
  intro unit member
  rw [Ladder.climb, le_climb_iff ladder.ascending member]

/-- A ladder that tests the quantity itself picks the unit that fits. -/
theorem fits_climb (tests : ∀ unit ∈ ladder.rest, reached unit ↔ size unit ≤ quantity) :
    Fits size quantity (ladder.climb reached) := by
  rw [ladder.fits_climb_iff]
  intro unit member
  constructor
  · intro all
    exact (tests unit member).mp (all unit member le_rfl)
  · intro unitLe lower lowerMem lowerLe
    exact (tests lower lowerMem).mpr (le_trans lowerLe unitLe)

end Ladder

end Climb

end Iperf.Scale
