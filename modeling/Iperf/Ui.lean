import Iperf.Message

/-!
# Printing of reports

Of what a report is printed as, the bitrate and the byte counts are modelled: the
bitrate is the only part that a report can leave undefined, and both are printed
in a unit of their own.  Quotients are exact where the program rounds to double
precision, and a number of bits is taken to fit in a machine word, as it does
below 2 ^ 61 bytes.
-/

namespace Iperf

def gb : Nat := 1024 * mb

def tb : Nat := 1024 * gb

def kBitsPerSec : Nat := 1000

def mBitsPerSec : Nat := 1000 * kBitsPerSec

def gBitsPerSec : Nat := 1000 * mBitsPerSec

def tBitsPerSec : Nat := 1000 * gBitsPerSec

/-- A floating-point rate. -/
inductive Rate where
  | defined (bitsPerSec : Rat)
  | infinite
  | nan
  deriving DecidableEq

/-- Bits by milliseconds, per second. -/
def Rate.ofBits (bits durationMillis : Nat) : Rate :=
  if durationMillis = 0 then
    if bits = 0 then .nan else .infinite
  else
    .defined ((bits : Rat) / durationMillis * 1000)

/-- No comparison with an undefined rate holds. -/
def Rate.lt (rate : Rate) (bound : Nat) : Bool :=
  match rate with
  | .defined bitsPerSec => bitsPerSec < bound
  | .infinite => false
  | .nan => false

/-- The unit a bitrate is printed in. -/
inductive BitrateUnit where
  | bits
  | kbits
  | mbits
  | gbits
  | tbits
  deriving DecidableEq

/-- The bits per second that a unit stands for. -/
def BitrateUnit.size : BitrateUnit → Nat
  | .bits => 1
  | .kbits => kBitsPerSec
  | .mbits => mBitsPerSec
  | .gbits => gBitsPerSec
  | .tbits => tBitsPerSec

structure Bitrate where
  rate : Rate
  unit : BitrateUnit
  deriving DecidableEq

/-- Division by a constant that is not zero. -/
def Rate.div (rate : Rate) (size : Nat) : Rate :=
  match rate with
  | .defined bitsPerSec => .defined (bitsPerSec / size)
  | .infinite => .infinite
  | .nan => .nan

/-- The number in front of the unit. -/
def Bitrate.mantissa (bitrate : Bitrate) : Rate :=
  bitrate.rate.div bitrate.unit.size

/-- The first unit is chosen by the rate, the others by the number of bytes. -/
def humanizeBitrate (bytes durationMillis : Nat) : Bitrate :=
  let bits := bytes * 8
  let rate := Rate.ofBits bits durationMillis
  { rate
    unit :=
      if rate.lt kBitsPerSec then .bits
      else if bytes < mBitsPerSec then .kbits
      else if bytes < gBitsPerSec then .mbits
      else if bytes < tBitsPerSec then .gbits
      else .tbits }

/-- The unit a byte count is printed in. -/
inductive ByteUnit where
  | bytes
  | kbytes
  | mbytes
  | gbytes
  | tbytes
  deriving DecidableEq

/-- The bytes that a unit stands for. -/
def ByteUnit.size : ByteUnit → Nat
  | .bytes => 1
  | .kbytes => kb
  | .mbytes => mb
  | .gbytes => gb
  | .tbytes => tb

structure ByteCount where
  mantissa : Rat
  unit : ByteUnit
  deriving DecidableEq

def humanizeBytes (bytes : Nat) : ByteCount :=
  if bytes < kb then { mantissa := bytes, unit := .bytes }
  else if bytes < mb then { mantissa := (bytes : Rat) / kb, unit := .kbytes }
  else if bytes < gb then { mantissa := (bytes : Rat) / mb, unit := .mbytes }
  else if bytes < tb then { mantissa := (bytes : Rat) / gb, unit := .gbytes }
  else { mantissa := (bytes : Rat) / tb, unit := .tbytes }

/-- The bitrate of a printed report, be it of an interval or a summary. -/
def printStats (stats : StreamStats) : Bitrate :=
  humanizeBitrate stats.bytesTransferred stats.duration

/-- A rate that is a number. -/
def Rate.IsDefined (rate : Rate) : Prop :=
  ∃ bitsPerSec, rate = .defined bitsPerSec

/-- A bitrate is defined if and only if some time has passed. -/
theorem humanizeBitrate_isDefined_iff (bytes durationMillis : Nat) :
    (humanizeBitrate bytes durationMillis).rate.IsDefined ↔ 1 ≤ durationMillis := by
  simp only [humanizeBitrate, Rate.IsDefined, Rate.ofBits]
  by_cases none : durationMillis = 0
  · simp only [none, if_true]
    constructor
    · rintro ⟨bitsPerSec, same⟩
      split at same <;> cases same
    · intro some
      exact absurd some (by decide)
  · simp only [none, if_false]
    constructor
    · intro _
      exact Nat.one_le_iff_ne_zero.mpr none
    · intro _
      exact ⟨_, rfl⟩

end Iperf
