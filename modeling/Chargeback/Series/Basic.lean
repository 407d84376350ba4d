import Chargeback.Number.Basic

/-!
# Series

A series is a list of samples, each a value at a time. Times are moved to the nearest multiple of
`gridWidth`, so that series sampled independently of each other line up. A sample stamped exactly
zero carries no time.
-/

namespace Chargeback

variable {α : Type} [Number α]

/-- One observation. -/
structure Sample (α : Type) where
  time : α
  value : α
  deriving DecidableEq, Repr

/-- Observations over time, in the order in which they were made. -/
abbrev Series (α : Type) := List (Sample α)

/-- The distance between the times at which series are compared. -/
def gridWidth : α := Number.ofNat 10

/-- The multiple of `width` nearest to `t`, a tie going away from zero. -/
def quantize (t width : α) : α := Number.nearest (t / width) * width

namespace Sample

/-- The sample at the nearest grid time. -/
def onGrid (s : Sample α) : Sample α := ⟨quantize s.time gridWidth, s.value⟩

/-- Whether the sample carries a time. -/
def isDated (s : Sample α) : Bool := !(s.time == 0) && !Number.isNaN s.time

end Sample

namespace Series

/-- The sum of the values. -/
def total (s : Series α) : α := Number.sum (s.map Sample.value)

/-- The mean of the values, zero if there are none. -/
def average (s : Series α) : α :=
  if s.isEmpty then 0 else s.total / Number.ofNat s.length

/-- The series with its times on the grid. A sample stamped zero stays as it is. -/
def regrid (s : Series α) : Series α :=
  s.map fun x => if x.time == 0 then x else x.onGrid

@[simp] theorem total_nil : total ([] : Series α) = Number.neutral := rfl

@[simp] theorem average_nil : average ([] : Series α) = 0 := rfl

@[simp] theorem regrid_nil : regrid ([] : Series α) = [] := rfl

@[simp] theorem length_regrid (s : Series α) : s.regrid.length = s.length := by simp [regrid]

end Series

end Chargeback
