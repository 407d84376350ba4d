import Chargeback.Series.Basic
import Chargeback.Sorting

/-!
# Merging series

Two series are merged by bringing each of them into a normal form, strictly ascending grid times
with one sample each, and joining the two: a time of one side keeps its sample, a time of both sides
gets the sum. If one side is empty the other is only moved to the grid. `Series.join` is the outer
join and `Series.collapse` the normal form.
-/

namespace Chargeback.Series

variable {α : Type} [Number α]

/-- Adds up neighbours at equal times, from left to right. -/
def fuse : Series α → Series α
  | [] => []
  | s :: rest => go s rest
where
  /-- Adds to `s` the samples at its time that follow it. -/
  go (s : Sample α) : Series α → Series α
    | [] => [s]
    | t :: rest => if s.time == t.time then go ⟨s.time, s.value + t.value⟩ rest else s :: go t rest

/-- One sample for each grid time, ascending. Samples without a time are dropped. -/
def collapse (s : Series α) : Series α :=
  fuse (sortBy (fun a b => decide (a.time < b.time)) ((s.filter Sample.isDated).map Sample.onGrid))

/-- The outer join of two ascending series. -/
def join : Series α → Series α → Series α
  | [], ys => ys
  | x :: xs, [] => x :: xs
  | x :: xs, y :: ys =>
    if x.time < y.time then x :: join xs (y :: ys)
    else if y.time < x.time then y :: join (x :: xs) ys
    else ⟨x.time, x.value + y.value⟩ :: join xs ys
  termination_by xs ys => xs.length + ys.length

/-- Merges two series into one. -/
def merge (xs ys : Series α) : Series α :=
  if xs.isEmpty then ys.regrid
  else if ys.isEmpty then xs.regrid
  else join xs.collapse ys.collapse

@[simp] theorem fuse_nil : fuse ([] : Series α) = [] := rfl

@[simp] theorem join_nil_left (ys : Series α) : join [] ys = ys := by simp [join]

@[simp] theorem join_nil_right (xs : Series α) : join xs [] = xs := by cases xs <;> simp [join]

@[simp] theorem merge_nil_left (ys : Series α) : merge [] ys = ys.regrid := rfl

@[simp] theorem merge_nil_right (xs : Series α) : merge xs [] = xs.regrid := by
  cases xs <;> simp [merge]

theorem merge_of_ne_nil {xs ys : Series α} (hx : xs ≠ []) (hy : ys ≠ []) :
    merge xs ys = join xs.collapse ys.collapse := by
  simp [merge, hx, hy]

end Chargeback.Series
