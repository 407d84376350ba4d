import Chargeback.Journal.Basic
import Chargeback.Journal.Event

/-!
# Steps

A computation can be written with its divisions in the open (`Stepwise`): it says where it divides,
what, and by what (`Stepwise.Quotient`), and how it goes on, whatever the quotient is. It does not
divide itself. That is left to an operation, with which the computation has a value and reports
effects (`Stepwise.eval`), and makes a list of divisions (`Stepwise.quotients`).

Such a computation unfolds another one (`Stepwise.Unfolds`) if it has the same value, reports the
same effects and divides by nothing improper. What unfolds the parts of a computation unfolds the
whole (`Unfolds.bind`, `Unfolds.mapM`, `Unfolds.foldlM`). The computation that is unfolded uses the
same arithmetic with its division replaced by the operation (`Number.withDivision`).

Two things keep a division from being left out of the list. A computation in the open learns
nothing about an operation but the quotients on its list, so that it cannot tell operations apart
that agree on these (`Stepwise.eval_congr`). And where it unfolds another one for every operation,
it makes no division with the arithmetic it is given, since that one could not follow the operation.
-/

namespace Chargeback

/-- The same arithmetic with another division. -/
@[reducible]
def Number.withDivision {α : Type} [number : Number α] (d : α → α → α) : Number α :=
  { number with div := d }

/-- Numbers among which counts are positive and one can be divided by. -/
class Number.Counted (α : Type) [Number α] : Prop where
  ofNat_pos {n : Nat} : 0 < n → (0 : α) < Number.ofNat n
  isUsable_one : Number.isUsable (1 : α) = true

namespace Stepwise

/-- Where a report or an estimation divides. -/
inductive Site where
  /-- A time by the width of the grid. -/
  | grid
  /-- The sum of a series by the number of its samples. -/
  | mean
  /-- An amount of a resource by the amount that makes a unit. -/
  | unit
  /-- A cost by the idle coefficient of its cluster. -/
  | idleCoefficient
  /-- The pooled cost by the number of buckets. -/
  | share
  /-- A cost by the number of periods. -/
  | period
  /-- What was requested and not used by what was allocated. -/
  | idleFraction
  /-- Idle fractions, weighed by costs, by the sum of the costs. -/
  | overall
  /-- A monthly bill by the hours of a month. -/
  | month
  /-- The milliseconds of a window by those of an hour. -/
  | hour
  /-- The observed cost of a cluster by its bill over the same window. -/
  | bill
  deriving DecidableEq, Repr

/-- One division. -/
structure Quotient (α : Type) where
  site : Site
  dividend : α
  divisor : α
  deriving Repr

/-- A proper divisor is positive; an idle coefficient and a bill are finite, too. -/
structure Quotient.IsProper {α : Type} [Number α] (q : Quotient α) : Prop where
  pos : 0 < q.divisor
  isFinite : q.site = .idleCoefficient ∨ q.site = .bill → Number.isFinite q.divisor = true

/-- The value of a division, by an operation. -/
def Quotient.value {α : Type} (q : Quotient α) (d : α → α → α) : α := d q.dividend q.divisor

end Stepwise

/-- A computation with its divisions in the open. -/
inductive Stepwise (α β : Type) where
  | done (b : β)
  | tell (effects : List (Effect α)) (next : Stepwise α β)
  /-- A division, and what comes after it, whatever the quotient is. -/
  | divided (q : Stepwise.Quotient α) (next : α → Stepwise α β)

namespace Stepwise

variable {α β γ : Type}

/-- Goes on after a computation. -/
protected def bind : Stepwise α β → (β → Stepwise α γ) → Stepwise α γ
  | .done b, f => f b
  | .tell effects next, f => .tell effects (next.bind f)
  | .divided q next, f => .divided q fun x => (next x).bind f

instance : Monad (Stepwise α) where
  pure := .done
  bind := Stepwise.bind

instance : LawfulMonad (Stepwise α) := LawfulMonad.mk' (Stepwise α)
  (fun x => by
    induction x with
    | done b => rfl
    | tell effects next ih => exact congrArg (tell effects) ih
    | divided q next ih => exact congrArg (divided q) (funext ih))
  (fun _ _ => rfl)
  (fun x f g => by
    induction x with
    | done b => rfl
    | tell effects next ih => exact congrArg (tell effects) ih
    | divided q next ih => exact congrArg (divided q) (funext ih))

/-- Divides, in the open. -/
def divide (site : Site) (dividend divisor : α) : Stepwise α α :=
  .divided ⟨site, dividend, divisor⟩ .done

/-- A computation that does not divide. -/
def undivided (y : Journaled (Effect α) β) : Stepwise α β := .tell y.journal (.done y.value)

/-! ## Evaluation -/

variable (d : α → α → α)

/-- The value of a computation and the effects that it reports, by an operation that divides. -/
def eval : Stepwise α β → Journaled (Effect α) β
  | .done b => ⟨b, []⟩
  | .tell effects next => ⟨next.eval.value, effects ++ next.eval.journal⟩
  | .divided q next => (next (q.value d)).eval

/-- The divisions of a computation, in order, by an operation that divides. -/
def quotients : Stepwise α β → List (Quotient α)
  | .done _ => []
  | .tell _ next => next.quotients
  | .divided q next => q :: (next (q.value d)).quotients

variable {d}

theorem eval_bind (x : Stepwise α β) (f : β → Stepwise α γ) :
    (x >>= f).eval d = x.eval d >>= fun b => (f b).eval d := by
  induction x with
  | done b => rfl
  | tell effects next ih =>
    change Journaled.mk ((next >>= f).eval d).value (effects ++ ((next >>= f).eval d).journal) = _
    rw [ih]
    exact congrArg (Journaled.mk _) (List.append_assoc ..).symm
  | divided q next ih => exact ih (q.value d)

theorem quotients_bind (x : Stepwise α β) (f : β → Stepwise α γ) :
    (x >>= f).quotients d = x.quotients d ++ (f (x.eval d).value).quotients d := by
  induction x with
  | done b => rfl
  | tell effects next ih => exact ih
  | divided q next ih => exact congrArg (q :: ·) (ih (q.value d))

@[simp] theorem eval_undivided (y : Journaled (Effect α) β) : (undivided y).eval d = y :=
  congrArg (Journaled.mk y.value) (List.append_nil y.journal)

/-- **A computation cannot tell operations apart** that agree on its divisions. -/
theorem eval_congr {d' : α → α → α} {x : Stepwise α β}
    (h : ∀ q ∈ x.quotients d, q.value d' = q.value d) :
    x.eval d' = x.eval d ∧ x.quotients d' = x.quotients d := by
  induction x with
  | done b => exact ⟨rfl, rfl⟩
  | tell effects next ih =>
    obtain ⟨heval, hquotients⟩ := ih h
    exact ⟨by rw [eval, eval, heval], hquotients⟩
  | divided q next ih =>
    obtain ⟨hq, hnext⟩ := List.forall_mem_cons.mp h
    obtain ⟨heval, hquotients⟩ := ih (q.value d) hnext
    rw [eval, eval, quotients, quotients, hq]
    exact ⟨heval, congrArg (q :: ·) hquotients⟩

/-! ## Unfolding -/

variable [Number α]

/-- By the operation `d`, `x` computes what `y` does, and none of its divisions is improper. -/
structure Unfolds (x : Stepwise α β) (d : α → α → α) (y : Journaled (Effect α) β) : Prop where
  eval_eq : x.eval d = y
  proper : ∀ q ∈ x.quotients d, q.IsProper

namespace Unfolds

theorem pure (b : β) : Unfolds (pure b) d (pure b) := ⟨rfl, fun _ h => nomatch h⟩

theorem undivided (y : Journaled (Effect α) β) : Unfolds (undivided y) d y :=
  ⟨eval_undivided y, fun _ h => nomatch h⟩

/-- A division with a proper divisor. -/
theorem divide {site : Site} {x y : α} (h : (Quotient.mk site x y).IsProper) :
    Unfolds (divide site x y) d (Pure.pure (d x y)) where
  eval_eq := rfl
  proper q hq := by
    obtain rfl := List.mem_singleton.mp hq
    exact h

/-- What comes after a part need only unfold for the value that the part has. -/
theorem bind_value {x : Stepwise α β} {y : Journaled (Effect α) β} {f : β → Stepwise α γ}
    {g : β → Journaled (Effect α) γ} (hx : x.Unfolds d y)
    (hf : (f y.value).Unfolds d (g y.value)) : (x >>= f).Unfolds d (y >>= g) where
  eval_eq := by
    rw [eval_bind, hx.eval_eq]
    exact congrArg (fun z : Journaled (Effect α) γ => Journaled.mk z.value (y.journal ++ z.journal))
      hf.eval_eq
  proper q hq := by
    rw [quotients_bind, hx.eval_eq] at hq
    rcases List.mem_append.mp hq with hq | hq
    · exact hx.proper q hq
    · exact hf.proper q hq

theorem bind {x : Stepwise α β} {y : Journaled (Effect α) β} {f : β → Stepwise α γ}
    {g : β → Journaled (Effect α) γ} (hx : x.Unfolds d y) (hf : ∀ b, (f b).Unfolds d (g b)) :
    (x >>= f).Unfolds d (y >>= g) :=
  hx.bind_value (hf y.value)

/-- A part that gives a value and reports nothing. -/
theorem bind_pure {x : Stepwise α β} {b : β} {f : β → Stepwise α γ} {z : Journaled (Effect α) γ}
    (hx : x.Unfolds d (Pure.pure b)) (hf : (f b).Unfolds d z) : (x >>= f).Unfolds d z :=
  hx.bind_value (g := fun _ => z) hf

theorem ite {p : Prop} [Decidable p] {x x' : Stepwise α β} {y y' : Journaled (Effect α) β}
    (h : p → x.Unfolds d y) (h' : ¬ p → x'.Unfolds d y') :
    (if p then x else x').Unfolds d (if p then y else y') := by
  split
  · next hp => exact h hp
  · next hp => exact h' hp

theorem ite_pure {p : Prop} [Decidable p] {x x' : Stepwise α β} {b b' : β}
    (h : p → x.Unfolds d (Pure.pure b)) (h' : ¬ p → x'.Unfolds d (Pure.pure b')) :
    (if p then x else x').Unfolds d (Pure.pure (if p then b else b')) := by
  split
  · next hp => exact h hp
  · next hp => exact h' hp

theorem mapM {f : γ → Stepwise α β} {g : γ → Journaled (Effect α) β} {cs : List γ}
    (h : ∀ c, (f c).Unfolds d (g c)) : (cs.mapM f).Unfolds d (cs.mapM g) := by
  induction cs with
  | nil => exact .pure []
  | cons c cs ih =>
    simp only [List.mapM_cons]
    exact (h c).bind fun b => ih.bind fun bs => .pure (b :: bs)

theorem mapM_pure {f : γ → Stepwise α β} {g : γ → β} {cs : List γ}
    (h : ∀ c, (f c).Unfolds d (Pure.pure (g c))) :
    (cs.mapM f).Unfolds d (Pure.pure (cs.map g)) := by
  induction cs with
  | nil => exact .pure []
  | cons c cs ih =>
    rw [List.mapM_cons]
    exact (h c).bind_pure (ih.bind_pure (.pure (g c :: cs.map g)))

theorem foldlM {f : β → γ → Stepwise α β} {g : β → γ → Journaled (Effect α) β} {cs : List γ}
    (h : ∀ b c, (f b c).Unfolds d (g b c)) (b : β) :
    (cs.foldlM f b).Unfolds d (cs.foldlM g b) := by
  induction cs generalizing b with
  | nil => exact .pure b
  | cons c cs ih =>
    simp only [List.foldlM_cons]
    exact (h b c).bind ih

theorem foldlM_pure {f : β → γ → Stepwise α β} {g : β → γ → β} {cs : List γ}
    (h : ∀ b c, (f b c).Unfolds d (Pure.pure (g b c))) (b : β) :
    (cs.foldlM f b).Unfolds d (Pure.pure (cs.foldl g b)) := by
  induction cs generalizing b with
  | nil => exact .pure b
  | cons c cs ih =>
    rw [List.foldlM_cons]
    exact (h b c).bind_pure (ih (g b c))

end Unfolds

end Stepwise

end Chargeback
