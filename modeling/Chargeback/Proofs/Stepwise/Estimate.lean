import Chargeback.Proofs.Idle.Run
import Chargeback.Proofs.Stepwise.Pricing

/-!
# Estimations step by step

An idle estimation with its divisions in the open (`idleCoefficients_unfolds`). Beyond those of
pricing, a bill is divided by the hours of a month, a window by the milliseconds of an hour, and the
observed cost of a cluster by its bill over the window, if that can be divided by.
-/

namespace Chargeback.Stepwise

/-- An estimation with its divisions in the open. -/
abbrev EstimateM (α : Type) := ExceptT Fault (Stepwise α)

/-- Reports effects. -/
def perform {α : Type} (effects : List (Effect α)) : Stepwise.EstimateM α Unit :=
  liftM (undivided (.tellAll effects))

variable {α : Type} [Number α]

/-! ## Bills -/

def hours (w : Window) : Stepwise α α :=
  divide .hour (Number.ofNat w.milliseconds) (Number.ofNat TimeUnit.hour.milliseconds)

def proRated (bill : α) (window : Window) : Stepwise α α := do
  return (← divide .month bill hoursPerMonth) * (← hours window)

/-! ## Clusters -/

def observedCost (inventory : Inventory α) (terms : Terms α) (cluster : String) :
    Stepwise α α := do
  let own := inventory.values.filter fun w => w.cluster == cluster
  let costs ← own.mapM fun w => Priced.resourceTotal <$> price w terms 1
  return Number.sum costs

def outcome (inventory : Inventory α) (billing : Billing) (terms : Terms α) (window : Window)
    (cluster : String) : Stepwise.EstimateM α (Outcome α) := do
  match (billing.get? cluster).filter ClusterTotals.hasData with
  | none => return .unbilled .noSamples
  | some totals =>
    let billed ← proRated (← monthlyBill cluster totals terms.discount) window
    if !Number.isUsable billed then return .unbilled .zeroCost
    let observed ← observedCost inventory terms cluster
    if !Number.isUsable observed then return .unobserved billed
    return .estimated observed billed

def coefficient : Outcome α → Stepwise α α
  | .estimated observed billed => divide .bill observed billed
  | _ => return 1

/-- What is reported about a cluster, given its coefficient. -/
def effects (cluster : String) (o : Outcome α) (coefficient : α) : List (Effect α) :=
  match o with
  | .unbilled gap => [.event (.missingBilling cluster gap), .count .withoutBilling]
  | .unobserved billed => [.event (.unobservedCluster cluster billed), .count .withoutBilling]
  | .estimated observed billed =>
    [.event (.idleCoefficient cluster observed billed coefficient),
      .coefficient cluster coefficient]

/-! ## Estimations -/

/-- Asks a billing source. -/
def ask (source : BillingSource) (window : String) (offset : Option String) :
    Stepwise.EstimateM α Billing :=
  ExceptT.mk (undivided (source.ask window offset).run)

def visit (inventory : Inventory α) (billing : Billing) (terms : Terms α) (window : Window)
    (found : Index α) (cluster : String) : Stepwise.EstimateM α (Index α) := do
  let o ← outcome inventory billing terms window cluster
  let c ← coefficient o
  perform (effects cluster o c)
  return found.insert cluster c

def idleCoefficients (inventory : Inventory α) (source : BillingSource)
    (customPricing : Option CustomPricing) (discount : α) (window : String)
    (offset : Option String) : Stepwise.EstimateM α (Index α) := do
  let length ← Window.read window
  let billing ← ask source window offset
  let terms : Terms α := { cadence := .cumulative, discount, customPricing }
  (Inventory.clusters inventory).foldlM (visit inventory billing terms length) ∅

/-! ## What they unfold -/

section Bind

variable {β γ : Type}

theorem run_bind_unfolds {x : Stepwise.EstimateM α β} {y : Chargeback.EstimateM α β}
    {f : β → Stepwise.EstimateM α γ} {g : β → Chargeback.EstimateM α γ}
    (hx : x.run.Unfolds d y.run)
    (hf : ∀ b, y.run.value = .ok b → (f b).run.Unfolds d (g b).run) :
    (x >>= f).run.Unfolds d (y >>= g).run := by
  rw [ExceptT.run_bind, ExceptT.run_bind]
  refine hx.bind_value ?_
  cases h : y.run.value with
  | error e => exact .pure _
  | ok b => exact hf b h

theorem run_pure_unfolds (b : β) :
    (pure b : Stepwise.EstimateM α β).run.Unfolds d (pure b : Chargeback.EstimateM α β).run :=
  .pure _

theorem run_liftM_unfolds (x : Except Fault β) :
    (liftM x : Stepwise.EstimateM α β).run.Unfolds d (liftM x : Chargeback.EstimateM α β).run :=
  .pure x

/-- A part that gives a value, neither failing nor reporting. -/
theorem run_bind_pure_unfolds {x : Stepwise α β} {b : β} {f : β → Stepwise.EstimateM α γ}
    {z : Chargeback.EstimateM α γ} (hx : x.Unfolds d (pure b)) (hf : (f b).run.Unfolds d z.run) :
    ((liftM x : Stepwise.EstimateM α β) >>= f).run.Unfolds d z.run := by
  have hrun : (liftM x : Stepwise.EstimateM α β).run.Unfolds d (pure (Except.ok b)) :=
    hx.bind_pure (.pure _)
  rw [ExceptT.run_bind]
  exact hrun.bind_pure hf

theorem run_liftM_journaled_unfolds {x : Stepwise α β} {y : Journaled (Effect α) β}
    (hx : x.Unfolds d y) :
    (liftM x : Stepwise.EstimateM α β).run.Unfolds d (liftM y : Chargeback.EstimateM α β).run :=
  hx.bind fun b => .pure (Except.ok b)

theorem run_ite_unfolds {p : Prop} [Decidable p] {x x' : Stepwise.EstimateM α β}
    {y y' : Chargeback.EstimateM α β} (h : x.run.Unfolds d y.run) (h' : x'.run.Unfolds d y'.run) :
    (if p then x else x').run.Unfolds d (if p then y else y').run := by
  split
  · exact h
  · exact h'

theorem run_foldlM_unfolds {f : β → γ → Stepwise.EstimateM α β}
    {g : β → γ → Chargeback.EstimateM α β} {cs : List γ}
    (h : ∀ b c, (f b c).run.Unfolds d (g b c).run) (b : β) :
    (cs.foldlM f b).run.Unfolds d (cs.foldlM g b).run := by
  induction cs generalizing b with
  | nil => exact .pure _
  | cons c cs ih =>
    simp only [List.foldlM_cons]
    exact run_bind_unfolds (h b c) fun b' _ => ih b'

end Bind

variable {d : α → α → α}

/-- An observed cost is divided by a bill that can be divided by. -/
theorem coefficient_unfolds {o : Outcome α}
    (h : ∀ observed billed, o = .estimated observed billed → Number.isUsable billed = true) :
    (coefficient o).Unfolds d
      (pure (@Outcome.coefficient α (.withDivision d) o)) := by
  cases o with
  | unbilled gap => exact .pure 1
  | unobserved billed => exact .pure 1
  | estimated observed billed =>
    obtain ⟨hpos, hfinite⟩ := Bool.and_eq_true_iff.mp (h observed billed rfl)
    exact .divide ⟨of_decide_eq_true hpos, fun _ => hfinite⟩

variable [Number.Counted α]

theorem proRated_unfolds (bill : α) (window : Window) :
    (proRated bill window).Unfolds d
      (pure (@Chargeback.proRated α (.withDivision d) bill window)) := by
  have hmonth : (divide .month bill hoursPerMonth).Unfolds d (pure (d bill hoursPerMonth)) :=
    .divide (isProper_ofNat (by decide) (by decide))
  have hhours : (hours window).Unfolds d
      (pure (@Window.hours α (.withDivision d) window)) :=
    .divide (isProper_ofNat (by decide) (by decide))
  exact hmonth.bind_pure (hhours.bind_pure (.pure _))

theorem observedCost_unfolds (inventory : Inventory α) (terms : Terms α) (cluster : String) :
    (observedCost inventory terms cluster).Unfolds d
      (@Chargeback.observedCost α (.withDivision d) inventory terms cluster) := by
  refine Unfolds.bind (.mapM fun w => ?_) fun costs => .pure _
  exact (price_unfolds w terms Number.Counted.isUsable_one).bind fun p => .pure _

theorem outcome_unfolds (inventory : Inventory α) (billing : Billing) (terms : Terms α)
    (window : Window) (cluster : String) :
    (outcome inventory billing terms window cluster).run.Unfolds d
      (@Chargeback.outcome α (.withDivision d) inventory billing terms window cluster).run := by
  unfold outcome Chargeback.outcome
  cases (billing.get? cluster).filter ClusterTotals.hasData with
  | none => exact run_pure_unfolds _
  | some totals =>
    refine run_bind_unfolds (run_liftM_unfolds _) fun bill _ => ?_
    refine run_bind_pure_unfolds (proRated_unfolds bill window) ?_
    refine run_ite_unfolds (run_pure_unfolds _) ?_
    refine run_bind_unfolds (run_liftM_journaled_unfolds (observedCost_unfolds ..)) fun _ _ => ?_
    exact run_ite_unfolds (run_pure_unfolds _) (run_pure_unfolds _)

theorem visit_unfolds (inventory : Inventory α) (billing : Billing) (terms : Terms α)
    (window : Window) (found : Index α) (cluster : String) :
    (visit inventory billing terms window found cluster).run.Unfolds d
      (@Chargeback.visit α (.withDivision d) inventory billing terms window found cluster).run := by
  refine run_bind_unfolds (outcome_unfolds inventory billing terms window cluster)
    fun o ho => ?_
  refine run_bind_pure_unfolds (coefficient_unfolds fun observed billed he => ?_) ?_
  · subst he
    obtain ⟨_, _, _, _, _, _, h, _⟩ := @eq_of_estimated α (.withDivision d) _ _ _ _ _ _ _ ho
    exact h
  · have heffects : effects cluster o (@Outcome.coefficient α (.withDivision d) o) =
        @Outcome.effects α (.withDivision d) cluster o := by
      cases o <;> rfl
    rw [heffects]
    exact run_bind_unfolds (run_liftM_journaled_unfolds (.undivided _)) fun _ _ =>
      run_pure_unfolds _

theorem idleCoefficients_unfolds (inventory : Inventory α) (source : BillingSource)
    (customPricing : Option CustomPricing) (discount : α) (window : String)
    (offset : Option String) :
    (idleCoefficients inventory source customPricing discount window
      offset).run.Unfolds d
      (@Chargeback.idleCoefficients α (.withDivision d) inventory source customPricing discount
        window offset).run := by
  refine run_bind_unfolds (run_liftM_unfolds _) fun length _ => ?_
  refine run_bind_unfolds (.undivided _) fun billing _ => ?_
  exact run_foldlM_unfolds (visit_unfolds inventory billing _ length) ∅

end Chargeback.Stepwise
