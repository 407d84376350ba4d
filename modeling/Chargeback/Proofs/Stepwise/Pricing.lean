import Chargeback.Pricing.Priced
import Chargeback.Proofs.Stepwise.Steps
import Chargeback.Series.Merge

/-!
# Series and prices step by step

The computations on series and the pricing of workloads, with their divisions in the open. Each
follows the definition of the same name step by step, and the lemma about it says so
(`price_unfolds`). A time is divided by the width of the grid, a sum by the number of its samples,
of which there is one at least, an amount by what makes a unit, and a cost by an idle coefficient
that can be divided by.
-/

namespace Chargeback.Stepwise

variable {α : Type} [Number α]

/-! ## Series -/

def quantize (t width : α) : Stepwise α α := do
  return Number.nearest (← divide .grid t width) * width

def onGrid (s : Sample α) : Stepwise α (Sample α) := do
  return ⟨← quantize s.time gridWidth, s.value⟩

def average (s : Series α) : Stepwise α α :=
  if s.isEmpty then return 0 else divide .mean s.total (Number.ofNat s.length)

def regrid (s : Series α) : Stepwise α (Series α) :=
  s.mapM fun x => if x.time == 0 then return x else onGrid x

def collapse (s : Series α) : Stepwise α (Series α) := do
  let onGrid ← (s.filter Sample.isDated).mapM onGrid
  return Series.fuse (sortBy (fun a b => decide (a.time < b.time)) onGrid)

def merge (xs ys : Series α) : Stepwise α (Series α) :=
  if xs.isEmpty then regrid ys
  else if ys.isEmpty then regrid xs
  else return Series.join (← collapse xs) (← collapse ys)

/-! ## Prices -/

def cost (t : Tariff α) (amount : α) : Stepwise α α := do
  let units ← divide .unit amount t.scale
  let corrected ← divide .idleCoefficient (units * t.unitPrice * t.remaining) t.idleCoefficient
  return corrected * t.multiplier

def priced (t : Tariff α) (s : Series α) : Stepwise α (Series α) :=
  s.mapM fun x => return ⟨← quantize x.time gridWidth, ← cost t x.value⟩

def priceClaims (terms : Terms α) (prices : UnitPrices α) (idleCoefficient : α) :
    List (Claim α) → Stepwise α (List (Series α))
  | [] => return []
  | c :: cs =>
    match c.volume with
    | none => priceClaims terms prices idleCoefficient cs
    | some v => do
      let unitPrice ← undivided (v.unitPrice terms prices)
      let tariff : Tariff α :=
        { unitPrice, scale := bytesPerGiB, remaining := 1, idleCoefficient,
          multiplier := terms.cadence.multiplier }
      let rest ← priceClaims terms prices idleCoefficient cs
      return (← priced tariff c.requested) :: rest

def price (w : Workload α) (terms : Terms α) (idleCoefficient : α) : Stepwise α (Priced α) := do
  let prices ← undivided (UnitPrices.select w.node terms.customPricing)
  let tariff (unitPrice scale : α) : Tariff α :=
    { unitPrice, scale, remaining := 1 - terms.discount, idleCoefficient,
      multiplier := terms.cadence.multiplier }
  let volumes ← priceClaims terms prices idleCoefficient w.claims
  return {
    cpu := ← priced (tariff prices.cpu 1) w.usage.cpu.allocation
    ram := ← priced (tariff prices.ram bytesPerGiB) w.usage.ram.allocation
    gpu := ← priced (tariff prices.gpu 1) w.usage.gpu
    volumes
    network := w.network }

/-! ## What they unfold -/

variable {d : α → α → α}

theorem fuse_go_withDivision (s : Sample α) (rest : Series α) :
    @Series.fuse.go α (.withDivision d) s rest = Series.fuse.go s rest := by
  induction rest generalizing s with
  | nil => rfl
  | cons t rest ih =>
    unfold Series.fuse.go
    rw [ih, ih]

theorem fuse_withDivision (s : Series α) :
    @Series.fuse α (.withDivision d) s = Series.fuse s := by
  cases s with
  | nil => rfl
  | cons s rest => exact fuse_go_withDivision s rest

theorem join_withDivision (xs ys : Series α) :
    @Series.join α (.withDivision d) xs ys = Series.join xs ys := by
  induction xs, ys using Series.join.induct with
  | case1 ys => simp
  | case2 x xs => simp
  | case3 x xs y ys h ih =>
    unfold Series.join
    rw [if_pos h, if_pos h, ih]
  | case4 x xs y ys h h' ih =>
    unfold Series.join
    rw [if_neg h, if_neg h, if_pos h', if_pos h', ih]
  | case5 x xs y ys h h' ih =>
    unfold Series.join
    rw [if_neg h, if_neg h, if_neg h', if_neg h', ih]

/-- A cost is divided by a positive amount and by an idle coefficient that can be divided by. -/
theorem cost_unfolds {t : Tariff α} (hscale : 0 < t.scale)
    (hidle : Number.isUsable t.idleCoefficient = true) (amount : α) :
    (cost t amount).Unfolds d (pure (@Tariff.cost α (.withDivision d) t amount)) := by
  obtain ⟨hpos, hfinite⟩ := Bool.and_eq_true_iff.mp hidle
  refine (Unfolds.divide ⟨hscale, fun h => ?_⟩).bind_pure
    ((Unfolds.divide ⟨of_decide_eq_true hpos, fun _ => hfinite⟩).bind_pure (.pure _))
  simp at h

variable [Number.Counted α]

theorem isProper_ofNat {site : Site} {x : α} {n : Nat} (hn : 0 < n)
    (hsite : ¬ (site = .idleCoefficient ∨ site = .bill)) :
    (Quotient.mk site x (Number.ofNat n)).IsProper :=
  ⟨Number.Counted.ofNat_pos hn, fun h => absurd h hsite⟩

theorem quantize_unfolds (t : α) :
    (quantize t gridWidth).Unfolds d
      (pure (@Chargeback.quantize α (.withDivision d) t gridWidth)) :=
  (Unfolds.divide (isProper_ofNat (by decide) (by decide))).bind_pure (.pure _)

theorem onGrid_unfolds (s : Sample α) :
    (onGrid s).Unfolds d (pure (@Sample.onGrid α (.withDivision d) s)) :=
  (quantize_unfolds s.time).bind_pure (.pure _)

theorem average_unfolds (s : Series α) :
    (average s).Unfolds d (pure (@Series.average α (.withDivision d) s)) := by
  unfold average
  cases s with
  | nil => exact .pure 0
  | cons x s => exact .divide (isProper_ofNat (Nat.succ_pos _) (by decide))

example (x : Sample α) : (average [x]).quotients d =
    [⟨.mean, Series.total [x], Number.ofNat 1⟩] := rfl

theorem regrid_unfolds (s : Series α) :
    (regrid s).Unfolds d (pure (@Series.regrid α (.withDivision d) s)) :=
  .mapM_pure fun x => .ite_pure (fun _ => .pure x) fun _ => onGrid_unfolds x

theorem collapse_unfolds (s : Series α) :
    (collapse s).Unfolds d (pure (@Series.collapse α (.withDivision d) s)) := by
  unfold Series.collapse
  rw [fuse_withDivision]
  exact (Unfolds.mapM_pure onGrid_unfolds).bind_pure (.pure _)

theorem merge_unfolds (xs ys : Series α) :
    (merge xs ys).Unfolds d (pure (@Series.merge α (.withDivision d) xs ys)) := by
  refine .ite_pure (fun _ => regrid_unfolds ys) fun _ =>
    .ite_pure (fun _ => regrid_unfolds xs) fun _ => ?_
  rw [join_withDivision]
  exact (collapse_unfolds xs).bind_pure ((collapse_unfolds ys).bind_pure (.pure _))

theorem priced_unfolds {t : Tariff α} (hscale : 0 < t.scale)
    (hidle : Number.isUsable t.idleCoefficient = true) (s : Series α) :
    (priced t s).Unfolds d (pure (@Tariff.price α (.withDivision d) t s)) :=
  .mapM_pure fun x =>
    (quantize_unfolds x.time).bind_pure ((cost_unfolds hscale hidle x.value).bind_pure (.pure _))

theorem one_pos : (0 : α) < 1 :=
  of_decide_eq_true (Bool.and_eq_true_iff.mp Number.Counted.isUsable_one).1

theorem bytesPerGiB_pos : (0 : α) < bytesPerGiB := Number.Counted.ofNat_pos (by decide)

theorem priceClaims_unfolds {terms : Terms α} {prices : UnitPrices α} {idleCoefficient : α}
    (hidle : Number.isUsable idleCoefficient = true) (claims : List (Claim α)) :
    (priceClaims terms prices idleCoefficient claims).Unfolds d
      (@Chargeback.priceClaims α (.withDivision d) terms prices idleCoefficient claims) := by
  induction claims with
  | nil => exact .pure []
  | cons c cs ih =>
    unfold priceClaims Chargeback.priceClaims
    cases c.volume with
    | none => exact ih
    | some v =>
      refine Unfolds.bind (.undivided _) fun unitPrice => ih.bind fun rest => ?_
      exact (priced_unfolds bytesPerGiB_pos hidle c.requested).bind_pure (.pure _)

/-- **Pricing a workload step by step**, with an idle coefficient that can be divided by. -/
theorem price_unfolds (w : Workload α) (terms : Terms α) {idleCoefficient : α}
    (hidle : Number.isUsable idleCoefficient = true) :
    (price w terms idleCoefficient).Unfolds d
      (@Workload.price α (.withDivision d) w terms idleCoefficient) := by
  refine Unfolds.bind (.undivided _) fun prices =>
    (priceClaims_unfolds hidle w.claims).bind fun volumes => ?_
  refine (priced_unfolds one_pos hidle _).bind_pure ?_
  refine (priced_unfolds bytesPerGiB_pos hidle _).bind_pure ?_
  exact (priced_unfolds one_pos hidle _).bind_pure (.pure _)

end Chargeback.Stepwise
