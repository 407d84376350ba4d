import Mathlib.Tactic.Positivity
import Chargeback.Proofs.Pricing.Scaling
import Chargeback.Proofs.Report.Resources

/-!
# Reports at different cadences

In exact arithmetic the cadence of a report only rescales it. The multiplier of a cadence enters
with every priced sample and comes out of every cost series as a whole (`of_gathered_withCadence`),
while usage and clusters do not know of it. So the costs of a bucket at any cadence are those of the
cumulative report, times the multiplier and over the number of periods (`costs_bucket`); the network
has no multiplier. The scores weigh cores and memory by costs that have a positive factor in common,
and stay the same (`scores_bucket`).
-/

namespace Chargeback

/-- The same report at another cadence. -/
def ReportOptions.withCadence {α : Type} (o : ReportOptions α) (c : Cadence) : ReportOptions α :=
  { o with terms := { o.terms with cadence := c } }

/-- The factor between the hourly cost of a resource and that at a cadence. The cost of the network
is not scaled. -/
def Cadence.factor (c : Cadence) : Resource → ℚ
  | .network => 1
  | .cpu | .ram | .gpu | .volume => c.multiplier

theorem Cadence.factor_of_ne_network (c : Cadence) {x : Resource} (h : x ≠ .network) :
    c.factor x = c.multiplier := by
  cases x with
  | network => exact absurd rfl h
  | cpu | ram | gpu | volume => rfl

theorem Cadence.multiplier_pos (c : Cadence) : 0 < (c.multiplier : ℚ) := by
  cases c <;> decide

/-! ## One workload -/

theorem Terms.volumeCosts_withCadence (terms : Terms ℚ) (c : Cadence) (prices : UnitPrices ℚ)
    (idleCoefficient : ℚ) (claims : List (Claim ℚ)) :
    Terms.volumeCosts { terms with cadence := c } prices idleCoefficient claims =
      (Terms.volumeCosts { terms with cadence := .cumulative } prices idleCoefficient claims).map
        (Series.scale c.multiplier) := by
  unfold Terms.volumeCosts
  rw [List.map_filterMap]
  refine List.filterMap_congr fun claim _ => ?_
  cases claim.volume with
  | none => rfl
  | some v =>
    exact congrArg some (Tariff.price_multiplier
      (Terms.volumeTariff { terms with cadence := c } prices idleCoefficient v) claim.requested)

/-- **The cost of a workload at a cadence**, resource by resource. -/
theorem parts_withCadence (o : ReportOptions ℚ) (c : Cadence) (w : Workload ℚ) (x : Resource) :
    ((o.withCadence c).priced w).parts x =
      (((o.withCadence .cumulative).priced w).parts x).map (Series.scale (c.factor x)) := by
  have hprice (unitPrice scale : ℚ) (s : Series ℚ) :
      (((o.withCadence c).terms.tariff (o.idleCoefficient w.cluster) unitPrice scale).price s) =
        (((o.withCadence .cumulative).terms.tariff (o.idleCoefficient w.cluster) unitPrice
          scale).price s).scale c.multiplier := Tariff.price_multiplier _ s
  simp only [ReportOptions.priced, Workload.value_price]
  cases x with
  | cpu => exact congrArg ([·]) (hprice _ _ _)
  | ram => exact congrArg ([·]) (hprice _ _ _)
  | gpu => exact congrArg ([·]) (hprice _ _ _)
  | volume => exact Terms.volumeCosts_withCadence _ _ _ _ _
  | network => exact congrArg ([·]) (Series.scale_one _).symm

namespace Report

variable {field : GroupField} {subfields : List String} {o : ReportOptions ℚ}

/-! ## One bucket -/

/-- **The cost series of a bucket at a cadence**, resource by resource. -/
theorem of_gathered_withCadence (c : Cadence) (key : String) (ws : List (Workload ℚ))
    (x : Resource) :
    (gathered field subfields (o.withCadence c) key ws).costSeries.of x =
      ((gathered field subfields (o.withCadence .cumulative) key ws).costSeries.of x).scale
        (c.factor x) := by
  have hcontributions : contributions field subfields (o.withCadence c) key ws x =
      (contributions field subfields (o.withCadence .cumulative) key ws x).map
        (Series.scale (c.factor x)) := by
    simp only [contributions, parts_withCadence o c, List.map_flatMap]
    rfl
  rw [of_gathered, of_gathered, hcontributions, Series.accumulate_scale]

end Report

/-! ## The costs of a bucket -/

/-- What a number of periods divides by. No periods leave costs as they are. -/
def divisor (n : ℕ) : ℚ := if n = 0 then 1 else n

theorem divisor_pos (n : ℕ) : 0 < divisor n := by
  unfold divisor
  split
  · exact one_pos
  · next h => exact_mod_cast Nat.pos_of_ne_zero h

/-- What the costs of a record are divided by. -/
def ReportOptions.divisor (o : ReportOptions ℚ) (longest : ℕ) : ℚ :=
  if o.terms.cadence = .cumulative then 1 else Chargeback.divisor (o.periodCount longest)

theorem ReportOptions.divisor_pos (o : ReportOptions ℚ) (longest : ℕ) : 0 < o.divisor longest := by
  unfold divisor
  split
  · exact one_pos
  · exact Chargeback.divisor_pos _

/-- **The costs of a record** are the totals of its series, divided. -/
theorem Record.costs_of_finalize (r : Record ℚ) (share : ℚ) (o : ReportOptions ℚ) (x : Resource) :
    (r.finalize share o).costs.of x =
      (r.costSeries.of x).total / o.divisor r.costSeries.longest := by
  rw [of_costs_finalize, ReportOptions.periods?, ReportOptions.divisor, Chargeback.divisor]
  split
  · rw [div_one]
    rfl
  · cases o.periodCount r.costSeries.longest with
    | zero =>
      rw [if_pos rfl, div_one]
      rfl
    | succ n =>
      rw [if_neg n.succ_ne_zero]
      rfl

/-- The scores of a record weigh its usage by its own costs. -/
theorem Record.efficiency_costed (r : Record ℚ) (share : ℚ) (o : ReportOptions ℚ) :
    (r.costed share o).efficiency =
      .ofIdle r.usage.cpu.idleFraction r.usage.ram.idleFraction ((r.finalize share o).costs.of .cpu)
        ((r.finalize share o).costs.of .ram) := by
  have husage : (r.costed share o).usage = r.usage := by
    unfold costed normalized
    split <;> rfl
  rw [efficiency, husage, costs_finalize]
  rfl

/-- **Scores do not change** with a factor that the costs have in common. -/
theorem Efficiency.ofIdle_scale {k : ℚ} (hk : 0 < k) (cpuIdle ramIdle cpuCost ramCost : ℚ) :
    ofIdle cpuIdle ramIdle (k * cpuCost) (k * ramCost) =
      ofIdle cpuIdle ramIdle cpuCost ramCost := by
  have hsum : k * cpuCost + k * ramCost = k * (cpuCost + ramCost) := by ring
  have hpos : 0 < k * (cpuCost + ramCost) ↔ 0 < cpuCost + ramCost := mul_pos_iff_of_pos_left hk
  have hidle : (k * cpuCost * cpuIdle + k * ramCost * ramIdle) / (k * (cpuCost + ramCost)) =
      (cpuCost * cpuIdle + ramCost * ramIdle) / (cpuCost + ramCost) := by
    rw [← mul_div_mul_left _ (cpuCost + ramCost) hk.ne']
    congr 1
    ring
  simp only [ofIdle, hsum, hpos, hidle]

namespace Report

variable {field : GroupField} {subfields : List String} {o : ReportOptions ℚ} {key : String}
  {ws : List (Workload ℚ)}

theorem longest_gathered_withCadence (c : Cadence) :
    (gathered field subfields (o.withCadence c) key ws).costSeries.longest =
      (gathered field subfields (o.withCadence .cumulative) key ws).costSeries.longest :=
  CostSeries.longest_congr fun x => by rw [of_gathered_withCadence c, Series.length_scale]

/-- **The costs of a bucket at a cadence** are the cumulative ones, times the factor of the cadence
and over the number of periods. The bucket's share of the pool does not enter. -/
theorem costs_bucket (c : Cadence) (x : Resource) (share base : ℚ) :
    let bucket := gathered field subfields (o.withCadence .cumulative) key ws
    ((gathered field subfields (o.withCadence c) key ws).finalize share
        (o.withCadence c)).costs.of x =
      c.factor x * (bucket.finalize base (o.withCadence .cumulative)).costs.of x /
        (o.withCadence c).divisor bucket.costSeries.longest := by
  intro bucket
  have hcumulative : (o.withCadence .cumulative).divisor bucket.costSeries.longest = 1 := if_pos rfl
  rw [Record.costs_of_finalize, longest_gathered_withCadence, of_gathered_withCadence,
    Series.total_scale, Record.costs_of_finalize, hcumulative, div_one]

/-- **The scores of a bucket** are the same at every cadence. -/
theorem scores_bucket (c : Cadence) (share base : ℚ) :
    ((gathered field subfields (o.withCadence c) key ws).finalize share (o.withCadence c)).scores =
      ((gathered field subfields (o.withCadence .cumulative) key ws).finalize base
        (o.withCadence .cumulative)).scores := by
  have husage (c : Cadence) : (gathered field subfields (o.withCadence c) key ws).usage =
      (ws.filter (belongs field subfields o key)).foldl (fun u w => w.usage.merge u) {} :=
    usage_gathered (o.withCadence c) key ws
  have hscores (c : Cadence) : (gathered field subfields (o.withCadence c) key ws).scores = {} :=
    scores_gathered (o.withCadence c) key ws
  cases h : o.efficiency with
  | false =>
    have hefficiency (c : Cadence) : (o.withCadence c).efficiency = false := h
    rw [Record.scores_finalize_of_unscored (hefficiency c),
      Record.scores_finalize_of_unscored (hefficiency _), hscores, hscores]
  | true =>
    have hefficiency (c : Cadence) : (o.withCadence c).efficiency = true := h
    set bucket := gathered field subfields (o.withCadence .cumulative) key ws
    set d := (o.withCadence c).divisor bucket.costSeries.longest
    -- what both costs are multiplied by
    have hk : 0 < (c.multiplier : ℚ) / d :=
      div_pos c.multiplier_pos (ReportOptions.divisor_pos _ _)
    have hcost {x : Resource} (hx : x ≠ .network) :
        ((gathered field subfields (o.withCadence c) key ws).finalize share
          (o.withCadence c)).costs.of x =
        c.multiplier / d * (bucket.finalize base (o.withCadence .cumulative)).costs.of x := by
      rw [costs_bucket c x share base, c.factor_of_ne_network hx, div_mul_eq_mul_div]
    have hcpu : Resource.cpu ≠ .network := by decide
    have hram : Resource.ram ≠ .network := by decide
    rw [Record.scores_finalize (hefficiency c), Record.scores_finalize (hefficiency _),
      Record.efficiency_costed, Record.efficiency_costed, husage, husage, hcost hcpu, hcost hram,
      Efficiency.ofIdle_scale hk]

/-! ## The report -/

theorem names_report_withCadence (inventory : Inventory ℚ) (c : Cadence) :
    (report inventory field subfields (o.withCadence c)).value.names =
      (report inventory field subfields (o.withCadence .hourly)).value.names := by
  refine List.Pairwise.eq_of_mem_iff (Index.pairwise_names _) (Index.pairwise_names _) fun key => ?_
  rw [mem_names_report_iff, mem_names_report_iff]
  rfl

/-- **A cadence only rescales a report.** In exact arithmetic the buckets, their clusters and their
scores are the same at every cadence. The costs of a bucket by the day and by the month are 24 and
730 times those by the hour, but for the network, whose cost is the same. The costs by the hour are
the cumulative ones over the number of periods. -/
theorem report_cadence (inventory : Inventory ℚ) (field : GroupField) (subfields : List String)
    (o : ReportOptions ℚ) :
    let reportAt (c : Cadence) := (report inventory field subfields (o.withCadence c)).value
    (∀ c, (reportAt c).names = (reportAt .hourly).names) ∧
      ∀ key ∈ (reportAt .hourly).names, ∃ r : Cadence → Record ℚ,
        (∀ c, (reportAt c).get? key = some (r c) ∧ (r c).cluster = (r .hourly).cluster) ∧
        (∀ x, x ≠ .network → (r .daily).costs.of x = 24 * (r .hourly).costs.of x ∧
          (r .monthly).costs.of x = 730 * (r .hourly).costs.of x) ∧
        ((r .daily).costs.of .network = (r .hourly).costs.of .network ∧
          (r .monthly).costs.of .network = (r .hourly).costs.of .network) ∧
        (let n := o.periodCount (gathered field subfields (o.withCadence .hourly) key
            (inKeyOrder inventory)).costSeries.longest
        ∀ x, (r .hourly).costs.of x =
          if n = 0 then (r .cumulative).costs.of x else (r .cumulative).costs.of x / n) ∧
        (o.efficiency = true → ∃ e : Efficiency ℚ, ∀ c, (r c).scores = .ofEfficiency e) := by
  intro reportAt
  have hnames (c : Cadence) : (reportAt c).names = (reportAt .hourly).names :=
    names_report_withCadence inventory c
  refine ⟨hnames, fun key hkey => ?_⟩
  set ws := inKeyOrder inventory
  let share (c : Cadence) : ℚ :=
    pooledCost (o.withCadence c) ws / Number.ofNat (reportAt c).size
  let bucket (c : Cadence) := gathered field subfields (o.withCadence c) key ws
  let r (c : Cadence) := (bucket c).finalize (share c) (o.withCadence c)
  have hget (c : Cadence) : (reportAt c).get? key = some (r c) := get?_report (hnames c ▸ hkey)
  have hcluster (c : Cadence) : (r c).cluster = (r .hourly).cluster := by
    have hattribution (c : Cadence) : (bucket c).attribution =
        (ws.filter (belongs field subfields o key)).foldl (fun a w => a.add w.cluster) ∅ :=
      attribution_gathered (o.withCadence c) key ws
    rw [Record.cluster_finalize, Record.cluster_finalize, hattribution, hattribution]
  -- all costs, from the cumulative ones
  have hcosts (c : Cadence) (x : Resource) : (r c).costs.of x =
      c.factor x * (r .cumulative).costs.of x /
        (o.withCadence c).divisor (bucket .cumulative).costSeries.longest :=
    costs_bucket c x (share c) (share .cumulative)
  have hdivisor {c : Cadence} (hc : c ≠ .cumulative) :
      (o.withCadence c).divisor (bucket .cumulative).costSeries.longest =
        divisor (o.periodCount (bucket .hourly).costSeries.longest) := by
    rw [longest_gathered_withCadence .hourly]
    exact if_neg hc
  have hhourly (x : Resource) : (r .hourly).costs.of x =
      (r .cumulative).costs.of x / divisor (o.periodCount (bucket .hourly).costSeries.longest) := by
    have hfactor : Cadence.hourly.factor x = 1 := by cases x <;> rfl
    rw [hcosts, hdivisor (by decide), hfactor, one_mul]
  have hscaled {c : Cadence} (hc : c ≠ .cumulative) (x : Resource) :
      (r c).costs.of x = c.factor x * (r .hourly).costs.of x := by
    rw [hcosts, hdivisor hc, hhourly, mul_div_assoc]
  refine ⟨r, fun c => ⟨hget c, hcluster c⟩, fun x hx => ⟨?_, ?_⟩, ⟨?_, ?_⟩, fun x => ?_,
    fun hefficiency => ?_⟩
  · rw [hscaled (by decide), Cadence.factor_of_ne_network _ hx]
    rfl
  · rw [hscaled (by decide), Cadence.factor_of_ne_network _ hx]
    rfl
  · rw [hscaled (by decide)]
    exact one_mul _
  · rw [hscaled (by decide)]
    exact one_mul _
  · rw [hhourly, divisor]
    split
    · rw [div_one]
    · rfl
  · have hscores (c : Cadence) : (r c).scores = (r .cumulative).scores :=
      scores_bucket c (share c) (share .cumulative)
    exact ⟨_, fun c => (hscores c).trans (Record.scores_finalize hefficiency)⟩

/-- The options of the small inventory, with scores. -/
def scoredOptions : ReportOptions ℚ := { sampleOptions with efficiency := true }

theorem report_cadence_sample :
    let reportAt (c : Cadence) :=
      (report sampleInventory .service [] (scoredOptions.withCadence c)).value
    "shop/web" ∈ (reportAt .hourly).names ∧ scoredOptions.efficiency = true ∧
      ∃ r : Cadence → Record ℚ, (∀ c, (reportAt c).get? "shop/web" = some (r c)) ∧
        (r .cumulative).costs.cpu = 54 / 5 ∧ (r .hourly).costs.cpu = 27 / 5 ∧
        (r .daily).costs.cpu = 24 * (r .hourly).costs.cpu ∧
        (r .monthly).costs.network = (r .hourly).costs.network ∧
        ∃ e, ∀ c, (r c).scores = .ofEfficiency e := by
  intro reportAt
  have hkey : "shop/web" ∈ (reportAt .hourly).names := by decide +kernel
  obtain ⟨-, hbuckets⟩ := report_cadence sampleInventory .service [] scoredOptions
  obtain ⟨r, hr, hscaled, hnetwork, -, hscores⟩ := hbuckets "shop/web" hkey
  have hcpu {c : Cadence} {cost : ℚ}
      (h : ((reportAt c).get? "shop/web").map (fun r => r.costs.cpu) = some cost) :
      (r c).costs.cpu = cost := by
    have hget : (reportAt c).get? "shop/web" = some (r c) := (hr c).1
    rw [hget] at h
    exact Option.some.inj h
  exact ⟨hkey, rfl, r, fun c => (hr c).1, hcpu (by decide +kernel), hcpu (by decide +kernel),
    (hscaled .cpu (by decide)).1, hnetwork.2, hscores rfl⟩

end Report

end Chargeback
