import Chargeback.Proofs.Report.Grouping
import Chargeback.Proofs.Report.Spending

/-!
# Conservation of cost

In exact arithmetic, and away from time zero, no cost is lost or counted twice on its way through
a report. What has been gathered, in buckets and pool together, grows by the cost of each workload
that is not skipped (`cost_add`, `cost_tally`). At the end every bucket gets an even share of the
pool, so the buckets of a report hold what was gathered, divided by the number of periods if the
report is not cumulative (`sum_costs_report`).
-/

namespace Chargeback

/-! ## Sums over an index -/

namespace Index

variable {β : Type}

theorem sum_map_place (g : β → ℚ) {name : String} {f : Option β → β} {l : List (String × β)}
    (h : l.Pairwise (fun a b => a.1 < b.1)) :
    ((place name f l).map fun p => g p.2).sum =
      (l.map fun p => g p.2).sum - ((l.lookup name).map g).getD 0 + g (f (l.lookup name)) := by
  induction l with
  | nil => simp [place]
  | cons p l ih =>
    obtain ⟨n, b⟩ := p
    have hl := (List.pairwise_cons.mp h).2
    unfold place
    split
    · next hlt =>
      rw [lookup_eq_none_of_lt h hlt, List.map_cons, List.sum_cons, Option.map_none,
        Option.getD_none]
      ring
    · split
      · next heq =>
        subst heq
        rw [List.lookup_cons_self, List.map_cons, List.map_cons, List.sum_cons, List.sum_cons,
          Option.map_some, Option.getD_some]
        ring
      · next hne =>
        have hlookup : ((n, b) :: l).lookup name = l.lookup name := by
          rw [List.lookup_cons, beq_eq_false_iff_ne.mpr hne]
        rw [hlookup, List.map_cons, List.map_cons, List.sum_cons, List.sum_cons, ih hl]
        ring

/-- The sum over an index after one value has been replaced. -/
theorem sum_map_values_upsert (g : β → ℚ) (m : Index β) (name : String) (f : Option β → β) :
    ((m.upsert name f).values.map g).sum =
      (m.values.map g).sum - ((m.get? name).map g).getD 0 + g (f (m.get? name)) := by
  simp only [values, List.map_map, Function.comp_def]
  exact sum_map_place g m.ascending

theorem values_mapWithName {γ : Type} (f : β → γ) (m : Index β) :
    (m.mapWithName fun _ => f).values = m.values.map f := by
  simp [values, mapWithName, Function.comp_def]

end Index

namespace Report

variable {field : GroupField} {subfields : List String} {o : ReportOptions ℚ}

/-! ## What has been gathered -/

/-- Whether a workload is neither pooled nor in a bucket. -/
def isSkipped (field : GroupField) (subfields : List String) (o : ReportOptions ℚ)
    (w : Workload ℚ) : Bool :=
  !o.isPooled w && (field.key? subfields w).isNone

/-- The cost in the buckets and the pool. -/
def Tally.cost (t : Tally ℚ) : ℚ := (t.buckets.values.map fun r => r.costSeries.total).sum + t.pool

/-- No cost in a bucket has a time that is moved to zero. -/
def Tally.OffOrigin (t : Tally ℚ) : Prop :=
  ∀ key r, t.buckets.get? key = some r → r.costSeries.OffOrigin

theorem offOrigin_getD {t : Tally ℚ} (ht : t.OffOrigin) (key : String) :
    ((t.buckets.get? key).getD (.empty field subfields key)).costSeries.OffOrigin := by
  cases hr : t.buckets.get? key with
  | none => exact CostSeries.offOrigin_empty
  | some r => exact ht key r hr

theorem offOrigin_add {t : Tally ℚ} {w : Workload ℚ} (ht : t.OffOrigin) (hw : w.OffOrigin) :
    (add field subfields o t w).value.OffOrigin := by
  intro key r hr
  rw [get?_buckets_add] at hr
  split at hr
  · obtain rfl := Option.some.inj hr
    exact (offOrigin_getD ht key).merge (hw.price _ _)
  · exact ht key r hr

/-- **One workload adds its cost**, unless it is skipped. -/
theorem cost_add {t : Tally ℚ} {w : Workload ℚ} (ht : t.OffOrigin) (hw : w.OffOrigin) :
    (add field subfields o t w).value.cost =
      t.cost + if isSkipped field subfields o w then 0 else (o.priced w).total := by
  cases hpool : o.isPooled w with
  | true =>
    rw [value_add_of_pooled hpool, if_neg (by simp [isSkipped, hpool])]
    simp only [Tally.cost]
    ring
  | false =>
    cases hkey : field.key? subfields w with
    | none =>
      rw [value_add_of_skipped hpool hkey, if_pos (by simp [isSkipped, hpool, hkey]), add_zero]
      rfl
    | some key =>
      have hbucket :
          ((t.buckets.get? key).getD (.empty field subfields key)).costSeries.OffOrigin :=
        offOrigin_getD ht key
      have hmerge := CostSeries.total_merge hbucket
        (hw.price o.terms (o.idleCoefficient w.cluster))
      rw [value_add_of_merged hpool hkey, if_neg (by simp [isSkipped, hkey])]
      simp only [Tally.cost, Index.sum_map_values_upsert]
      -- a bucket that is not there yet costs nothing
      have hbefore : ((t.buckets.get? key).getD (.empty field subfields key)).costSeries.total =
          ((t.buckets.get? key).map fun r => r.costSeries.total).getD 0 := by
        cases t.buckets.get? key with
        | none => exact CostSeries.total_empty
        | some r => rfl
      rw [hbefore] at hmerge
      change _ - _ + (CostSeries.merge _ _).total + _ = _
      rw [ReportOptions.priced, hmerge]
      ring

theorem offOrigin_tally {ws : List (Workload ℚ)} (hws : ∀ w ∈ ws, w.OffOrigin) :
    (tally field subfields o ws).OffOrigin := by
  induction ws using List.reverseRecOn with
  | nil => intro key r hr; simp [Tally.empty] at hr
  | append_singleton ws w ih =>
    rw [tally_append_singleton]
    exact offOrigin_add (ih fun v hv => hws v (by simp [hv])) (hws w (by simp))

/-- The cost of workloads, as they are priced in a report. -/
def totalCost (o : ReportOptions ℚ) (ws : List (Workload ℚ)) : ℚ :=
  (ws.map fun w => (o.priced w).total).sum

/-- **All workloads add their cost**, but for the skipped ones. -/
theorem cost_tally {ws : List (Workload ℚ)} (hws : ∀ w ∈ ws, w.OffOrigin) :
    (tally field subfields o ws).cost =
      totalCost o (ws.filter fun w => !isSkipped field subfields o w) := by
  induction ws using List.reverseRecOn with
  | nil => exact add_zero 0
  | append_singleton ws w ih =>
    have hws' : ∀ v ∈ ws, v.OffOrigin := fun v hv => hws v (by simp [hv])
    rw [tally_append_singleton, cost_add (offOrigin_tally hws') (hws w (by simp)), ih hws']
    cases hskip : isSkipped field subfields o w <;> simp [totalCost, hskip]

/-! ## The shares of the pool -/

theorem sum_add_share (g : Record ℚ → ℚ) (share n : ℚ) (rs : List (Record ℚ)) :
    (rs.map fun r => (g r + share) / n).sum = ((rs.map g).sum + rs.length * share) / n := by
  induction rs with
  | nil => simp
  | cons r rs ih =>
    rw [List.map_cons, List.sum_cons, ih, List.map_cons, List.sum_cons, List.length_cons]
    push_cast
    ring

/-- The shares add up to the pool. -/
theorem size_mul_share {t : Tally ℚ} (h : t.buckets.size ≠ 0) :
    (t.buckets.values.length : ℚ) * t.share = t.pool := by
  have hlength : t.buckets.values.length = t.buckets.size := List.length_map _
  have hne : (t.buckets.size : ℚ) ≠ 0 := Nat.cast_ne_zero.mpr h
  rw [share_eq t h, hlength]
  exact mul_div_cancel₀ t.pool hne

/-- The costs of all buckets, if each is what it has gathered and its share, over `n`. -/
theorem sum_costs_report {inventory : Inventory ℚ} {n : ℚ}
    (hoff : ∀ w ∈ inventory.values, w.OffOrigin)
    (hne : (report inventory field subfields o).value.size ≠ 0)
    (hn : ∀ r : Record ℚ, ∀ share,
      (r.finalize share o).costs.total = (r.costSeries.total + share) / n) :
    ((report inventory field subfields o).value.values.map fun r => r.costs.total).sum =
      totalCost o (inventory.values.filter fun w => !isSkipped field subfields o w) / n := by
  have hperm := inKeyOrder_perm inventory
  have hsize : (tally field subfields o (inKeyOrder inventory)).buckets.size ≠ 0 := by
    simpa [value_report, Index.size, Index.mapWithName] using hne
  rw [value_report, Index.values_mapWithName, List.map_map, Function.comp_def]
  simp only [hn]
  rw [sum_add_share (fun r => r.costSeries.total), size_mul_share hsize]
  change Tally.cost _ / n = _
  rw [cost_tally fun w hw => hoff w (hperm.mem_iff.mp hw)]
  exact congrArg (· / n) (((hperm.filter _).map _).sum_eq)

/-- **Conservation of cost.** The total costs of all buckets of a report add up to the cost of the
workloads that are not skipped: as it is in a cumulative report, and over the given number of
periods in any other. Only the cost of the skipped workloads leaves the report. -/
theorem report_conserves_cost (inventory : Inventory ℚ) (field : GroupField)
    (subfields : List String) (o : ReportOptions ℚ) (hoff : ∀ w ∈ inventory.values, w.OffOrigin)
    (hne : (report inventory field subfields o).value.size ≠ 0) :
    let reported :=
      ((report inventory field subfields o).value.values.map fun r => r.costs.total).sum
    let kept := inventory.values.filter fun w => !isSkipped field subfields o w
    let skipped := inventory.values.filter (isSkipped field subfields o)
    (o.terms.cadence = .cumulative → reported = totalCost o kept) ∧
      (∀ n, o.terms.cadence ≠ .cumulative → o.periods = some n → 0 < n →
        reported = totalCost o kept / n) ∧
      totalCost o kept + totalCost o skipped = totalCost o inventory.values := by
  intro reported kept skipped
  refine ⟨fun hcum => ?_, fun n hcum hperiods hpos => ?_, ?_⟩
  · rw [← div_one (totalCost o kept)]
    exact sum_costs_report hoff hne fun r share => by
      rw [Record.costs_finalize_of_cumulative hcum, Costs.total_ofSeries, div_one]
  · exact sum_costs_report hoff hne fun r share => by
      rw [Record.costs_finalize_of_periods hcum hperiods hpos, Costs.total_perPeriod _ _ hpos]
  · have hsplit := (List.filter_append_perm (isSkipped field subfields o) inventory.values).map
      fun w => (o.priced w).total
    rw [List.map_append] at hsplit
    rw [add_comm]
    exact List.sum_append.symm.trans hsplit.sum_eq

/-- The sample comes to 26.7, which is what its bucket reports. -/
theorem report_conserves_cost_sample :
    (∀ w ∈ sampleInventory.values, w.OffOrigin) ∧
      ((report sampleInventory .service [] sampleOptions).value.values.map
        fun r => r.costs.total).sum = 267 / 10 := by
  have hoff : ∀ w ∈ sampleInventory.values, w.OffOrigin := by decide +kernel
  have hsize : (report sampleInventory .service [] sampleOptions).value.size ≠ 0 := by
    decide +kernel
  have hkept : totalCost sampleOptions (sampleInventory.values.filter fun w =>
      !isSkipped .service [] sampleOptions w) = 267 / 10 := by
    decide +kernel
  have hconserved := report_conserves_cost sampleInventory .service [] sampleOptions hoff hsize
  exact ⟨hoff, (hconserved.1 rfl).trans hkept⟩

end Report

end Chargeback
