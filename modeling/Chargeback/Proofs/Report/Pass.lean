import Mathlib.Data.List.Nodup
import Chargeback.Report.Aggregate

/-!
# The pass over the workloads

A report goes through the workloads once, in ascending order of their keys. `tally` is what the pass
has gathered after a list of workloads, and a workload does one of three things to it: it is pooled
(`value_add_of_pooled`), skipped (`value_add_of_skipped`) or merged into its bucket
(`value_add_of_merged`). The report is the tally of all workloads with every record finalized
(`value_report`), and the order of the pass does not depend on the order in which the inventory
lists its entries (`inKeyOrder_eq`).
-/

namespace Chargeback

variable {α : Type}

namespace Report

/-! ## The order of the pass -/

theorem inKeyOrder_perm (inventory : Inventory α) :
    (inKeyOrder inventory).Perm inventory.values := (sortBy_perm _ _).map _

/-- Strict order of keys, as the pass sorts by. -/
theorem pairwise_sortBy_keys {β : Type} (entries : List (String × β)) :
    (sortBy (fun a b => decide (a.1 < b.1)) entries).Pairwise fun a b => a.1 ≤ b.1 := by
  have h : (sortBy (fun a b => decide (a.1 < b.1)) entries).Pairwise
      fun a b => decide (b.1 < a.1) = false :=
    pairwise_sortBy
      (fun {a b c} hab hbc => by
        simp only [decide_eq_false_iff_not, String.not_lt] at hab hbc ⊢
        exact String.le_trans hab hbc)
      (fun {a b} hab => by
        simp only [decide_eq_true_eq, decide_eq_false_iff_not] at hab ⊢
        exact String.lt_asymm hab) entries
  exact h.imp fun hab => String.not_lt.mp (of_decide_eq_false hab)

/-- **The order of the pass.** However an inventory lists its entries, the pass goes through them in
the ascending order of their keys. -/
theorem inKeyOrder_eq {inventory : Inventory α} {ws : List (String × Workload α)}
    (hperm : ws.Perm inventory.entries) (hasc : ws.Pairwise fun a b => a.1 < b.1) :
    inKeyOrder inventory = ws.map Prod.snd := by
  have hsort : sortBy (fun a b => decide (a.1 < b.1)) inventory.entries = ws := by
    have hws : ws.Pairwise fun a b => a.1 ≤ b.1 :=
      hasc.imp fun h => String.not_lt.mp (String.lt_asymm h)
    refine List.Perm.eq_of_pairwise ?_ (pairwise_sortBy_keys _) hws
      ((sortBy_perm _ _).trans hperm.symm)
    -- of two entries with one key there is only one
    intro a b ha hb hab hba
    have hkey : a.1 = b.1 := String.le_antisymm hab hba
    rw [mem_sortBy] at ha
    exact List.inj_on_of_nodup_map inventory.nodup ha (hperm.mem_iff.mp hb) hkey
  rw [inKeyOrder, hsort]

end Report

variable [Number α]

/-- A workload's cost, by the idle coefficient that the report has for its cluster. -/
def ReportOptions.priced (o : ReportOptions α) (w : Workload α) : Priced α :=
  (w.price o.terms (o.idleCoefficient w.cluster)).value

/-- A coefficient that can be divided by is taken as it is. -/
theorem ReportOptions.idleCoefficient_eq {o : ReportOptions α} {cluster : String} {c : α}
    (h : o.idleCoefficients.get? cluster = some c) (husable : Number.isUsable c = true) :
    o.idleCoefficient cluster = c := by
  simp only [idleCoefficient, h, husable, if_true]

/-- Whatever is supplied, a report divides by coefficients that can be divided by. -/
theorem ReportOptions.isUsable_idleCoefficient (hone : Number.isUsable (1 : α) = true)
    (o : ReportOptions α) (cluster : String) :
    Number.isUsable (o.idleCoefficient cluster) = true := by
  unfold idleCoefficient
  split
  · split
    · assumption
    · exact hone
  · exact hone

namespace Report

variable {field : GroupField} {subfields : List String} {o : ReportOptions α} {t : Tally α}
  {w : Workload α} {key : String}

/-! ## One workload -/

theorem value_add_of_pooled (h : o.isPooled w = true) :
    (add field subfields o t w).value =
      { t with pool := t.pool + (o.priced w).total, shared := t.shared + 1 } := by
  unfold add
  cases o.unusableCoefficient? w.cluster <;> simp [h, ReportOptions.priced]

theorem value_add_of_skipped (h : o.isPooled w = false) (hkey : field.key? subfields w = none) :
    (add field subfields o t w).value = { t with skipped := t.skipped + 1 } := by
  unfold add
  cases o.unusableCoefficient? w.cluster <;> simp [h, hkey]

theorem value_add_of_merged (h : o.isPooled w = false) (hkey : field.key? subfields w = some key) :
    (add field subfields o t w).value =
      { t with
        buckets := t.buckets.upsert key fun r? =>
          (r?.getD (.empty field subfields key)).merge w (o.priced w) } := by
  unfold add
  cases o.unusableCoefficient? w.cluster <;> simp [h, hkey, ReportOptions.priced]

/-! ## All workloads -/

/-- What the pass has gathered after a list of workloads. -/
def tally (field : GroupField) (subfields : List String) (o : ReportOptions α)
    (ws : List (Workload α)) : Tally α :=
  ws.foldl (fun t w => (add field subfields o t w).value) .empty

@[simp] theorem tally_nil : tally field subfields o [] = .empty := rfl

@[simp] theorem tally_append_singleton (ws : List (Workload α)) (w : Workload α) :
    tally field subfields o (ws ++ [w]) =
      (add field subfields o (tally field subfields o ws) w).value := by
  simp [tally]

theorem value_report (inventory : Inventory α) (field : GroupField) (subfields : List String)
    (o : ReportOptions α) :
    (report inventory field subfields o).value =
      (tally field subfields o (inKeyOrder inventory)).buckets.mapWithName fun _ r =>
        r.finalize (tally field subfields o (inKeyOrder inventory)).share o := by
  simp [report, tally, Journaled.value_foldlM]

theorem share_eq (t : Tally α) (h : t.buckets.size ≠ 0) :
    t.share = t.pool / Number.ofNat t.buckets.size := by
  have hne : t.buckets.isEmpty = false := by
    simpa [Index.isEmpty, Index.size] using h
  simp [Tally.share, hne]

end Report

/-! ## Finalizing -/

namespace Record

variable {r : Record α} {share : α} {o : ReportOptions α}

theorem cluster_finalize : (r.finalize share o).cluster = r.attribution.cluster? := by
  unfold finalize costed normalized
  split <;> split <;> split <;> rfl

/-- Scores and dropped series do not change costs. -/
theorem costs_finalize :
    (r.finalize share o).costs =
      (((r.summed share).normalized o.terms.cadence o.periods).totalled).costs := by
  unfold finalize
  split <;> split <;> rfl

/-- Only a report over time keeps the cost series of its records. -/
theorem costSeries_finalize :
    (r.finalize share o).costSeries = if o.timeSeries then r.costSeries else {} := by
  unfold finalize costed normalized
  split <;> split <;> split <;> rfl

/-- Only a report over time keeps the usage of its buckets. -/
theorem usage_finalize : (r.finalize share o).usage = if o.timeSeries then r.usage else {} := by
  unfold finalize costed normalized
  split <;> split <;> split <;> rfl

/-- Scoring stores the scores of the record as its costs have been worked out. -/
theorem scores_finalize (h : o.efficiency = true) :
    (r.finalize share o).scores = .ofEfficiency (r.costed share o).efficiency := by
  simp only [finalize, h, if_true]
  split <;> rfl

theorem scores_finalize_of_unscored (h : o.efficiency = false) :
    (r.finalize share o).scores = r.scores := by
  simp only [finalize, costed, normalized, h, Bool.false_eq_true, if_false]
  split <;> split <;> rfl

end Record

end Chargeback
