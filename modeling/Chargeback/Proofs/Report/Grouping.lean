import Mathlib.Data.List.Induction
import Chargeback.Proofs.Exact
import Chargeback.Proofs.Report.Pass

/-!
# A report groups its workloads

The pass over the workloads keeps many buckets and the pool at once. Seen from one key it is a plain
fold: after any list of workloads, the record under the key has taken in the workloads that belong
to it, in their order (`get?_buckets_tally`), and the pool is the sum of the costs of the pooled
ones (`pool_tally`). So a report has a bucket for each key of a workload that is not pooled
(`mem_names_report_iff`), and the record of a bucket is what its own workloads and its share of the
pool make of it (`get?_report`), in whatever order the inventory lists them.
-/

namespace Chargeback.Report

variable {α : Type} [Number α] {field : GroupField} {subfields : List String} {o : ReportOptions α}

/-! ## The workloads of a bucket -/

/-- Whether a workload is merged into the bucket of a key. -/
def belongs (field : GroupField) (subfields : List String) (o : ReportOptions α) (key : String)
    (w : Workload α) : Bool :=
  !o.isPooled w && field.key? subfields w == some key

omit [Number α] in
theorem belongs_iff {key : String} {w : Workload α} :
    belongs field subfields o key w = true ↔
      o.isPooled w = false ∧ field.key? subfields w = some key := by
  simp [belongs]

/-- The record of a bucket after workloads have been merged into it, one after another. -/
def gathered (field : GroupField) (subfields : List String) (o : ReportOptions α) (key : String)
    (ws : List (Workload α)) : Record α :=
  (ws.filter (belongs field subfields o key)).foldl (fun r w => r.merge w (o.priced w))
    (.empty field subfields key)

/-- The cost of the pooled workloads, added up from left to right. -/
def pooledCost (o : ReportOptions α) (ws : List (Workload α)) : α :=
  (ws.filter o.isPooled).foldl (fun p w => p + (o.priced w).total) 0

theorem gathered_append_of_belongs {key : String} {ws : List (Workload α)} {w : Workload α}
    (h : belongs field subfields o key w = true) :
    gathered field subfields o key (ws ++ [w]) =
      (gathered field subfields o key ws).merge w (o.priced w) := by
  simp [gathered, h]

theorem gathered_append_of_not_belongs {key : String} {ws : List (Workload α)} {w : Workload α}
    (h : belongs field subfields o key w = false) :
    gathered field subfields o key (ws ++ [w]) = gathered field subfields o key ws := by
  simp [gathered, h]

/-- The usage of a bucket is merged workload by workload, whatever the workloads cost. -/
theorem usage_gathered (o : ReportOptions α) (key : String) (ws : List (Workload α)) :
    (gathered field subfields o key ws).usage =
      (ws.filter (belongs field subfields o key)).foldl (fun u w => w.usage.merge u) {} :=
  (List.foldl_hom Record.usage fun _ _ => rfl).symm

/-- The cluster of every workload of a bucket is taken into account, whatever they cost. -/
theorem attribution_gathered (o : ReportOptions α) (key : String) (ws : List (Workload α)) :
    (gathered field subfields o key ws).attribution =
      (ws.filter (belongs field subfields o key)).foldl (fun a w => a.add w.cluster) ∅ :=
  (List.foldl_hom Record.attribution fun _ _ => rfl).symm

/-- Nothing is scored while workloads are gathered. -/
theorem scores_gathered (o : ReportOptions α) (key : String) (ws : List (Workload α)) :
    (gathered field subfields o key ws).scores = {} := by
  have hscores : (gathered field subfields o key ws).scores =
      (ws.filter (belongs field subfields o key)).foldl (fun s _ => s) {} :=
    (List.foldl_hom Record.scores fun _ _ => rfl).symm
  exact hscores.trans (List.foldl_fixed _)

/-! ## The pass, seen from one key -/

/-- Only its own workloads reach a bucket. -/
theorem get?_buckets_add (t : Tally α) (w : Workload α) (key : String) :
    (add field subfields o t w).value.buckets.get? key =
      if belongs field subfields o key w then
        some (((t.buckets.get? key).getD (.empty field subfields key)).merge w (o.priced w))
      else t.buckets.get? key := by
  cases hpool : o.isPooled w with
  | true =>
    rw [value_add_of_pooled hpool, if_neg (by simp [belongs, hpool])]
  | false =>
    cases hkey : field.key? subfields w with
    | none => rw [value_add_of_skipped hpool hkey, if_neg (by simp [belongs, hkey])]
    | some k =>
      rw [value_add_of_merged hpool hkey]
      simp only [Index.get?_upsert]
      by_cases hk : key = k
      · subst hk
        rw [if_pos rfl, if_pos (belongs_iff.mpr ⟨hpool, hkey⟩)]
      · rw [if_neg hk, if_neg (by simpa [belongs, hpool, hkey] using Ne.symm hk)]

/-- **The pass, seen from one key.** The bucket is there once a workload belongs to it, and has
taken in the workloads that do. -/
theorem get?_buckets_tally (ws : List (Workload α)) (key : String) :
    (tally field subfields o ws).buckets.get? key =
      if ws.any (belongs field subfields o key) then some (gathered field subfields o key ws)
      else none := by
  induction ws using List.reverseRecOn with
  | nil => rfl
  | append_singleton ws w ih =>
    rw [tally_append_singleton, get?_buckets_add, ih, List.any_append, List.any_cons, List.any_nil,
      Bool.or_false]
    cases hw : belongs field subfields o key w with
    | false =>
      rw [gathered_append_of_not_belongs hw, Bool.or_false]
      rfl
    | true =>
      rw [gathered_append_of_belongs hw, Bool.or_true, if_pos rfl, if_pos rfl]
      split
      · rfl
      · next hnone =>
        -- nothing has been gathered before the first workload of the bucket
        have hfilter : ws.filter (belongs field subfields o key) = [] := by
          simpa [List.filter_eq_nil_iff] using hnone
        simp [gathered, hfilter]

theorem pool_add (t : Tally α) (w : Workload α) :
    (add field subfields o t w).value.pool =
      if o.isPooled w then t.pool + (o.priced w).total else t.pool := by
  cases hpool : o.isPooled w with
  | true => rw [value_add_of_pooled hpool, if_pos rfl]
  | false =>
    cases hkey : field.key? subfields w with
    | none => rw [value_add_of_skipped hpool hkey, if_neg (by simp)]
    | some k => rw [value_add_of_merged hpool hkey, if_neg (by simp)]

theorem pool_tally (ws : List (Workload α)) :
    (tally field subfields o ws).pool = pooledCost o ws := by
  induction ws using List.reverseRecOn with
  | nil => rfl
  | append_singleton ws w ih =>
    rw [tally_append_singleton, pool_add, ih]
    cases hpool : o.isPooled w <;> simp [pooledCost, hpool]

/-! ## The report -/

/-- The keys of a report are those of the workloads that are not pooled. -/
theorem mem_names_report_iff {inventory : Inventory α} {key : String} :
    key ∈ (report inventory field subfields o).value.names ↔
      ∃ w ∈ inKeyOrder inventory, o.isPooled w = false ∧ field.key? subfields w = some key := by
  rw [value_report, Index.names_mapWithName, Index.mem_names_iff, get?_buckets_tally]
  simp only [← belongs_iff, ← List.any_eq_true]
  split <;> simp_all

/-- **What a report has under a key**: nothing, or the record of the workloads of the key. -/
theorem get?_report_eq (inventory : Inventory α) (key : String) :
    (report inventory field subfields o).value.get? key =
      if (inKeyOrder inventory).any (belongs field subfields o key) then
        some ((gathered field subfields o key (inKeyOrder inventory)).finalize
          (tally field subfields o (inKeyOrder inventory)).share o)
      else none := by
  rw [value_report, Index.get?_mapWithName, get?_buckets_tally]
  split <;> rfl

/-- The record under a key of a report. -/
theorem get?_report {inventory : Inventory α} {key : String}
    (h : key ∈ (report inventory field subfields o).value.names) :
    (report inventory field subfields o).value.get? key =
      some ((gathered field subfields o key (inKeyOrder inventory)).finalize
        (pooledCost o (inKeyOrder inventory) /
          Number.ofNat (report inventory field subfields o).value.size) o) := by
  have hany : (inKeyOrder inventory).any (belongs field subfields o key) = true := by
    obtain ⟨w, hw, hpool, hkey⟩ := mem_names_report_iff.mp h
    exact List.any_eq_true.mpr ⟨w, hw, belongs_iff.mpr ⟨hpool, hkey⟩⟩
  have hsize : (report inventory field subfields o).value.size =
      (tally field subfields o (inKeyOrder inventory)).buckets.size := by
    simp [value_report, Index.size, Index.mapWithName]
  have hne : (report inventory field subfields o).value.size ≠ 0 := by
    intro h0
    rw [Index.size, List.length_eq_zero_iff] at h0
    simp [Index.names, h0] at h
  have hpool : (tally field subfields o (inKeyOrder inventory)).pool =
      pooledCost o (inKeyOrder inventory) := pool_tally _
  rw [hsize] at hne ⊢
  rw [← hpool, ← share_eq _ hne, get?_report_eq, if_pos hany]

/-- A record of a report has taken in the workloads of its key, and its share of the pool. -/
theorem eq_of_get?_report {inventory : Inventory α} {key : String} {r : Record α}
    (h : (report inventory field subfields o).value.get? key = some r) :
    r = (gathered field subfields o key (inKeyOrder inventory)).finalize
      (pooledCost o (inKeyOrder inventory) /
        Number.ofNat (report inventory field subfields o).value.size) o := by
  have hkey : key ∈ (report inventory field subfields o).value.names :=
    Index.mem_names_iff.mpr ⟨r, h⟩
  exact Option.some.inj (h.symm.trans (get?_report hkey))

/-- **A report groups its workloads.** Its keys are the different keys of the workloads that are not
pooled, in ascending order. The record under a key has taken in the workloads of that key in
ascending order of their own keys and is finalized with an even share of the pool. -/
theorem report_groups (inventory : Inventory α) (field : GroupField) (subfields : List String)
    (o : ReportOptions α) {ws : List (String × Workload α)} (hperm : ws.Perm inventory.entries)
    (hasc : ws.Pairwise fun a b => a.1 < b.1) :
    let workloads := ws.map Prod.snd
    let r := (report inventory field subfields o).value
    r.names.Pairwise (· < ·) ∧
      (∀ key, key ∈ r.names ↔
        ∃ w ∈ workloads, o.isPooled w = false ∧ field.key? subfields w = some key) ∧
      ∀ key ∈ r.names, r.get? key =
        some ((gathered field subfields o key workloads).finalize
          (pooledCost o workloads / Number.ofNat r.size) o) := by
  intro workloads r
  have horder : inKeyOrder inventory = workloads := inKeyOrder_eq hperm hasc
  refine ⟨r.pairwise_names, fun key => ?_, fun key hkey => ?_⟩
  · rw [← horder]
    exact mem_names_report_iff
  · rw [← horder]
    exact get?_report hkey

/-! ## A small inventory -/

/-- Two workloads of one service, one of the system and one without a service. -/
def sampleWorkloads : List (String × Workload ℚ) :=
  [("a", { namespaceName := "shop", cluster := "east", services := ["web"],
           node := { gpuCost := "0.5" }, usage := { gpu := [⟨26, 1⟩] },
           claims := [{ volume := some { cost := "4" }, requested := [⟨11, bytesPerGiB⟩] }] }),
    ("b", { namespaceName := "shop", cluster := "east", services := ["web"],
            node := { vcpuCost := "2" }, usage := { cpu := { allocation := [⟨10, 1⟩, ⟨24, 2⟩] } },
            network := [⟨12, 3⟩] }),
    ("c", { namespaceName := systemNamespace, cluster := "west", network := [⟨10, 4⟩] }),
    ("d", { namespaceName := "shop", cluster := "east", network := [⟨50, 5⟩] })]

def sampleInventory : Inventory ℚ where
  entries := sampleWorkloads.reverse
  nodup := by decide

/-- Options under which the workload of the system is pooled. -/
def sampleOptions : ReportOptions ℚ where
  terms := { discount := 1 / 10 }
  idleCoefficients := Index.ofList [("east", 1 / 2)]
  sharing := some { enabled := true, namespaces := [systemNamespace], selectors := ∅ }

theorem report_groups_sample :
    let workloads := sampleWorkloads.map Prod.snd
    let r := (report sampleInventory .service [] sampleOptions).value
    sampleWorkloads.Perm sampleInventory.entries ∧
      (sampleWorkloads.Pairwise fun a b => a.1 < b.1) ∧ r.names = ["shop/web"] ∧
      r.get? "shop/web" =
        some ((gathered .service [] sampleOptions "shop/web" workloads).finalize
          (pooledCost sampleOptions workloads / Number.ofNat r.size) sampleOptions) := by
  intro workloads r
  have hperm : sampleWorkloads.Perm sampleInventory.entries := (List.reverse_perm _).symm
  have hasc : sampleWorkloads.Pairwise fun a b => a.1 < b.1 := by decide +kernel
  have hnames : r.names = ["shop/web"] := by decide +kernel
  have hgroups := (report_groups sampleInventory .service [] sampleOptions hperm hasc).2.2
  exact ⟨hperm, hasc, hnames, hgroups "shop/web" (hnames ▸ List.mem_singleton_self _)⟩

end Chargeback.Report
