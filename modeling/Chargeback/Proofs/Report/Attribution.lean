import Chargeback.Proofs.Report.Grouping

/-!
# The cluster of a bucket

A bucket is attributed to a cluster if the workloads merged into it name one cluster between them.
A workload with an empty cluster identifier names none, and does not stand in the way of the others.
A record keeps the names, and one more workload adds its own (`Attribution.mem_named_add`), so that
a whole list of clusters leaves the names in it (`Attribution.mem_named_ofClusters`). A record is
settled on the only name there is, so its cluster can be read off the workloads of the bucket
(`report_attribution`).
-/

namespace Chargeback

namespace Attribution

/-- What is kept of a list of clusters. -/
def ofClusters (clusters : List String) : Attribution := clusters.foldl add ∅

/-- **After any list of clusters**, those that are named are kept. -/
theorem mem_named_ofClusters {clusters : List String} {c : String} :
    c ∈ (ofClusters clusters).named ↔ c ∈ clusters ∧ c ≠ "" := by
  induction clusters using List.reverseRecOn with
  | nil => simp [ofClusters]
  | append_singleton clusters cluster ih =>
    have hstep : ofClusters (clusters ++ [cluster]) = (ofClusters clusters).add cluster := by
      simp only [ofClusters, List.foldl_append, List.foldl_cons, List.foldl_nil]
    rw [hstep, mem_named_add, ih, List.mem_append, List.mem_singleton, or_and_right]

end Attribution

namespace Report

variable {α : Type} {field : GroupField} {subfields : List String} {o : ReportOptions α}

/-- The workloads that a report merges into the bucket of a key. -/
def Merges (inventory : Inventory α) (field : GroupField) (subfields : List String)
    (o : ReportOptions α) (key : String) (w : Workload α) : Prop :=
  w ∈ inventory.values ∧ o.isPooled w = false ∧ field.key? subfields w = some key

/-- The clusters of the workloads of a bucket, in the order of the pass. -/
def clustersOf (inventory : Inventory α) (field : GroupField) (subfields : List String)
    (o : ReportOptions α) (key : String) : List String :=
  ((inKeyOrder inventory).filter (belongs field subfields o key)).map Workload.cluster

variable {inventory : Inventory α} {key : String}

theorem mem_clustersOf_iff {c : String} :
    c ∈ clustersOf inventory field subfields o key ↔
      ∃ w, Merges inventory field subfields o key w ∧ w.cluster = c := by
  simp only [clustersOf, List.mem_map, List.mem_filter, (inKeyOrder_perm inventory).mem_iff,
    belongs_iff, Merges]

/-- The workloads of a bucket that name a cluster. -/
theorem exists_named_iff {p : String → Prop} :
    (∃ c ∈ (Attribution.ofClusters (clustersOf inventory field subfields o key)).named, p c) ↔
      ∃ w, Merges inventory field subfields o key w ∧ w.cluster ≠ "" ∧ p w.cluster := by
  simp only [Attribution.mem_named_ofClusters, mem_clustersOf_iff]
  constructor
  · rintro ⟨-, ⟨⟨w, hw, rfl⟩, hne⟩, hp⟩
    exact ⟨w, hw, hne, hp⟩
  · rintro ⟨w, hw, hne, hp⟩
    exact ⟨_, ⟨⟨w, hw, rfl⟩, hne⟩, hp⟩

/-- All workloads of a bucket that name a cluster. -/
theorem forall_named_iff {p : String → Prop} :
    (∀ c ∈ (Attribution.ofClusters (clustersOf inventory field subfields o key)).named, p c) ↔
      ∀ w, Merges inventory field subfields o key w → w.cluster ≠ "" → p w.cluster := by
  simp only [Attribution.mem_named_ofClusters, mem_clustersOf_iff]
  constructor
  · intro hall w hw hne
    exact hall _ ⟨⟨w, hw, rfl⟩, hne⟩
  · rintro hall - ⟨⟨w, hw, rfl⟩, hne⟩
    exact hall w hw hne

variable [Number α]

/-- The cluster of a record is what the clusters of its bucket come to. -/
theorem cluster_report {r : Record α}
    (h : (report inventory field subfields o).value.get? key = some r) :
    r.cluster = (Attribution.ofClusters (clustersOf inventory field subfields o key)).cluster? := by
  rw [eq_of_get?_report h, Record.cluster_finalize, attribution_gathered, Attribution.ofClusters,
    clustersOf, List.foldl_map]

/-- **The cluster of a bucket.** A record has a cluster if and only if some workload merged into its
bucket names it, and each of the others names the same or none. It has none if and only if none of
the workloads names one, or two of them name different ones. -/
theorem report_attribution {r : Record α}
    (h : (report inventory field subfields o).value.get? key = some r) :
    (∀ c, r.cluster = some c ↔
      c ≠ "" ∧ (∃ w, Merges inventory field subfields o key w ∧ w.cluster = c) ∧
        ∀ w, Merges inventory field subfields o key w → w.cluster = c ∨ w.cluster = "") ∧
    (r.cluster = none ↔
      (∀ w, Merges inventory field subfields o key w → w.cluster = "") ∨
        ∃ v, Merges inventory field subfields o key v ∧ v.cluster ≠ "" ∧
          ∃ w, Merges inventory field subfields o key w ∧ w.cluster ≠ "" ∧
            v.cluster ≠ w.cluster) := by
  rw [cluster_report h]
  refine ⟨fun c => ?_, ?_⟩
  · rw [Attribution.cluster?_eq_some_iff, Attribution.mem_named_ofClusters, mem_clustersOf_iff,
      forall_named_iff, and_comm (b := c ≠ ""), and_assoc]
    simp only [or_iff_not_imp_right, ne_eq]
  · rw [Attribution.cluster?_eq_none_iff, List.eq_nil_iff_forall_not_mem, exists_named_iff]
    simp only [exists_named_iff]
    refine or_congr_left ((forall_named_iff (p := fun _ => False)).trans ?_)
    simp only [ne_eq, imp_false, not_not]

/-- A bucket with a workload without a cluster identifier, and one that spans two clusters. -/
def scatteredInventory : Inventory Float where
  entries :=
    [("a", { namespaceName := "shop", cluster := "east" }), ("b", { namespaceName := "shop" }),
      ("c", { namespaceName := "ops", cluster := "west" }),
      ("d", { namespaceName := "ops", cluster := "east" })]
  nodup := by decide

/-- Options that neither pool nor correct anything. -/
def plainOptions : ReportOptions Float where
  terms := { discount := 0 }

theorem report_attribution_scattered :
    let records := (report scatteredInventory .namespaceName [] plainOptions).value
    let merges := Merges scatteredInventory .namespaceName [] plainOptions
    ∃ r s, records.get? "shop" = some r ∧ records.get? "ops" = some s ∧
      (r.cluster = some "east" ∧ ∀ w, merges "shop" w → w.cluster = "east" ∨ w.cluster = "") ∧
      ((∃ v, merges "ops" v ∧ v.cluster ≠ "" ∧
        ∃ w, merges "ops" w ∧ w.cluster ≠ "" ∧ v.cluster ≠ w.cluster) ∧ s.cluster = none) := by
  intro records merges
  have hshop : (records.get? "shop").map Record.cluster = some (some "east") := by decide +kernel
  have hops : "ops" ∈ records.names := by decide +kernel
  obtain ⟨r, hr, hcluster⟩ := Option.map_eq_some_iff.mp hshop
  obtain ⟨s, hs⟩ := Index.mem_names_iff.mp hops
  have hwest : merges "ops" { namespaceName := "ops", cluster := "west" } :=
    ⟨by simp [scatteredInventory, Assoc.values], rfl, rfl⟩
  have heast : merges "ops" { namespaceName := "ops", cluster := "east" } :=
    ⟨by simp [scatteredInventory, Assoc.values], rfl, rfl⟩
  have htwo : ∃ v, merges "ops" v ∧ v.cluster ≠ "" ∧
      ∃ w, merges "ops" w ∧ w.cluster ≠ "" ∧ v.cluster ≠ w.cluster :=
    ⟨_, hwest, by decide, _, heast, by decide, by decide⟩
  exact ⟨r, s, hr, hs, ⟨hcluster, (((report_attribution hr).1 "east").mp hcluster).2.2⟩,
    htwo, (report_attribution hs).2.mpr (.inr htwo)⟩

/-- **A workload without a cluster identifier** can be merged into a bucket that has a cluster. -/
theorem report_attribution_anonymous :
    ∃ r, (report scatteredInventory .namespaceName [] plainOptions).value.get? "shop" = some r ∧
      r.cluster = some "east" ∧
      ¬ (r.cluster = some "east" ↔ "east" ≠ "" ∧
        ∀ w, Merges scatteredInventory .namespaceName [] plainOptions "shop" w →
          w.cluster = "east") := by
  have hshop : ((report scatteredInventory .namespaceName [] plainOptions).value.get? "shop").map
      Record.cluster = some (some "east") := by decide +kernel
  obtain ⟨r, hr, hcluster⟩ := Option.map_eq_some_iff.mp hshop
  refine ⟨r, hr, hcluster, fun hiff => ?_⟩
  have hanonymous : Merges scatteredInventory .namespaceName [] plainOptions "shop"
      { namespaceName := "shop" } := ⟨by simp [scatteredInventory, Assoc.values], rfl, rfl⟩
  exact absurd ((hiff.mp hcluster).2 _ hanonymous) (by decide)

end Report

end Chargeback
