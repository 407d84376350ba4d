import Mathlib.Data.List.Induction
import Chargeback.Proofs.Journal.Metrics
import Chargeback.Proofs.Report.Pass

/-!
# What a report tells

Every workload of a report is counted once, by one of three counters (`Report.counter`), and what is
told of it does not depend on the workloads before it (`journal_add`). So the journal of a report is
that of its workloads one after another, between its opening and its closing (`journal_report`), and
each of the three counters grows by the number of the workloads that it counts
(`countOf_journal_report`). What the pass has counted itself is the same, and it has made no more
buckets than workloads were merged (`counts_tally`).
-/

namespace Chargeback

/-- A step that tells the same whatever it starts from tells of each element on its own. -/
theorem Journaled.journal_foldlM {ε β γ : Type} {f : β → γ → Journaled ε β} {g : γ → List ε}
    (h : ∀ b c, (f b c).journal = g c) (b : β) (cs : List γ) :
    (cs.foldlM f b).journal = cs.flatMap g := by
  induction cs generalizing b with
  | nil => rfl
  | cons c cs ih => rw [List.foldlM_cons, journal_bind, h, ih, List.flatMap_cons]

namespace Index

variable {β γ : Type}

theorem length_place_le (name : String) (f : Option β → β) (l : List (String × β)) :
    (place name f l).length ≤ l.length + 1 := by
  induction l with
  | nil => exact Nat.le_refl _
  | cons p l ih =>
    unfold place
    split
    · exact Nat.le_refl _
    · split
      · exact Nat.le_succ _
      · exact Nat.succ_le_succ ih

theorem size_upsert_le (m : Index β) (name : String) (f : Option β → β) :
    (m.upsert name f).size ≤ m.size + 1 := length_place_le name f m.entries

@[simp] theorem size_mapWithName (f : String → β → γ) (m : Index β) :
    (m.mapWithName f).size = m.size := List.length_map _

end Index

variable {α : Type}

/-- The counters of workloads. -/
def Counter.OfWorkloads (c : Counter) : Prop := c = .aggregated ∨ c = .shared ∨ c = .skipped

/-- The event completes a report. -/
def Event.completes : Event α → Bool
  | .reportCompleted .. => true
  | _ => false

/-- The events among a list of effects that complete a report. -/
def Effect.completions (effects : List (Effect α)) : List (Event α) :=
  (events effects).filter Event.completes

namespace Effect

theorem completions_append (es fs : List (Effect α)) :
    completions (es ++ fs) = completions es ++ completions fs := by
  rw [completions, events, List.filterMap_append, List.filter_append]
  rfl

theorem completions_eq_nil {es : List (Effect α)}
    (h : ∀ event, .event event ∈ es → event.completes = false) : completions es = [] := by
  rw [completions, List.filter_eq_nil_iff]
  intro event hevent
  obtain ⟨e, he, hsome⟩ := List.mem_filterMap.mp hevent
  cases e with
  | event event' =>
    obtain rfl := Option.some.inj hsome
    simp [h _ he]
  | count | buckets | coefficient | billingQuery => cases hsome

end Effect

namespace Report

/-- The counter that counts a workload. -/
def counter (field : GroupField) (subfields : List String) (o : ReportOptions α) (w : Workload α) :
    Counter :=
  if o.isPooled w then .shared
  else if (field.key? subfields w).isNone then .skipped
  else .aggregated

section Counting

variable {field : GroupField} {subfields : List String} {o : ReportOptions α} {w : Workload α}

theorem counter_of_pooled (h : o.isPooled w = true) : counter field subfields o w = .shared :=
  if_pos h

theorem counter_of_skipped (h : o.isPooled w = false) (hkey : field.key? subfields w = none) :
    counter field subfields o w = .skipped := by
  simp [counter, h, hkey]

theorem counter_of_merged {key : String} (h : o.isPooled w = false)
    (hkey : field.key? subfields w = some key) : counter field subfields o w = .aggregated := by
  simp [counter, h, hkey]

theorem counter_ofWorkloads (w : Workload α) : (counter field subfields o w).OfWorkloads := by
  unfold counter
  split
  · exact .inr (.inl rfl)
  · split
    · exact .inr (.inr rfl)
    · exact .inl rfl

theorem counter_eq_shared_iff : counter field subfields o w = .shared ↔ o.isPooled w = true := by
  constructor
  · intro h
    by_contra hpool
    unfold counter at h
    rw [if_neg hpool] at h
    split at h <;> cases h
  · exact counter_of_pooled

theorem counter_eq_skipped_iff :
    counter field subfields o w = .skipped ↔
      o.isPooled w = false ∧ field.key? subfields w = none := by
  constructor
  · intro h
    unfold counter at h
    split at h
    · cases h
    · next hpool =>
      split at h
      · next hkey => exact ⟨Bool.not_eq_true _ ▸ hpool, Option.isNone_iff_eq_none.mp hkey⟩
      · cases h
  · rintro ⟨hpool, hkey⟩
    exact counter_of_skipped hpool hkey

/-- How many of some workloads a counter counts. -/
def counted (field : GroupField) (subfields : List String) (o : ReportOptions α) (c : Counter)
    (ws : List (Workload α)) : Nat :=
  ws.countP fun w => counter field subfields o w = c

theorem counted_append_singleton (c : Counter) (ws : List (Workload α)) (w : Workload α) :
    counted field subfields o c (ws ++ [w]) =
      counted field subfields o c ws + if counter field subfields o w = c then 1 else 0 := by
  simp only [counted, List.countP_append, List.countP_singleton, decide_eq_true_eq]

theorem counted_perm (c : Counter) {ws vs : List (Workload α)} (h : ws.Perm vs) :
    counted field subfields o c ws = counted field subfields o c vs := h.countP_eq _

/-- **Every workload is counted once.** -/
theorem counted_add_counted_add_counted (field : GroupField) (subfields : List String)
    (o : ReportOptions α) (ws : List (Workload α)) :
    counted field subfields o .aggregated ws + counted field subfields o .shared ws +
      counted field subfields o .skipped ws = ws.length := by
  induction ws with
  | nil => rfl
  | cons w ws ih =>
    simp only [counted, List.countP_cons, List.length_cons, decide_eq_true_eq] at ih ⊢
    have hw : (counter field subfields o w).OfWorkloads := counter_ofWorkloads w
    rcases hw with hw | hw | hw <;> simp only [hw, reduceCtorEq, if_true, if_false] <;> omega

theorem counted_shared (ws : List (Workload α)) :
    counted field subfields o .shared ws = ws.countP o.isPooled := by
  refine List.countP_congr fun w _ => ?_
  rw [decide_eq_true_eq, counter_eq_shared_iff]

theorem counted_skipped (ws : List (Workload α)) :
    counted field subfields o .skipped ws =
      ws.countP fun w => !o.isPooled w && (field.key? subfields w).isNone := by
  refine List.countP_congr fun w _ => ?_
  rw [decide_eq_true_eq, counter_eq_skipped_iff]
  simp

end Counting

variable [Number α] {field : GroupField} {subfields : List String} {o : ReportOptions α}

/-! ## One workload -/

/-- What is told of a workload: the idle coefficient of its cluster if it cannot be divided by, the
prices that cannot be read, and what becomes of the workload. -/
def entry (field : GroupField) (subfields : List String) (o : ReportOptions α) (w : Workload α) :
    List (Effect α) :=
  ((o.unusableCoefficient? w.cluster).map fun c =>
      .event (.invalidIdleCoefficient field w.cluster c)).toList ++
    (w.price o.terms (o.idleCoefficient w.cluster)).journal ++
    .count (counter field subfields o w) ::
      if o.isPooled w then [.event (.pooledWorkload w.namespaceName w.pod)] else []

/-- **What is told of a workload** does not depend on what has been gathered before. -/
theorem journal_add (t : Tally α) (w : Workload α) :
    (add field subfields o t w).journal = entry field subfields o w := by
  unfold add entry
  cases hunusable : o.unusableCoefficient? w.cluster <;> cases hpool : o.isPooled w with
  | true => simp [counter_of_pooled hpool]
  | false =>
    cases hkey : field.key? subfields w with
    | none => simp [counter_of_skipped hpool hkey]
    | some key => simp [counter_of_merged hpool hkey]

/-- A workload is counted by its own counter. -/
theorem countOf_entry (c : Counter) (w : Workload α) :
    Effect.countOf c (entry field subfields o w) =
      if counter field subfields o w = c then 1 else 0 := by
  have hprice := (w.complains_price o.terms (o.idleCoefficient w.cluster)).countOf_eq_zero c
  have hunusable : Effect.countOf c ((o.unusableCoefficient? w.cluster).map fun x =>
      (.event (.invalidIdleCoefficient field w.cluster x) : Effect α)).toList = 0 := by
    cases o.unusableCoefficient? w.cluster <;> rfl
  have hpooled : Effect.countOf c
      (if o.isPooled w then [(.event (.pooledWorkload w.namespaceName w.pod) : Effect α)]
        else []) = 0 := by
    split <;> rfl
  rw [entry, Effect.countOf_append, Effect.countOf_append, hprice, hunusable, Effect.countOf_cons,
    hpooled, Effect.countOf, List.countP_singleton]
  simp only [decide_eq_true_eq, Nat.zero_add]

/-- The events of a workload's entry. -/
theorem event_of_mem_entry {w : Workload α} {event : Event α}
    (h : .event event ∈ entry field subfields o w) :
    (∃ c, o.unusableCoefficient? w.cluster = some c ∧
        event = .invalidIdleCoefficient field w.cluster c) ∨
      (∃ price defect, event = .malformedPrice price defect) ∨
      event = .pooledWorkload w.namespaceName w.pod := by
  rw [entry, List.mem_append, List.mem_append] at h
  rcases h with (h | h) | h
  · cases hc : o.unusableCoefficient? w.cluster with
    | none => simp [hc] at h
    | some c => exact .inl ⟨c, rfl, by simpa [hc] using h⟩
  · obtain ⟨price, defect, he⟩ := w.complains_price _ _ _ h
    exact .inr (.inl ⟨price, defect, Effect.event.inj he⟩)
  · cases hpool : o.isPooled w with
    | true => exact .inr (.inr (by simpa [hpool] using h))
    | false => simp [hpool] at h

/-- What is told of a workload completes no report. -/
theorem completes_of_mem_entry {w : Workload α} {event : Event α}
    (h : .event event ∈ entry field subfields o w) : event.completes = false := by
  rcases event_of_mem_entry h with ⟨_, -, rfl⟩ | ⟨_, _, rfl⟩ | rfl <;> rfl

/-- A coefficient that is told of in a workload's entry cannot be divided by. -/
theorem unusableCoefficient?_of_mem_entry {w : Workload α} {f : GroupField} {cluster : String}
    {c : α}
    (h : .event (.invalidIdleCoefficient f cluster c) ∈ entry field subfields o w) :
    o.unusableCoefficient? cluster = some c := by
  rcases event_of_mem_entry h with ⟨x, hx, he⟩ | ⟨_, _, he⟩ | he
  · obtain ⟨-, rfl, rfl⟩ := Event.invalidIdleCoefficient.inj he
    exact hx
  · cases he
  · cases he

/-! ## All workloads -/

/-- What a workload adds to what the pass has counted. -/
theorem counts_add (field : GroupField) (subfields : List String) (o : ReportOptions α)
    (t : Tally α) (w : Workload α) :
    let t' := (add field subfields o t w).value
    t'.shared = t.shared + (if counter field subfields o w = .shared then 1 else 0) ∧
      t'.skipped = t.skipped + (if counter field subfields o w = .skipped then 1 else 0) ∧
      t'.buckets.size ≤
        t.buckets.size + if counter field subfields o w = .aggregated then 1 else 0 := by
  intro t'
  cases hpool : o.isPooled w with
  | true =>
    have ht' : t' = _ := value_add_of_pooled hpool
    rw [ht', counter_of_pooled hpool]
    exact ⟨rfl, rfl, Nat.le_refl _⟩
  | false =>
    cases hkey : field.key? subfields w with
    | none =>
      have ht' : t' = _ := value_add_of_skipped hpool hkey
      rw [ht', counter_of_skipped hpool hkey]
      exact ⟨rfl, rfl, Nat.le_refl _⟩
    | some key =>
      have ht' : t' = _ := value_add_of_merged hpool hkey
      rw [ht', counter_of_merged hpool hkey]
      exact ⟨rfl, rfl, Index.size_upsert_le _ _ _⟩

/-- **What the pass has counted** are the workloads that the counters count. A bucket takes a
workload to make. -/
theorem counts_tally (field : GroupField) (subfields : List String) (o : ReportOptions α)
    (ws : List (Workload α)) :
    let t := tally field subfields o ws
    t.shared = counted field subfields o .shared ws ∧
      t.skipped = counted field subfields o .skipped ws ∧
      t.buckets.size ≤ counted field subfields o .aggregated ws := by
  induction ws using List.reverseRecOn with
  | nil => exact ⟨rfl, rfl, Nat.le_refl _⟩
  | append_singleton ws w ih =>
    obtain ⟨hshared, hskipped, hsize⟩ := ih
    obtain ⟨hshared', hskipped', hsize'⟩ :=
      counts_add field subfields o (tally field subfields o ws) w
    intro t
    have ht : t = (add field subfields o (tally field subfields o ws) w).value :=
      tally_append_singleton ws w
    simp only [counted_append_singleton, ht]
    exact ⟨by rw [hshared', hshared], by rw [hskipped', hskipped],
      Nat.le_trans hsize' (Nat.add_le_add_right hsize _)⟩

/-! ## The report -/

/-- What is told of a finished report. -/
def closing (field : GroupField) (t : Tally α) : List (Effect α) :=
  [.count .reports, .buckets t.buckets.size,
    .event (.reportCompleted field t.buckets.size t.shared t.skipped t.pool)]

/-- The warnings about the scores of the buckets. -/
def anomalies (field : GroupField) (o : ReportOptions α) (t : Tally α) : List (Effect α) :=
  t.buckets.entries.filterMap fun e => anomaly? field o t.share e.1 e.2

theorem size_report (inventory : Inventory α) :
    (report inventory field subfields o).value.size =
      (tally field subfields o (inKeyOrder inventory)).buckets.size := by
  rw [value_report, Index.size_mapWithName]

/-- **What a report tells**: its opening, its workloads in the order of their keys, the warnings
about its scores, and its closing. -/
theorem journal_report (inventory : Inventory α) (field : GroupField) (subfields : List String)
    (o : ReportOptions α) :
    (report inventory field subfields o).journal =
      .event (.reportStarted field inventory.size o.terms.cadence) ::
        ((inKeyOrder inventory).flatMap (entry field subfields o) ++
          (anomalies field o (tally field subfields o (inKeyOrder inventory)) ++
            closing field (tally field subfields o (inKeyOrder inventory)))) := by
  have hpass : ((inKeyOrder inventory).foldlM (add field subfields o) .empty).journal =
      (inKeyOrder inventory).flatMap (entry field subfields o) :=
    Journaled.journal_foldlM journal_add _ _
  have hvalue : ((inKeyOrder inventory).foldlM (add field subfields o) .empty).value =
      tally field subfields o (inKeyOrder inventory) := Journaled.value_foldlM _ _ _
  simp only [report, Journaled.journal_bind, Journaled.journal_tell, Journaled.journal_tellAll,
    Journaled.journal_pure, hpass, hvalue, Index.size_mapWithName, List.append_nil]
  rfl

/-- A warning about a score is an event. -/
theorem exists_event_of_mem_anomalies {t : Tally α} {e : Effect α}
    (he : e ∈ anomalies field o t) :
    ∃ bucket scores, e = .event (.efficiencyAnomaly field bucket scores) := by
  obtain ⟨⟨bucket, record⟩, -, he⟩ := List.mem_filterMap.mp he
  obtain ⟨-, he⟩ := Option.ite_none_right_eq_some.mp he
  exact ⟨bucket, _, (Option.some.inj he).symm⟩

theorem countOf_anomalies (c : Counter) (t : Tally α) :
    Effect.countOf c (anomalies field o t) = 0 := by
  rw [Effect.countOf_eq_zero_iff]
  intro hmem
  obtain ⟨bucket, scores, h⟩ := exists_event_of_mem_anomalies hmem
  cases h

theorem countOf_entries (c : Counter) (ws : List (Workload α)) :
    Effect.countOf c (ws.flatMap (entry field subfields o)) =
      counted field subfields o c ws := by
  induction ws with
  | nil => rfl
  | cons w ws ih =>
    simp only [List.flatMap_cons, Effect.countOf_append, ih, countOf_entry, counted,
      List.countP_cons, decide_eq_true_eq]
    omega

/-- **What a report counts**: every workload by its own counter, and itself. -/
theorem countOf_journal_report (inventory : Inventory α) (c : Counter) :
    Effect.countOf c (report inventory field subfields o).journal =
      counted field subfields o c inventory.values + if c = .reports then 1 else 0 := by
  rw [journal_report, Effect.countOf_cons, Effect.countOf_append, Effect.countOf_append,
    countOf_entries, countOf_anomalies, counted_perm c (inKeyOrder_perm inventory)]
  cases c <;> rfl

/-- **One event completes a report**, with the number of its buckets and of the workloads that are
counted as shared and as skipped. -/
theorem completions_journal_report (inventory : Inventory α) (field : GroupField)
    (subfields : List String) (o : ReportOptions α) :
    ∃ pool, Effect.completions (report inventory field subfields o).journal =
      [.reportCompleted field (report inventory field subfields o).value.size
        (counted field subfields o .shared inventory.values)
        (counted field subfields o .skipped inventory.values) pool] := by
  obtain ⟨hshared, hskipped, -⟩ := counts_tally field subfields o (inKeyOrder inventory)
  have hentries :
      Effect.completions ((inKeyOrder inventory).flatMap (entry field subfields o)) = [] := by
    refine Effect.completions_eq_nil fun event hevent => ?_
    obtain ⟨w, -, hw⟩ := List.mem_flatMap.mp hevent
    exact completes_of_mem_entry hw
  have hanomalies : Effect.completions
      (anomalies field o (tally field subfields o (inKeyOrder inventory))) = [] := by
    refine Effect.completions_eq_nil fun event hevent => ?_
    obtain ⟨_, _, he⟩ := exists_event_of_mem_anomalies hevent
    cases he
    rfl
  have hperm := inKeyOrder_perm inventory
  refine ⟨(tally field subfields o (inKeyOrder inventory)).pool, ?_⟩
  rw [journal_report, ← List.singleton_append, Effect.completions_append,
    Effect.completions_append, Effect.completions_append, hentries, hanomalies, size_report,
    ← counted_perm .shared hperm, ← counted_perm .skipped hperm, ← hshared, ← hskipped]
  rfl

/-- A report tells of the idle coefficients that it cannot divide by, and of no others. -/
theorem unusableCoefficient?_of_mem_journal {inventory : Inventory α} {f : GroupField}
    {cluster : String} {c : α}
    (h : .event (.invalidIdleCoefficient f cluster c) ∈
      (report inventory field subfields o).journal) :
    o.unusableCoefficient? cluster = some c := by
  rw [journal_report, List.mem_cons, List.mem_append, List.mem_append] at h
  rcases h with h | h | h | h
  · cases h
  · obtain ⟨w, -, hw⟩ := List.mem_flatMap.mp h
    exact unusableCoefficient?_of_mem_entry hw
  · obtain ⟨_, _, he⟩ := exists_event_of_mem_anomalies h
    cases he
  · simp [closing] at h

theorem buckets_recordAll_report (inventory : Inventory α) (m : Metrics α) :
    (m.recordAll (report inventory field subfields o).journal).buckets =
      (report inventory field subfields o).value.size := by
  rw [journal_report, Metrics.recordAll_cons, Metrics.recordAll_append, Metrics.recordAll_append,
    size_report]
  rfl

end Report

end Chargeback
