import Chargeback.Proofs.Names
import Chargeback.Proofs.Report.Grouping
import Chargeback.Proofs.Report.Journal

/-!
# What a report shows

Whether a report is asked for scores and for series does not change what it finds. The pass over the
workloads does not read the two flags, and a record is finalized with all series at hand, so that
they decide only what is left in it in the end: a record of any run is the record of the full run
with the scores or the series taken out (`Record.finalize_withOutput`). The journal of a run is that
of the full run, without the warnings about scores if there are none (`report_shown`).
-/

namespace Chargeback

variable {α : Type}

/-- The same report with other flags for what is shown. -/
def ReportOptions.withOutput (o : ReportOptions α) (efficiency timeSeries : Bool) :
    ReportOptions α :=
  { o with efficiency, timeSeries }

/-- What a record shows of itself: all but the scores, and all but the series, unless asked for. -/
def Record.shown (r : Record α) (efficiency timeSeries : Bool) : Record α :=
  { r with
    scores := if efficiency then r.scores else {}
    costSeries := if timeSeries then r.costSeries else {}
    usage := if timeSeries then r.usage else {} }

/-- A warning about scores. -/
def Effect.isAnomaly : Effect α → Bool
  | .event (.efficiencyAnomaly ..) => true
  | _ => false

variable [Number α]

/-- A record is the same however much of it is shown. -/
theorem Record.finalize_withOutput {r : Record α} (hscores : r.scores = {}) (share : α)
    (o : ReportOptions α) (efficiency timeSeries : Bool) :
    r.finalize share (o.withOutput efficiency timeSeries) =
      (r.finalize share (o.withOutput true true)).shown efficiency timeSeries := by
  have hcosted (efficiency timeSeries : Bool) :
      r.costed share (o.withOutput efficiency timeSeries) = r.costed share o := rfl
  have hunscored : (r.costed share o).scores = {} := by
    rw [← hscores]
    unfold costed normalized
    split <;> rfl
  unfold finalize
  rw [hcosted, hcosted]
  generalize r.costed share o = c at hunscored
  obtain ⟨_, _, _, _, _, scores, _, _, _⟩ := c
  obtain rfl : scores = {} := hunscored
  cases efficiency <;> cases timeSeries <;> rfl

namespace Report

variable {field : GroupField} {subfields : List String} {o : ReportOptions α}

/-! ## The records -/

/-- The pass does not read the flags. -/
theorem tally_withOutput (efficiency timeSeries : Bool) (ws : List (Workload α)) :
    tally field subfields (o.withOutput efficiency timeSeries) ws = tally field subfields o ws := rfl

theorem value_report_withOutput (inventory : Inventory α) (efficiency timeSeries : Bool) :
    (report inventory field subfields (o.withOutput efficiency timeSeries)).value =
      (report inventory field subfields (o.withOutput true true)).value.mapWithName
        fun _ r => r.shown efficiency timeSeries := by
  refine Index.ext_get? fun key => ?_
  have hbelongs (efficiency timeSeries : Bool) :
      belongs field subfields (o.withOutput efficiency timeSeries) key =
        belongs field subfields o key := rfl
  have hgathered (efficiency timeSeries : Bool) (ws : List (Workload α)) :
      gathered field subfields (o.withOutput efficiency timeSeries) key ws =
        gathered field subfields o key ws := rfl
  rw [Index.get?_mapWithName, get?_report_eq, get?_report_eq, hbelongs, hbelongs, hgathered,
    hgathered, tally_withOutput, tally_withOutput]
  split
  · exact congrArg some (Record.finalize_withOutput (scores_gathered o key _) _ o _ _)
  · rfl

/-! ## The journal -/

/-- Without scores there are no warnings about them. -/
theorem anomalies_of_unscored (h : o.efficiency = false) (t : Tally α) :
    anomalies field o t = [] := by
  refine List.filterMap_eq_nil_iff.mpr fun e _ => ?_
  rw [anomaly?, h, Bool.false_and]
  exact if_neg Bool.false_ne_true

theorem isAnomaly_of_mem_anomalies {t : Tally α} {e : Effect α} (he : e ∈ anomalies field o t) :
    e.isAnomaly = true := by
  obtain ⟨_, _, rfl⟩ := exists_event_of_mem_anomalies he
  rfl

/-- What is told of a workload is no warning about scores. -/
theorem isAnomaly_of_mem_entry {w : Workload α} {e : Effect α}
    (he : e ∈ entry field subfields o w) : e.isAnomaly = false := by
  cases e with
  | event event =>
    rcases event_of_mem_entry he with ⟨_, -, rfl⟩ | ⟨_, _, rfl⟩ | rfl <;> rfl
  | count | buckets | coefficient | billingQuery => rfl

/-- **Flags for what is shown do not change results.** Of the four runs that differ in them, each
has the buckets of the full run, with the records of the full run as far as they are shown, and it
tells what the full run tells, but for the warnings about scores if there are none. -/
theorem report_shown (inventory : Inventory α) (field : GroupField) (subfields : List String)
    (o : ReportOptions α) (efficiency timeSeries : Bool) :
    let run (efficiency timeSeries : Bool) :=
      report inventory field subfields (o.withOutput efficiency timeSeries)
    (run efficiency timeSeries).value =
        (run true true).value.mapWithName (fun _ r => r.shown efficiency timeSeries) ∧
      (run efficiency timeSeries).journal =
        (run true true).journal.filter fun e => efficiency || !e.isAnomaly := by
  intro run
  refine ⟨value_report_withOutput inventory efficiency timeSeries, ?_⟩
  set ws := inKeyOrder inventory
  set t := tally field subfields o ws
  have hrun (efficiency timeSeries : Bool) : (run efficiency timeSeries).journal =
      .event (.reportStarted field inventory.size o.terms.cadence) ::
        (ws.flatMap (entry field subfields o) ++
          (anomalies field (o.withOutput efficiency timeSeries) t ++ closing field t)) :=
    journal_report inventory field subfields (o.withOutput efficiency timeSeries)
  rw [hrun, hrun]
  cases efficiency with
  | true =>
    -- everything is kept, and the warnings do not read the other flag
    simp only [Bool.true_or, List.filter_true]
    rfl
  | false =>
    have hentries : (ws.flatMap (entry field subfields o)).filter (fun e => !e.isAnomaly) =
        ws.flatMap (entry field subfields o) := by
      refine List.filter_eq_self.mpr fun e he => ?_
      obtain ⟨w, -, hw⟩ := List.mem_flatMap.mp he
      rw [isAnomaly_of_mem_entry hw, Bool.not_false]
    have hanomalies :
        (anomalies field (o.withOutput true true) t).filter (fun e => !e.isAnomaly) = [] := by
      refine List.filter_eq_nil_iff.mpr fun e he => ?_
      rw [isAnomaly_of_mem_anomalies he, Bool.not_true]
      exact Bool.false_ne_true
    have hclosing : (closing field t).filter (fun e => !e.isAnomaly) = closing field t := rfl
    simp only [Bool.false_or, List.filter_cons, List.filter_append, hentries, hanomalies, hclosing]
    rw [anomalies_of_unscored rfl]
    rfl

end Report

end Chargeback
