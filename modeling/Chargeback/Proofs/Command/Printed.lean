import Chargeback.Command.Conclusion
import Chargeback.Proofs.Display.Table
import Chargeback.Proofs.Json.Spelling
import Chargeback.Proofs.Report.Written

/-!
# Printed reports

What a printed report shows is said by how it is read (`Prints`). JSON is read back as the buckets
of the report under their keys. A table is a text of lines (`IsLines`): below a title there is a
drawing with a row for every bucket, and below that what all of them cost together
(`IsTabulation`). What is said of a failure shows what kind of failure it is (`Says`).
-/

namespace Chargeback

/-! ## Wordings of failures -/

namespace Failure

/-- The words that a failure begins with, which say what kind of failure it is. -/
def opening : Failure → String
  | .unreadableSettings => "Failed to read configuration"
  | .unsuitableSettings => "Failed to parse configuration"
  | .discountOutOfRange _ => "Discount must be in [0, 1), got "
  | .grouping _ => "Invalid aggregation field"
  | .unreadableCostData _ => "Failed to read cost data from "
  | .malformedCostData _ => "Failed to parse cost data in "
  | .malformedSelector _ => "Invalid label selector "
  | .sharing _ => "Invalid shared resource configuration"
  | .idleEstimation _ _ => "Failed to compute idle coefficients from "

/-- The openings of all kinds of failures. -/
def openings : List String :=
  [opening .unreadableSettings, opening .unsuitableSettings, opening (.discountOutOfRange 0),
    opening (.grouping (.unknownField "")), opening (.unreadableCostData ""),
    opening (.malformedCostData ""), opening (.malformedSelector ""),
    opening (.sharing (.unknownField "")), opening (.idleEstimation "" (.unknownField ""))]

theorem opening_mem_openings (f : Failure) : f.opening ∈ openings := by
  cases f <;> simp [openings, opening]

theorem openings_apart : ∀ a ∈ openings, ∀ b ∈ openings,
    a.toList <+: b.toList → a = b := by
  decide +kernel

theorem message_eq_opening_append (f : Failure) : ∃ detail, f.message = f.opening ++ detail := by
  cases f with
  | unreadableSettings | unsuitableSettings | grouping | sharing =>
    exact ⟨"", String.append_empty.symm⟩
  | discountOutOfRange discount => exact ⟨Decimal.plain discount, rfl⟩
  | unreadableCostData path | malformedCostData path | idleEstimation path => exact ⟨path, rfl⟩
  | malformedSelector selector => exact ⟨quoted selector ++ ", expected name=value", rfl⟩

theorem opening_prefix_message (f : Failure) : f.opening.toList <+: f.message.toList := by
  obtain ⟨detail, h⟩ := f.message_eq_opening_append
  exact ⟨detail.toList, by rw [h, String.toList_append]⟩

theorem opening_eq_of_message_eq {f g : Failure} (h : f.message = g.message) :
    f.opening = g.opening := by
  have hf := f.opening_prefix_message
  rw [h] at hf
  rcases List.prefix_or_prefix_of_prefix hf g.opening_prefix_message with hp | hp
  · exact openings_apart _ f.opening_mem_openings _ g.opening_mem_openings hp
  · exact (openings_apart _ g.opening_mem_openings _ f.opening_mem_openings hp).symm

end Failure

namespace Command

open Display

/-! ## Texts of lines -/

/-- A text consists of lines, each with its end. -/
def IsLines (lines : List String) (text : String) : Prop :=
  text.toList = lines.flatMap fun line => line.toList ++ ['\n']

theorem isLines_textOf (lines : List String) : IsLines lines (textOf lines) := by
  rw [IsLines, textOf, String.toList_join, List.flatMap_map]
  simp only [String.toList_append]
  rfl

/-- A document is read back: the end of its line is a blank. -/
theorem parse?_document {v : Json} (h : v.IsSpelled) : Json.parse? (document v) = some v := by
  have htext : (document v).toList = (v.pretty 0).toList ++ ['\n'] :=
    (isLines_textOf [v.pretty 0]).trans (List.append_nil _)
  exact Json.parse?_of_reads h (Json.reads_pretty h 0) (List.forall_mem_singleton.mpr rfl) htext

/-! ## Reports -/

section Reports

variable (s : Surroundings) (field : GroupField) (cadence : Cadence) (made : Report Float)

/-- The lines below the title: a drawing of all buckets, what they cost together, and the keys of
those with a score that cannot be. Without buckets there is a remark only. -/
inductive BelowTitle : List String → Prop
  | nothing (hmade : made.entries = []) :
      BelowTitle [remark s "No workloads matched the requested grouping"]
  | buckets {d : Drawing} {keys : List String} (hmade : made.entries ≠ [])
      (hd : d.Shows
        ["Name", "CPU", "RAM", "GPU", "PV", "Network", "Shared", "Total", "Efficiency"]
        (made.entries.map fun e =>
          [e.1, cost e.2.costs.cpu, cost e.2.costs.ram, cost e.2.costs.gpu,
            cost e.2.costs.volume, cost e.2.costs.network, cost e.2.costs.shared,
            cost e.2.costs.total, score s.colors e.2.scores.overall]))
      (hkeys : keys = (made.entries.filter fun e => e.2.isAnomalous).map Prod.fst) :
      BelowTitle (d.lines ++
        ["", "Total:     " ++ paint s.colors { bold := true, hue := some .green }
          (cost (Number.sum (made.entries.map fun e => e.2.costs.total)))] ++
        if keys.isEmpty then []
        else [warning s ("Efficiency outside [0, 1] for: " ++ ", ".intercalate keys)])

/-- The lines of a report as tables, below a title. -/
def IsTabulation (lines : List String) : Prop :=
  ∃ below, BelowTitle s made below ∧ lines =
    [paint s.colors { bold := true } ("Cost by " ++ field.name), repeated 50 '=',
      "Rate:      " ++ paint s.colors { hue := some .cyan } cadence.title,
      "Generated: " ++ s.time, ""] ++ below

/-- **A report is shown in full** by its tables. -/
theorem isTabulation_reportLines :
    IsTabulation s field cadence made (reportLines s field cadence made) := by
  refine ⟨_, ?_, rfl⟩
  by_cases hmade : made.entries = []
  · rw [if_pos (by simp [Index.isEmpty, hmade])]
    exact .nothing hmade
  · rw [if_neg (by simpa [Index.isEmpty] using hmade)]
    let rows := made.entries.map fun e => reportRow s e.1 e.2
    have hrows : ∀ row ∈ rows, row.length = reportHeader.length :=
      List.forall_mem_map.mpr fun _ _ => rfl
    have hshows : (drawing reportHeader rows).Shows reportHeader rows :=
      shows_drawing (List.cons_ne_nil _ _) hrows
    have htotal : grandTotal made = Number.sum (made.entries.map fun e => e.2.costs.total) := by
      rw [grandTotal, Index.values, List.map_map]
      rfl
    rw [← lines_drawing, htotal]
    exact .buckets hmade hshows rfl

/-- A text shows a report. -/
def Prints : OutputFormat → String → Prop
  | .json, text => Json.parse? text = some (.object (made.entries.map fun e => (e.1, e.2.encode)))
  | .table, text => ∃ lines, IsLines lines text ∧ IsTabulation s field cadence made lines

theorem prints_document : Prints s field cadence made .json (document made.encode) :=
  parse?_document (.object (List.forall_mem_map.mpr fun e _ => e.2.isSpelled_encode))

theorem prints_reportLines :
    Prints s field cadence made .table (textOf (reportLines s field cadence made)) :=
  ⟨_, isLines_textOf _, isTabulation_reportLines s field cadence made⟩

end Reports

/-! ## Failures -/

/-- Lines say why a command fails, in words that failures of other kinds do not have. -/
structure Says (failure : Failure) (lines : List String) : Prop where
  wording : lines.head? = some ("Error: " ++ failure.message)
  kind : ∀ other : Failure, other.message = failure.message → other.opening = failure.opening
  cause : ∀ fault, failure.fault? = some fault →
    "\nCaused by:\n    " ++ fault.message ∈ lines

theorem says_failureLines (failure : Failure) : Says failure (failureLines failure) where
  wording := rfl
  kind _ h := Failure.opening_eq_of_message_eq h
  cause fault h := by
    rw [failureLines, h]
    exact List.mem_cons_of_mem _ List.mem_cons_self

end Command

end Chargeback
