import Chargeback.Proofs.Idle.Effects
import Chargeback.Proofs.Number.Division
import Chargeback.Proofs.Report.Journal

/-!
# When all coefficients can be divided by

An estimation divides an observed cost by a billed one only if both are positive and finite. The
quotient need not be: in binary64 it is so exactly if the exact quotient is in range
(`Binary64.isUsable_div_iff`). So the coefficients of an estimation can all be divided by if and only
if all its quotients are in range, and then a report takes every one of them as it is.
-/

namespace Chargeback

/-! ## What a report takes as it is -/

/-- A report does not complain about coefficients that can be divided by. -/
theorem Report.invalidIdleCoefficient_not_mem_journal {α : Type} [Number α] {o : ReportOptions α}
    (h : ∀ cluster c, o.idleCoefficients.get? cluster = some c → Number.isUsable c = true)
    (inventory : Inventory α) (field : GroupField) (subfields : List String) (f : GroupField)
    (cluster : String) (c : α) :
    .event (.invalidIdleCoefficient f cluster c) ∉ (report inventory field subfields o).journal := by
  intro hmem
  have hunusable := unusableCoefficient?_of_mem_journal hmem
  obtain ⟨hget, hnot⟩ := Option.filter_eq_some_iff.mp hunusable
  rw [h cluster c hget] at hnot
  cases hnot

/-! ## The quotients of an estimation -/

section Quotients

variable {α : Type} [Number α] {inventory : Inventory α} {billing : Billing} {terms : Terms α}
  {window : Window} {cluster c : String} {observed billed value : α}

/-- An estimation tells of a quotient when the cluster has an estimate. -/
theorem estimated_of_event_mem_account
    (h : .event (.idleCoefficient c observed billed value) ∈
      account inventory billing terms window cluster) :
    c = cluster ∧ (outcome inventory billing terms window cluster).run.value =
      .ok (.estimated observed billed) ∧ value = observed / billed := by
  rcases complaint_or_effect_of_mem_account h with ⟨_, _, h⟩ | ⟨o, ho, h⟩
  · cases h
  · cases o with
    | unbilled gap => simp [Outcome.effects] at h
    | unobserved billed' => simp [Outcome.effects] at h
    | estimated observed' billed' =>
      obtain ⟨rfl, rfl, rfl, rfl⟩ : c = cluster ∧ observed = observed' ∧ billed = billed' ∧
          value = observed' / billed' := by
        simpa [Outcome.effects, Outcome.coefficient] using h
      exact ⟨rfl, ho, rfl⟩

variable {source : BillingSource} {customPricing : Option CustomPricing} {discount : α}
  {length : String} {offset : Option String} {found : Index α}

/-- A quotient that an estimation tells of is that of two numbers that can be divided by, and is the
coefficient of its cluster. -/
theorem quotient_of_event_mem_journal
    (hfound : (idleCoefficients inventory source customPricing discount length offset).run.value =
      .ok found)
    (h : .event (.idleCoefficient c observed billed value) ∈
      (idleCoefficients inventory source customPricing discount length offset).run.journal) :
    found.get? c = some value ∧ value = observed / billed ∧ Number.isUsable observed = true ∧
      Number.isUsable billed = true := by
  obtain ⟨_, billing, journal, -, -, hjournal, hvisited⟩ := visitedAll_of_idleCoefficients hfound
  rw [hjournal, List.mem_cons] at h
  replace h := h.resolve_left (fun he => by cases he)
  rw [hvisited.journal] at h
  obtain ⟨d, hd, h⟩ := List.mem_flatMap.mp h
  obtain ⟨rfl, houtcome, rfl⟩ := estimated_of_event_mem_account h
  obtain ⟨o, ho, hget⟩ := hvisited.outcomes c hd
  obtain rfl := Except.ok.inj (ho.symm.trans houtcome)
  obtain ⟨_, _, -, -, -, -, hbilled, hobserved⟩ := eq_of_estimated houtcome
  exact ⟨hget, rfl, hobserved, hbilled⟩

/-- A coefficient is one, or a quotient that the estimation tells of. -/
theorem one_or_quotient
    (hfound : (idleCoefficients inventory source customPricing discount length offset).run.value =
      .ok found)
    (h : found.get? c = some value) :
    value = 1 ∨ ∃ observed billed, .event (.idleCoefficient c observed billed value) ∈
      (idleCoefficients inventory source customPricing discount length offset).run.journal := by
  obtain ⟨-, journal, hjournal, complaints, conclusion, rfl, htold⟩ :=
    told_of_idleCoefficients hfound
  have hc : c ∈ found.names := Index.mem_names_iff.mpr ⟨value, h⟩
  obtain ⟨-, value', hvalue', hconcludes⟩ := htold c hc
  obtain rfl := Option.some.inj (hvalue'.symm.trans h)
  have hsub : ∀ e ∈ conclusion c,
      e ∈ (idleCoefficients inventory source customPricing discount length offset).run.journal := by
    intro e he
    rw [hjournal]
    exact List.mem_cons_of_mem _ (List.mem_flatMap.mpr ⟨c, hc, List.mem_append_right _ he⟩)
  cases hconclusion : conclusion c with
  | nil => rw [hconclusion] at hconcludes; cases hconcludes
  | cons e es =>
    have he := hsub e (hconclusion ▸ List.mem_cons_self)
    rw [hconclusion] at hconcludes
    cases hconcludes with
    | computed hinforms =>
      obtain ⟨-, observed, billed, rfl⟩ := hinforms
      exact .inr ⟨observed, billed, he⟩
    | defaulted _ hone => exact .inl hone

end Quotients

/-! ## Binary64 -/

/-- All quotients that are told of are in the range of what can be divided by. -/
def QuotientsInRange (journal : List (Effect Float)) : Prop :=
  ∀ c observed billed value, .event (.idleCoefficient c observed billed value) ∈ journal →
    Binary64.InRange (Binary64.value observed / Binary64.value billed)

/-- **When all coefficients can be divided by.** Each coefficient of an estimation in binary64 is one
or the quotient of two positive finite numbers. All of them are positive and finite if and only if
the exact quotients are in range. If they are, a report takes every one of them as it is, and does
not complain. -/
theorem idleCoefficients_usable_iff (inventory : Inventory Float) (source : BillingSource)
    (customPricing : Option CustomPricing) (discount : Float) (window : String)
    (offset : Option String) (found : Index Float)
    (hfound : (idleCoefficients inventory source customPricing discount window offset).run.value =
      .ok found) :
    let journal :=
      (idleCoefficients inventory source customPricing discount window offset).run.journal
    (∀ c value, found.get? c = some value → value = 1 ∨ ∃ observed billed,
      .event (.idleCoefficient c observed billed value) ∈ journal) ∧
    (∀ c observed billed value, .event (.idleCoefficient c observed billed value) ∈ journal →
      found.get? c = some value ∧ value = observed / billed ∧
        (Number.isUsable value = true ↔
          Binary64.InRange (Binary64.value observed / Binary64.value billed))) ∧
    ((∀ c value, found.get? c = some value → Number.isUsable value = true) ↔
      QuotientsInRange journal) ∧
    (QuotientsInRange journal → ∀ (o : ReportOptions Float), o.idleCoefficients = found →
      (∀ c value, found.get? c = some value → o.idleCoefficient c = value) ∧
      ∀ (inventory : Inventory Float) field subfields f c value,
        .event (.invalidIdleCoefficient f c value) ∉
          (report inventory field subfields o).journal) := by
  intro journal
  have hquotient : ∀ c observed billed value,
      .event (.idleCoefficient c observed billed value) ∈ journal →
        found.get? c = some value ∧ value = observed / billed ∧
          (Number.isUsable value = true ↔
            Binary64.InRange (Binary64.value observed / Binary64.value billed)) := by
    intro c observed billed value h
    obtain ⟨hget, rfl, hobserved, hbilled⟩ := quotient_of_event_mem_journal hfound h
    exact ⟨hget, rfl, Binary64.isUsable_div_iff hobserved hbilled⟩
  have husable : (∀ c value, found.get? c = some value → Number.isUsable value = true) ↔
      QuotientsInRange journal := by
    constructor
    · intro h c observed billed value hmem
      obtain ⟨hget, -, hiff⟩ := hquotient c observed billed value hmem
      exact hiff.mp (h c value hget)
    · intro h c value hget
      rcases one_or_quotient hfound hget with rfl | ⟨observed, billed, hmem⟩
      · exact Binary64.isUsable_iff.mpr ⟨2 ^ 52, -52, Nat.two_pow_pos 52, rfl⟩
      · exact (hquotient c observed billed value hmem).2.2.mpr (h c observed billed value hmem)
  refine ⟨fun c value h => one_or_quotient hfound h, hquotient, husable, fun hrange o ho => ?_⟩
  have hall := husable.mpr hrange
  subst ho
  refine ⟨fun c value h => ReportOptions.idleCoefficient_eq h (hall c value h), ?_⟩
  intro inventory field subfields f c value
  exact Report.invalidIdleCoefficient_not_mem_journal hall inventory field subfields f c value

/-- A workload of one core at a given price, in a cluster of its own. -/
def soleInventory (price : String) : Inventory Float where
  entries := [("a", { namespaceName := "shop", cluster := "east", node := { vcpuCost := price },
                      usage := { cpu := { allocation := [⟨10, 1⟩] } } })]

/-- The estimation of a month in which the cluster was billed a given amount. -/
def soleEstimation (price bill : String) : EstimateM Float (Index Float) :=
  idleCoefficients (soleInventory price) (fun _ _ => .ok (Assoc.ofList
    [("east", { cpu := [⟨"0", bill⟩], memory := [⟨"0", "0"⟩], storage := [⟨"0", "0"⟩] })])) none 0
    "730h" none

/-- A core that costs two, in a cluster that is billed eight. -/
theorem idleCoefficients_usable_quarter :
    ∃ found, (soleEstimation "2" "8").run.value = .ok found ∧ found.get? "east" = some 0.25 ∧
      QuotientsInRange (soleEstimation "2" "8").run.journal ∧
      (∀ o : ReportOptions Float, o.idleCoefficients = found → o.idleCoefficient "east" = 0.25) := by
  obtain ⟨found, hfound, -, hget⟩ := exists_eq_ok_of_entries
    (show (soleEstimation "2" "8").run.value.toOption.map Index.entries =
      some [("east", 0.25)] by decide +kernel)
  have hall : ∀ c value, found.get? c = some value → Number.isUsable value = true := by
    intro c value h
    rw [hget, List.lookup_cons, List.lookup_nil] at h
    split at h
    · obtain rfl := Option.some.inj h
      decide +kernel
    · cases h
  obtain ⟨-, -, hiff, hreport⟩ := idleCoefficients_usable_iff _ _ _ _ _ _ found hfound
  have hrange := hiff.mp hall
  exact ⟨found, hfound, hget "east", hrange, fun o ho => (hreport hrange o ho).1 "east" _ (hget _)⟩

/-- Whether an effect complains that the coefficient of the cluster of the samples is zero. -/
def complainsOfZero : Effect Float → Bool
  | .event (.invalidIdleCoefficient .namespaceName cluster c) => cluster == "east" && c = 0
  | _ => false

theorem eq_of_complainsOfZero {e : Effect Float} (h : complainsOfZero e = true) :
    e = .event (.invalidIdleCoefficient .namespaceName "east" 0) := by
  unfold complainsOfZero at h
  split at h
  · obtain ⟨hcluster, hc⟩ := Bool.and_eq_true_iff.mp h
    obtain rfl := beq_iff_eq.mp hcluster
    obtain rfl := of_decide_eq_true hc
    rfl
  · cases h

/-- **A coefficient that is zero**: both costs are positive and finite, and their quotient is rounded
down to zero. A report that is given it complains. -/
theorem idleCoefficients_zero :
    ∃ found, (soleEstimation "1e-300" "1e100").run.value = .ok found ∧
      found.get? "east" = some 0 ∧ Number.isUsable (0 : Float) = false ∧
      .event (.invalidIdleCoefficient .namespaceName "east" 0) ∈
        (report (soleInventory "1e-300") .namespaceName []
          { terms := { discount := 0 }, idleCoefficients := found }).journal := by
  obtain ⟨found, hfound, hentries, hget⟩ := exists_eq_ok_of_entries
    (show (soleEstimation "1e-300" "1e100").run.value.toOption.map Index.entries =
      some [("east", 0)] by decide +kernel)
  refine ⟨found, hfound, hget "east", by decide +kernel, ?_⟩
  have hfoundIndex : found = Index.ofList [("east", 0)] := by
    obtain ⟨entries, ascending⟩ := found
    subst hentries
    rfl
  subst hfoundIndex
  have hany : ((report (soleInventory "1e-300") .namespaceName []
      { terms := { discount := 0 }, idleCoefficients := Index.ofList [("east", 0)] }).journal.any
        complainsOfZero) = true := by decide +kernel
  obtain ⟨e, hmem, he⟩ := List.any_eq_true.mp hany
  exact eq_of_complainsOfZero he ▸ hmem

end Chargeback
