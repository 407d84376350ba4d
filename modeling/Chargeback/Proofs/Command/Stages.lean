import Chargeback.Command.Conclusion
import Chargeback.Proofs.Checks
import Chargeback.Proofs.Command.Printed
import Chargeback.Proofs.Number.Order

/-!
# The stages of a report

A command that makes a report can be refused at seven stages (`Stage`). What is refused at a stage
is said without regard to the other stages (`ReportRequest.Refuses`), and so is what is accepted at
all of them (`Prepared.Accepted`). A run is a sequence of checks (`value_run`), so it fails with the
refusal of the first stage that refuses (`value_run_eq_error_iff`), and otherwise gives the whole
text of the report (`value_run_eq_ok_iff`), which shows all of it (`Prepared.prints_text`). A
command writes that text or nothing, whatever library reads the configuration
(`conclude_aggregate`).
-/

namespace Chargeback.Command

/-! ## Refusals -/

/-- Where a report can be refused. -/
inductive Stage where
  | configuration
  | grouping
  | costData
  | discount
  | selectors
  | selectorLists
  | idleEstimation
  deriving DecidableEq, Repr

/-- The stages, in the order in which a run goes through them. -/
def Stage.inOrder : List Stage :=
  [.configuration, .grouping, .costData, .discount, .selectors, .selectorLists, .idleEstimation]

theorem Stage.mem_inOrder (stage : Stage) : stage ∈ inOrder := by cases stage <;> decide

/-- Not a discount: outside `[0, 1)`, or not a number. -/
def OutOfRange (discount : Float) : Prop := discount.isNaN = true ∨ discount < 0 ∨ 1 ≤ discount

namespace ReportRequest

variable (r : ReportRequest)

/-- The discount of a report: that of the command line, else the configured one. -/
def discountOr (settings : Settings) : Float := r.discount.getD settings.discount

/-- The idle estimation of a report with billing totals. -/
def estimation (s : Surroundings) (settings : Settings) (inventory : Inventory Float)
    (billing : String) : EstimateM Float (Index Float) :=
  idleCoefficients inventory (BillingExport.source s billing) settings.customPricing
    (r.discountOr settings) (r.window.getD settings.window) none

/-- What a stage refuses, and how, whatever the other stages say. -/
def Refuses (s : Surroundings) (loaded : Except Failure Settings) : Stage → Failure → Prop
  | .configuration, failure => loaded = .error failure
  | .grouping, failure =>
    (∀ field : GroupField, field.name ≠ r.field) ∧ failure = .grouping (.unknownField r.field)
  | .costData, failure =>
    (s.file r.input = none ∧ failure = .unreadableCostData r.input) ∨
      ∃ text, s.file r.input = some text ∧ (Json.parse? text).bind Inventory.decode? = none ∧
        failure = .malformedCostData r.input
  | .discount, failure => ∃ settings, loaded = .ok settings ∧ OutOfRange (r.discountOr settings) ∧
      failure = .discountOutOfRange (r.discountOr settings)
  | .selectors, failure => ∃ before selector after, r.shareLabels = before ++ selector :: after ∧
      (∀ earlier ∈ before, '=' ∈ earlier.toList) ∧ '=' ∉ selector.toList ∧
      failure = .malformedSelector selector
  | .selectorLists, failure => ∃ settings, loaded = .ok settings ∧
      settings.shared.labelNames.length ≠ settings.shared.labelValues.length ∧
      failure = .sharing (.labelSelectorMismatch
        (settings.shared.labelNames.length + r.shareLabels.length)
        (settings.shared.labelValues.length + r.shareLabels.length))
  | .idleEstimation, failure => ∃ settings path inventory fault, loaded = .ok settings ∧
      r.billing = some path ∧ readCostData s r.input = .ok inventory ∧
      (r.estimation s settings inventory path).run.value = .error fault ∧
      failure = .idleEstimation path fault

/-- What the first stage refuses that refuses anything. -/
def FirstRefusal (s : Surroundings) (loaded : Except Failure Settings) (failure : Failure) : Prop :=
  ∃ before stage after, Stage.inOrder = before ++ stage :: after ∧
    r.Refuses s loaded stage failure ∧
    ∀ earlier ∈ before, ∀ other, ¬ r.Refuses s loaded earlier other

theorem exists_firstRefusal_iff {s : Surroundings} {loaded : Except Failure Settings} :
    (∃ failure, r.FirstRefusal s loaded failure) ↔
      ∃ stage failure, r.Refuses s loaded stage failure := by
  simp only [FirstRefusal, ← firstOf_map_iff, exists_firstOf_iff, List.mem_map,
    exists_exists_and_eq_and]
  constructor
  · rintro ⟨stage, -, h⟩
    exact ⟨stage, h⟩
  · rintro ⟨stage, h⟩
    exact ⟨stage, stage.mem_inOrder, h⟩

end ReportRequest

/-! ## The checks of the stages -/

theorem outOfRange_iff {discount : Float} :
    OutOfRange discount ↔ ¬ (0 ≤ discount ∧ discount < 1) := by
  have hzero : (0 : Float).isNaN = false := by decide +kernel
  have hone : (1 : Float).isNaN = false := by decide +kernel
  rw [not_and_or, Binary64.not_le_iff, Binary64.not_lt_iff, hzero, hone, OutOfRange]
  simp only [Bool.false_eq_true, false_or]
  exact or_or_distrib_left

theorem validateDiscount_eq_error_iff {discount : Float} {failure : Failure} :
    validateDiscount discount = .error failure ↔
      OutOfRange discount ∧ failure = .discountOutOfRange discount := by
  unfold validateDiscount
  rw [outOfRange_iff]
  split
  · next h => exact ⟨fun h' => (nomatch h'), fun h' => absurd h h'.1⟩
  · next h => rw [Except.error.injEq, and_iff_right h, eq_comm]

theorem validateDiscount_eq_ok_iff {discount accepted : Float} :
    validateDiscount discount = .ok accepted ↔ ¬ OutOfRange discount ∧ accepted = discount := by
  unfold validateDiscount
  rw [outOfRange_iff, not_not]
  split
  · next h => rw [Except.ok.injEq, and_iff_right h, eq_comm]
  · next h => exact ⟨fun h' => (nomatch h'), fun h' => absurd h'.1 h⟩

theorem ofName_eq_ok_iff {name : String} {field : GroupField} :
    GroupField.ofName name = .ok field ↔ field.name = name := by
  unfold GroupField.ofName
  constructor
  · intro h
    split at h
    · next found hfound =>
      obtain rfl := Except.ok.inj h
      exact GroupField.name_of_ofName? hfound
    · cases h
  · rintro rfl
    rw [GroupField.ofName?_name]

theorem ofName_eq_error_iff {name : String} {fault : Fault} :
    GroupField.ofName name = .error fault ↔
      (∀ field : GroupField, field.name ≠ name) ∧ fault = .unknownField name := by
  have hsome (field : GroupField) : GroupField.ofName name ≠ .ok field ↔ field.name ≠ name :=
    not_congr ofName_eq_ok_iff
  rw [← forall_congr' hsome]
  unfold GroupField.ofName
  cases GroupField.ofName? name with
  | none => simp [eq_comm]
  | some field => simp

theorem readSelector_eq_error_iff {selector : String} {failure : Failure} :
    readSelector selector = .error failure ↔
      '=' ∉ selector.toList ∧ failure = .malformedSelector selector := by
  unfold readSelector
  rw [← cut?_eq_none_iff]
  cases cut? '=' selector <;> simp [eq_comm]

theorem readSelector_eq_ok_iff {selector : String} {pair : String × String} :
    readSelector selector = .ok pair ↔ cut? '=' selector = some pair := by
  unfold readSelector
  cases cut? '=' selector <;> simp

theorem exists_readSelector_iff {selector : String} :
    (∃ pair, readSelector selector = .ok pair) ↔ '=' ∈ selector.toList := by
  simp only [readSelector_eq_ok_iff]
  rw [← Option.isSome_iff_exists, ← not_iff_not, Option.not_isSome_iff_eq_none, cut?_eq_none_iff]

section Stages

variable {r : ReportRequest} {s : Surroundings} {loaded : Except Failure Settings}
  {settings : Settings} {failure : Failure}

theorem costData_eq_error_iff :
    readCostData s r.input = .error failure ↔ r.Refuses s loaded .costData failure := by
  unfold readCostData ReportRequest.Refuses
  cases s.file r.input with
  | none => simp [eq_comm]
  | some text =>
    cases h : (Json.parse? text).bind Inventory.decode? <;> simp [h, eq_comm]

theorem costData_eq_ok_iff {inventory : Inventory Float} :
    readCostData s r.input = .ok inventory ↔
      ∃ text, s.file r.input = some text ∧
        (Json.parse? text).bind Inventory.decode? = some inventory := by
  unfold readCostData
  cases s.file r.input with
  | none => simp
  | some text => cases h : (Json.parse? text).bind Inventory.decode? <;> simp [h]

theorem selectors_eq_error_iff :
    r.shareLabels.mapM readSelector = .error failure ↔ r.Refuses s loaded .selectors failure := by
  rw [mapM_eq_error_iff]
  simp only [exists_readSelector_iff, readSelector_eq_error_iff, ReportRequest.Refuses]

theorem grouping_eq_error_iff :
    (GroupField.ofName r.field).mapError Failure.grouping = .error failure ↔
      r.Refuses s loaded .grouping failure := by
  rw [mapError_eq_error_iff]
  simp only [ofName_eq_error_iff, ReportRequest.Refuses]
  constructor
  · rintro ⟨_, ⟨hnone, rfl⟩, rfl⟩
    exact ⟨hnone, rfl⟩
  · rintro ⟨hnone, rfl⟩
    exact ⟨_, ⟨hnone, rfl⟩, rfl⟩

theorem discount_eq_error_iff (hloaded : loaded = .ok settings) :
    effectiveDiscount r.discount settings = .error failure ↔
      r.Refuses s loaded .discount failure := by
  subst hloaded
  simp [effectiveDiscount, validateDiscount_eq_error_iff, ReportRequest.Refuses,
    ReportRequest.discountOr]

/-- The policy of a report, given the selectors that are added to those configured. -/
def policyOf (r : ReportRequest) (settings : Settings) (added : List (String × String)) :
    Except Failure SharingPolicy :=
  (SharingPolicy.ofLists (settings.shared.enabled || r.share)
    (settings.shared.namespaces ++ r.shareNamespaces)
    (settings.shared.labelNames ++ added.map Prod.fst)
    (settings.shared.labelValues ++ added.map Prod.snd)).mapError .sharing

theorem policy_eq_error_iff (hloaded : loaded = .ok settings) {added : List (String × String)}
    (hadded : r.shareLabels.mapM readSelector = .ok added) :
    policyOf r settings added = .error failure ↔ r.Refuses s loaded .selectorLists failure := by
  have hlength : r.shareLabels.length = added.length := (mapM_eq_ok_iff.mp hadded).length_eq
  subst hloaded
  unfold policyOf SharingPolicy.ofLists ReportRequest.Refuses
  simp only [List.length_append, List.length_map, Nat.add_right_cancel_iff, hlength]
  split
  · next h => simp [Except.mapError, h]
  · next h => simp [Except.mapError, h, eq_comm]

theorem value_coefficients {inventory : Inventory Float} :
    (r.coefficients s settings inventory (r.discountOr settings)).run.value =
      match r.billing with
      | none => .ok ∅
      | some path =>
        (r.estimation s settings inventory path).run.value.mapError (.idleEstimation path) := by
  unfold ReportRequest.coefficients
  cases r.billing with
  | none => rfl
  | some path => rfl

theorem coefficients_eq_ok_iff {inventory : Inventory Float} {coefficients : Index Float} :
    (r.coefficients s settings inventory (r.discountOr settings)).run.value = .ok coefficients ↔
      match r.billing with
      | none => coefficients = ∅
      | some path => (r.estimation s settings inventory path).run.value = .ok coefficients := by
  rw [value_coefficients]
  cases r.billing with
  | none => exact ⟨fun h => (Except.ok.inj h).symm, fun h => h ▸ rfl⟩
  | some path => exact mapError_eq_ok_iff

theorem coefficients_eq_error_iff (hloaded : loaded = .ok settings) {inventory : Inventory Float}
    (hinventory : readCostData s r.input = .ok inventory) :
    (r.coefficients s settings inventory (r.discountOr settings)).run.value = .error failure ↔
      r.Refuses s loaded .idleEstimation failure := by
  subst hloaded
  rw [value_coefficients]
  unfold ReportRequest.Refuses
  cases r.billing with
  | none => simp
  | some path =>
    simp only [mapError_eq_error_iff, hinventory, Except.ok.injEq, Option.some.injEq]
    constructor
    · rintro ⟨fault, h, rfl⟩
      exact ⟨settings, path, inventory, fault, rfl, rfl, rfl, h, rfl⟩
    · rintro ⟨_, _, _, fault, rfl, rfl, rfl, h, rfl⟩
      exact ⟨fault, h, rfl⟩

end Stages

/-! ## Reports -/

/-- What the stages have found out when none of them has refused. -/
structure Prepared where
  settings : Settings
  field : GroupField
  inventory : Inventory Float
  /-- The selectors of the command line, each cut at its first equals sign. -/
  selectors : List (String × String)
  coefficients : Index Float

/-- What was accepted at every stage of a report. -/
structure Prepared.Accepted (p : Prepared) (r : ReportRequest) (s : Surroundings)
    (loaded : Except Failure Settings) : Prop where
  configuration : loaded = .ok p.settings
  grouping : p.field.name = r.field
  costData : ∃ text, s.file r.input = some text ∧
    (Json.parse? text).bind Inventory.decode? = some p.inventory
  discount : ¬ OutOfRange (r.discountOr p.settings)
  selectors : List.Forall₂ (fun selector pair => cut? '=' selector = some pair) r.shareLabels
    p.selectors
  selectorLists : p.settings.shared.labelNames.length = p.settings.shared.labelValues.length
  idleEstimation : match r.billing with
    | none => p.coefficients = ∅
    | some path => (r.estimation s p.settings p.inventory path).run.value = .ok p.coefficients

/-- The sharing of a report: what is configured, with what the command line adds to it. -/
def Prepared.sharing (p : Prepared) (r : ReportRequest) : SharingPolicy where
  enabled := p.settings.shared.enabled || r.share
  namespaces := distinctAscending
    (systemNamespace :: (p.settings.shared.namespaces ++ r.shareNamespaces))
  selectors := .ofList
    (p.settings.shared.labelNames.zip p.settings.shared.labelValues ++ p.selectors)

/-- What a report is made with: the command line, else the configuration. -/
def optionsWith (r : ReportRequest) (settings : Settings) (discount : Float)
    (sharing : SharingPolicy) (coefficients : Index Float) : ReportOptions Float where
  terms := {
    cadence := .ofName (r.rate.getD settings.rate)
    discount
    customPricing := settings.customPricing }
  periods := r.dataLength
  idleCoefficients := coefficients
  efficiency := r.efficiency
  timeSeries := r.timeSeries
  sharing := some sharing

/-- The whole text of a report. -/
def textWith (r : ReportRequest) (s : Surroundings) (format : OutputFormat) (field : GroupField)
    (inventory : Inventory Float) (options : ReportOptions Float) : String :=
  let made := (report inventory field r.subfields options).value
  match format with
  | .json => document made.encode
  | .table => textOf (reportLines s field options.terms.cadence made)

namespace Prepared

variable (p : Prepared) (r : ReportRequest)

/-- What a report that is accepted at every stage is made with. -/
def options : ReportOptions Float :=
  optionsWith r p.settings (r.discountOr p.settings) (p.sharing r) p.coefficients

/-- The report that is made when every stage accepts. -/
def made : Report Float := (report p.inventory p.field r.subfields (p.options r)).value

/-- The text of a report that is accepted at every stage. -/
def text (s : Surroundings) (format : OutputFormat) : String :=
  textWith r s format p.field p.inventory (p.options r)

/-- **The text of a report shows the report.** -/
theorem prints_text (s : Surroundings) (format : OutputFormat) :
    Prints s p.field (p.options r).terms.cadence (p.made r) format (p.text r s format) := by
  cases format with
  | json => exact prints_document ..
  | table => exact prints_reportLines ..

end Prepared

section Reports

variable {r : ReportRequest} {s : Surroundings} {loaded : Except Failure Settings}
  {settings : Settings} {failure : Failure} {format : OutputFormat}

/-- Pairs that are added to two lists of one length are added to their pairs. -/
theorem zip_append_pairs {names values : List String} (h : names.length = values.length)
    (added : List (String × String)) :
    (names ++ added.map Prod.fst).zip (values ++ added.map Prod.snd) =
      names.zip values ++ added := by
  rw [List.zip_append h, List.zip_map', List.map_id']

theorem policyOf_eq_ok_iff {p : Prepared} {sharing : SharingPolicy} :
    policyOf r p.settings p.selectors = .ok sharing ↔
      p.settings.shared.labelNames.length = p.settings.shared.labelValues.length ∧
        sharing = p.sharing r := by
  unfold policyOf SharingPolicy.ofLists Prepared.sharing
  simp only [List.length_append, List.length_map, Nat.add_right_cancel_iff, mapError_eq_ok_iff]
  split
  · next h =>
    rw [zip_append_pairs h, and_iff_right h, Except.ok.injEq, eq_comm]
  · next h => simp [h]

theorem CommandM.value_bind {β γ : Type} (x : CommandM β) (f : β → CommandM γ) :
    (x >>= f).run.value = x.run.value >>= fun b => (f b).run.value := by
  rw [ExceptT.run_bind, Journaled.value_bind]
  cases x.run.value with
  | ok b => rfl
  | error e => rfl

theorem CommandM.value_liftM {β : Type} (x : Except Failure β) :
    (liftM x : CommandM β).run.value = x := rfl

/-- **A run is a sequence of checks**, in the order of the stages. -/
theorem value_run :
    ((Request.aggregate r).run s loaded format).run.value = do
      let settings ← loaded
      let field ← (GroupField.ofName r.field).mapError Failure.grouping
      let inventory ← readCostData s r.input
      let discount ← effectiveDiscount r.discount settings
      let selectors ← r.shareLabels.mapM readSelector
      let sharing ← policyOf r settings selectors
      let coefficients ← (r.coefficients s settings inventory discount).run.value
      return textWith r s format field inventory
        (optionsWith r settings discount sharing coefficients) := by
  unfold Request.run ReportRequest.run ReportRequest.options SharedSettings.policy policyOf
  simp only [CommandM.value_bind, CommandM.value_liftM, bind_assoc]
  rfl

/-- **A run fails** with the refusal of the first stage that refuses. -/
theorem value_run_eq_error_iff :
    ((Request.aggregate r).run s loaded format).run.value = .error failure ↔
      r.FirstRefusal s loaded failure := by
  rw [value_run, ReportRequest.FirstRefusal, ← firstOf_map_iff, Stage.inOrder]
  refine firstOf_bind (fun _ => Iff.rfl) fun settings hloaded => ?_
  refine firstOf_bind (fun _ => grouping_eq_error_iff) fun field hfield => ?_
  refine firstOf_bind (fun _ => costData_eq_error_iff) fun inventory hinventory => ?_
  refine firstOf_bind (fun _ => discount_eq_error_iff hloaded) fun discount hdiscount => ?_
  obtain ⟨-, rfl⟩ := validateDiscount_eq_ok_iff.mp hdiscount
  refine firstOf_bind (fun _ => selectors_eq_error_iff) fun selectors hselectors => ?_
  refine firstOf_bind (fun _ => policy_eq_error_iff hloaded hselectors) fun sharing hsharing => ?_
  refine firstOf_bind (fun _ => coefficients_eq_error_iff hloaded hinventory) fun _ _ => ?_
  exact iff_of_false nofun id

/-- **A report is made** of what every stage accepts. -/
theorem value_run_eq_ok_iff {text : String} :
    ((Request.aggregate r).run s loaded format).run.value = .ok text ↔
      ∃ p : Prepared, p.Accepted r s loaded ∧ text = p.text r s format := by
  rw [value_run]
  simp only [bind_eq_ok_iff, mapError_eq_ok_iff, ofName_eq_ok_iff, costData_eq_ok_iff,
    mapM_eq_ok_iff, readSelector_eq_ok_iff]
  constructor
  · rintro ⟨settings, hloaded, field, hfield, inventory, hinventory, discount, hdiscount,
      selectors, hselectors, sharing, hsharing, coefficients, hcoefficients, htext⟩
    obtain ⟨hrange, rfl⟩ := validateDiscount_eq_ok_iff.mp hdiscount
    let p : Prepared := { settings, field, inventory, selectors, coefficients }
    obtain ⟨hlists, rfl⟩ := (policyOf_eq_ok_iff (p := p)).mp hsharing
    exact ⟨p, ⟨hloaded, hfield, hinventory, hrange, hselectors, hlists,
      coefficients_eq_ok_iff.mp hcoefficients⟩, (Except.ok.inj htext).symm⟩
  · rintro ⟨p, hp, rfl⟩
    exact ⟨p.settings, hp.configuration, p.field, hp.grouping, p.inventory, hp.costData,
      r.discountOr p.settings, validateDiscount_eq_ok_iff.mpr ⟨hp.discount, rfl⟩,
      p.selectors, hp.selectors, p.sharing r, policyOf_eq_ok_iff.mpr ⟨hp.selectorLists, rfl⟩,
      p.coefficients, coefficients_eq_ok_iff.mpr hp.idleEstimation, rfl⟩

end Reports

/-! ## Commands -/

/-- What ends a command before it has its settings: the configuration cannot be read, or makes no
settings, or its own discount is none. -/
def Unconfigured (reading : Settings.Reading) (failure : Failure) : Prop :=
  (reading = .unreadable ∧ failure = .unreadableSettings) ∨
    (reading = .unsuitable ∧ failure = .unsuitableSettings) ∨
    ∃ settings, reading = .read settings ∧ OutOfRange settings.discount ∧
      failure = .discountOutOfRange settings.discount

theorem validated_eq_error_iff {settings : Settings} {failure : Failure} :
    settings.validated = .error failure ↔
      OutOfRange settings.discount ∧ failure = .discountOutOfRange settings.discount := by
  rw [← validateDiscount_eq_error_iff, Settings.validated]
  cases validateDiscount settings.discount <;> simp [Except.map]

theorem validated_eq_ok_iff {settings accepted : Settings} :
    settings.validated = .ok accepted ↔ accepted = settings ∧ ¬ OutOfRange settings.discount := by
  unfold Settings.validated validateDiscount
  rw [outOfRange_iff, not_not]
  split
  · next h => simp [Except.map, h, eq_comm]
  · next h => simp [Except.map, h]

/-- A configuration is looked for where it is asked for, else in the home directory. -/
theorem location?_eq (s : Surroundings) (path : Option String) :
    Settings.location? s path =
      match path with
      | some path => some { path, required := true }
      | none => s.home.map fun home =>
        { path := home ++ "/.config/kcost/config", required := false } := by
  cases path with
  | some path => rfl
  | none =>
    unfold Settings.location?
    cases s.home <;> rfl

theorem load_eq_error_iff {s : Surroundings} {path : Option String} {library : Settings.Library}
    {failure : Failure} :
    Settings.load s path library = .error failure ↔
      Unconfigured (library s (Settings.location? s path)) failure := by
  unfold Settings.load Unconfigured
  cases library s (Settings.location? s path) with
  | unreadable => simp [Settings.Reading.validated, eq_comm]
  | unsuitable => simp [Settings.Reading.validated, eq_comm]
  | read settings => simp [Settings.Reading.validated, validated_eq_error_iff]

theorem load_eq_ok_iff {s : Surroundings} {path : Option String} {library : Settings.Library}
    {settings : Settings} :
    Settings.load s path library = .ok settings ↔
      library s (Settings.location? s path) = .read settings ∧ ¬ OutOfRange settings.discount := by
  unfold Settings.load
  cases library s (Settings.location? s path) with
  | unreadable => simp [Settings.Reading.validated]
  | unsuitable => simp [Settings.Reading.validated]
  | read read =>
    rw [Settings.Reading.validated, validated_eq_ok_iff, Settings.Reading.read.injEq]
    constructor <;> rintro ⟨rfl, h⟩ <;> exact ⟨rfl, h⟩

variable {i : Invocation} {s : Surroundings} {library : Settings.Library}

theorem conclude_of_ok {text : String} (h : (i.run s library).run.value = .ok text) :
    (i.conclude s library).output = text ∧ (i.conclude s library).status = 0 := by
  simp [Invocation.conclude, h]

theorem conclude_of_error {failure : Failure}
    (h : (i.run s library).run.value = .error failure) :
    (i.conclude s library).output = "" ∧ Says failure (i.conclude s library).remarks ∧
      (i.conclude s library).status = 1 := by
  rw [Invocation.conclude, h]
  exact ⟨rfl, says_failureLines failure, rfl⟩

end Chargeback.Command
