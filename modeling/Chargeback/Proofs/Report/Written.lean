import Chargeback.Proofs.Json.Members
import Chargeback.Proofs.Json.Spelling
import Chargeback.Proofs.Report.Resources
import Chargeback.Proofs.Report.Trace
import Chargeback.Report.Written

/-!
# Written records read back

A record is written as those of its nineteen members that there is something to write for
(`Record.encode_eq`), and each member that is left out is read as its default. What has to be a
number is not read if it was not finite, as it was written as null then; of a score null is what
there is if it has not been computed. So a record reads back just if its costs and series are finite
(`Record.reads_back`), and then all of it reads back but what is not written at all.
-/

namespace Chargeback

open Json

/-! ## Series -/

/-- The time and the value of a sample. -/
def Sample.numbers (s : Sample Float) : List Float := [s.time, s.value]

theorem Sample.decode?_encode_eq_some {s u : Sample Float}
    (h : ∀ x ∈ s.numbers, x.isFinite = true → ReadsBack x) :
    Sample.decode? s.encode = some u ↔ (∀ x ∈ s.numbers, x.isFinite = true) ∧ u = s := by
  have htime : s.time.isFinite = true → ReadsBack s.time := h _ (by simp [numbers])
  have hvalue : s.value.isFinite = true → ReadsBack s.value := h _ (by simp [numbers])
  have hfields : fields? ["timestamp", "value"] s.encode =
      some [("timestamp", .ofFloat s.time), ("value", .ofFloat s.value)] := rfl
  have hsecond : [("timestamp", Json.ofFloat s.time), ("value", .ofFloat s.value)].lookup "value" =
    some (.ofFloat s.value) := rfl
  simp only [Sample.decode?, hfields, Found.required, List.lookup_cons_self, hsecond,
    Option.bind_eq_bind, Option.bind_some, Option.bind_eq_some_iff, Option.pure_def,
    Option.some.injEq, float?_ofFloat_eq_some htime, float?_ofFloat_eq_some hvalue]
  simp only [numbers, List.forall_mem_cons]
  constructor
  · rintro ⟨_, ⟨ht, rfl⟩, _, ⟨hv, rfl⟩, rfl⟩
    exact ⟨⟨ht, hv, by simp⟩, rfl⟩
  · rintro ⟨⟨ht, hv, -⟩, rfl⟩
    exact ⟨_, ⟨ht, rfl⟩, _, ⟨hv, rfl⟩, rfl⟩

theorem Sample.isSpelled_encode (s : Sample Float) : s.encode.IsSpelled := by
  refine .object fun m hm => ?_
  simp only [List.mem_cons, List.not_mem_nil, or_false] at hm
  rcases hm with rfl | rfl <;> exact isSpelled_ofFloat _

theorem Series.isSpelled_encode (s : Series Float) : s.encode.IsSpelled :=
  .array (List.forall_mem_map.mpr fun x _ => x.isSpelled_encode)

/-- The times and values of a series. -/
def Series.numbers (s : Series Float) : List Float := s.flatMap Sample.numbers

theorem Series.decode?_encode_eq_some {s u : Series Float}
    (h : ∀ x ∈ s.numbers, x.isFinite = true → ReadsBack x) :
    Series.decode? s.encode = some u ↔ (∀ x ∈ s.numbers, x.isFinite = true) ∧ u = s := by
  have hsample : ∀ x ∈ s, ∀ u, Sample.decode? x.encode = some u ↔
      (∀ y ∈ x.numbers, y.isFinite = true) ∧ u = x := fun x hx u =>
    Sample.decode?_encode_eq_some fun y hy => h y (List.mem_flatMap.mpr ⟨x, hx, hy⟩)
  rw [Series.decode?, Series.encode, list?_map_eq_some hsample, numbers, List.forall_mem_flatMap]

namespace Resource

/-- The member for the cost of a resource. -/
def costName : Resource → String
  | .cpu => "cpuCost"
  | .ram => "ramCost"
  | .gpu => "gpuCost"
  | .volume => "pvCost"
  | .network => "networkCost"

/-- The member for the cost series of a resource. -/
def seriesName (x : Resource) : String := x.costName ++ "Vector"

end Resource

theorem Scores.forall_mem_computed {s : Scores Float} {p : Float → Prop} :
    (∀ y ∈ s.computed, p y) ↔
      (∀ y ∈ s.cpu, p y) ∧ (∀ y ∈ s.ram, p y) ∧ ∀ y ∈ s.overall, p y := by
  simp only [computed, List.forall_mem_append, Option.mem_toList, Option.mem_def, and_assoc]

namespace Record

/-! ## Members -/

/-- A list as a member, left out if it is empty. -/
def unlessEmpty {β : Type} (encode : List β → Json) (items : List β) : Option Json :=
  if items.isEmpty then none else some (encode items)

/-- The members of a record, with those that are left out. -/
def slots (r : Record Float) : Slots :=
  [("aggregation", some r.field.encode), ("subfields", unlessEmpty Json.strings r.subfields),
    ("environment", some (.string r.key)), ("cluster", r.cluster.map .string),
    ("cpuCost", some (.ofFloat r.costs.cpu)),
    ("cpuCostVector", unlessEmpty Series.encode r.costSeries.cpu),
    ("cpuEfficiency", r.scores.cpu.map .ofFloat),
    ("ramCost", some (.ofFloat r.costs.ram)),
    ("ramCostVector", unlessEmpty Series.encode r.costSeries.ram),
    ("ramEfficiency", r.scores.ram.map .ofFloat),
    ("gpuCost", some (.ofFloat r.costs.gpu)),
    ("gpuCostVector", unlessEmpty Series.encode r.costSeries.gpu),
    ("pvCost", some (.ofFloat r.costs.volume)),
    ("pvCostVector", unlessEmpty Series.encode r.costSeries.volume),
    ("networkCost", some (.ofFloat r.costs.network)),
    ("networkCostVector", unlessEmpty Series.encode r.costSeries.network),
    ("sharedCost", some (.ofFloat r.costs.shared)), ("totalCost", some (.ofFloat r.costs.total)),
    ("efficiency", r.scores.overall.map .ofFloat)]

theorem names_slots (r : Record Float) : r.slots.map Prod.fst = fields.map Field.name := rfl

theorem nodup_names : (fields.map Field.name).Nodup := by decide

theorem seriesMember_eq (name : String) (s : Series Float) :
    seriesMember name s = ((unlessEmpty Series.encode s).map (name, ·)).toList := by
  unfold seriesMember unlessEmpty
  split <;> rfl

/-- **A record is written as its members**, less those that are left out. -/
theorem encode_eq (r : Record Float) : r.encode = .object (present r.slots) := by
  have hsubfields :
      (if r.subfields.isEmpty then [] else [("subfields", Json.strings r.subfields)]) =
        ((unlessEmpty Json.strings r.subfields).map ("subfields", ·)).toList := by
    unfold unlessEmpty
    split <;> rfl
  simp only [encode, optionalMember, seriesMember_eq, hsubfields, present, slots, List.flatMap_cons,
    List.flatMap_nil, List.append_assoc, List.cons_append, List.nil_append, List.append_nil,
    Option.map_some, Option.toList_some]

theorem isSpelled_unlessEmpty {β : Type} {encode : List β → Json}
    (h : ∀ items, (encode items).IsSpelled) (items : List β) :
    ∀ v ∈ unlessEmpty encode items, v.IsSpelled := by
  intro v hv
  unfold unlessEmpty at hv
  split at hv
  · cases hv
  · exact Option.some.inj hv ▸ h items

/-- **What is written of a record has a spelling**: there is a text for each of its members. -/
theorem isSpelled_encode (r : Record Float) : r.encode.IsSpelled := by
  have hnumber (x : Float) : ∀ v ∈ some (Json.ofFloat x), v.IsSpelled :=
    fun v hv => Option.some.inj hv ▸ isSpelled_ofFloat x
  have hscore (x : Option Float) : ∀ v ∈ x.map Json.ofFloat, v.IsSpelled := by
    cases x with
    | none => simp
    | some x => exact hnumber x
  have hstring (s : String) : ∀ v ∈ some (Json.string s), v.IsSpelled :=
    fun v hv => Option.some.inj hv ▸ .string s
  have hcluster : ∀ v ∈ r.cluster.map Json.string, v.IsSpelled := by
    cases r.cluster with
    | none => simp
    | some cluster => exact hstring cluster
  have hstrings (items : List String) : (Json.strings items).IsSpelled :=
    .array (List.forall_mem_map.mpr fun s _ => .string s)
  have hseries (s : Series Float) : ∀ v ∈ unlessEmpty Series.encode s, v.IsSpelled :=
    isSpelled_unlessEmpty Series.isSpelled_encode s
  have hslots : ∀ s ∈ r.slots, ∀ v ∈ s.2, v.IsSpelled := by
    simp only [slots, List.forall_mem_cons]
    exact ⟨hstring _, isSpelled_unlessEmpty hstrings _, hstring _, hcluster, hnumber _, hseries _,
      hscore _, hnumber _, hseries _, hscore _, hnumber _, hseries _, hnumber _, hseries _,
      hnumber _, hseries _, hnumber _, hnumber _, hscore _, by simp⟩
  rw [encode_eq]
  exact .object fun m hm => hslots _ (mem_present.mp hm) m.2 rfl

/-! ## Reading -/

theorem fields?_encode (r : Record Float) : fields? fields r.encode = some (present r.slots) := by
  rw [encode_eq]
  exact fields?_present (names_slots r) (by decide) nodup_names

theorem lookup_slots (r : Record Float) (name : String) :
    (present r.slots).lookup name = (r.slots.lookup name).join :=
  lookup_present (names_slots r ▸ nodup_names) name

/-- A list that has been left out is read as empty. -/
theorem elim_unlessEmpty_eq_some {β : Type} {encode : List β → Json} {decode : Decoder (List β)}
    {items items' : List β} {readable : Prop}
    (h : decode (encode items) = some items' ↔ readable ∧ items' = items)
    (hempty : items = [] → readable) :
    (unlessEmpty encode items).elim (some []) decode = some items' ↔
      readable ∧ items' = items := by
  unfold unlessEmpty
  cases items with
  | nil => simp [hempty rfl, eq_comm]
  | cons v items => exact h

/-- A score that is not finite is read as one that has not been computed. -/
theorem elim_score {x : Option Float} (h : ∀ y ∈ x, y.isFinite = true → ReadsBack y) :
    (x.map Json.ofFloat).elim (some none) (nullable? float?) = some (x.filter Float.isFinite) := by
  cases x with
  | none => rfl
  | some y => exact nullable?_ofFloat (h y rfl)

/-- What a record is read from. -/
structure ReadFrom (found : Found Json) (r : Record Float) : Prop where
  field : found.required "aggregation" GroupField.decode? = some r.field
  subfields : found.withDefault "subfields" (list? string?) [] = some r.subfields
  key : found.required "environment" string? = some r.key
  cluster : found.withDefault "cluster" (nullable? string?) none = some r.cluster
  costs (x : Resource) : found.required x.costName float? = some (r.costs.of x)
  shared : found.required "sharedCost" float? = some r.costs.shared
  total : found.required "totalCost" float? = some r.costs.total
  cpuScore : found.withDefault "cpuEfficiency" (nullable? float?) none = some r.scores.cpu
  ramScore : found.withDefault "ramEfficiency" (nullable? float?) none = some r.scores.ram
  overallScore : found.withDefault "efficiency" (nullable? float?) none = some r.scores.overall
  costSeries (x : Resource) :
    found.withDefault x.seriesName Series.decode? [] = some (r.costSeries.of x)
  usage : r.usage = {}
  attribution : r.attribution = ∅

/-- **A record is read** member by member. -/
theorem decode?_eq_some_iff {v : Json} {found : Found Json} {r : Record Float}
    (hfound : fields? fields v = some found) : decode? v = some r ↔ ReadFrom found r := by
  unfold decode?
  rw [hfound]
  constructor
  · intro h
    rw [Option.bind_eq_bind, Option.bind_some] at h
    obtain ⟨_, hfield, h⟩ := Option.bind_eq_some_iff.mp h
    obtain ⟨_, hsubfields, h⟩ := Option.bind_eq_some_iff.mp h
    obtain ⟨_, hkey, h⟩ := Option.bind_eq_some_iff.mp h
    obtain ⟨_, hcluster, h⟩ := Option.bind_eq_some_iff.mp h
    obtain ⟨_, hcpu, h⟩ := Option.bind_eq_some_iff.mp h
    obtain ⟨_, hram, h⟩ := Option.bind_eq_some_iff.mp h
    obtain ⟨_, hgpu, h⟩ := Option.bind_eq_some_iff.mp h
    obtain ⟨_, hvolume, h⟩ := Option.bind_eq_some_iff.mp h
    obtain ⟨_, hnetwork, h⟩ := Option.bind_eq_some_iff.mp h
    obtain ⟨_, hshared, h⟩ := Option.bind_eq_some_iff.mp h
    obtain ⟨_, htotal, h⟩ := Option.bind_eq_some_iff.mp h
    obtain ⟨_, hcpuScore, h⟩ := Option.bind_eq_some_iff.mp h
    obtain ⟨_, hramScore, h⟩ := Option.bind_eq_some_iff.mp h
    obtain ⟨_, hoverallScore, h⟩ := Option.bind_eq_some_iff.mp h
    obtain ⟨_, hcpuSeries, h⟩ := Option.bind_eq_some_iff.mp h
    obtain ⟨_, hramSeries, h⟩ := Option.bind_eq_some_iff.mp h
    obtain ⟨_, hgpuSeries, h⟩ := Option.bind_eq_some_iff.mp h
    obtain ⟨_, hvolumeSeries, h⟩ := Option.bind_eq_some_iff.mp h
    obtain ⟨_, hnetworkSeries, h⟩ := Option.bind_eq_some_iff.mp h
    obtain rfl := Option.some.inj h
    exact {
      field := hfield
      subfields := hsubfields
      key := hkey
      cluster := hcluster
      costs := by rintro (_ | _) <;> assumption
      shared := hshared
      total := htotal
      cpuScore := hcpuScore
      ramScore := hramScore
      overallScore := hoverallScore
      costSeries := by rintro (_ | _) <;> assumption
      usage := rfl
      attribution := rfl }
  · intro h
    have hcosts := Resource.forall_iff.mp h.costs
    have hseries := Resource.forall_iff.mp h.costSeries
    simp only [Resource.costName, Resource.seriesName, Costs.of, CostSeries.of,
      String.reduceAppend] at hcosts hseries
    obtain ⟨hcpu, hram, hgpu, hvolume, hnetwork⟩ := hcosts
    obtain ⟨hcpuSeries, hramSeries, hgpuSeries, hvolumeSeries, hnetworkSeries⟩ := hseries
    dsimp only [Option.bind_eq_bind, Option.bind_some]
    rw [h.field, Option.bind_some, h.subfields, Option.bind_some, h.key, Option.bind_some,
      h.cluster, Option.bind_some, hcpu, Option.bind_some, hram, Option.bind_some, hgpu,
      Option.bind_some, hvolume, Option.bind_some, hnetwork, Option.bind_some, h.shared,
      Option.bind_some, h.total, Option.bind_some, h.cpuScore, Option.bind_some, h.ramScore,
      Option.bind_some, h.overallScore, Option.bind_some, hcpuSeries, Option.bind_some, hramSeries,
      Option.bind_some, hgpuSeries, Option.bind_some, hvolumeSeries, Option.bind_some,
      hnetworkSeries, Option.bind_some, ← h.usage, ← h.attribution]
    rfl

/-! ## Reading back -/

/-- The numbers that a record cannot do without: its costs and all of its series. -/
def amounts (r : Record Float) : List Float :=
  [r.costs.cpu, r.costs.ram, r.costs.gpu, r.costs.volume, r.costs.network, r.costs.shared,
    r.costs.total] ++ r.costSeries.cpu.numbers ++ r.costSeries.ram.numbers ++
    r.costSeries.gpu.numbers ++ r.costSeries.volume.numbers ++ r.costSeries.network.numbers

/-- The numbers of a record. -/
def numbers (r : Record Float) : List Float := r.amounts ++ r.scores.computed

/-- What is left of a record when it has been written and read again. -/
def kept (r : Record Float) : Record Float :=
  { r with
    scores :=
      { cpu := r.scores.cpu.filter Float.isFinite
        ram := r.scores.ram.filter Float.isFinite
        overall := r.scores.overall.filter Float.isFinite }
    usage := {}
    attribution := ∅ }

theorem forall_mem_amounts {r : Record Float} {p : Float → Prop} :
    (∀ y ∈ r.amounts, p y) ↔
      (∀ x, p (r.costs.of x)) ∧ p r.costs.shared ∧ p r.costs.total ∧
        ∀ x, ∀ y ∈ (r.costSeries.of x).numbers, p y := by
  simp only [amounts, Resource.forall_iff, Costs.of, CostSeries.of, List.forall_mem_append,
    List.forall_mem_cons, List.not_mem_nil]
  tauto

/-! ### The members of a written record -/

section Members

variable (r : Record Float)

theorem required_slots {β : Type} (name : String) (decode : Decoder β) :
    Found.required (present r.slots) name decode = ((r.slots.lookup name).join).bind decode := by
  rw [Found.required, lookup_slots]

theorem withDefault_slots {β : Type} (name : String) (decode : Decoder β) (default : β) :
    Found.withDefault (present r.slots) name decode default =
      ((r.slots.lookup name).join).elim (some default) decode := by
  rw [Found.withDefault, lookup_slots]
  cases (r.slots.lookup name).join <;> rfl

theorem required_field :
    Found.required (present r.slots) "aggregation" GroupField.decode? = some r.field := by
  rw [required_slots]
  exact GroupField.ofName?_name r.field

theorem withDefault_subfields :
    Found.withDefault (present r.slots) "subfields" (list? string?) [] = some r.subfields := by
  have hstring : ∀ v ∈ r.subfields, ∀ u, string? (.string v) = some u ↔ True ∧ u = v := by
    simp [string?, eq_comm]
  rw [withDefault_slots]
  exact (elim_unlessEmpty_eq_some (list?_map_eq_some hstring) (by simp)).mpr ⟨by simp, rfl⟩

theorem required_key : Found.required (present r.slots) "environment" string? = some r.key := by
  rw [required_slots]
  rfl

theorem withDefault_cluster :
    Found.withDefault (present r.slots) "cluster" (nullable? string?) none = some r.cluster := by
  rw [withDefault_slots]
  change (r.cluster.map Json.string).elim (some none) (nullable? string?) = some r.cluster
  cases r.cluster <;> rfl

variable {r}

theorem required_number_eq_some (name : String) {x y : Float}
    (hslot : (r.slots.lookup name).join = some (.ofFloat x))
    (h : x.isFinite = true → ReadsBack x) :
    Found.required (present r.slots) name float? = some y ↔ x.isFinite = true ∧ y = x := by
  rw [required_slots, hslot]
  exact float?_ofFloat_eq_some h

theorem required_cost_eq_some {x : Resource} {y : Float}
    (h : (r.costs.of x).isFinite = true → ReadsBack (r.costs.of x)) :
    Found.required (present r.slots) x.costName float? = some y ↔
      (r.costs.of x).isFinite = true ∧ y = r.costs.of x :=
  required_number_eq_some x.costName (by cases x <;> rfl) h

theorem withDefault_series_eq_some {x : Resource} {s : Series Float}
    (h : ∀ y ∈ (r.costSeries.of x).numbers, y.isFinite = true → ReadsBack y) :
    Found.withDefault (present r.slots) x.seriesName Series.decode? [] = some s ↔
      (∀ y ∈ (r.costSeries.of x).numbers, y.isFinite = true) ∧ s = r.costSeries.of x := by
  have hslot : (r.slots.lookup x.seriesName).join =
      unlessEmpty Series.encode (r.costSeries.of x) := by cases x <;> rfl
  rw [withDefault_slots, hslot]
  refine elim_unlessEmpty_eq_some (Series.decode?_encode_eq_some h) fun hempty => ?_
  simp [hempty, Series.numbers]

end Members

/-- What has been written of a record is read as what is kept of it, if the record is finite. -/
theorem readFrom_kept {r : Record Float} (h : ∀ y ∈ r.numbers, y.isFinite = true → ReadsBack y)
    (hfinite : ∀ y ∈ r.amounts, y.isFinite = true) : ReadFrom (present r.slots) r.kept := by
  obtain ⟨hamounts, hscores⟩ := List.forall_mem_append.mp h
  obtain ⟨hcosts, hshared, htotal, hseries⟩ := forall_mem_amounts.mp hamounts
  obtain ⟨hcpu, hram, hoverall⟩ := Scores.forall_mem_computed.mp hscores
  obtain ⟨hfiniteCosts, hfiniteShared, hfiniteTotal, hfiniteSeries⟩ := forall_mem_amounts.mp hfinite
  exact {
    field := required_field r
    subfields := withDefault_subfields r
    key := required_key r
    cluster := withDefault_cluster r
    costs := fun x => (required_cost_eq_some (hcosts x)).mpr ⟨hfiniteCosts x, rfl⟩
    shared := (required_number_eq_some "sharedCost" rfl hshared).mpr ⟨hfiniteShared, rfl⟩
    total := (required_number_eq_some "totalCost" rfl htotal).mpr ⟨hfiniteTotal, rfl⟩
    cpuScore := (withDefault_slots r _ _ _).trans (elim_score hcpu)
    ramScore := (withDefault_slots r _ _ _).trans (elim_score hram)
    overallScore := (withDefault_slots r _ _ _).trans (elim_score hoverall)
    costSeries := fun x => (withDefault_series_eq_some (hseries x)).mpr ⟨hfiniteSeries x, rfl⟩
    usage := rfl
    attribution := rfl }

/-- Nothing is read from what has been written of a record that is not finite. -/
theorem finite_of_readFrom {r r' : Record Float}
    (h : ∀ y ∈ r.numbers, y.isFinite = true → ReadsBack y) (hread : ReadFrom (present r.slots) r') :
    ∀ y ∈ r.amounts, y.isFinite = true := by
  obtain ⟨hcosts, hshared, htotal, hseries⟩ :=
    forall_mem_amounts.mp (List.forall_mem_append.mp h).1
  exact forall_mem_amounts.mpr
    ⟨fun x => ((required_cost_eq_some (hcosts x)).mp (hread.costs x)).1,
      ((required_number_eq_some "sharedCost" rfl hshared).mp hread.shared).1,
      ((required_number_eq_some "totalCost" rfl htotal).mp hread.total).1,
      fun x => ((withDefault_series_eq_some (hseries x)).mp (hread.costSeries x)).1⟩

/-- **Reading what has been written**: it fails if a cost or a part of a series is not finite, and
else leaves what is kept of the record. -/
theorem decode?_encode_eq_some {r r' : Record Float}
    (h : ∀ y ∈ r.numbers, y.isFinite = true → ReadsBack y) :
    decode? r.encode = some r' ↔ (∀ y ∈ r.amounts, y.isFinite = true) ∧ r' = r.kept := by
  have hkept (hfinite : ∀ y ∈ r.amounts, y.isFinite = true) : decode? r.encode = some r.kept :=
    (decode?_eq_some_iff (fields?_encode r)).mpr (readFrom_kept h hfinite)
  constructor
  · intro hr'
    have hfinite : ∀ y ∈ r.amounts, y.isFinite = true :=
      finite_of_readFrom h ((decode?_eq_some_iff (fields?_encode r)).mp hr')
    exact ⟨hfinite, Option.some.inj (hr'.symm.trans (hkept hfinite))⟩
  · rintro ⟨hfinite, rfl⟩
    exact hkept hfinite

/-- **A written record reads back**, on one line or over several: if a cost or a part of a series is
not finite there is no record to be read, and else it is what is kept of the record. -/
theorem reads_back {r r' : Record Float} (h : ∀ y ∈ r.numbers, y.isFinite = true → ReadsBack y) :
    ((parse? r.encode.compact).bind decode? = some r' ↔
      (∀ y ∈ r.amounts, y.isFinite = true) ∧ r' = r.kept) ∧
    ∀ level, (parse? (r.encode.pretty level)).bind decode? = some r' ↔
      (∀ y ∈ r.amounts, y.isFinite = true) ∧ r' = r.kept := by
  have hspelled := isSpelled_encode r
  constructor
  · rw [parse?_compact hspelled, Option.bind_some]
    exact decode?_encode_eq_some h
  · intro level
    rw [parse?_pretty hspelled, Option.bind_some]
    exact decode?_encode_eq_some h

/-- A record without subfields and without most of its series, with a score that is not a number. -/
def sampleRecord : Record Float where
  field := .label
  subfields := []
  key := "équipe \"α\"\n東"
  costs :=
    { cpu := 0.1 + 0.2, ram := 12, gpu := 0, volume := 1e-7, network := 2.5e22, shared := -0.0
      total := 1.7976931348623157e308 }
  scores := { cpu := some (0 / 0), overall := some 0.875 }
  costSeries := { ram := [⟨1700000000, 12⟩, ⟨1700003600.5, 1e-300⟩] }
  usage := { cpu := { allocation := [⟨1700000000, 3⟩] } }
  attribution := Attribution.add ∅ "east"

theorem reads_back_sample :
    (∀ y ∈ sampleRecord.numbers, y.isFinite = true → ReadsBack y) ∧
      (parse? sampleRecord.encode.compact).bind decode? = some sampleRecord.kept ∧
      sampleRecord.kept.key = sampleRecord.key ∧ sampleRecord.kept.scores.cpu = none := by
  have hnumbers : ∀ y ∈ sampleRecord.numbers, y.isFinite = true → ReadsBack y := by decide +kernel
  have hfinite : ∀ y ∈ sampleRecord.amounts, y.isFinite = true := by decide +kernel
  refine ⟨hnumbers, (reads_back hnumbers).1.mpr ⟨hfinite, rfl⟩, rfl, by decide +kernel⟩

end Record

end Chargeback
