import Mathlib.Data.List.Nodup
import Chargeback.Json.Decode
import Chargeback.Proofs.Json.Numbers
import Chargeback.Proofs.Json.Tokens

/-!
# Members that may be left out

A record is written as the members that are there of a fixed row of them (`Json.present`), and each
member is found again under its name (`lookup_present`), whichever others are left out. A number is
a member only as long as it is finite (`float?_ofFloat_eq_some`).
-/

namespace Chargeback.Json

/-! ## Members -/

/-- A row of members of which some are left out. -/
abbrev Slots := List (String × Option Json)

/-- The members that are there. -/
def present (slots : Slots) : List (String × Json) :=
  slots.flatMap fun s => (s.2.map (s.1, ·)).toList

theorem mem_present {slots : Slots} {m : String × Json} :
    m ∈ present slots ↔ (m.1, some m.2) ∈ slots := by
  simp only [present, List.mem_flatMap, Option.mem_toList, Option.map_eq_some_iff]
  constructor
  · rintro ⟨⟨name, _⟩, hs, v, rfl, rfl⟩
    exact hs
  · exact fun h => ⟨_, h, m.2, rfl, rfl⟩

theorem names_present_sublist (slots : Slots) :
    ((present slots).map Prod.fst).Sublist (slots.map Prod.fst) := by
  induction slots with
  | nil => exact .slnil
  | cons s slots ih =>
    obtain ⟨name, v⟩ := s
    cases v with
    | none => exact ih.cons name
    | some v => exact ih.cons_cons name

/-- **A member is found under its name**, or is not there if it is left out. -/
theorem lookup_present {slots : Slots} (hnodup : (slots.map Prod.fst).Nodup) (name : String) :
    (present slots).lookup name = (slots.lookup name).join := by
  induction slots with
  | nil => rfl
  | cons s slots ih =>
    obtain ⟨hnew, hnodup⟩ := List.nodup_cons.mp hnodup
    change ((s.2.map (s.1, ·)).toList ++ present slots).lookup name = _
    rw [List.lookup_append]
    by_cases hname : name = s.1
    · have hrest : (present slots).lookup name = none := by
        rw [List.lookup_eq_none_iff]
        intro m hm
        have hmem : m.1 ∈ slots.map Prod.fst :=
          (names_present_sublist slots).subset (List.mem_map_of_mem hm)
        have hne : m.1 ≠ s.1 := fun heq => hnew (heq ▸ hmem)
        exact bne_iff_ne.mpr (hname ▸ hne.symm)
      rw [hrest, hname, List.lookup_cons_self]
      cases s.2 <;> simp
    · have hhead : (s.2.map (s.1, ·)).toList.lookup name = none := by
        cases s.2 <;> simp [hname]
      rw [hhead, Option.none_or, ih hnodup, List.lookup_cons, beq_false_of_ne hname]

/-- **A record is found in its members**, each under a name of its own. -/
theorem fields?_present {slots : Slots} {fields : List Field}
    (hnames : slots.map Prod.fst = fields.map Field.name)
    (hother : ∀ f ∈ fields, f.otherName = none) (hnodup : (fields.map Field.name).Nodup) :
    fields? fields (.object (present slots)) = some (present slots) := by
  have hfind : ∀ m ∈ present slots,
      (fields.find? (·.accepts m.1)).map (fun f => (f.name, m.2)) = some m := by
    intro m hm
    have hmem : m.1 ∈ fields.map Field.name :=
      hnames ▸ (names_present_sublist slots).subset (List.mem_map_of_mem hm)
    obtain ⟨f, hf, hname⟩ := List.mem_map.mp hmem
    have haccepts : f.accepts m.1 = true := by simp [Field.accepts, hname]
    obtain ⟨g, hg⟩ := Option.isSome_iff_exists.mp
      (List.find?_isSome.mpr ⟨f, hf, haccepts⟩ : (fields.find? (·.accepts m.1)).isSome = true)
    have hgname : g.name = m.1 := by
      have hgaccepts := List.find?_some hg
      simp only [Field.accepts, hother g (List.mem_of_find?_eq_some hg), Bool.or_eq_true,
        beq_iff_eq, reduceCtorEq, or_false] at hgaccepts
      exact hgaccepts.symm
    rw [hg, Option.map_some, hgname]
  have hfound : Found.ofMembers fields (present slots) = present slots := by
    rw [Found.ofMembers, List.filterMap_congr hfind, List.filterMap_some]
  have hdistinct : ((present slots).map Prod.fst).Nodup :=
    (hnames ▸ hnodup : (slots.map Prod.fst).Nodup).sublist (names_present_sublist slots)
  rw [fields?, hfound, if_pos hdistinct]

/-! ## Numbers -/

/-- **A number is written as a literal**, or as null. -/
theorem isSpelled_ofFloat (x : Float) : (ofFloat x).IsSpelled := by
  unfold ofFloat
  cases hliteral : jsonNumber? x with
  | none => exact .null
  | some literal => exact .number (isNumber_of_jsonNumber? hliteral)

/-- A number whose text is read back as itself. -/
def ReadsBack (x : Float) : Prop := (jsonNumber? x).bind Literal.value? = some x

instance (x : Float) : Decidable (ReadsBack x) :=
  inferInstanceAs (Decidable ((jsonNumber? x).bind Literal.value? = some x))

theorem ofFloat_of_not_isFinite {x : Float} (h : x.isFinite = false) : ofFloat x = .null := by
  have hnone : jsonNumber? x = none := by
    rw [← Option.not_isSome_iff_eq_none, isSome_jsonNumber?, h]
    exact Bool.false_ne_true
  rw [ofFloat, hnone]
  rfl

/-- **A number is read back as itself** while it is finite, and not at all if it is not. -/
theorem float?_ofFloat_eq_some {x y : Float} (h : x.isFinite = true → ReadsBack x) :
    float? (.ofFloat x) = some y ↔ x.isFinite = true ∧ y = x := by
  cases hfinite : x.isFinite with
  | true =>
    obtain ⟨literal, hliteral, hvalue⟩ := Option.bind_eq_some_iff.mp (h hfinite)
    rw [ofFloat, hliteral]
    change Literal.value? literal = some y ↔ _
    simp only [hvalue, Option.some.injEq, true_and]
    exact eq_comm
  | false =>
    rw [ofFloat_of_not_isFinite hfinite]
    simp [float?]

/-- What may be null is read as missing if it is not finite. -/
theorem nullable?_ofFloat {x : Float} (h : x.isFinite = true → ReadsBack x) :
    nullable? float? (.ofFloat x) = some ((some x).filter Float.isFinite) := by
  cases hfinite : x.isFinite with
  | true =>
    obtain ⟨literal, hliteral, hvalue⟩ := Option.bind_eq_some_iff.mp (h hfinite)
    rw [ofFloat, hliteral, Option.filter_some, hfinite]
    exact congrArg (Option.map some) hvalue
  | false =>
    rw [ofFloat_of_not_isFinite hfinite, Option.filter_some, hfinite]
    rfl

/-! ## Lists -/

/-- A list is read back if each of its items is. -/
theorem list?_map_eq_some {β : Type} {encode : β → Json} {decode : Decoder β} {readable : β → Prop}
    {items items' : List β}
    (h : ∀ v ∈ items, ∀ u, decode (encode v) = some u ↔ readable v ∧ u = v) :
    list? decode (.array (items.map encode)) = some items' ↔
      (∀ v ∈ items, readable v) ∧ items' = items := by
  change (items.map encode).mapM decode = some items' ↔ _
  induction items generalizing items' with
  | nil => simp [eq_comm]
  | cons v items ih =>
    obtain ⟨hv, hitems⟩ := List.forall_mem_cons.mp h
    rw [List.map_cons, List.mapM_cons, List.forall_mem_cons]
    simp only [Option.bind_eq_bind, Option.bind_eq_some_iff, Option.pure_def, Option.some.injEq, hv,
      ih hitems]
    constructor
    · rintro ⟨_, ⟨hread, rfl⟩, _, ⟨hreads, rfl⟩, rfl⟩
      exact ⟨⟨hread, hreads⟩, rfl⟩
    · rintro ⟨⟨hread, hreads⟩, rfl⟩
      exact ⟨v, ⟨hread, rfl⟩, items, ⟨hreads, rfl⟩, rfl⟩

end Chargeback.Json
