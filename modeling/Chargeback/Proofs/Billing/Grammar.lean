import Mathlib.Algebra.Order.Floor.Semifield
import Mathlib.Data.Rat.Floor
import Mathlib.Tactic.FieldSimp
import Mathlib.Tactic.Linarith
import Mathlib.Tactic.Positivity
import Mathlib.Tactic.Ring
import Chargeback.Proofs.Billing.Amount
import Chargeback.Proofs.Number.Packing

/-!
# The grammar of windows

A window is a row of terms with nothing between them, each a figure and the name of a unit
(`textOf`). A text is such a row in one way only (`textOf_injective`), and it is split into terms
exactly if it is one (`terms?_eq_some_iff`). It is read if the milliseconds of the terms, added up
from left to right, are positive and finite; the window then has as many whole milliseconds as come
nearest to that sum (`read?_eq_some_iff`).
-/

namespace Chargeback.Window

variable {cs : List Char}

/-! ## Terms -/

/-- A term as it is written. -/
structure Item where
  figure : List Char
  unit : TimeUnit
  isFigure : IsFigure figure

namespace Item

/-- The figure and the name of the unit. -/
def text (i : Item) : List Char := i.figure ++ i.unit.name.toList

/-- What is written. -/
def term (i : Item) : Term := ⟨Binary64.ofNumeral (numeralOf i.figure), i.unit⟩

end Item

/-- Terms in a row, with nothing between them. -/
def textOf (items : List Item) : List Char := items.flatMap Item.text

/-- The milliseconds of terms in a row, added up from left to right. -/
def totalOf (items : List Item) : Float := sum (items.map Item.term)

theorem textOf_cons (i : Item) (items : List Item) :
    textOf (i :: items) = i.figure ++ (i.unit.name.toList ++ textOf items) := by
  rw [textOf, List.flatMap_cons, Item.text, List.append_assoc, textOf]

theorem ofName?_eq_some_iff {name : String} {u : TimeUnit} :
    TimeUnit.ofName? name = some u ↔ u.name = name := by
  constructor
  · intro h
    unfold TimeUnit.ofName? at h
    simpa using List.find?_some h
  · rintro rfl
    cases u <;> rfl

theorem name_injective {u v : TimeUnit} (h : u.name = v.name) : u = v :=
  Option.some.inj ((ofName?_eq_some_iff.mpr rfl).symm.trans (ofName?_eq_some_iff.mpr h.symm))

theorem not_isNumeric_name (u : TimeUnit) : ∀ c ∈ u.name.toList, (!isNumeric c) = true := by
  cases u <;> simp [TimeUnit.name] <;> decide

theorem IsFigure.ne_nil (h : IsFigure cs) : cs ≠ [] := by
  obtain ⟨c, hc, -⟩ := h.digit
  exact List.ne_nil_of_mem hc

/-- A name of a unit ends the figure before it. -/
theorem stops_name (u : TimeUnit) (rest : List Char) :
    Stops isNumeric (u.name.toList ++ rest) := by
  cases u <;> exact stops_cons rfl

/-- A figure ends the name of the unit before it, and so does the end of the text. -/
theorem stops_textOf (items : List Item) : Stops (fun c => !isNumeric c) (textOf items) := by
  cases items with
  | nil => exact stops_nil
  | cons i items =>
    rw [textOf_cons]
    cases hfigure : i.figure with
    | nil => exact absurd hfigure i.isFigure.ne_nil
    | cons c cs =>
      have hc : isNumeric c = true := i.isFigure.isNumeric c (hfigure ▸ List.mem_cons_self)
      exact stops_cons (by rw [hc, Bool.not_true])

/-- The first term of a row is read, and the others after it. -/
theorem terms?_cons (i : Item) (items : List Item) :
    terms? (textOf (i :: items)) = (terms? (textOf items)).map (i.term :: ·) := by
  have htake := (stops_name i.unit (textOf items)).takeWhile_append i.isFigure.isNumeric
  have hdrop := (stops_name i.unit (textOf items)).dropWhile_append i.isFigure.isNumeric
  have hne := i.isFigure.ne_nil
  rw [textOf_cons, terms?, if_neg (List.append_ne_nil_of_left_ne_nil hne _), htake, dif_neg hne,
    hdrop]
  dsimp only
  rw [(stops_textOf items).takeWhile_append (not_isNumeric_name i.unit),
    (stops_textOf items).dropWhile_append (not_isNumeric_name i.unit),
    (amount?_eq_some_iff i.isFigure.isNumeric).mpr ⟨i.isFigure, rfl⟩, String.ofList_toList,
    ofName?_eq_some_iff.mpr rfl]
  rfl

/-- What is split into terms is a row of terms. -/
theorem exists_items_of_terms? {cs : List Char} {ts : List Term} (h : terms? cs = some ts) :
    ∃ items, cs = textOf items ∧ items.map Item.term = ts := by
  unfold terms? at h
  split at h
  · next hnil => exact ⟨[], hnil, Option.some.inj h⟩
  · split at h
    · cases h
    · next hfigure =>
      dsimp only at h
      split at h
      · next amount unit hamount hunit =>
        have hnumeric : ∀ c ∈ cs.takeWhile isNumeric, isNumeric c = true :=
          fun c hc => List.mem_takeWhile_imp hc
        obtain ⟨hisFigure, rfl⟩ := (amount?_eq_some_iff hnumeric).mp hamount
        obtain ⟨ts, hts, rfl⟩ := Option.map_eq_some_iff.mp h
        obtain ⟨items, hitems, rfl⟩ := exists_items_of_terms? hts
        refine ⟨⟨cs.takeWhile isNumeric, unit, hisFigure⟩ :: items, ?_, rfl⟩
        rw [textOf_cons, ofName?_eq_some_iff.mp hunit, String.toList_ofList, ← hitems,
          List.takeWhile_append_dropWhile, List.takeWhile_append_dropWhile]
      · cases h
  termination_by cs.length
  decreasing_by exact Nat.lt_of_le_of_lt length_dropWhile_le (length_dropWhile_lt ‹_›)

/-- **A text is split into terms** exactly if it is a row of terms. -/
theorem terms?_eq_some_iff {ts : List Term} :
    terms? cs = some ts ↔ ∃ items, cs = textOf items ∧ items.map Item.term = ts := by
  refine ⟨exists_items_of_terms?, ?_⟩
  rintro ⟨items, rfl, rfl⟩
  induction items with
  | nil => rw [textOf, List.flatMap_nil, terms?, if_pos rfl]; rfl
  | cons i items ih => rw [terms?_cons, ih]; rfl

theorem textOf_ne_nil {items : List Item} (h : items ≠ []) : textOf items ≠ [] := by
  cases items with
  | nil => exact absurd rfl h
  | cons i items =>
    rw [textOf_cons]
    exact List.append_ne_nil_of_left_ne_nil i.isFigure.ne_nil _

/-- **A text is a row of terms in one way only.** -/
theorem textOf_injective {items items' : List Item} (h : textOf items = textOf items') :
    items = items' := by
  induction items generalizing items' with
  | nil =>
    by_contra hne
    exact textOf_ne_nil (Ne.symm hne) h.symm
  | cons i items ih =>
    cases items' with
    | nil => exact absurd h (textOf_ne_nil (List.cons_ne_nil i items))
    | cons j items' =>
      rw [textOf_cons, textOf_cons] at h
      -- the figure is the first run of the text, and the name of the unit the run after it
      obtain ⟨hfigure, hrest⟩ := Stops.append_inj h (stops_name _ _) (stops_name _ _)
        i.isFigure.isNumeric j.isFigure.isNumeric
      obtain ⟨hname, htext⟩ := Stops.append_inj hrest (stops_textOf _) (stops_textOf _)
        (not_isNumeric_name _) (not_isNumeric_name _)
      have hunit := name_injective (String.toList_inj.mp hname)
      obtain ⟨figure, unit, hi⟩ := i
      obtain ⟨figure', unit', hj⟩ := j
      obtain rfl : figure = figure' := hfigure
      obtain rfl : unit = unit' := hunit
      rw [ih htext]

/-! ## Milliseconds -/

/-- The whole number nearest to a magnitude, in terms of its value. -/
theorem nearestNat_eq_floor (m : ℕ) (e : ℤ) :
    Binary64.nearestNat m e = ⌊(m * 2 ^ e : ℚ) + 1 / 2⌋₊ := by
  unfold Binary64.nearestNat
  split
  · next h =>
    have hcast : (m * 2 ^ e : ℚ) = ((m * Nat.pow 2 e.toNat : ℕ) : ℚ) := by
      have hpow : (2 : ℚ) ^ e = 2 ^ e.toNat := by rw [← zpow_natCast, Int.toNat_of_nonneg h]
      rw [hpow, Nat.pow_eq]
      push_cast
      rfl
    rw [hcast, eq_comm, Nat.floor_eq_iff (by positivity)]
    constructor <;> linarith
  · next h =>
    generalize hk : (-e).toNat = k
    have he : e = -(k : ℤ) := by omega
    rw [← Nat.floor_div_eq_div (K := ℚ), he, zpow_neg, zpow_natCast]
    congr 1
    have hpow : (2 : ℚ) ^ k ≠ 0 := pow_ne_zero k two_ne_zero
    push_cast [Nat.pow_eq]
    field_simp
    ring

/-- The whole milliseconds nearest to a positive number of them, a half going up, as many as a window
holds at most. -/
def rounded (x : Float) : ℕ := min ⌊Binary64.value x + 1 / 2⌋₊ greatest

theorem ofMilliseconds?_eq_some_iff {x : Float} {w : Window} :
    ofMilliseconds? x = some w ↔ Number.isUsable x = true ∧ w.milliseconds = rounded x := by
  unfold ofMilliseconds?
  split
  · next husable =>
    obtain ⟨m, e, hpos, hparts⟩ := Binary64.isUsable_iff.mp husable
    have hfloat : Binary64.ofFloat x = .finite false m e := by
      rw [Binary64.ofFloat_eq, hparts]
      rfl
    rw [hfloat, rounded, Binary64.value_of_finite hparts, ← nearestNat_eq_floor]
    obtain ⟨milliseconds⟩ := w
    simp only [Option.some.injEq, Window.mk.injEq, husable, true_and]
    exact eq_comm
  · next h => exact iff_of_false nofun fun h' => h h'.1

/-! ## Reading -/

/-- **A text is read** as a window if it is, blanks at its ends aside, a row of terms which add up
to a positive finite number of milliseconds. -/
theorem read?_eq_some_iff {s : String} {w : Window} :
    read? s = some w ↔ ∃ items, items ≠ [] ∧ trimBlanks s.toList = textOf items ∧
      Number.isUsable (totalOf items) = true ∧ w.milliseconds = rounded (totalOf items) := by
  have hread : read? s = if trimBlanks s.toList = [] then none
      else (terms? (trimBlanks s.toList)).bind fun ts => ofMilliseconds? (sum ts) := by
    unfold read?
    split
    · next h => rw [if_pos h]
    · next h => rw [if_neg h]
  rw [hread]
  split
  · next hnil =>
    refine iff_of_false nofun ?_
    rintro ⟨items, hne, htext, -⟩
    exact textOf_ne_nil hne (htext.symm.trans hnil)
  · next hnil =>
    simp only [Option.bind_eq_some_iff, terms?_eq_some_iff, ofMilliseconds?_eq_some_iff]
    constructor
    · rintro ⟨_, ⟨items, htext, rfl⟩, husable, hrounded⟩
      refine ⟨items, ?_, htext, husable, hrounded⟩
      rintro rfl
      exact hnil htext
    · rintro ⟨items, -, htext, husable, hrounded⟩
      exact ⟨_, ⟨items, htext, rfl⟩, husable, hrounded⟩

theorem read_eq_ok_iff {s : String} {w : Window} : read s = .ok w ↔ read? s = some w := by
  unfold read
  cases read? s <;> simp

theorem read_eq_error_iff {s : String} {fault : Fault} :
    read s = .error fault ↔ read? s = none ∧ fault = .invalidWindow s := by
  unfold read
  cases read? s <;> simp [eq_comm]

end Chargeback.Window
