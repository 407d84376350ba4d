import Mathlib.Data.List.Basic
import Chargeback.Billing.Window
import Chargeback.Proofs.Text.Runs

/-!
# The figures of a window

The amounts of a window are decimal literals of digits and points only. Such a row is read exactly
if it is a figure: at most one point, and at least one digit on either side of it
(`amount?_eq_some_iff`). The number is then the nearest one in binary64 to what the figure spells,
with as many decimals as digits follow the point (`numeralOf`).
-/

namespace Chargeback

/-- Digits and points have no letter case. -/
theorem toLower_of_isNumeric {c : Char} (h : Window.isNumeric c = true) : c.toLower = c := by
  unfold Char.toLower
  rw [dif_neg]
  rintro ⟨hge, -⟩
  rw [Window.isNumeric, Bool.or_eq_true, beq_iff_eq] at h
  rcases h with h | rfl
  · rw [Char.isDigit, Bool.and_eq_true, decide_eq_true_eq, decide_eq_true_eq] at h
    exact absurd (UInt32.le_trans hge h.2) (by decide)
  · exact absurd hge (by decide)

namespace Window

/-- A figure: ASCII digits with at most one point, and with at least one digit. -/
structure IsFigure (cs : List Char) : Prop where
  numeric : ∀ c ∈ cs, c.isDigit = true ∨ c = '.'
  points : cs.count '.' ≤ 1
  digit : ∃ c ∈ cs, c.isDigit = true

/-- The number that a figure spells: its digits, of which those after the point are decimals. -/
def numeralOf (cs : List Char) : Numeral :=
  .scaled false (Numeral.ofDigits (cs.filter Char.isDigit))
    (-((cs.dropWhile (· != '.')).tail.length : ℤ))

theorem isDigit_ne_point {c : Char} (h : c.isDigit = true) : c ≠ '.' := by
  rintro rfl
  revert h
  decide

variable {cs : List Char}

theorem unsigned?_of_isNumeric (h : ∀ c ∈ cs, isNumeric c = true) :
    Numeral.unsigned? false cs =
      let (whole, fraction, rest) := Numeral.mantissa cs
      if whole.isEmpty && fraction.isEmpty then none
      else (Numeral.exponent? rest).map fun e =>
        .scaled false (Numeral.ofDigits (whole ++ fraction)) (e - fraction.length) := by
  have hlower : cs.map Char.toLower = cs := by
    rw [List.map_congr_left fun c hc => toLower_of_isNumeric (h c hc), List.map_id']
  have hword {word : String} (hn : 'n' ∈ word.toList) : String.ofList cs ≠ word := by
    rintro rfl
    rw [String.toList_ofList] at hn
    exact absurd (h 'n' hn) (by decide)
  unfold Numeral.unsigned?
  rw [hlower, if_neg (not_or.mpr ⟨hword (by decide), hword (by decide)⟩), if_neg (hword (by decide))]

/-! ## Digits and points -/

theorem mantissa_of_digits (h : ∀ c ∈ cs, c.isDigit = true) : Numeral.mantissa cs = (cs, [], []) := by
  have htake := stops_nil.takeWhile_append h
  have hdrop := stops_nil.dropWhile_append h
  rw [List.append_nil] at htake hdrop
  unfold Numeral.mantissa
  rw [hdrop, htake]

theorem mantissa_of_point {ds es rest : List Char} (hds : ∀ c ∈ ds, c.isDigit = true)
    (hes : ∀ c ∈ es, c.isDigit = true) (hrest : Stops Char.isDigit rest) :
    Numeral.mantissa (ds ++ '.' :: (es ++ rest)) = (ds, es, rest) := by
  have hpoint : Stops Char.isDigit ('.' :: (es ++ rest)) := stops_cons rfl
  unfold Numeral.mantissa
  rw [hpoint.dropWhile_append hds, hpoint.takeWhile_append hds]
  simp only [hrest.takeWhile_append hes, hrest.dropWhile_append hes]

/-- A row of digits and points has no point, one point, or goes on at a second one. -/
theorem figure_cases (h : ∀ c ∈ cs, isNumeric c = true) :
    (∀ c ∈ cs, c.isDigit = true) ∨
      ∃ ds es rest, cs = ds ++ '.' :: (es ++ rest) ∧ (∀ c ∈ ds, c.isDigit = true) ∧
        (∀ c ∈ es, c.isDigit = true) ∧ (rest = [] ∨ ∃ rest', rest = '.' :: rest') := by
  have hpoint {ds : List Char} (h : ∀ c ∈ ds, isNumeric c = true) :
      ds.dropWhile Char.isDigit = [] ∨ ∃ rest, ds.dropWhile Char.isDigit = '.' :: rest := by
    cases hdrop : ds.dropWhile Char.isDigit with
    | nil => exact .inl rfl
    | cons c rest =>
      have hmem : c ∈ ds := (List.dropWhile_sublist _).subset (hdrop ▸ List.mem_cons_self)
      have hnot : c.isDigit = false := by
        have hhead := List.head_dropWhile_not Char.isDigit (hdrop ▸ List.cons_ne_nil c rest)
        simpa only [hdrop, List.head_cons] using hhead
      have hc := h c hmem
      rw [isNumeric, hnot, Bool.false_or, beq_iff_eq] at hc
      exact .inr ⟨rest, hc ▸ rfl⟩
  have hdigits (ds : List Char) : ∀ c ∈ ds.takeWhile Char.isDigit, c.isDigit = true :=
    fun c hc => List.mem_takeWhile_imp hc
  have hsplit := List.takeWhile_append_dropWhile (p := Char.isDigit) (l := cs)
  rcases hpoint h with hnil | ⟨tail, htail⟩
  · rw [hnil, List.append_nil] at hsplit
    exact .inl fun c hc => hdigits cs c (hsplit.symm ▸ hc)
  · rw [htail] at hsplit
    have htail : ∀ c ∈ tail, isNumeric c = true := fun c hc => h c (by rw [← hsplit]; simp [hc])
    refine .inr ⟨_, tail.takeWhile Char.isDigit, tail.dropWhile Char.isDigit, ?_, hdigits cs,
      hdigits tail, hpoint htail⟩
    rw [List.takeWhile_append_dropWhile, hsplit]

theorem IsFigure.isNumeric (h : IsFigure cs) : ∀ c ∈ cs, isNumeric c = true := by
  intro c hc
  rcases h.numeric c hc with hdigit | rfl
  · rw [Window.isNumeric, hdigit, Bool.true_or]
  · rfl

theorem count_point_of_digits (h : ∀ c ∈ cs, c.isDigit = true) : cs.count '.' = 0 :=
  List.count_eq_zero.mpr fun hmem => isDigit_ne_point (h '.' hmem) rfl

theorem isFigure_of_digits (h : ∀ c ∈ cs, c.isDigit = true) : IsFigure cs ↔ cs ≠ [] := by
  constructor
  · rintro ⟨-, -, c, hc, -⟩
    exact List.ne_nil_of_mem hc
  · intro hne
    obtain ⟨c, hc⟩ := List.exists_mem_of_ne_nil cs hne
    exact ⟨fun c hc => .inl (h c hc), by rw [count_point_of_digits h]; omega, c, hc, h c hc⟩

theorem isFigure_of_point {ds es : List Char} (hds : ∀ c ∈ ds, c.isDigit = true)
    (hes : ∀ c ∈ es, c.isDigit = true) : IsFigure (ds ++ '.' :: es) ↔ ds ++ es ≠ [] := by
  have hall : ∀ c ∈ ds ++ es, c.isDigit = true := List.forall_mem_append.mpr ⟨hds, hes⟩
  have hmem (c : Char) : c ∈ ds ++ '.' :: es ↔ c = '.' ∨ c ∈ ds ++ es := by
    rw [List.mem_append, List.mem_cons, List.mem_append, or_left_comm]
  constructor
  · rintro ⟨-, -, c, hc, hdigit⟩
    have hc := ((hmem c).mp hc).resolve_left (isDigit_ne_point hdigit)
    exact List.ne_nil_of_mem hc
  · intro hne
    obtain ⟨c, hc⟩ := List.exists_mem_of_ne_nil _ hne
    refine ⟨fun c hc => ((hmem c).mp hc).symm.imp_left (hall c), ?_, c, (hmem c).mpr (.inr hc),
      hall c hc⟩
    rw [List.count_append, List.count_cons_self, count_point_of_digits hds,
      count_point_of_digits hes]

theorem numeralOf_of_digits (h : ∀ c ∈ cs, c.isDigit = true) :
    numeralOf cs = .scaled false (Numeral.ofDigits cs) 0 := by
  have hdrop : cs.dropWhile (· != '.') = [] :=
    List.dropWhile_eq_nil_iff.mpr fun c hc => bne_iff_ne.mpr (isDigit_ne_point (h c hc))
  rw [numeralOf, List.filter_eq_self.mpr h, hdrop]
  rfl

theorem numeralOf_of_point {ds es : List Char} (hds : ∀ c ∈ ds, c.isDigit = true)
    (hes : ∀ c ∈ es, c.isDigit = true) :
    numeralOf (ds ++ '.' :: es) = .scaled false (Numeral.ofDigits (ds ++ es)) (-(es.length : ℤ)) := by
  have hstops : Stops (· != '.') ('.' :: es) := stops_cons rfl
  have hdrop : (ds ++ '.' :: es).dropWhile (· != '.') = '.' :: es :=
    hstops.dropWhile_append fun c hc => bne_iff_ne.mpr (isDigit_ne_point (hds c hc))
  have hpoint : ¬ Char.isDigit '.' = true := by decide
  rw [numeralOf, hdrop, List.filter_append, List.filter_cons_of_neg hpoint,
    List.filter_eq_self.mpr hds, List.filter_eq_self.mpr hes, List.tail_cons]

theorem amount?_eq (h : ∀ c ∈ cs, isNumeric c = true) :
    amount? cs = (Numeral.unsigned? false cs).map Binary64.ofNumeral := by
  have hread : (Numeral.read (String.ofList cs)).toOption = Numeral.unsigned? false cs := by
    unfold Numeral.read
    rw [String.toList_ofList]
    split
    · rfl
    · exact absurd (h '-' List.mem_cons_self) (by decide)
    · exact absurd (h '+' List.mem_cons_self) (by decide)
    · cases Numeral.unsigned? false cs <;> rfl
  rw [amount?, hread]

/-- **A row of digits and points is read** as a number if it is a figure. -/
theorem amount?_eq_some_iff {a : Float} (h : ∀ c ∈ cs, isNumeric c = true) :
    amount? cs = some a ↔ IsFigure cs ∧ Binary64.ofNumeral (numeralOf cs) = a := by
  rw [amount?_eq h, unsigned?_of_isNumeric h]
  rcases figure_cases h with hds | ⟨ds, es, rest, rfl, hds, hes, rfl | ⟨rest, rfl⟩⟩
  · rw [mantissa_of_digits hds, isFigure_of_digits hds, numeralOf_of_digits hds]
    cases cs with
    | nil => exact iff_of_false nofun fun h => h.1 rfl
    | cons c cs => simp [Numeral.exponent?]
  · have hmantissa := mantissa_of_point hds hes stops_nil
    rw [List.append_nil] at hmantissa ⊢
    rw [hmantissa, isFigure_of_point hds hes, numeralOf_of_point hds hes]
    have hempty : (ds.isEmpty && es.isEmpty) = true ↔ ds ++ es = [] := by
      rw [Bool.and_eq_true, List.isEmpty_iff, List.isEmpty_iff, List.append_eq_nil_iff]
    dsimp only
    by_cases hnil : ds ++ es = []
    · rw [if_pos (hempty.mpr hnil)]
      exact iff_of_false nofun fun h => h.1 hnil
    · rw [if_neg (mt hempty.mp hnil), and_iff_right hnil, Numeral.exponent?]
      simp
  · rw [mantissa_of_point hds hes (stops_cons rfl)]
    have hnot : ¬ IsFigure (ds ++ '.' :: (es ++ '.' :: rest)) := by
      intro hfigure
      have hpoints := hfigure.points
      rw [List.count_append, List.count_cons_self, List.count_append, List.count_cons_self] at hpoints
      omega
    have hexponent : Numeral.exponent? ('.' :: rest) = none := rfl
    dsimp only
    rw [hexponent, Option.map_none, ite_self]
    exact iff_of_false nofun fun h => hnot h.1

end Window

end Chargeback
