import Chargeback.Text.Width

/-!
# Widths of texts put together

A character may take back a column that the text after it has taken up, but never more than that
(`credit_columns_le`), so no text has a negative width (`columns_nonneg`). Widths of texts add up
where the second one joins with nothing before it (`Spans`): a text that begins with a blank does
not, whatever follows the blank (`spans_space`).
-/

namespace Chargeback

/-! ## No text has a negative width -/

/-- The columns that a character before a link may take back: one that the link has taken up. -/
def Link.credit : Link → Int
  | .letter .khmer _ | .letter .tifinaghJoiner _ => 1
  | .piece .oddRegionals | .piece .joinedRegional => 1
  | _ => 0

theorem Link.credit_nonneg (l : Link) : 0 ≤ l.credit := by
  unfold credit
  split <;> decide

namespace Following

theorem credit_letters_le (s : Following) : s.letters.credit ≤ s.link.credit := by
  obtain ⟨link, _, _⟩ := s
  cases link with
  | letter l j => exact Int.le_refl _
  | _ => exact Link.credit_nonneg _

theorem credit_selectPictograph_le (s : Following) :
    s.selectPictograph.link.credit ≤ s.link.credit := by
  have := s.link.credit_nonneg
  unfold selectPictograph
  split <;> simp_all [Link.credit]

theorem credit_selectText_le (s : Following) : s.selectText.link.credit ≤ s.link.credit := by
  have := s.link.credit_nonneg
  unfold selectText
  split <;> simp_all [Link.credit]

end Following

/-- A width and a link that takes back no more than the width and what was granted before. -/
def Covered (granted : Int) (r : Int × Following) : Prop := r.2.link.credit ≤ granted + r.1

theorem Covered.mono {a b : Int} {r : Int × Following} (h : Covered a r) (hab : a ≤ b) :
    Covered b r := by
  simp only [Covered] at *
  omega

theorem covered_plain {granted width : Int} (h : 0 ≤ granted + width) :
    Covered granted (width, .plain) := h

theorem covered_standAlone (c : Char) {granted : Int} (h : 0 ≤ granted) :
    Covered granted ((standAlone c).1, (standAlone c).2) := by
  suffices h' : (standAlone c).2.link.credit ≤ (standAlone c).1 by
    simp only [Covered]; omega
  have hif (p : Prop) [Decidable p] (a b : Nat × Following) (ha : a.2.link.credit ≤ a.1)
      (hb : b.2.link.credit ≤ b.1) :
      (if p then a else b).2.link.credit ≤ (if p then a else b).1 := by
    split <;> assumption
  unfold standAlone
  repeat' apply hif
  all_goals decide

theorem covered_joinLetter {c : Char} {l : Letter} {j : Bool} {r : Int × Following}
    (h : joinLetter? c l j = some r) : Covered (Link.letter l j).credit r := by
  unfold joinLetter? at h
  cases l <;> grind [Covered, Link.credit, Following.ofLetter, Following.plain]

theorem covered_joinPiece {c : Char} {p : Piece} {r : Int × Following}
    (h : joinPiece? c p = some r) : Covered (Link.piece p).credit r := by
  unfold joinPiece? at h
  cases p <;> grind [Covered, Link.credit, Following.ofPiece]

theorem covered_joinLink (c : Char) (l : Link) : Covered l.credit (joinLink c l) := by
  have halone := covered_standAlone c l.credit_nonneg
  cases l with
  | none => exact halone
  | letter l j =>
    cases h : joinLetter? c l j with
    | none => simpa [joinLink, h] using halone
    | some r => simpa [joinLink, h] using covered_joinLetter h
  | piece p =>
    cases h : joinPiece? c p with
    | none => simpa [joinLink, h] using halone
    | some r => simpa [joinLink, h] using covered_joinPiece h

theorem covered_measure (c : Char) (s : Following) : Covered s.link.credit (measure c s) := by
  have hs := s.link.credit_nonneg
  unfold measure
  split
  · simp only [Covered, Following.ofPiece, Link.credit]
    split <;> omega
  · -- passing over a selector takes nothing back
    generalize hu : (if s.asPictograph then (⟨s.letters, false, s.asText⟩ : Following) else s) = u
    have hus : u.link.credit ≤ s.link.credit := by
      subst hu
      split
      · exact s.credit_letters_le
      · exact Int.le_refl _
    simp only []
    split
    · exact covered_plain (by omega)
    split
    · have := u.credit_selectPictograph_le
      simp only [Covered]; omega
    split
    · have := u.credit_selectText_le
      simp only [Covered]; omega
    split
    · exact covered_plain (by omega)
    split
    · exact (covered_joinLink c _).mono (Int.le_trans u.credit_letters_le hus)
    · exact (covered_joinLink c _).mono hus

theorem columns_cons (c : Char) (cs : List Char) :
    columns (c :: cs) =
      ((measure c (columns cs).2).1 + (columns cs).1, (measure c (columns cs).2).2) := rfl

theorem credit_columns_le (cs : List Char) : (columns cs).2.link.credit ≤ (columns cs).1 := by
  induction cs with
  | nil => decide
  | cons c cs ih =>
    have := covered_measure c (columns cs).2
    simp only [Covered] at this
    simp only [columns_cons]
    omega

theorem columns_nonneg (cs : List Char) : 0 ≤ (columns cs).1 :=
  Int.le_trans (Link.credit_nonneg _) (credit_columns_le cs)

/-! ## Texts put together -/

theorem columns_append (cs ds : List Char) (h : (columns ds).2 = .plain) :
    columns (cs ++ ds) = ((columns cs).1 + (columns ds).1, (columns cs).2) := by
  induction cs with
  | nil => rw [List.nil_append, show columns [] = (0, .plain) from rfl, ← h, Int.zero_add]
  | cons c cs ih => simp only [List.cons_append, columns_cons, ih, Int.add_assoc]

/-- A row of one character that takes one column and joins with nothing. -/
theorem columns_replicate {c : Char} (h : measure c .plain = (1, .plain)) (n : Nat) :
    columns (List.replicate n c) = ((n : Int), Following.plain) := by
  induction n with
  | zero => rfl
  | succ n ih =>
    rw [List.replicate_succ, columns_cons, ih, h]
    simp only [Prod.mk.injEq, and_true]
    omega

/-- A text takes so many columns, and joins with nothing before it. -/
def Spans (n : Nat) (s : String) : Prop := columns s.toList = ((n : Int), .plain)

instance (n : Nat) (s : String) : Decidable (Spans n s) :=
  inferInstanceAs (Decidable (columns s.toList = ((n : Int), .plain)))

section Spans

variable {m n : Nat} {s t : String}

theorem Spans.displayWidth_eq (h : Spans n s) : displayWidth s = n := by
  rw [displayWidth, h, Int.toNat_natCast]

theorem Spans.append (hs : Spans m s) (ht : Spans n t) : Spans (m + n) (s ++ t) := by
  have hplain : (columns t.toList).2 = .plain := congrArg Prod.snd ht
  rw [Spans, String.toList_append, columns_append _ _ hplain, hs, ht, Int.natCast_add]

theorem displayWidth_append (s : String) (h : Spans n t) :
    displayWidth (s ++ t) = displayWidth s + n := by
  have hplain : (columns t.toList).2 = .plain := congrArg Prod.snd h
  have hwidth := columns_nonneg s.toList
  rw [displayWidth, String.toList_append, columns_append _ _ hplain, h, displayWidth]
  simp only []
  omega

/-- A space takes one column, whatever it stands before. -/
theorem measure_space (after : Following) : measure ' ' after = (1, .plain) := by
  have hpictograph : pictographableRanges.contains ' ' = false := by decide
  unfold measure
  rw [hpictograph, Bool.and_false, if_neg Bool.false_ne_true]
  exact if_pos (by decide)

theorem spans_space (s : String) : Spans (1 + displayWidth s) (" " ++ s) := by
  have hcons : (" " ++ s).toList = ' ' :: s.toList := by rw [String.toList_append]; rfl
  have hwidth := columns_nonneg s.toList
  rw [Spans, hcons, columns_cons, measure_space, displayWidth]
  simp only [Prod.mk.injEq, and_true]
  omega

end Spans

end Chargeback
