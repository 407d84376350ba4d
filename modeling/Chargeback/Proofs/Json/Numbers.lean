import Chargeback.Json.Printer
import Chargeback.Json.Token
import Chargeback.Proofs.Decimal.Shortest
import Chargeback.Proofs.Number.Packing
import Chargeback.Proofs.Text.Runs

/-!
# Printed numbers are numbers

The grammar of numbers is narrower than what a printer could write: a whole part has no leading
zeros, and neither a fraction nor an exponent is without digits. Every finite number is printed
within it (`isNumber_of_jsonNumber?`), and other numbers are not printed (`isSome_jsonNumber?`).
-/

namespace Chargeback

/-! ## Digits -/

theorem isDigit_of_mem_toDigits {n : Nat} : ∀ c ∈ Nat.toDigits 10 n, c.isDigit = true :=
  fun _ => Nat.isDigit_of_mem_toDigits (by decide) (by decide)

/-- The digits of a positive number do not start with a zero. -/
theorem head?_toDigits_ne_zero {n : Nat} (h : n ≠ 0) : (Nat.toDigits 10 n).head? ≠ some '0' := by
  induction n using Nat.strongRecOn with
  | ind n ih =>
    by_cases hlt : n < 10
    · rw [Nat.toDigits_of_lt_base hlt]
      have hdigit : ∀ n < 10, n ≠ 0 → [Nat.digitChar n].head? ≠ some '0' := by decide
      exact hdigit n hlt h
    · have hne : Nat.toDigits 10 (n / 10) ≠ [] := Nat.toDigits_ne_nil
      rw [Nat.toDigits_of_base_le (by decide) (by omega), List.head?_append_of_ne_nil _ hne]
      exact ih (n / 10) (by omega) (by omega)

namespace Json.Token

variable {whole fraction exponent rest cs : List Char}

/-- The whole part of a number: a zero, or digits that start with none. -/
structure IsWhole (cs : List Char) : Prop where
  isDigit : ∀ c ∈ cs, c.isDigit = true
  ne_nil : cs ≠ []
  eq_zero : cs.head? = some '0' → cs = ['0']

theorem isWhole_toDigits (n : Nat) : IsWhole (Nat.toDigits 10 n) where
  isDigit := isDigit_of_mem_toDigits
  ne_nil := Nat.toDigits_ne_nil
  eq_zero h := by
    by_cases hn : n = 0
    · rw [hn, Nat.toDigits_zero]
    · exact absurd h (head?_toDigits_ne_zero hn)

/-- What may follow the whole part of a number. -/
def isTail (cs : List Char) : Bool :=
  match cs with
  | '.' :: rest =>
    !(rest.takeWhile Char.isDigit).isEmpty && isExponent (rest.dropWhile Char.isDigit)
  | rest => isExponent rest

theorem stops_of_isExponent (h : isExponent cs = true) : Stops Char.isDigit cs := by
  cases cs with
  | nil => exact stops_nil
  | cons c cs =>
    refine stops_cons ?_
    rcases (Bool.or_eq_true _ _).mp (Bool.and_eq_true_iff.mp h).1 with hc | hc <;>
      rw [eq_of_beq hc] <;> rfl

/-- **A number** is a whole part and what may follow one. -/
theorem isMagnitude_append (hwhole : IsWhole whole) (hstops : Stops Char.isDigit rest)
    (htail : isTail rest = true) : isMagnitude (whole ++ rest) = true := by
  have hdrop : (whole ++ rest).dropWhile Char.isDigit = rest :=
    hstops.dropWhile_append hwhole.isDigit
  have hfollows : (match (whole ++ rest).dropWhile Char.isDigit with
      | '.' :: rest =>
        !(rest.takeWhile Char.isDigit).isEmpty && isExponent (rest.dropWhile Char.isDigit)
      | rest => isExponent rest) = true := by
    rw [hdrop]
    exact htail
  refine Bool.and_eq_true_iff.mpr ⟨?_, hfollows⟩
  obtain ⟨c, cs, rfl⟩ := List.exists_cons_of_ne_nil hwhole.ne_nil
  have hc : c.isDigit = true := hwhole.isDigit c (List.mem_cons_self ..)
  by_cases hzero : c = '0'
  · have hcs : cs = [] := (List.cons.inj (hwhole.eq_zero (congrArg some hzero))).2
    subst hzero hcs
    cases rest with
    | nil => rfl
    | cons d rest =>
      change (!d.isDigit) = true
      rw [hstops d rfl]
      rfl
  · rw [List.cons_append]
    split
    · next h => exact absurd (List.cons.inj h).1 hzero
    · next h => exact (List.cons.inj h).1 ▸ hc
    · next h => cases h

theorem isTail_point (hne : fraction ≠ []) (hdigits : ∀ c ∈ fraction, c.isDigit = true)
    (hexponent : isExponent exponent = true) : isTail ('.' :: (fraction ++ exponent)) = true := by
  have hstops : Stops Char.isDigit exponent := stops_of_isExponent hexponent
  have htake : (fraction ++ exponent).takeWhile Char.isDigit = fraction :=
    hstops.takeWhile_append hdigits
  have hdrop : (fraction ++ exponent).dropWhile Char.isDigit = exponent :=
    hstops.dropWhile_append hdigits
  simp [isTail, htake, hdrop, hne, hexponent]

theorem isTail_exponent (h : isExponent exponent = true) : isTail exponent = true := by
  unfold isTail
  split
  · exact absurd h (by simp [isExponent])
  · exact h

end Json.Token

open Json.Token

variable {cs : List Char}

/-! ## Printed decimals -/

namespace Decimal

theorem isWhole_of_head (hdigits : ∀ c ∈ cs, c.isDigit = true) (hne : cs ≠ [])
    (hhead : cs.head? ≠ some '0') : IsWhole cs :=
  ⟨hdigits, hne, fun h => absurd h hhead⟩

/-- Digits with at least one before the last `places`, a zero if there are too few. -/
theorem isWhole_padded (n : Nat) {places : Nat} (h : 0 < places) :
    let digits := Nat.toDigits 10 n
    let padded := List.replicate (places + 1 - digits.length) '0' ++ digits
    IsWhole (padded.take (padded.length - places)) := by
  intro digits padded
  by_cases hshort : digits.length ≤ places
  · obtain ⟨k, hk⟩ : ∃ k, places + 1 - digits.length = k + 1 := ⟨places - digits.length, by omega⟩
    have hpadded : padded = '0' :: (List.replicate k '0' ++ digits) := by
      rw [← List.cons_append, ← List.replicate_succ, ← hk]
    have hlength : padded.length - places = 1 := by
      simp only [padded, List.length_append, List.length_replicate]
      omega
    rw [hlength, hpadded]
    exact isWhole_toDigits 0
  · have hnone : places + 1 - digits.length = 0 := by omega
    have hpadded : padded = digits := by
      simp only [padded, hnone, List.replicate_zero, List.nil_append]
    have hn : n ≠ 0 := by
      rintro rfl
      have hone : digits.length = 1 := by simp [digits, Nat.toDigits_zero]
      omega
    have htake : 0 < digits.length - places := by omega
    rw [hpadded]
    refine isWhole_of_head (fun c hc => isDigit_of_mem_toDigits c (List.mem_of_mem_take hc)) ?_ ?_
    · rw [← List.length_pos_iff, List.length_take]
      omega
    · rw [List.head?_take, if_neg htake.ne']
      exact head?_toDigits_ne_zero hn

theorem isWhole_positional {d : Decimal} (h : 0 < d.exponent → d.digits ≠ 0) :
    IsWhole d.positional.1.toList := by
  have hne : Nat.toDigits 10 d.digits ≠ [] := Nat.toDigits_ne_nil
  unfold positional
  split
  · next hexponent =>
    rw [String.toList_ofList]
    rcases hexponent.eq_or_lt with hzero | hpos
    · rw [← hzero, Int.toNat_zero, List.replicate_zero, List.append_nil]
      exact isWhole_toDigits d.digits
    · refine isWhole_of_head (fun c hc => ?_) (by simp [hne]) ?_
      · rw [List.mem_append, List.mem_replicate] at hc
        rcases hc with hc | ⟨-, rfl⟩
        · exact isDigit_of_mem_toDigits c hc
        · rfl
      · rw [List.head?_append_of_ne_nil _ hne]
        exact head?_toDigits_ne_zero (h hpos)
  · next hexponent =>
    rw [String.toList_ofList]
    exact isWhole_padded d.digits (by omega)

theorem isDigit_positional (d : Decimal) : ∀ c ∈ d.positional.2.toList, c.isDigit = true := by
  unfold positional
  split
  · simp
  · intro c hc
    rw [String.toList_ofList] at hc
    have hmem := List.mem_of_mem_drop hc
    rw [List.mem_append, List.mem_replicate] at hmem
    rcases hmem with ⟨-, rfl⟩ | hmem
    · rfl
    · exact isDigit_of_mem_toDigits c hmem

/-- The exponent of a decimal with its sign. -/
theorem isExponent_signed (n : Int) :
    isExponent (if n < 0 then s!"e{n}" else s!"e+{n}").toList = true := by
  have hdigits (k : Nat) :
      (!(Nat.toDigits 10 k).isEmpty && (Nat.toDigits 10 k).all Char.isDigit) = true := by
    simpa [Nat.toDigits_ne_nil] using isDigit_of_mem_toDigits
  split
  · next h =>
    obtain ⟨k, rfl⟩ := Int.eq_negSucc_of_lt_zero h
    have htext : (s!"e{Int.negSucc k}").toList = 'e' :: '-' :: Nat.toDigits 10 (k + 1) := by
      change ("e" ++ ("-" ++ Nat.repr (k + 1))).toList = _
      simp
    rw [htext]
    exact hdigits (k + 1)
  · next h =>
    obtain ⟨k, rfl⟩ := Int.eq_ofNat_of_zero_le (Int.not_lt.mp h)
    have htext : (s!"e+{(k : Int)}").toList = 'e' :: '+' :: Nat.toDigits 10 k := by
      change ("e+" ++ Nat.repr k).toList = _
      simp
    rw [htext]
    exact hdigits k

theorem isWhole_digit {c : Char} (h : c.isDigit = true) : IsWhole [c] :=
  ⟨by simpa using h, by simp, by simp⟩

theorem isMagnitude_scientific (d : Decimal) : isMagnitude d.scientific.toList = true := by
  have hexponent := isExponent_signed d.magnitude
  have hdigits : ∀ c ∈ Nat.toDigits 10 d.digits, c.isDigit = true := isDigit_of_mem_toDigits
  have hne : Nat.toDigits 10 d.digits ≠ [] := Nat.toDigits_ne_nil
  unfold scientific
  dsimp only
  generalize (if d.magnitude < 0 then s!"e{d.magnitude}" else s!"e+{d.magnitude}") = e
    at hexponent ⊢
  split
  · next c c' cs hcs =>
    rw [hcs] at hdigits
    obtain ⟨hc, hfraction⟩ := List.forall_mem_cons.mp hdigits
    have htext : (String.ofList (c :: '.' :: c' :: cs) ++ e).toList =
        [c] ++ '.' :: (c' :: cs ++ e.toList) := by
      simp
    rw [htext]
    exact isMagnitude_append (isWhole_digit hc) (stops_cons rfl)
      (isTail_point (by simp) hfraction hexponent)
  · next hmany =>
    obtain ⟨c, cs, hcs⟩ := List.exists_cons_of_ne_nil hne
    cases cs with
    | cons c' cs => exact absurd hcs (hmany c c' cs)
    | nil =>
      rw [hcs] at hdigits ⊢
      have htext : (String.ofList [c] ++ e).toList = [c] ++ e.toList := by simp
      rw [htext]
      exact isMagnitude_append (isWhole_digit (hdigits c (by simp)))
        (stops_of_isExponent hexponent) (isTail_exponent hexponent)

/-- A decimal written in full, with one decimal place if it is whole. -/
theorem isMagnitude_positional {d : Decimal} (h : 0 < d.exponent → d.digits ≠ 0) :
    isMagnitude (match d.positional with
      | (whole, "") => whole ++ ".0"
      | (whole, fraction) => whole ++ "." ++ fraction).toList = true := by
  have hwhole := isWhole_positional h
  have hfraction := isDigit_positional d
  split
  · next whole hparts =>
    rw [hparts] at hwhole
    rw [String.toList_append]
    exact isMagnitude_append hwhole (stops_cons rfl) rfl
  · next whole fraction hne hparts =>
    rw [hparts] at hwhole hfraction
    have htext : (whole ++ "." ++ fraction).toList =
        whole.toList ++ '.' :: (fraction.toList ++ []) := by
      simp
    have hnil : fraction.toList ≠ [] := fun h => hne (String.toList_eq_nil_iff.mp h)
    rw [htext]
    exact isMagnitude_append hwhole (stops_cons rfl) (isTail_point hnil hfraction rfl)

end Decimal

/-- **Numbers have a text** as long as they are finite. -/
theorem isSome_jsonNumber? (x : Float) : (jsonNumber? x).isSome = x.isFinite := by
  have hfinite : x.isFinite = (Binary64.parts x).isFinite := rfl
  rw [hfinite, jsonNumber?, Binary64.ofFloat_eq]
  cases Binary64.parts x <;> rfl

/-- A sign may stand before a number. -/
theorem isNumber_signed {text : String} (h : isMagnitude text.toList = true) (negative : Bool) :
    isNumber (if negative then "-" ++ text else text).toList = true := by
  cases negative with
  | true =>
    rw [if_pos rfl, String.toList_append]
    exact h
  | false =>
    rw [if_neg Bool.false_ne_true]
    unfold isNumber
    split
    · next cs hcs =>
      rw [hcs] at h
      exact absurd h (by simp [isMagnitude])
    · exact h

/-- **Finite numbers are printed as numbers.** -/
theorem isNumber_of_jsonNumber? {x : Float} {literal : String} (h : jsonNumber? x = some literal) :
    isNumber literal.toList = true := by
  unfold jsonNumber? at h
  split at h
  · next negative m q _ =>
    obtain rfl := Option.some.inj h
    refine isNumber_signed ?_ negative
    split
    · rfl
    · next hm =>
      dsimp only
      split
      · next hmagnitude =>
        exact Decimal.isMagnitude_positional fun hexponent =>
          Decimal.digits_shortest_ne_zero (Nat.pos_of_ne_zero hm) hexponent hmagnitude.2
      · exact Decimal.isMagnitude_scientific _
  · cases h

end Chargeback
