import Mathlib
import Chargeback.Proofs.Number.Packing

/-!
# Sums in any order

Addition in binary64 is commutative but not associative, so the sum of a list depends on its order.
It does not if there are only two addends (`sum_pair_comm`), and it does not if nothing is rounded on
the way: where all addends are multiples of one power of two, and a significand holds their sum in
that unit (`OnGrid`), every partial sum is exact (`exactly_sum`), and the bits of a number that is
not negative are determined by its value (`Exactly.unique`).
-/

namespace Chargeback.Binary64

open Float.Model Float.Model.UnpackedFloat

/-! ## Exact values -/

/-- The parts are those of the exact value `v`, which is not negative. -/
inductive Exactly : ℚ → UnpackedFloat → Prop
  | zero : Exactly 0 (.zero .positive)
  | finite {m : ℕ} {e : ℤ} (h : IsCanonical m e) : Exactly (m * 2 ^ e) (.finite .positive m e h.pos)

theorem IsCanonical.value_pos {m : ℕ} {e : ℤ} (h : IsCanonical m e) : (0 : ℚ) < m * 2 ^ e :=
  mul_pos (by exact_mod_cast h.pos) (zpow_pos two_pos e)

/-- Of two exponents, the lesser one has the lesser values. -/
theorem IsCanonical.lt_of_lt {m n : ℕ} {e f : ℤ} (hm : IsCanonical m e) (hn : IsCanonical n f)
    (h : e < f) : (m * 2 ^ e : ℚ) < n * 2 ^ f := by
  have hfull : 2 ^ 52 ≤ n := hn.normal.resolve_left (by have := hm.least; omega)
  have hm' : (m : ℚ) < 2 ^ 53 := by exact_mod_cast hm.lt
  have hn' : (2 : ℚ) ^ 52 ≤ n := by exact_mod_cast hfull
  have htwice : 2 * (2 : ℚ) ^ e ≤ 2 ^ f := by
    rw [← two_zpow_add_one]
    exact two_zpow_le h
  have hpos : (0 : ℚ) < 2 ^ e := zpow_pos two_pos e
  calc (m : ℚ) * 2 ^ e < 2 ^ 53 * 2 ^ e := mul_lt_mul_of_pos_right hm' hpos
    _ = 2 ^ 52 * (2 * 2 ^ e) := by ring
    _ ≤ 2 ^ 52 * 2 ^ f := by gcongr
    _ ≤ n * 2 ^ f := mul_le_mul_of_nonneg_right hn' (zpow_pos two_pos f).le

namespace Exactly

variable {v w : ℚ} {u u' : UnpackedFloat}

theorem nonneg (h : Exactly v u) : 0 ≤ v := by
  cases h with
  | zero => exact le_refl 0
  | finite h => exact h.value_pos.le

/-- **The value determines the parts.** -/
theorem unique (h : Exactly v u) (h' : Exactly v u') : u = u' := by
  cases h with
  | zero =>
    generalize hv : (0 : ℚ) = v at h'
    cases h' with
    | zero => rfl
    | finite h => exact absurd hv h.value_pos.ne
  | @finite m e hm =>
    generalize hv : (m * 2 ^ e : ℚ) = v at h'
    cases h' with
    | zero => exact absurd hv hm.value_pos.ne'
    | @finite n f hn =>
      have hef : e = f := by
        rcases lt_trichotomy e f with hlt | heq | hlt
        · exact absurd hv (hm.lt_of_lt hn hlt).ne
        · exact heq
        · exact absurd hv (hn.lt_of_lt hm hlt).ne'
      subst hef
      have hmn : (m : ℚ) = n := mul_right_cancel₀ (zpow_pos two_pos e).ne' hv
      have hmn' : m = n := by exact_mod_cast hmn
      subst hmn'
      rfl

/-- Exact parts are kept when they are packed. -/
theorem unpack_pack (h : Exactly v u) :
    UnpackedFloat.unpack .binary64 (UnpackedFloat.pack .binary64 u) = u := by
  cases h with
  | zero => exact unpack_pack_zero .positive
  | finite h => exact unpack_pack_finite .positive h

end Exactly

/-- A number that is not negative has the parts of its value. -/
theorem exactly_parts {x : Float} {m : ℕ} {e : ℤ} (h : ofFloat x = .finite false m e) :
    Exactly (m * 2 ^ e) (parts x) := by
  rw [ofFloat_eq] at h
  cases hparts : parts x with
  | infinity s => rw [hparts] at h; cases h
  | notANumber => rw [hparts] at h; cases h
  | zero s =>
    rw [hparts] at h
    cases s with
    | negative => cases h
    | positive =>
      obtain ⟨-, rfl, -⟩ := Binary64.finite.inj h
      rw [Nat.cast_zero, zero_mul]
      exact .zero
  | finite s n f hpos =>
    rw [hparts] at h
    cases s with
    | negative => cases h
    | positive =>
      obtain ⟨-, rfl, rfl⟩ := Binary64.finite.inj h
      exact .finite (isCanonical_of_parts hparts)

/-! ## Rounding a sum -/

/-- A whole number of a power of two is rounded. -/
theorem rounded_round {m : ℕ} (hm : 0 < m) (e : ℤ) :
    ∃ r, IsExponent (m * 2 ^ e : ℚ) r ∧
      Rounded .positive (m * 2 ^ e / 2 ^ r) r (UnpackedFloat.round .binary64 .positive m e) := by
  generalize hr : max ((m.log2 : ℤ) + 1 + e - 53) (-1074) = r
  have htarget : Format.binary64.targetExponent (totalExponent m e) = r := hr
  have hround : UnpackedFloat.round .binary64 .positive m e =
      roundWithAccuracy .binary64 .positive (m <<< (e - r).toNat) (e - (e - r).toNat) .exact := by
    unfold UnpackedFloat.round decreaseExponent
    rw [htarget]
  generalize hs : (e - r).toNat = s at hround
  rw [hround]
  have hvalue : (m * 2 ^ e : ℚ) = (m <<< s : ℕ) * 2 ^ (e - s) := by
    have hsteps : (e - (e - s)).toNat = s := by omega
    rw [mul_two_zpow_eq m (show e - s ≤ e by omega), hsteps]
  have hlog : m.log2 + s ≤ (m <<< s).log2 := by
    have hpos : m <<< s ≠ 0 := by
      rw [Nat.shiftLeft_eq]
      exact (Nat.mul_pos hm (Nat.two_pow_pos s)).ne'
    rw [Nat.le_log2 hpos, Nat.shiftLeft_eq, Nat.pow_add]
    exact Nat.mul_le_mul_right _ (Nat.log2_self_le hm.ne')
  exact rounded_roundWithAccuracy .positive (lies_exact _) hvalue (by omega)

/-- **An addition** rounds the exact sum. -/
theorem rounded_add {m₁ m₂ : ℕ} {e₁ e₂ : ℤ} (h₁ : 0 < m₁) (h₂ : 0 < m₂) :
    ∃ r, IsExponent (m₁ * 2 ^ e₁ + m₂ * 2 ^ e₂ : ℚ) r ∧
      Rounded .positive ((m₁ * 2 ^ e₁ + m₂ * 2 ^ e₂) / 2 ^ r) r
        (UnpackedFloat.add .binary64 (.finite .positive m₁ e₁ h₁) (.finite .positive m₂ e₂ h₂)) := by
  -- both significands are brought to the lesser exponent
  generalize he : min e₁ e₂ = e
  have hpos : 0 < m₁ <<< (e₁ - e).toNat + m₂ <<< (e₂ - e).toNat := by
    rw [Nat.shiftLeft_eq]
    exact Nat.add_pos_left (Nat.mul_pos h₁ (Nat.two_pow_pos _)) _
  have hcompare : compare (((m₁ <<< (e₁ - e).toNat : ℕ) : ℤ) + (m₂ <<< (e₂ - e).toNat : ℕ)) 0 =
      .gt := by
    rw [compare_gt_iff_gt]
    exact_mod_cast hpos
  have hsum : UnpackedFloat.add .binary64 (.finite .positive m₁ e₁ h₁)
      (.finite .positive m₂ e₂ h₂) = UnpackedFloat.round .binary64 .positive
        (m₁ <<< (e₁ - e).toNat + m₂ <<< (e₂ - e).toNat) e := by
    unfold UnpackedFloat.add UnpackedFloat.normalize
    simp only [he, decreaseExponent, Sign.apply, hcompare]
    congr 1
  have hvalue : (m₁ * 2 ^ e₁ + m₂ * 2 ^ e₂ : ℚ) =
      (m₁ <<< (e₁ - e).toNat + m₂ <<< (e₂ - e).toNat : ℕ) * 2 ^ e := by
    rw [mul_two_zpow_eq m₁ (show e ≤ e₁ by omega), mul_two_zpow_eq m₂ (show e ≤ e₂ by omega),
      Nat.cast_add, add_mul]
  rw [hsum, hvalue]
  exact rounded_round hpos e

/-- **What a significand holds is not rounded.** -/
theorem exactly_of_rounded {v : ℚ} {r k : ℤ} {n : ℕ} {u : UnpackedFloat} (hv : v = n * 2 ^ k)
    (hpos : 0 < n) (hlt : n < 2 ^ 53) (hleast : -1074 ≤ k) (hle : k ≤ 971)
    (hexponent : IsExponent v r) (h : Rounded .positive (v / 2 ^ r) r u) : Exactly v u := by
  have hrk : r ≤ k := by
    rcases hexponent.above with heq | habove
    · omega
    · by_contra hkr
      have htwice : 2 * (2 : ℚ) ^ k ≤ 2 ^ r := by
        rw [← two_zpow_add_one]
        exact two_zpow_le (by omega)
      have hn : (n : ℚ) < 2 ^ 53 := by exact_mod_cast hlt
      have hk : (0 : ℚ) < 2 ^ k := zpow_pos two_pos k
      have hupper : v < 2 ^ 53 * 2 ^ k := by
        rw [hv]
        exact mul_lt_mul_of_pos_right hn hk
      linarith
  have hwhole : v / 2 ^ r = ((n * 2 ^ (k - r).toNat : ℕ) : ℚ) := by
    rw [hv, mul_two_zpow_eq n hrk, Nat.shiftLeft_eq,
      mul_div_cancel_right₀ _ (zpow_pos two_pos r).ne']
  have hbelow : n * 2 ^ (k - r).toNat < 2 ^ 53 := by
    have hlt : v / 2 ^ r < 2 ^ 53 := (div_lt_iff₀ (zpow_pos two_pos r)).mpr hexponent.below
    rw [hwhole] at hlt
    exact_mod_cast hlt
  have hne : 0 < n * 2 ^ (k - r).toNat := Nat.mul_pos hpos (Nat.two_pow_pos _)
  have hback : v = v / 2 ^ r * 2 ^ r := (div_mul_cancel₀ v (zpow_pos two_pos r).ne').symm
  cases h with
  | zero h =>
    rw [hwhole] at h
    have hzero := h.eq_of_nat
    omega
  | @finite m hm hmlt h =>
    have hcanonical := isCanonical_of_nearest hexponent hm hmlt h (by omega)
    rw [hwhole] at h
    rw [hback, hwhole, ← h.eq_of_nat]
    exact .finite hcanonical
  | carried hm h =>
    rw [hwhole] at h
    have hfull := h.eq_of_nat
    omega

theorem Exactly.add {v w : ℚ} {u u' : UnpackedFloat} {k : ℤ} {n : ℕ} (h : Exactly v u)
    (h' : Exactly w u') (hsum : v + w = n * 2 ^ k) (hn : n < 2 ^ 53) (hleast : -1074 ≤ k)
    (hle : k ≤ 971) : Exactly (v + w) (UnpackedFloat.add .binary64 u u') := by
  cases h with
  | zero =>
    rw [zero_add]
    cases h' with
    | zero => exact .zero
    | finite h' => exact .finite h'
  | finite h =>
    cases h' with
    | zero =>
      rw [add_zero]
      exact .finite h
    | finite h' =>
      obtain ⟨r, hexponent, hrounded⟩ := rounded_add h.pos h'.pos
      have hpos : 0 < n := by
        refine Nat.pos_of_ne_zero ?_
        rintro rfl
        have hlt := add_pos h.value_pos h'.value_pos
        rw [hsum, Nat.cast_zero, zero_mul] at hlt
        exact lt_irrefl 0 hlt
      exact exactly_of_rounded hsum hpos hn hleast hle hexponent hrounded

/-! ## Sums -/

theorem add_eq (x y : Float) :
    x + y = .ofModel (.pack (UnpackedFloat.add .binary64 (parts x) (parts y))) := rfl

theorem parts_neutral : parts (Number.neutral : Float) = .zero .negative := rfl

/-- A sum starts with its first addend. -/
theorem neutral_add (x : Float) : Number.neutral + x = .ofModel (.pack (parts x)) := by
  rw [add_eq, parts_neutral]
  congr 2
  cases parts x with
  | zero s => cases s <;> rfl
  | infinity | notANumber | finite => rfl

theorem sum_singleton (x : Float) : Number.sum [x] = .ofModel (.pack (parts x)) := neutral_add x

/-- Numbers that are added up without rounding: none is negative, all are multiples of one power of
two, and their sum in that unit fits into a significand. -/
structure OnGrid (k : ℤ) (xs : List Float) : Prop where
  least : -1074 ≤ k
  greatest : k ≤ 971
  multiples : ∀ x ∈ xs, ∃ m e, ofFloat x = .finite false m e ∧ ∃ n : ℕ, (m : ℚ) * 2 ^ e = n * 2 ^ k
  fits : (xs.map value).sum < 2 ^ 53 * 2 ^ k

namespace OnGrid

variable {k : ℤ} {xs ys : List Float} {x : Float}

theorem exactly_parts (h : OnGrid k xs) (hx : x ∈ xs) : Exactly (value x) (parts x) := by
  obtain ⟨m, e, hparts, -⟩ := h.multiples x hx
  have hvalue : value x = m * 2 ^ e := by
    rw [value, hparts]
    rfl
  rw [hvalue]
  exact Binary64.exactly_parts hparts

theorem value_multiple (h : OnGrid k xs) (hx : x ∈ xs) : ∃ n : ℕ, value x = n * 2 ^ k := by
  obtain ⟨m, e, hparts, n, hn⟩ := h.multiples x hx
  refine ⟨n, ?_⟩
  rw [value, hparts, ← hn]
  rfl

theorem of_append_singleton (h : OnGrid k (xs ++ [x])) : OnGrid k xs where
  least := h.least
  greatest := h.greatest
  multiples y hy := h.multiples y (List.mem_append_left _ hy)
  fits := by
    have hx : 0 ≤ value x := (h.exactly_parts (by simp)).nonneg
    have hfits := h.fits
    rw [List.map_append, List.sum_append, List.map_singleton, List.sum_singleton] at hfits
    linarith

theorem perm (h : OnGrid k xs) (hperm : ys.Perm xs) : OnGrid k ys where
  least := h.least
  greatest := h.greatest
  multiples x hx := h.multiples x (hperm.mem_iff.mp hx)
  fits := by
    rw [(hperm.map value).sum_eq]
    exact h.fits

/-- The exact sum is a multiple that a significand holds. -/
theorem exists_sum_eq (h : OnGrid k xs) :
    ∃ n : ℕ, n < 2 ^ 53 ∧ (xs.map value).sum = n * 2 ^ k := by
  have hmultiple : ∃ n : ℕ, (xs.map value).sum = n * 2 ^ k := by
    have hall : ∀ x ∈ xs, ∃ n : ℕ, value x = n * 2 ^ k := fun x hx => h.value_multiple hx
    clear h
    induction xs with
    | nil => exact ⟨0, by simp⟩
    | cons x xs ih =>
      obtain ⟨n, hn⟩ := hall x List.mem_cons_self
      obtain ⟨m, hm⟩ := ih fun y hy => hall y (List.mem_cons_of_mem _ hy)
      refine ⟨n + m, ?_⟩
      rw [List.map_cons, List.sum_cons, hn, hm]
      push_cast
      ring
  obtain ⟨n, hn⟩ := hmultiple
  refine ⟨n, ?_, hn⟩
  have hfits := h.fits
  rw [hn] at hfits
  exact_mod_cast lt_of_mul_lt_mul_right hfits (zpow_pos two_pos k).le

/-- **On a grid, a sum is exact.** -/
theorem exactly_sum (h : OnGrid k xs) (hne : xs ≠ []) :
    ∃ u, Number.sum xs = .ofModel (.pack u) ∧ Exactly (xs.map value).sum u := by
  induction xs using List.reverseRecOn with
  | nil => exact absurd rfl hne
  | append_singleton xs x ih =>
    have hx : Exactly (value x) (parts x) := h.exactly_parts (by simp)
    by_cases hnil : xs = []
    · subst hnil
      refine ⟨parts x, sum_singleton x, ?_⟩
      simpa using hx
    · obtain ⟨u, hsum, hu⟩ := ih h.of_append_singleton hnil
      obtain ⟨n, hn, htotal⟩ := h.exists_sum_eq
      rw [List.map_append, List.sum_append, List.map_singleton, List.sum_singleton] at htotal ⊢
      have hparts : parts (.ofModel (.pack u)) = u := hu.unpack_pack
      refine ⟨UnpackedFloat.add .binary64 u (parts x), ?_,
        hu.add hx htotal hn h.least h.greatest⟩
      rw [Number.sum_append_singleton, hsum, add_eq, hparts]

/-- **On a grid, the order of a sum does not matter.** -/
theorem sum_perm (h : OnGrid k xs) (hperm : ys.Perm xs) : Number.sum ys = Number.sum xs := by
  by_cases hnil : xs = []
  · subst hnil
    rw [hperm.eq_nil]
  · have hnil' : ys ≠ [] := by
      rintro rfl
      exact hnil hperm.symm.eq_nil
    obtain ⟨u, hsum, hu⟩ := h.exactly_sum hnil
    obtain ⟨u', hsum', hu'⟩ := (h.perm hperm).exactly_sum hnil'
    rw [(hperm.map value).sum_eq] at hu'
    rw [hsum, hsum', hu.unique hu']

end OnGrid

/-! ## Two addends -/

/-- Addition is commutative. -/
theorem add_comm_parts (u w : UnpackedFloat) :
    UnpackedFloat.add .binary64 u w = UnpackedFloat.add .binary64 w u := by
  cases u with
  | infinity s =>
    cases w with
    | infinity s' => cases s <;> cases s' <;> rfl
    | notANumber | zero | finite => rfl
  | notANumber => cases w <;> rfl
  | zero s =>
    cases w with
    | zero s' => cases s <;> cases s' <;> rfl
    | infinity | notANumber | finite => rfl
  | finite s m e hm =>
    cases w with
    | finite s' m' e' hm' =>
      unfold UnpackedFloat.add
      simp only [min_comm e e', decreaseExponent]
      rw [Int.add_comm]
    | infinity | notANumber | zero => rfl

/-- **Addition is commutative**, also where a sum is not a number. -/
theorem add_swap (x y : Float) : x + y = y + x := by
  rw [add_eq, add_eq, add_comm_parts]

/-- What has been taken apart is taken apart alike once it is packed. -/
theorem parts_repacked (x : Float) : parts (.ofModel (.pack (parts x))) = parts x := by
  rw [parts_ofModel_pack]
  cases hparts : parts x with
  | infinity s => exact unpack_packComponents s (-1#11) 0#52
  | notANumber => rfl
  | zero s => exact unpack_pack_zero s
  | finite s m e hpos => exact unpack_pack_finite s (isCanonical_of_parts hparts)

/-- **Two addends can be swapped.** -/
theorem sum_pair_comm (x y : Float) : Number.sum [x, y] = Number.sum [y, x] := by
  have hpair : ∀ a b : Float, Number.sum [a, b] =
      .ofModel (.pack (UnpackedFloat.add .binary64 (parts a) (parts b))) := by
    intro a b
    have hsum : Number.sum [a, b] = Number.neutral + a + b := rfl
    rw [hsum, neutral_add, add_eq, parts_repacked]
  rw [hpair, hpair, add_comm_parts]

end Chargeback.Binary64
