import Chargeback.Number.Instances
import Chargeback.Proofs.Number.Rounding

/-!
# Bits and values

What the bits of a number stand for is read in two ways: by the arithmetic, which takes them apart
into a sign, a significand and an exponent, and by `ofFloat`. The two agree (`ofFloat_eq`). A finite
number keeps its parts when it is packed into bits, as long as its exponent is one that the format
has for it (`unpack_pack_finite`), and one with too great an exponent becomes infinite
(`unpack_pack_of_overflow`). What can be divided by are the positive finite numbers
(`isUsable_iff`).
-/

namespace Chargeback.Binary64

open Float.Model Float.Model.UnpackedFloat

/-! ## The fields of a bit pattern -/

theorem toNat_unpackMantissa (b : BitVec 64) :
    (@unpackMantissa .binary64 b).toNat = b.toNat % 2 ^ 52 := by
  simp [unpackMantissa, BitVec.extractLsb_toNat]

theorem toNat_unpackExponent (b : BitVec 64) :
    (@unpackExponent .binary64 b).toNat = b.toNat / 2 ^ 52 % 2 ^ 11 := by
  simp [unpackExponent, BitVec.extractLsb_toNat, Nat.shiftRight_eq_div_pow]

theorem toNat_unpackSign (b : BitVec 64) :
    (@unpackSign .binary64 b).toNat = b.toNat / 2 ^ 63 % 2 := by
  simp [unpackSign, BitVec.extractLsb_toNat, Nat.shiftRight_eq_div_pow]

theorem unpackSign_packComponents {spec : Format} (s : Sign) (e : BitVec spec.exponentBits)
    (m : BitVec spec.mantissaBitsWithoutImplicit) :
    unpackSign (packComponents spec s e m) = s.toBitVec := by
  ext i hi
  obtain rfl : i = 0 := by omega
  simp [unpackSign, packComponents, BitVec.getLsbD_eq_getElem, BitVec.getLsbD_append,
    BitVec.getElem_append]

theorem ofBitVec_toBitVec (s : Sign) : Sign.ofBitVec s.toBitVec = s := by
  cases s <;> rfl

theorem toBitVec_ofBitVec (b : BitVec 1) : (Sign.ofBitVec b).toBitVec = b := by
  revert b
  decide

/-! ## Taking bits apart -/

/-- What a sign, an exponent field and a fraction stand for. -/
def ofFields (s : Sign) (biased fraction : ℕ) : UnpackedFloat :=
  if biased = 2047 then if fraction = 0 then .infinity s else .notANumber
  else if biased = 0 then
    if h : fraction = 0 then .zero s else .finite s fraction (-1074) (Nat.pos_of_ne_zero h)
  else .finite s (2 ^ 52 + fraction) ((biased : ℤ) - 1075) (by omega)

theorem ofFields_normal (s : Sign) {biased fraction : ℕ} (hpos : 0 < biased) (hlt : biased < 2047) :
    ofFields s biased fraction =
      .finite s (2 ^ 52 + fraction) ((biased : ℤ) - 1075) (by omega) := by
  rw [ofFields, if_neg (by omega), if_neg (by omega)]

theorem ofFields_subnormal (s : Sign) {fraction : ℕ} (hpos : 0 < fraction) :
    ofFields s 0 fraction = .finite s fraction (-1074) hpos := by
  rw [ofFields, if_neg (by omega), if_pos rfl, dif_neg (by omega)]

theorem unpack_eq (b : BitVec 64) :
    UnpackedFloat.unpack .binary64 b =
      ofFields (.ofBitVec (@unpackSign .binary64 b)) (@unpackExponent .binary64 b).toNat
        (@unpackMantissa .binary64 b).toNat := by
  have hones : @unpackExponent .binary64 b = -1#11 ↔ (@unpackExponent .binary64 b).toNat = 2047 :=
    ⟨fun h => congrArg BitVec.toNat h, fun h => BitVec.eq_of_toNat_eq h⟩
  have hzero : @unpackExponent .binary64 b = 0#11 ↔ (@unpackExponent .binary64 b).toNat = 0 :=
    ⟨fun h => congrArg BitVec.toNat h, fun h => BitVec.eq_of_toNat_eq h⟩
  have hnone : @unpackMantissa .binary64 b = 0#52 ↔ (@unpackMantissa .binary64 b).toNat = 0 :=
    ⟨fun h => congrArg BitVec.toNat h, fun h => BitVec.eq_of_toNat_eq h⟩
  have hleading : (1#1 ++ @unpackMantissa .binary64 b).toNat =
      2 ^ 52 + (@unpackMantissa .binary64 b).toNat := by
    rw [BitVec.toNat_append, ← Nat.shiftLeft_add_eq_or_of_lt (BitVec.isLt _)]
    rfl
  unfold UnpackedFloat.unpack ofFields
  simp only [hones, hzero, hnone, hleading]
  split
  · rfl
  · split
    · next h0 =>
      rw [h0]
      rfl
    · rfl

theorem unpack_packComponents (s : Sign) (e : BitVec 11) (m : BitVec 52) :
    UnpackedFloat.unpack .binary64 (packComponents .binary64 s e m) = ofFields s e.toNat m.toNat := by
  rw [unpack_eq, unpackSign_packComponents, unpackExponent_packComponents,
    unpackMantissa_packComponents, ofBitVec_toBitVec]

/-! ## Taking apart what was packed -/

/-- The significand and the exponent are those of a number of the format. -/
structure IsCanonical (m : ℕ) (e : ℤ) : Prop where
  pos : 0 < m
  lt : m < 2 ^ 53
  least : -1074 ≤ e
  le : e ≤ 971
  normal : e = -1074 ∨ 2 ^ 52 ≤ m

/-- A significand that is no zero is one of the format. -/
theorem isCanonical_of_nearest {v : ℚ} {r : ℤ} {n : ℕ} (hexponent : IsExponent v r) (hpos : 0 < n)
    (hlt : n < 2 ^ 53) (h : IsNearestEven (v / 2 ^ r) n) (hr : r ≤ 971) : IsCanonical n r where
  pos := hpos
  lt := hlt
  least := hexponent.least
  le := hr
  normal := by
    refine hexponent.above.imp_right fun habove => ?_
    have hfull : (2 : ℚ) ^ 52 ≤ v / 2 ^ r := (le_div_iff₀ (zpow_pos two_pos r)).mpr habove
    exact h.le_of_le (by exact_mod_cast hfull)

/-- A significand that has been halved is one of the format. -/
theorem isCanonical_of_carried {v : ℚ} {r : ℤ} (hexponent : IsExponent v r) (hr : r + 1 ≤ 971) :
    IsCanonical (2 ^ 52) (r + 1) where
  pos := Nat.two_pow_pos 52
  lt := by decide
  least := by have := hexponent.least; omega
  le := hr
  normal := .inr (Nat.le_refl _)

/-- The exponent field of an exponent. -/
theorem toNat_biased {e : ℤ} (hleast : -1074 ≤ e) :
    ((e + (Format.binary64.exponentBias : ℤ) + (52 : ℕ)).toNat : ℤ) = e + 1075 := by
  have hbias : (Format.binary64.exponentBias : ℤ) = 1023 := rfl
  omega

theorem log2_eq_iff {m : ℕ} (hlt : m < 2 ^ 53) (hpos : 0 < m) : m.log2 + 1 = 53 ↔ 2 ^ 52 ≤ m := by
  have hupper : m.log2 < 53 := (Nat.log2_lt hpos.ne').mpr hlt
  rw [← Nat.le_log2 hpos.ne']
  omega

/-- **What fits is kept** when it is packed. -/
theorem unpack_pack_finite (s : Sign) {m : ℕ} {e : ℤ} (h : IsCanonical m e) :
    UnpackedFloat.unpack .binary64 (UnpackedFloat.pack .binary64 (.finite s m e h.pos)) =
      .finite s m e h.pos := by
  obtain ⟨hpos, hlt, hleast, hle, hnormal⟩ := h
  have hbiased := toNat_biased hleast
  unfold UnpackedFloat.pack
  dsimp only
  generalize (e + (Format.binary64.exponentBias : ℤ) + (52 : ℕ)).toNat = k at hbiased
  rw [if_neg (show ¬ 2 ^ 11 ≤ k + 1 by omega)]
  have hfull : m.log2 + 1 = Format.binary64.mantissaBits ↔ 2 ^ 52 ≤ m := log2_eq_iff hlt hpos
  by_cases hm : 2 ^ 52 ≤ m
  · -- the leading bit is left out
    have hexponent : (BitVec.ofNat 11 k).toNat = k := by
      rw [BitVec.toNat_ofNat, Nat.mod_eq_of_lt (by omega)]
    have hfraction : 2 ^ 52 + (BitVec.ofNat 52 m).toNat = m := by
      rw [BitVec.toNat_ofNat]
      omega
    have hexponent' : (k : ℤ) - 1075 = e := by omega
    rw [if_pos (hfull.mpr hm), unpack_packComponents, hexponent,
      ofFields_normal s (by omega) (by omega)]
    simp only [hfraction, hexponent']
  · have hfraction : (BitVec.ofNat 52 m).toNat = m := by
      rw [BitVec.toNat_ofNat, Nat.mod_eq_of_lt (by omega)]
    have hexponent : e = -1074 := hnormal.resolve_right hm
    have hzero : (0#11).toNat = 0 := rfl
    rw [if_neg (mt hfull.mp hm), unpack_packComponents, hfraction, hzero,
      ofFields_subnormal s hpos]
    simp only [hexponent]

/-- **What is too great becomes infinite.** -/
theorem unpack_pack_of_overflow (s : Sign) {m : ℕ} {e : ℤ} (hpos : 0 < m) (h : 972 ≤ e) :
    UnpackedFloat.unpack .binary64 (UnpackedFloat.pack .binary64 (.finite s m e hpos)) =
      .infinity s := by
  have hbiased := toNat_biased (e := e) (by omega)
  unfold UnpackedFloat.pack
  dsimp only
  generalize (e + (Format.binary64.exponentBias : ℤ) + (52 : ℕ)).toNat = k at hbiased
  rw [if_pos (show 2 ^ 11 ≤ k + 1 by omega)]
  exact unpack_packComponents s (-1#11) 0#52

theorem unpack_pack_zero (s : Sign) :
    UnpackedFloat.unpack .binary64 (UnpackedFloat.pack .binary64 (.zero s)) = .zero s :=
  unpack_packComponents s 0#11 0#52

/-! ## Numbers -/

/-- The parts of a number. -/
def parts (x : Float) : UnpackedFloat := x.toModel.unpack

theorem parts_ofModel_pack (u : UnpackedFloat) :
    parts (.ofModel (.pack u)) = UnpackedFloat.unpack .binary64 (UnpackedFloat.pack .binary64 u) :=
  rfl

/-- The parts of a number, from the fields of its bits. -/
theorem parts_eq (x : Float) :
    parts x = ofFields (.ofBitVec (@unpackSign .binary64 x.toBits.toBitVec))
      (x.toBits.toNat / 2 ^ 52 % 2 ^ 11) (x.toBits.toNat % 2 ^ 52) := by
  have hunpack : parts x = _ := unpack_eq x.toBits.toBitVec
  rw [hunpack, toNat_unpackExponent, toNat_unpackMantissa]
  rfl

/-- What a sign and two fields stand for tells them, unless it is not a number. -/
theorem ofFields_inj {s s' : Sign} {b b' f f' : ℕ} (hf : f < 2 ^ 52) (hf' : f' < 2 ^ 52)
    (hnan : (ofFields s b f).isNaN = false) (h : ofFields s b f = ofFields s' b' f') :
    s = s' ∧ b = b' ∧ f = f' := by
  unfold ofFields at h hnan
  grind [UnpackedFloat.isNaN]

/-- **A number is told by its parts.** -/
theorem eq_of_parts_eq {x y : Float} (hx : x.isNaN = false) (h : parts x = parts y) : x = y := by
  have hnan : (parts x).isNaN = false := hx
  rw [parts_eq] at hnan
  rw [parts_eq, parts_eq] at h
  obtain ⟨hsign, hbiased, hfraction⟩ := ofFields_inj (Nat.mod_lt _ (Nat.two_pow_pos 52))
    (Nat.mod_lt _ (Nat.two_pow_pos 52)) hnan h
  have hsign := congrArg (fun s => s.toBitVec.toNat) hsign
  simp only [toBitVec_ofBitVec, toNat_unpackSign] at hsign
  have hbits : x.toBits = y.toBits := by
    have hx : x.toBits.toBitVec.toNat = x.toBits.toNat := rfl
    have hy : y.toBits.toBitVec.toNat = y.toBits.toNat := rfl
    have hxlt := x.toBits.toNat_lt
    have hylt := y.toBits.toNat_lt
    apply UInt64.toNat_inj.mp
    omega
  obtain ⟨⟨_, _⟩⟩ := x
  obtain ⟨⟨_, _⟩⟩ := y
  cases hbits
  rfl

/-- A finite number has the parts of a number of the format. -/
theorem isCanonical_of_parts {x : Float} {s : Sign} {m : ℕ} {e : ℤ} {hpos : 0 < m}
    (h : parts x = .finite s m e hpos) : IsCanonical m e := by
  rw [parts_eq] at h
  have hfraction : x.toBits.toNat % 2 ^ 52 < 2 ^ 52 := Nat.mod_lt _ (Nat.two_pow_pos 52)
  have hbiased : x.toBits.toNat / 2 ^ 52 % 2 ^ 11 < 2 ^ 11 := Nat.mod_lt _ (Nat.two_pow_pos 11)
  generalize x.toBits.toNat % 2 ^ 52 = fraction at h hfraction
  generalize x.toBits.toNat / 2 ^ 52 % 2 ^ 11 = biased at h hbiased
  unfold ofFields at h
  split at h
  · split at h <;> cases h
  · split at h
    · split at h
      · cases h
      · obtain ⟨-, rfl, rfl⟩ := UnpackedFloat.finite.inj h
        exact ⟨hpos, by omega, by omega, by omega, .inl rfl⟩
    · obtain ⟨-, rfl, rfl⟩ := UnpackedFloat.finite.inj h
      exact ⟨by omega, by omega, by omega, by omega, .inr (by omega)⟩

/-- What the arithmetic takes a number apart into, as bits stand for it. -/
def ofParts : UnpackedFloat → Binary64
  | .infinity s => .infinite (s == .negative)
  | .notANumber => .notANumber
  | .zero s => .finite (s == .negative) 0 leastExponent
  | .finite s m e _ => .finite (s == .negative) m e

theorem ofBitVec_eq_negative (b : BitVec 1) :
    (Sign.ofBitVec b == .negative) = decide (b.toNat = 1) := by
  have hcases : b.toNat = 0 ∨ b.toNat = 1 := by have := b.isLt; omega
  rcases hcases with h | h
  · obtain rfl : b = 0#1 := BitVec.eq_of_toNat_eq h
    rfl
  · obtain rfl : b = 1#1 := BitVec.eq_of_toNat_eq h
    rfl

/-- **The two readings of the bits of a number agree.** -/
theorem ofFloat_eq (x : Float) : ofFloat x = ofParts (parts x) := by
  have hnegative := ofBitVec_eq_negative (@unpackSign .binary64 x.toBits.toBitVec)
  rw [toNat_unpackSign] at hnegative
  rw [parts_eq]
  generalize @unpackSign .binary64 x.toBits.toBitVec = sign at hnegative ⊢
  have hread : ofFloat x =
      if x.toBits.toNat / 2 ^ 52 % 2 ^ 11 = 2047 then
        if x.toBits.toNat % 2 ^ 52 = 0 then .infinite (Sign.ofBitVec sign == .negative)
        else .notANumber
      else if x.toBits.toNat / 2 ^ 52 % 2 ^ 11 = 0 then
        .finite (Sign.ofBitVec sign == .negative) (x.toBits.toNat % 2 ^ 52) leastExponent
      else .finite (Sign.ofBitVec sign == .negative) (x.toBits.toNat % 2 ^ 52 + 2 ^ 52)
        (((x.toBits.toNat / 2 ^ 52 % 2 ^ 11 : ℕ) : ℤ) - 1075) := by
    rw [hnegative]
    rfl
  rw [hread]
  unfold ofFields
  split
  · split <;> rfl
  · split
    · split
      · next h => rw [h]; rfl
      · rfl
    · rw [Nat.add_comm]; rfl

theorem compare_zero_eq_lt_iff {u : UnpackedFloat} :
    UnpackedFloat.compare (.zero .positive) u = some .lt ↔
      u = .infinity .positive ∨ ∃ m e hpos, u = .finite .positive m e hpos := by
  cases u with
  | infinity s => cases s <;> simp [UnpackedFloat.compare]
  | notANumber => simp [UnpackedFloat.compare]
  | zero s => simp [UnpackedFloat.compare]
  | finite s m e hpos => cases s <;> simp [UnpackedFloat.compare, hpos]

theorem isUsable_iff_pos {x : Float} :
    Number.isUsable x = true ↔ 0 < x ∧ x.isFinite = true := by
  rw [Number.isUsable, Bool.and_eq_true, decide_eq_true_eq]
  rfl

/-- What can be divided by are the positive finite numbers. -/
theorem isUsable_iff {x : Float} :
    Number.isUsable x = true ↔ ∃ m e hpos, parts x = .finite .positive m e hpos := by
  have hlt : 0 < x ↔ UnpackedFloat.compare (.zero .positive) (parts x) = some .lt := by
    have hcompare : ∀ o : Option Ordering, (o == some .lt) = true ↔ o = some .lt := by
      intro o
      rcases o with _ | (_ | _ | _) <;> decide
    rw [← hcompare]
    exact decide_eq_true_iff
  have hfinite : x.isFinite = (parts x).isFinite := rfl
  rw [isUsable_iff_pos, hlt, hfinite, compare_zero_eq_lt_iff]
  constructor
  · rintro ⟨h | h, hfinite⟩
    · rw [h] at hfinite
      cases hfinite
    · exact h
  · rintro ⟨m, e, hpos, h⟩
    exact ⟨.inr ⟨m, e, hpos, h⟩, h ▸ rfl⟩

/-! ## Values -/

/-- The number that a bit pattern stands for, zero if it stands for none. -/
def toRat : Binary64 → ℚ
  | .finite negative m e => (if negative then -(m : ℚ) else m) * 2 ^ e
  | _ => 0

/-- The exact value of a number. -/
def value (x : Float) : ℚ := (ofFloat x).toRat

theorem value_of_finite {x : Float} {m : ℕ} {e : ℤ} {hpos : 0 < m}
    (h : parts x = .finite .positive m e hpos) : value x = m * 2 ^ e := by
  rw [value, ofFloat_eq, h]
  rfl

end Chargeback.Binary64
