import Mathlib.Data.List.Forall2
import Mathlib.Logic.Basic

/-!
# Sequences of checks

A computation in `Except` is a sequence of checks, each of which may need what an earlier one has
found. A sequence fails with the failure of its first check, or else with that of the rest
(`bind_eq_error_iff`), and ends well if all its checks do (`bind_eq_ok_iff`). If each check refuses
something that can be told without the others, the failure is what the first of them refuses that
refuses anything (`FirstOf`, `firstOf_bind`). The same holds of a list that is checked element by
element (`mapM_eq_error_iff`, `mapM_eq_ok_iff`).
-/

namespace Chargeback

variable {ε β γ : Type}

/-- What the first of some checks refuses that refuses anything. -/
def FirstOf : List (ε → Prop) → ε → Prop
  | [], _ => False
  | p :: ps, e => p e ∨ (∀ g, ¬ p g) ∧ FirstOf ps e

theorem firstOf_map_iff {δ : Type} {p : δ → ε → Prop} {stages : List δ} {e : ε} :
    FirstOf (stages.map p) e ↔ ∃ before stage after, stages = before ++ stage :: after ∧
      p stage e ∧ ∀ earlier ∈ before, ∀ g, ¬ p earlier g := by
  induction stages with
  | nil => simp [FirstOf]
  | cons d ds ih =>
    rw [List.map_cons, FirstOf, ih]
    constructor
    · rintro (h | ⟨hnot, before, stage, after, rfl, h, hbefore⟩)
      · exact ⟨[], d, ds, rfl, h, by simp⟩
      · exact ⟨d :: before, stage, after, rfl, h, List.forall_mem_cons.mpr ⟨hnot, hbefore⟩⟩
    · rintro ⟨before, stage, after, hsplit, h, hbefore⟩
      cases before with
      | nil =>
        obtain ⟨rfl, rfl⟩ := List.cons.inj hsplit
        exact .inl h
      | cons d' before =>
        obtain ⟨rfl, rfl⟩ := List.cons.inj hsplit
        obtain ⟨hnot, hbefore⟩ := List.forall_mem_cons.mp hbefore
        exact .inr ⟨hnot, before, stage, after, rfl, h, hbefore⟩

theorem exists_firstOf_iff {ps : List (ε → Prop)} :
    (∃ e, FirstOf ps e) ↔ ∃ p ∈ ps, ∃ e, p e := by
  induction ps with
  | nil => simp [FirstOf]
  | cons p ps ih =>
    rw [List.exists_mem_cons_iff, ← ih]
    constructor
    · rintro ⟨e, h | ⟨-, h⟩⟩
      · exact .inl ⟨e, h⟩
      · exact .inr ⟨e, h⟩
    · intro h
      by_cases hp : ∃ e, p e
      · exact hp.imp fun _ => .inl
      · exact (h.resolve_left hp).imp fun _ h => .inr ⟨not_exists.mp hp, h⟩

theorem bind_eq_error_iff {x : Except ε β} {f : β → Except ε γ} {e : ε} :
    (x >>= f) = .error e ↔ x = .error e ∨ ∃ b, x = .ok b ∧ f b = .error e := by
  cases x with
  | error e' =>
    refine ⟨fun h => .inl (congrArg Except.error (Except.error.inj h)), ?_⟩
    rintro (h | ⟨_, h, _⟩)
    · exact congrArg Except.error (Except.error.inj h)
    · cases h
  | ok b =>
    refine ⟨fun h => .inr ⟨b, rfl, h⟩, ?_⟩
    rintro (h | ⟨_, h, hf⟩)
    · cases h
    · exact Except.ok.inj h ▸ hf

theorem bind_eq_ok_iff {x : Except ε β} {f : β → Except ε γ} {c : γ} :
    (x >>= f) = .ok c ↔ ∃ b, x = .ok b ∧ f b = .ok c := by
  cases x with
  | error e => exact ⟨fun h => (nomatch h), fun ⟨_, h, _⟩ => (nomatch h)⟩
  | ok b => exact ⟨fun h => ⟨b, rfl, h⟩, fun ⟨_, h, hf⟩ => Except.ok.inj h ▸ hf⟩

/-- **A sequence fails** with the refusal of its first check, or else with that of the rest. -/
theorem firstOf_bind {x : Except ε β} {f : β → Except ε γ} {p : ε → Prop} {ps : List (ε → Prop)}
    {e : ε} (hx : ∀ e, x = .error e ↔ p e)
    (hf : ∀ b, x = .ok b → (f b = .error e ↔ FirstOf ps e)) :
    (x >>= f) = .error e ↔ FirstOf (p :: ps) e := by
  rw [bind_eq_error_iff, FirstOf, hx]
  refine or_congr_right ⟨?_, ?_⟩
  · rintro ⟨b, hb, h⟩
    exact ⟨fun g hg => (nomatch hb.symm.trans ((hx g).mpr hg)), (hf b hb).mp h⟩
  · rintro ⟨hnot, h⟩
    cases hb : x with
    | error g => exact absurd ((hx g).mp hb) (hnot g)
    | ok b => exact ⟨b, rfl, (hf b hb).mpr h⟩

theorem mapError_eq_error_iff {ζ : Type} {x : Except ε β} {f : ε → ζ} {e : ζ} :
    x.mapError f = .error e ↔ ∃ e', x = .error e' ∧ f e' = e := by
  cases x with
  | error e' => simp [Except.mapError]
  | ok b => simp [Except.mapError]

theorem mapError_eq_ok_iff {ζ : Type} {x : Except ε β} {f : ε → ζ} {b : β} :
    x.mapError f = .ok b ↔ x = .ok b := by
  cases x <;> simp [Except.mapError]

/-- **A traversal fails** at its first element that does. -/
theorem mapM_eq_error_iff {f : β → Except ε γ} {bs : List β} {e : ε} :
    bs.mapM f = .error e ↔ ∃ before b after, bs = before ++ b :: after ∧
      (∀ b' ∈ before, ∃ c, f b' = .ok c) ∧ f b = .error e := by
  induction bs with
  | nil => exact ⟨fun h => (nomatch h), fun ⟨_, _, _, h, _⟩ => by simp at h⟩
  | cons b bs ih =>
    have hrest (c : γ) : (do let cs ← bs.mapM f; pure (c :: cs)) = .error e ↔
        bs.mapM f = .error e := by
      cases bs.mapM f with
      | error e' => exact ⟨id, id⟩
      | ok cs => exact ⟨fun h => (nomatch h), fun h => (nomatch h)⟩
    rw [List.mapM_cons, bind_eq_error_iff]
    simp only [hrest, ih]
    constructor
    · rintro (h | ⟨c, hc, before, b', after, rfl, hbefore, h⟩)
      · exact ⟨[], b, bs, rfl, by simp, h⟩
      · exact ⟨b :: before, b', after, rfl, List.forall_mem_cons.mpr ⟨⟨c, hc⟩, hbefore⟩, h⟩
    · rintro ⟨before, b', after, hsplit, hbefore, h⟩
      cases before with
      | nil =>
        obtain ⟨rfl, rfl⟩ := List.cons.inj hsplit
        exact .inl h
      | cons d before =>
        obtain ⟨rfl, rfl⟩ := List.cons.inj hsplit
        obtain ⟨⟨c, hc⟩, hbefore⟩ := List.forall_mem_cons.mp hbefore
        exact .inr ⟨c, hc, before, b', after, rfl, hbefore, h⟩

theorem mapM_eq_ok_iff {f : β → Except ε γ} {bs : List β} {cs : List γ} :
    bs.mapM f = .ok cs ↔ List.Forall₂ (fun b c => f b = .ok c) bs cs := by
  induction bs generalizing cs with
  | nil =>
    rw [List.mapM_nil, List.forall₂_nil_left_iff]
    exact ⟨fun h => (Except.ok.inj h).symm, fun h => h ▸ rfl⟩
  | cons b bs ih =>
    rw [List.mapM_cons, bind_eq_ok_iff]
    simp only [bind_eq_ok_iff, ih]
    constructor
    · rintro ⟨c, hc, cs', hcs, h⟩
      obtain rfl := Except.ok.inj h
      exact .cons hc hcs
    · rintro (_ | ⟨hc, hcs⟩)
      exact ⟨_, hc, _, hcs, rfl⟩

end Chargeback
