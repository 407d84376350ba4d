import Mathlib.Data.List.Sort
import Chargeback.Assoc
import Chargeback.Index

/-!
# Values under distinct names

As no name occurs twice, a value is under a name exactly if the pair of the two is among the entries
(`mem_iff_lookup`). An index also fixes the order of its entries, so it is determined by the values
under its names (`Index.ext_get?`).
-/

namespace Chargeback

variable {β : Type}

theorem mem_iff_lookup {entries : List (String × β)} (hnodup : (entries.map Prod.fst).Nodup)
    {p : String × β} : p ∈ entries ↔ entries.lookup p.1 = some p.2 := by
  induction entries with
  | nil => exact iff_of_false List.not_mem_nil nofun
  | cons q entries ih =>
    obtain ⟨hq, hnodup⟩ := List.nodup_cons.mp hnodup
    rw [List.mem_cons, List.lookup_cons, ih hnodup]
    by_cases hname : p.1 = q.1
    · have hnone : p ∉ entries := fun h => hq (hname ▸ List.mem_map_of_mem h)
      rw [← ih hnodup, or_iff_left hnone, Prod.ext_iff]
      simp [hname, eq_comm]
    · have hne : p ≠ q := fun h => hname (congrArg Prod.fst h)
      rw [or_iff_right hne, beq_false_of_ne hname]

theorem Assoc.mem_entries_iff {m : Assoc β} {p : String × β} :
    p ∈ m.entries ↔ m.get? p.1 = some p.2 := mem_iff_lookup m.nodup

/-- Changes every value, given its name. -/
def Assoc.mapWithName {γ : Type} (f : String → β → γ) (m : Assoc β) : Assoc γ where
  entries := m.entries.map fun p => (p.1, f p.1 p.2)
  nodup := by simpa [List.map_map, Function.comp_def] using m.nodup

theorem Assoc.values_mapWithName {γ : Type} (f : String → β → γ) (m : Assoc β) :
    (m.mapWithName f).values = m.entries.map fun p => f p.1 p.2 := List.map_map

namespace Index

theorem nodup_names (m : Index β) : m.names.Nodup := by
  refine m.pairwise_names.imp fun {a b} hlt heq => ?_
  exact String.lt_irrefl b (heq ▸ hlt)

theorem mem_entries_iff {m : Index β} {p : String × β} :
    p ∈ m.entries ↔ m.get? p.1 = some p.2 := mem_iff_lookup m.nodup_names

/-- **An index is determined by its values.** -/
theorem ext_get? {m m' : Index β} (h : ∀ name, m.get? name = m'.get? name) : m = m' := by
  have hentries : m.entries = m'.entries := by
    have : Std.Irrefl fun a b : String × β => a.1 < b.1 := ⟨fun a => String.lt_irrefl a.1⟩
    have : Std.Antisymm fun a b : String × β => a.1 < b.1 :=
      ⟨fun a b hab hba => absurd hba (String.lt_asymm hab)⟩
    refine m.ascending.eq_of_mem_iff m'.ascending fun p => ?_
    rw [mem_entries_iff, mem_entries_iff, h]
  obtain ⟨entries, hasc⟩ := m
  obtain ⟨entries', hasc'⟩ := m'
  obtain rfl : entries = entries' := hentries
  rfl

end Index

end Chargeback
