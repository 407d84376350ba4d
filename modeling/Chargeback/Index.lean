/-!
# Values under names in ascending order

`Index β` holds values under names and lists them in ascending order of the names, which is the
order of their UTF-8 bytes. The buckets of a report, the gauges per cluster and the members of a
configuration are kept this way.
`upsert` is the one operation that changes it.
-/

namespace Chargeback

/-- Values under names, in ascending order of the names. -/
structure Index (β : Type) where
  entries : List (String × β)
  ascending : entries.Pairwise (fun a b => a.1 < b.1) := by simp

namespace Index

variable {β γ : Type}

instance : EmptyCollection (Index β) := ⟨{ entries := [] }⟩

instance : Inhabited (Index β) := ⟨∅⟩

/-- The value under a name. -/
def get? (m : Index β) (name : String) : Option β := m.entries.lookup name

/-- The names, ascending. -/
def names (m : Index β) : List String := m.entries.map Prod.fst

/-- The values, in the order of their names. -/
def values (m : Index β) : List β := m.entries.map Prod.snd

def size (m : Index β) : Nat := m.entries.length

def isEmpty (m : Index β) : Bool := m.entries.isEmpty

/-- Replaces what is under `name` by its image under `f`, in an ascending list. -/
def place (name : String) (f : Option β → β) : List (String × β) → List (String × β)
  | [] => [(name, f none)]
  | (n, b) :: rest =>
    if name < n then (name, f none) :: (n, b) :: rest
    else if name = n then (n, f (some b)) :: rest
    else (n, b) :: place name f rest

theorem mem_names_place {m name : String} {f : Option β → β} {l : List (String × β)} :
    m ∈ (place name f l).map Prod.fst ↔ m = name ∨ m ∈ l.map Prod.fst := by
  induction l with
  | nil => simp [place]
  | cons p l ih =>
    obtain ⟨n, b⟩ := p
    unfold place
    split
    · simp
    · split
      · next h => subst h; simp
      · simp only [List.map_cons, List.mem_cons, ih]
        exact or_left_comm

theorem ascending_place {name : String} {f : Option β → β} {l : List (String × β)}
    (h : l.Pairwise (fun a b => a.1 < b.1)) :
    (place name f l).Pairwise (fun a b => a.1 < b.1) := by
  induction l with
  | nil => simp [place]
  | cons p l ih =>
    obtain ⟨n, b⟩ := p
    obtain ⟨hn, hl⟩ := List.pairwise_cons.mp h
    unfold place
    split
    · next hlt =>
      refine List.pairwise_cons.mpr ⟨fun q hq => ?_, h⟩
      rcases List.mem_cons.mp hq with rfl | hq
      · exact hlt
      · exact String.lt_trans hlt (hn q hq)
    · split
      · exact List.pairwise_cons.mpr ⟨hn, hl⟩
      · next hlt hne =>
        refine List.pairwise_cons.mpr ⟨fun q hq => ?_, ih hl⟩
        rcases mem_names_place.mp (List.mem_map_of_mem hq) with h | h
        · exact h ▸ Std.lt_of_le_of_ne (String.not_lt.mp hlt) (Ne.symm hne)
        · obtain ⟨r, hr, hrq⟩ := List.mem_map.mp h
          exact hrq ▸ hn r hr

/-- What precedes the first name of an ascending list is not in the list. -/
theorem lookup_eq_none_of_lt {name : String} {p : String × β} {l : List (String × β)}
    (h : (p :: l).Pairwise (fun a b => a.1 < b.1)) (hlt : name < p.1) :
    (p :: l).lookup name = none := by
  rw [List.lookup_eq_none_iff]
  intro q hq
  have hnq : name < q.1 := by
    rcases List.mem_cons.mp hq with rfl | hq
    · exact hlt
    · exact String.lt_trans hlt ((List.pairwise_cons.mp h).1 q hq)
  have hne : name ≠ q.1 := fun he => String.lt_irrefl q.1 (he ▸ hnq)
  simpa using hne

theorem lookup_place {n name : String} {f : Option β → β} {l : List (String × β)}
    (h : l.Pairwise (fun a b => a.1 < b.1)) :
    (place name f l).lookup n = if n = name then some (f (l.lookup name)) else l.lookup n := by
  induction l with
  | nil => simp only [place, List.lookup_cons, List.lookup_nil]; split <;> simp_all
  | cons p l ih =>
    obtain ⟨m, b⟩ := p
    have hl := (List.pairwise_cons.mp h).2
    unfold place
    split
    · next hlt =>
      rw [lookup_eq_none_of_lt h hlt, List.lookup_cons]
      split <;> simp_all
    · split
      · next heq => subst heq; simp only [List.lookup_cons]; split <;> simp_all
      · simp only [List.lookup_cons, ih hl]
        grind

theorem place_eq_place_const {name : String} {f : Option β → β} {l : List (String × β)}
    (h : l.Pairwise (fun a b => a.1 < b.1)) :
    place name f l = place name (fun _ => f (l.lookup name)) l := by
  induction l with
  | nil => rfl
  | cons p l ih =>
    obtain ⟨n, b⟩ := p
    unfold place
    split
    · next hlt => rw [lookup_eq_none_of_lt h hlt]
    · next hlt =>
      rw [List.lookup_cons]
      split
      · next heq => simp [heq]
      · next hne => rw [ih (List.pairwise_cons.mp h).2, beq_eq_false_iff_ne.mpr hne]

/-- Replaces what is under `name`, if anything, by its image under `f`. -/
def upsert (m : Index β) (name : String) (f : Option β → β) : Index β where
  entries := place name f m.entries
  ascending := ascending_place m.ascending

def insert (m : Index β) (name : String) (b : β) : Index β := m.upsert name fun _ => b

/-- The last value of each name. -/
def ofList (l : List (String × β)) : Index β := l.foldl (fun m p => m.insert p.1 p.2) ∅

/-- Changes every value, given its name. -/
def mapWithName (f : String → β → γ) (m : Index β) : Index γ where
  entries := m.entries.map fun p => (p.1, f p.1 p.2)
  ascending := List.pairwise_map.mpr m.ascending

@[simp] theorem get?_empty (name : String) : (∅ : Index β).get? name = none := rfl

theorem pairwise_names (m : Index β) : m.names.Pairwise (· < ·) := List.pairwise_map.mpr m.ascending

theorem mem_names_iff {m : Index β} {name : String} :
    name ∈ m.names ↔ ∃ b, m.get? name = some b := by
  rw [← Option.isSome_iff_exists, get?, List.lookup_isSome_iff]
  simp [names]

theorem get?_eq_none_iff {m : Index β} {name : String} : m.get? name = none ↔ name ∉ m.names := by
  rw [mem_names_iff, not_exists, Option.eq_none_iff_forall_ne_some]

theorem get?_upsert (m : Index β) (name n : String) (f : Option β → β) :
    (m.upsert name f).get? n = if n = name then some (f (m.get? name)) else m.get? n :=
  lookup_place m.ascending

/-- To change a value is to insert what it becomes. -/
theorem upsert_eq_insert (m : Index β) (name : String) (f : Option β → β) :
    m.upsert name f = m.insert name (f (m.get? name)) := by
  unfold insert upsert
  congr 1
  exact place_eq_place_const m.ascending

theorem get?_insert (m : Index β) (name n : String) (b : β) :
    (m.insert name b).get? n = if n = name then some b else m.get? n :=
  get?_upsert m name n fun _ => b

theorem get?_mapWithName (f : String → β → γ) (m : Index β) (name : String) :
    (m.mapWithName f).get? name = (m.get? name).map (f name) := by
  change (m.entries.map fun p => (p.1, f p.1 p.2)).lookup name =
    (m.entries.lookup name).map (f name)
  induction m.entries with
  | nil => rfl
  | cons p l ih =>
    obtain ⟨n, b⟩ := p
    simp only [List.map_cons, List.lookup_cons]
    split
    · next h => rw [beq_iff_eq.mp h]; rfl
    · exact ih

@[simp] theorem names_mapWithName (f : String → β → γ) (m : Index β) :
    (m.mapWithName f).names = m.names := by
  simp [names, mapWithName, Function.comp_def]

@[simp] theorem mem_names_upsert {m : Index β} {n name : String} {f : Option β → β} :
    n ∈ (m.upsert name f).names ↔ n = name ∨ n ∈ m.names := mem_names_place

end Index

end Chargeback
