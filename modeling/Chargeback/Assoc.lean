/-!
# Values under names

`Assoc β` holds values under distinct names, in the order in which a visitor meets them. Inventories
of workloads, billing totals, labels and idle coefficients are kept this way. A list of pairs in
which a name is repeated gives the name its last value.
-/

namespace Chargeback

/-- Values under distinct names, in a fixed order. -/
structure Assoc (β : Type) where
  entries : List (String × β)
  nodup : (entries.map Prod.fst).Nodup := by simp

namespace Assoc

variable {β γ : Type}

instance : EmptyCollection (Assoc β) := ⟨{ entries := [] }⟩

instance : Inhabited (Assoc β) := ⟨∅⟩

/-- The value under a name. -/
def get? (m : Assoc β) (name : String) : Option β := m.entries.lookup name

/-- The names, in order. -/
def names (m : Assoc β) : List String := m.entries.map Prod.fst

/-- The values, in order. -/
def values (m : Assoc β) : List β := m.entries.map Prod.snd

def size (m : Assoc β) : Nat := m.entries.length

/-- Gives `name` the value `b`: in its place if the name is there, else at the end. -/
def put (name : String) (b : β) : List (String × β) → List (String × β)
  | [] => [(name, b)]
  | (n, c) :: rest => if n = name then (n, b) :: rest else (n, c) :: put name b rest

theorem mem_names_put {n name : String} {b : β} {l : List (String × β)} :
    n ∈ (put name b l).map Prod.fst ↔ n = name ∨ n ∈ l.map Prod.fst := by
  induction l with
  | nil => simp [put]
  | cons p l ih =>
    obtain ⟨m, c⟩ := p
    unfold put
    split
    · next h => subst h; simp
    · simp only [List.map_cons, List.mem_cons, ih]
      exact or_left_comm

theorem nodup_put {name : String} {b : β} {l : List (String × β)}
    (h : (l.map Prod.fst).Nodup) : ((put name b l).map Prod.fst).Nodup := by
  induction l with
  | nil => simp [put]
  | cons p l ih =>
    obtain ⟨m, c⟩ := p
    obtain ⟨hm, hl⟩ := List.nodup_cons.mp h
    unfold put
    split
    · exact h
    · next hne =>
      refine List.nodup_cons.mpr ⟨fun hmem => ?_, ih hl⟩
      rcases mem_names_put.mp hmem with h | h
      · exact hne h
      · exact hm h

def insert (m : Assoc β) (name : String) (b : β) : Assoc β where
  entries := put name b m.entries
  nodup := nodup_put m.nodup

/-- The last value of each name. -/
def ofList (l : List (String × β)) : Assoc β := l.foldl (fun m p => m.insert p.1 p.2) ∅

def map (f : β → γ) (m : Assoc β) : Assoc γ where
  entries := m.entries.map fun p => (p.1, f p.2)
  nodup := by simpa [List.map_map, Function.comp_def] using m.nodup

@[simp] theorem get?_empty (name : String) : (∅ : Assoc β).get? name = none := rfl

theorem get?_insert (m : Assoc β) (name n : String) (b : β) :
    (m.insert name b).get? n = if n = name then some b else m.get? n := by
  obtain ⟨l, -⟩ := m
  change (put name b l).lookup n = if n = name then some b else l.lookup n
  induction l with
  | nil => simp only [put, List.lookup_cons, List.lookup_nil]; split <;> simp_all
  | cons p l ih =>
    obtain ⟨m, c⟩ := p
    unfold put
    split
    · next h => subst h; simp only [List.lookup_cons]; split <;> simp_all
    · next h => simp only [List.lookup_cons]; grind

end Assoc

end Chargeback
