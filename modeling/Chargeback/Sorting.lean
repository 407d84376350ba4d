/-!
# Sorting

`sortBy` is a stable insertion sort: of two elements neither of which comes before the other, the
earlier one stays first. Series and inventories arrive nearly in order, where insertion takes one
step an element. `distinctAscending` lists the different members of a list of names in ascending
order.
-/

namespace Chargeback

variable {β : Type}

/-- Puts `x` before the first element that does not come strictly before it. -/
def insertBy (lt : β → β → Bool) (x : β) : List β → List β
  | [] => [x]
  | y :: ys => if lt y x then y :: insertBy lt x ys else x :: y :: ys

/-- Sorts by `lt`, keeping the order of elements that it does not tell apart. -/
def sortBy (lt : β → β → Bool) (xs : List β) : List β := xs.foldr (insertBy lt) []

theorem insertBy_perm (lt : β → β → Bool) (x : β) (ys : List β) :
    (insertBy lt x ys).Perm (x :: ys) := by
  induction ys with
  | nil => exact .refl _
  | cons y ys ih =>
    unfold insertBy
    split
    · exact (ih.cons y).trans (.swap x y ys)
    · exact .refl _

theorem sortBy_perm (lt : β → β → Bool) (xs : List β) : (sortBy lt xs).Perm xs := by
  induction xs with
  | nil => exact .refl _
  | cons x xs ih => exact (insertBy_perm lt x _).trans (ih.cons x)

@[simp] theorem mem_sortBy {lt : β → β → Bool} {x : β} {xs : List β} :
    x ∈ sortBy lt xs ↔ x ∈ xs := (sortBy_perm lt xs).mem_iff

@[simp] theorem length_sortBy (lt : β → β → Bool) (xs : List β) :
    (sortBy lt xs).length = xs.length := (sortBy_perm lt xs).length_eq

/-- Where "not after" is transitive and total, a sorted list has no inversion. -/
theorem pairwise_sortBy {lt : β → β → Bool}
    (trans : ∀ {a b c}, lt b a = false → lt c b = false → lt c a = false)
    (asymm : ∀ {a b}, lt a b = true → lt b a = false) (xs : List β) :
    (sortBy lt xs).Pairwise (fun a b => lt b a = false) := by
  induction xs with
  | nil => exact .nil
  | cons x xs ih =>
    change (insertBy lt x (sortBy lt xs)).Pairwise _
    generalize sortBy lt xs = ys at ih
    induction ys with
    | nil => simp [insertBy]
    | cons y ys ihy =>
      obtain ⟨hy, hys⟩ := List.pairwise_cons.mp ih
      unfold insertBy
      split
      · next hlt =>
        refine List.pairwise_cons.mpr ⟨fun z hz => ?_, ihy hys⟩
        rcases List.mem_cons.mp ((insertBy_perm lt x ys).mem_iff.mp hz) with rfl | hz
        · exact asymm hlt
        · exact hy z hz
      · next hlt =>
        have hxy : lt y x = false := by simpa using hlt
        refine List.pairwise_cons.mpr ⟨fun z hz => ?_, ih⟩
        rcases List.mem_cons.mp hz with rfl | hz
        · exact hxy
        · exact trans hxy (hy z hz)

theorem filter_insertBy {lt : β → β → Bool} {p : β → Bool} {x : β} {ys : List β}
    (h : ∀ y ∈ ys, p y = true → p x = true → lt y x = false) :
    (insertBy lt x ys).filter p = (x :: ys).filter p := by
  induction ys with
  | nil => rfl
  | cons y ys ih =>
    unfold insertBy
    split
    · next hlt =>
      rw [List.filter_cons, ih fun z hz => h z (List.mem_cons_of_mem _ hz)]
      -- the two elements are not both in the selection, as they are told apart
      cases hx : p x with
      | false => simp [hx, List.filter_cons]
      | true =>
        cases hy : p y with
        | false => simp [hx, hy]
        | true => simp [h y List.mem_cons_self hy hx] at hlt
    · rfl

/-- **Sorting is stable**: elements that are not told apart keep their order. -/
theorem filter_sortBy {lt : β → β → Bool} {p : β → Bool} {xs : List β}
    (h : ∀ a ∈ xs, ∀ b ∈ xs, p a = true → p b = true → lt a b = false) :
    (sortBy lt xs).filter p = xs.filter p := by
  induction xs with
  | nil => rfl
  | cons x xs ih =>
    have htail : (sortBy lt xs).filter p = xs.filter p :=
      ih fun a ha b hb => h a (List.mem_cons_of_mem _ ha) b (List.mem_cons_of_mem _ hb)
    change (insertBy lt x (sortBy lt xs)).filter p = _
    rw [filter_insertBy, List.filter_cons, htail, ← List.filter_cons]
    intro y hy
    exact h y (List.mem_cons_of_mem _ (mem_sortBy.mp hy)) x List.mem_cons_self

theorem map_insertBy {γ : Type} {lt : β → β → Bool} {lt' : γ → γ → Bool} {f : β → γ}
    (h : ∀ a b, lt' (f a) (f b) = lt a b) (x : β) (ys : List β) :
    (insertBy lt x ys).map f = insertBy lt' (f x) (ys.map f) := by
  induction ys with
  | nil => rfl
  | cons y ys ih =>
    simp only [insertBy, List.map_cons, h]
    split
    · rw [List.map_cons, ih]
    · rfl

/-- Sorting commutes with a map that keeps the order. -/
theorem map_sortBy {γ : Type} {lt : β → β → Bool} {lt' : γ → γ → Bool} {f : β → γ}
    (h : ∀ a b, lt' (f a) (f b) = lt a b) (xs : List β) :
    (sortBy lt xs).map f = sortBy lt' (xs.map f) := by
  induction xs with
  | nil => rfl
  | cons x xs ih =>
    change (insertBy lt x (sortBy lt xs)).map f = insertBy lt' (f x) (sortBy lt' (xs.map f))
    rw [map_insertBy h, ih]

/-- Adds a name to an ascending list of distinct names. -/
def insertDistinct (name : String) : List String → List String
  | [] => [name]
  | n :: ns =>
    if name < n then name :: n :: ns
    else if name = n then n :: ns
    else n :: insertDistinct name ns

/-- The different names of a list, in ascending order. -/
def distinctAscending (names : List String) : List String := names.foldr insertDistinct []

@[simp] theorem mem_insertDistinct {m name : String} {ns : List String} :
    m ∈ insertDistinct name ns ↔ m = name ∨ m ∈ ns := by
  induction ns with
  | nil => simp [insertDistinct]
  | cons n ns ih =>
    unfold insertDistinct
    split
    · simp
    · split
      · next h => subst h; simp
      · simp only [List.mem_cons, ih]
        exact or_left_comm

@[simp] theorem mem_distinctAscending {m : String} {names : List String} :
    m ∈ distinctAscending names ↔ m ∈ names := by
  induction names with
  | nil => simp [distinctAscending]
  | cons n ns ih =>
    change m ∈ insertDistinct n (distinctAscending ns) ↔ _
    simp [ih]

theorem pairwise_insertDistinct {name : String} {ns : List String} (h : ns.Pairwise (· < ·)) :
    (insertDistinct name ns).Pairwise (· < ·) := by
  induction ns with
  | nil => simp [insertDistinct]
  | cons n ns ih =>
    obtain ⟨hn, hns⟩ := List.pairwise_cons.mp h
    unfold insertDistinct
    split
    · next hlt =>
      refine List.pairwise_cons.mpr ⟨fun z hz => ?_, h⟩
      rcases List.mem_cons.mp hz with rfl | hz
      · exact hlt
      · exact String.lt_trans hlt (hn z hz)
    · split
      · exact h
      · next hlt hne =>
        refine List.pairwise_cons.mpr ⟨fun z hz => ?_, ih hns⟩
        rcases mem_insertDistinct.mp hz with rfl | hz
        · exact Std.lt_of_le_of_ne (String.not_lt.mp hlt) (Ne.symm hne)
        · exact hn z hz

theorem pairwise_distinctAscending (names : List String) :
    (distinctAscending names).Pairwise (· < ·) := by
  induction names with
  | nil => exact .nil
  | cons n ns ih => exact pairwise_insertDistinct ih

end Chargeback
