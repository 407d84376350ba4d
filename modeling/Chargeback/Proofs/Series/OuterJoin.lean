import Mathlib.Tactic.Lift
import Chargeback.Proofs.Number.Counts
import Chargeback.Proofs.Series.Weighted

/-!
# A merge is an outer join

In binary64 the order of a sum matters, and two times may be equal without being the same. What a
series comes to at a time is therefore said as it is computed: the values at that time, added up
from left to right in the order of the samples (`amountAt?`). Sorting keeps this order among samples
at one time (`filter_sortBy`), fusing adds them up in it (`amountAt?_fuse`), and joining two ordered
series adds the two amounts where there are two (`amountAt?_join`). So a merge of two series with
samples is strictly ascending, has the grid times of the dated samples, and at each of them the
amounts of both sides (`merge_outer_join`). The join is the loop over two positions `joinLoop`, in
which no position runs past its series (`joinLoop_eq`).
-/

namespace Chargeback

open Binary64

/-- The sum of a list from left to right, if there is anything to add up. -/
def sum? {α : Type} [Add α] : List α → Option α
  | [] => none
  | v :: vs => some (vs.foldl (· + ·) v)

namespace Series

section Parts

variable {α : Type} [Number α]

/-- The dated samples at their grid times, in the order in which they were made. -/
def gridded (s : Series α) : Series α := (s.filter Sample.isDated).map Sample.onGrid

/-- What the samples at a time come to, if there are any. -/
def amountAt? (s : Series α) (t : α) : Option α :=
  sum? ((s.filter fun x => x.time == t).map Sample.value)

@[simp] theorem amountAt?_nil (t : α) : amountAt? [] t = none := rfl

theorem amountAt?_cons_of_neg {x : Sample α} {s : Series α} {t : α} (h : ¬ (x.time == t) = true) :
    amountAt? (x :: s) t = s.amountAt? t := by
  rw [amountAt?, List.filter_cons, if_neg h, amountAt?]

theorem amountAt?_eq_none_iff {s : Series α} {t : α} :
    s.amountAt? t = none ↔ ∀ x ∈ s, ¬ (x.time == t) = true := by
  have hsum (vs : List α) : sum? vs = none ↔ vs = [] := by cases vs <;> simp [sum?]
  rw [amountAt?, hsum, List.map_eq_nil_iff, List.filter_eq_nil_iff]

/-- A sample that is alone at its time. -/
theorem amountAt?_cons_of_pos {x : Sample α} {s : Series α} {t : α} (h : (x.time == t) = true)
    (hs : s.amountAt? t = none) : amountAt? (x :: s) t = some x.value := by
  have hnil : s.filter (fun x => x.time == t) = [] :=
    List.filter_eq_nil_iff.mpr (amountAt?_eq_none_iff.mp hs)
  rw [amountAt?, List.filter_cons, if_pos h, hnil]
  rfl

/-! ## The join as a loop -/

/-- Joins two series from two positions on, after `out`. There is no result if a position is used
that the series does not have. -/
def joinLoop (xs ys : Series α) (i j : ℕ) (out : Series α) : Option (Series α) :=
  if i < xs.length ∧ j < ys.length then do
    let x ← xs[i]?
    let y ← ys[j]?
    if x.time < y.time then joinLoop xs ys (i + 1) j (out ++ [x])
    else if y.time < x.time then joinLoop xs ys i (j + 1) (out ++ [y])
    else joinLoop xs ys (i + 1) (j + 1) (out ++ [⟨x.time, x.value + y.value⟩])
  else do
    guard (i ≤ xs.length)
    guard (j ≤ ys.length)
    return out ++ xs.drop i ++ ys.drop j
  termination_by (xs.length - i) + (ys.length - j)
  decreasing_by all_goals omega

/-- **No position runs past its series**: the loop has a result, and it is the join. -/
theorem joinLoop_eq {xs ys : Series α} {i j : ℕ} (out : Series α) (hi : i ≤ xs.length)
    (hj : j ≤ ys.length) : joinLoop xs ys i j out = some (out ++ join (xs.drop i) (ys.drop j)) := by
  unfold joinLoop
  split
  · next h =>
    have hx : xs.drop i = xs[i] :: xs.drop (i + 1) := List.drop_eq_getElem_cons h.1
    have hy : ys.drop j = ys[j] :: ys.drop (j + 1) := List.drop_eq_getElem_cons h.2
    simp only [List.getElem?_eq_getElem h.1, List.getElem?_eq_getElem h.2, Option.bind_eq_bind,
      Option.bind_some]
    rw [hx, hy, join]
    split
    · rw [joinLoop_eq (out ++ [xs[i]]) h.1 hj, List.append_assoc, List.singleton_append, hy]
    · split
      · rw [joinLoop_eq _ hi h.2, List.append_assoc, List.singleton_append, hx]
      · rw [joinLoop_eq _ h.1 h.2, List.append_assoc, List.singleton_append]
  · next h =>
    -- one of the series is used up, and the rest of the other one is put out
    have hrest : join (xs.drop i) (ys.drop j) = xs.drop i ++ ys.drop j := by
      rcases Nat.lt_or_ge i xs.length with hlt | hge
      · have hnil : ys.drop j = [] := List.drop_eq_nil_of_le (by omega)
        rw [hnil, join_nil_right, List.append_nil]
      · rw [List.drop_eq_nil_of_le hge, join_nil_left, List.nil_append]
    simp [hi, hj, hrest]
  termination_by (xs.length - i) + (ys.length - j)

end Parts

/-! ## Ordered series -/

/-- The times are numbers, each less than the next. -/
structure Ordered (s : Series Float) : Prop where
  numbers : ∀ x ∈ s, x.time.isNaN = false
  ascending : s.Pairwise fun a b => a.time < b.time

/-- The times are numbers, none greater than the next. -/
structure Sorted (s : Series Float) : Prop where
  numbers : ∀ x ∈ s, x.time.isNaN = false
  ascending : s.Pairwise fun a b => rank a.time ≤ rank b.time

section Orders

variable {x y : Sample Float} {s xs ys : Series Float} {t : Float}

namespace Ordered

theorem cons (hx : x.time.isNaN = false) (hlt : ∀ y ∈ s, rank x.time < rank y.time)
    (hs : s.Ordered) : Ordered (x :: s) where
  numbers := List.forall_mem_cons.mpr ⟨hx, hs.numbers⟩
  ascending := List.pairwise_cons.mpr
    ⟨fun y hy => (lt_iff_rank hx (hs.numbers y hy)).mpr (hlt y hy), hs.ascending⟩

theorem head (h : Ordered (x :: s)) : x.time.isNaN = false := h.numbers x List.mem_cons_self

theorem tail (h : Ordered (x :: s)) : s.Ordered :=
  ⟨(List.forall_mem_cons.mp h.numbers).2, (List.pairwise_cons.mp h.ascending).2⟩

theorem rank_lt (h : Ordered (x :: s)) (hy : y ∈ s) : rank x.time < rank y.time :=
  rank_lt_of_lt ((List.pairwise_cons.mp h.ascending).1 y hy)

/-- The earlier of two first samples is earlier than all others. -/
theorem rank_lt_of_earlier (hx : Ordered (x :: xs)) (hy : Ordered (y :: ys))
    (h : rank x.time < rank y.time) : ∀ z ∈ xs ++ y :: ys, rank x.time < rank z.time := by
  intro z hz
  rcases List.mem_append.mp hz with hz | hz
  · exact hx.rank_lt hz
  · rcases List.mem_cons.mp hz with rfl | hz
    · exact h
    · exact h.trans (hy.rank_lt hz)

/-- Two first samples at one time are earlier than all others. -/
theorem rank_lt_of_alike (hx : Ordered (x :: xs)) (hy : Ordered (y :: ys))
    (h : rank x.time = rank y.time) : ∀ z ∈ xs ++ ys, rank x.time < rank z.time := by
  intro z hz
  rcases List.mem_append.mp hz with hz | hz
  · exact hx.rank_lt hz
  · exact h ▸ hy.rank_lt hz

end Ordered

theorem Sorted.tail (h : Sorted (x :: s)) : s.Sorted :=
  ⟨(List.forall_mem_cons.mp h.numbers).2, (List.pairwise_cons.mp h.ascending).2⟩

/-- At the time of a sample there is nothing after it. -/
theorem amountAt?_eq_none_of_lt (hx : (x.time == t) = true)
    (hlt : ∀ y ∈ s, rank x.time < rank y.time) : s.amountAt? t = none := by
  refine amountAt?_eq_none_iff.mpr fun y hy heq => ?_
  have hrank : rank x.time = rank y.time := (rank_eq_of_beq hx).trans (rank_eq_of_beq heq).symm
  exact (hlt y hy).ne hrank

/-- The next sample of a sorted series is at the same time, or all that follow are later. -/
theorem Sorted.lt_of_ne (h : Sorted (x :: y :: s)) (hne : ¬ (x.time == y.time) = true) :
    ∀ z ∈ y :: s, rank x.time < rank z.time := by
  have hx : x.time.isNaN = false := h.numbers x (by simp)
  have hy : y.time.isNaN = false := h.numbers y (by simp)
  have hxy : rank x.time < rank y.time :=
    lt_of_le_of_ne ((List.pairwise_cons.mp h.ascending).1 y (by simp))
      (mt (beq_iff_rank hx hy).mpr hne)
  intro z hz
  rcases List.mem_cons.mp hz with rfl | hz
  · exact hxy
  · exact hxy.trans_le ((List.pairwise_cons.mp h.tail.ascending).1 z hz)

/-- Two neighbours at one time can be added up. -/
theorem Sorted.fused (h : Sorted (x :: y :: s)) (v : Float) : Sorted (⟨x.time, v⟩ :: s) where
  numbers := by
    obtain ⟨hx, hys⟩ := List.forall_mem_cons.mp h.numbers
    exact List.forall_mem_cons.mpr ⟨hx, (List.forall_mem_cons.mp hys).2⟩
  ascending := by
    obtain ⟨hx, hys⟩ := List.pairwise_cons.mp h.ascending
    exact List.pairwise_cons.mpr
      ⟨fun z hz => hx z (List.mem_cons_of_mem _ hz), (List.pairwise_cons.mp hys).2⟩

/-! ## Fusing -/

theorem amountAt?_fuse_go (h : Sorted (x :: s)) :
    (fuse.go x s).amountAt? t = amountAt? (x :: s) t := by
  induction s generalizing x with
  | nil => rfl
  | cons y s ih =>
    unfold fuse.go
    split
    · next heq =>
      rw [ih (h.fused _)]
      have hiff : (x.time == t) = (y.time == t) := beq_congr_left heq t
      by_cases hx : (x.time == t) = true
      · simp only [amountAt?, List.filter_cons, hx, ← hiff, if_true]
        rfl
      · have hy : ¬ (y.time == t) = true := hiff ▸ hx
        have hsum : ¬ ((⟨x.time, x.value + y.value⟩ : Sample Float).time == t) = true := hx
        rw [amountAt?_cons_of_neg hsum, amountAt?_cons_of_neg hx, amountAt?_cons_of_neg hy]
    · next hne =>
      by_cases hx : (x.time == t) = true
      · have hnone := amountAt?_eq_none_of_lt hx (h.lt_of_ne hne)
        rw [amountAt?_cons_of_pos hx (by rw [ih h.tail, hnone]), amountAt?_cons_of_pos hx hnone]
      · rw [amountAt?_cons_of_neg hx, amountAt?_cons_of_neg hx, ih h.tail]

theorem ordered_fuse_go (h : Sorted (x :: s)) : (fuse.go x s).Ordered := by
  induction s generalizing x with
  | nil => exact ⟨h.numbers, List.pairwise_singleton _ _⟩
  | cons y s ih =>
    unfold fuse.go
    split
    · exact ih (h.fused _)
    · next hne =>
      refine .cons (h.numbers x (by simp)) (fun z hz => ?_) (ih h.tail)
      obtain ⟨w, hw, hwz⟩ := exists_time_eq_of_mem_fuse_go hz
      rw [← hwz]
      exact h.lt_of_ne hne w hw

/-- **Fusing** adds up the samples at each time in their order. -/
theorem amountAt?_fuse (h : s.Sorted) : s.fuse.amountAt? t = s.amountAt? t := by
  cases s with
  | nil => rfl
  | cons x s => exact amountAt?_fuse_go h

theorem ordered_fuse (h : s.Sorted) : s.fuse.Ordered := by
  cases s with
  | nil => exact ⟨h.numbers, .nil⟩
  | cons x s => exact ordered_fuse_go h

/-! ## Collapsing -/

theorem mem_gridded {z : Sample Float} :
    z ∈ s.gridded ↔
      ∃ x ∈ s, ((x.time == 0) = false ∧ x.time.isNaN = false) ∧ x.onGrid = z := by
  have hdated (x : Sample Float) : x.isDated = true ↔
      (x.time == 0) = false ∧ x.time.isNaN = false := by
    rw [Sample.isDated, Bool.and_eq_true, Bool.not_eq_true', Bool.not_eq_true']
    rfl
  simp only [gridded, List.mem_map, List.mem_filter, hdated, and_assoc]

theorem gridded_append (xs ys : Series Float) : gridded (xs ++ ys) = xs.gridded ++ ys.gridded := by
  simp [gridded]

theorem gridded_numbers (s : Series Float) : ∀ x ∈ s.gridded, x.time.isNaN = false := by
  intro z hz
  obtain ⟨x, -, ⟨-, hx⟩, rfl⟩ := mem_gridded.mp hz
  exact isNaN_quantize hx

/-- **Sorting** numbers sorts them by their ranks. -/
theorem sorted_sortBy (h : ∀ x ∈ s, x.time.isNaN = false) :
    Sorted (sortBy (fun a b => decide (a.time < b.time)) s) where
  numbers x hx := h x (mem_sortBy.mp hx)
  ascending := by
    -- the order is total on numbers only, so each sample is taken with the fact that it is one
    have hs : (s.attachWith (fun x => x.time.isNaN = false) h).map Subtype.val = s :=
      List.attachWith_map_subtype_val h
    generalize s.attachWith (fun x => x.time.isNaN = false) h = u at hs
    subst hs
    have hmap : (sortBy (fun a b => decide (a.1.time < b.1.time)) u).map Subtype.val =
        sortBy (fun a b => decide (a.time < b.time)) (u.map Subtype.val) := by
      apply map_sortBy
      intro a b
      rfl
    rw [← hmap, List.pairwise_map]
    have hle {a b : {x : Sample Float // x.time.isNaN = false}} :
        decide (b.1.time < a.1.time) = false ↔ rank a.1.time ≤ rank b.1.time := by
      rw [decide_eq_false_iff_not, lt_iff_rank b.2 a.2, not_lt]
    refine (pairwise_sortBy (fun hab hbc => ?_) (fun {a b} hab => ?_) u).imp hle.mp
    · exact hle.mpr ((hle.mp hab).trans (hle.mp hbc))
    · rw [decide_eq_true_eq, lt_iff_rank a.2 b.2] at hab
      exact hle.mpr hab.le

theorem collapse_eq_fuse (s : Series Float) :
    s.collapse = fuse (sortBy (fun a b => decide (a.time < b.time)) s.gridded) := rfl

/-- **Collapsing** orders a series. -/
theorem ordered_collapse (s : Series Float) : s.collapse.Ordered :=
  ordered_fuse (sorted_sortBy s.gridded_numbers)

/-- **Collapsing** adds up the samples at each grid time, in the order in which they were made. -/
theorem amountAt?_collapse (s : Series Float) (t : Float) :
    s.collapse.amountAt? t = s.gridded.amountAt? t := by
  rw [collapse_eq_fuse, amountAt?_fuse (sorted_sortBy s.gridded_numbers), amountAt?, filter_sortBy,
    amountAt?]
  -- samples at one time are not told apart
  intro a _ b _ ha hb
  rw [decide_eq_false_iff_not]
  intro hlt
  exact (rank_lt_of_lt hlt).ne ((rank_eq_of_beq ha).trans (rank_eq_of_beq hb).symm)

/-! ## Joining -/

theorem rank_lt_join (h : ∀ z ∈ xs ++ ys, rank x.time < rank z.time) :
    ∀ z ∈ join xs ys, rank x.time < rank z.time := by
  intro z hz
  obtain ⟨w, hw, hwz⟩ := exists_time_eq_of_mem_join hz
  rw [← hwz]
  exact h w hw

/-- Two first samples of which neither is earlier. -/
theorem beq_of_not_lt (hx : x.time.isNaN = false) (hy : y.time.isNaN = false)
    (hlt : ¬ x.time < y.time) (hgt : ¬ y.time < x.time) : (x.time == y.time) = true := by
  rw [lt_iff_rank hx hy, not_lt] at hlt
  rw [lt_iff_rank hy hx, not_lt] at hgt
  exact (beq_iff_rank hx hy).mpr (le_antisymm hgt hlt)

theorem ordered_join (hx : xs.Ordered) (hy : ys.Ordered) : (join xs ys).Ordered := by
  induction xs, ys using join.induct with
  | case1 ys => rwa [join_nil_left]
  | case2 x xs => rwa [join_nil_right]
  | case3 x xs y ys hlt ih =>
    rw [join, if_pos hlt]
    exact .cons hx.head (rank_lt_join (hx.rank_lt_of_earlier hy (rank_lt_of_lt hlt)))
      (ih hx.tail hy)
  | case4 x xs y ys hlt hgt ih =>
    rw [join, if_neg hlt, if_pos hgt]
    refine .cons hy.head (rank_lt_join fun z hz => ?_) (ih hx hy.tail)
    exact hy.rank_lt_of_earlier hx (rank_lt_of_lt hgt) z (List.perm_append_comm.mem_iff.mp hz)
  | case5 x xs y ys hlt hgt ih =>
    have heq := beq_of_not_lt hx.head hy.head hlt hgt
    rw [join, if_neg hlt, if_neg hgt]
    exact .cons hx.head (rank_lt_join (hx.rank_lt_of_alike hy (rank_eq_of_beq heq)))
      (ih hx.tail hy.tail)

/-- **Joining** adds the amounts of the two sides where there are two. -/
theorem amountAt?_join (hx : xs.Ordered) (hy : ys.Ordered) :
    (join xs ys).amountAt? t = Option.merge (· + ·) (xs.amountAt? t) (ys.amountAt? t) := by
  induction xs, ys using join.induct with
  | case1 ys => simp
  | case2 x xs => simp
  | case3 x xs y ys hlt ih =>
    rw [join, if_pos hlt]
    by_cases ht : (x.time == t) = true
    · have hlater := hx.rank_lt_of_earlier hy (rank_lt_of_lt hlt)
      obtain ⟨hxs, hys⟩ := List.forall_mem_append.mp hlater
      rw [amountAt?_cons_of_pos ht (amountAt?_eq_none_of_lt ht (rank_lt_join hlater)),
        amountAt?_cons_of_pos ht (amountAt?_eq_none_of_lt ht hxs), amountAt?_eq_none_of_lt ht hys]
      rfl
    · rw [amountAt?_cons_of_neg ht, ih hx.tail hy, amountAt?_cons_of_neg ht]
  | case4 x xs y ys hlt hgt ih =>
    rw [join, if_neg hlt, if_pos hgt]
    by_cases ht : (y.time == t) = true
    · have hlater := hy.rank_lt_of_earlier hx (rank_lt_of_lt hgt)
      obtain ⟨hys, hxs⟩ := List.forall_mem_append.mp hlater
      have hjoin := rank_lt_join fun z hz => hlater z (List.perm_append_comm.mem_iff.mp hz)
      rw [amountAt?_cons_of_pos ht (amountAt?_eq_none_of_lt ht hjoin),
        amountAt?_cons_of_pos ht (amountAt?_eq_none_of_lt ht hys), amountAt?_eq_none_of_lt ht hxs]
      rfl
    · rw [amountAt?_cons_of_neg ht, ih hx hy.tail, amountAt?_cons_of_neg ht]
  | case5 x xs y ys hlt hgt ih =>
    have heq := beq_of_not_lt hx.head hy.head hlt hgt
    have hiff : (x.time == t) = (y.time == t) := beq_congr_left heq t
    rw [join, if_neg hlt, if_neg hgt]
    by_cases ht : (x.time == t) = true
    · have hlater := hx.rank_lt_of_alike hy (rank_eq_of_beq heq)
      obtain ⟨hxs, -⟩ := List.forall_mem_append.mp hlater
      have hys : ∀ z ∈ ys, rank y.time < rank z.time := fun z hz => hy.rank_lt hz
      have hjoin := amountAt?_eq_none_of_lt ht (rank_lt_join hlater)
      have ht' : (y.time == t) = true := hiff ▸ ht
      have hboth : ((⟨x.time, x.value + y.value⟩ : Sample Float).time == t) = true := ht
      rw [amountAt?_cons_of_pos hboth hjoin,
        amountAt?_cons_of_pos ht (amountAt?_eq_none_of_lt ht hxs),
        amountAt?_cons_of_pos ht' (amountAt?_eq_none_of_lt ht' hys)]
      rfl
    · have ht' : ¬ (y.time == t) = true := hiff ▸ ht
      have hboth : ¬ ((⟨x.time, x.value + y.value⟩ : Sample Float).time == t) = true := ht
      rw [amountAt?_cons_of_neg hboth, ih hx.tail hy.tail, amountAt?_cons_of_neg ht,
        amountAt?_cons_of_neg ht']

/-! ## Merging -/

/-- An ordered series has at the time of each sample what the sample says. -/
theorem Ordered.amountAt?_eq {z : Sample Float} (h : s.Ordered) (hz : z ∈ s) :
    s.amountAt? z.time = some z.value := by
  have hself : (z.time == z.time) = true :=
    (beq_iff_rank (h.numbers z hz) (h.numbers z hz)).mpr rfl
  induction s with
  | nil => simp at hz
  | cons x s ih =>
    rcases List.mem_cons.mp hz with rfl | hz
    · exact amountAt?_cons_of_pos hself (amountAt?_eq_none_of_lt hself fun y hy => h.rank_lt hy)
    · have hne : ¬ (x.time == z.time) = true := fun heq => (h.rank_lt hz).ne (rank_eq_of_beq heq)
      rw [amountAt?_cons_of_neg hne, ih h.tail hz]

/-- The times of a merge are grid times of dated samples. -/
theorem exists_gridded_of_mem_join {z : Sample Float} (hz : z ∈ join xs.collapse ys.collapse) :
    ∃ w ∈ gridded (xs ++ ys), w.time = z.time := by
  obtain ⟨u, hu, huz⟩ := exists_time_eq_of_mem_join hz
  rw [gridded_append]
  have hcollapse {s : Series Float} (hu : u ∈ s.collapse) : ∃ w ∈ s.gridded, w.time = z.time := by
    obtain ⟨w, hw, hwu⟩ := exists_time_eq_of_mem_fuse hu
    exact ⟨w, mem_sortBy.mp hw, hwu.trans huz⟩
  rcases List.mem_append.mp hu with hu | hu
  · obtain ⟨w, hw, hwz⟩ := hcollapse hu
    exact ⟨w, List.mem_append_left _ hw, hwz⟩
  · obtain ⟨w, hw, hwz⟩ := hcollapse hu
    exact ⟨w, List.mem_append_right _ hw, hwz⟩

/-- **A merge of two series with samples is an outer join.** In binary64 its times are numbers,
strictly ascending: the grid times of the samples of either side that are stamped neither zero nor
not-a-number, up to the sign of zero. At each time the value is the amount of the side that has
samples there, or the sum of both amounts; the amount of a side adds up, from left to right and in
the order in which they were made, the values of its samples with this grid time. The loop over two
positions that computes the join runs past neither side. -/
theorem merge_outer_join (xs ys : Series Float) (hx : xs ≠ []) (hy : ys ≠ []) :
    ((∀ z ∈ xs.merge ys, z.time.isNaN = false) ∧
        (xs.merge ys).Pairwise fun a b => a.time < b.time) ∧
      (∀ z ∈ xs.merge ys, ∃ x ∈ xs ++ ys, ((x.time == 0) = false ∧ x.time.isNaN = false) ∧
        z.time = quantize x.time gridWidth) ∧
      (∀ x ∈ xs ++ ys, (x.time == 0) = false → x.time.isNaN = false →
        ∃ z ∈ xs.merge ys, (z.time == quantize x.time gridWidth) = true) ∧
      (∀ z ∈ xs.merge ys, some z.value =
        Option.merge (· + ·) (xs.gridded.amountAt? z.time) (ys.gridded.amountAt? z.time)) ∧
      joinLoop xs.collapse ys.collapse 0 0 [] = some (xs.merge ys) := by
  rw [merge_of_ne_nil hx hy]
  have hordered := ordered_join (ordered_collapse xs) (ordered_collapse ys)
  have hamount (t : Float) : (join xs.collapse ys.collapse).amountAt? t =
      Option.merge (· + ·) (xs.gridded.amountAt? t) (ys.gridded.amountAt? t) := by
    rw [amountAt?_join (ordered_collapse xs) (ordered_collapse ys), amountAt?_collapse,
      amountAt?_collapse]
  refine ⟨⟨hordered.numbers, hordered.ascending⟩, fun z hz => ?_, fun x hmem hzero hnan => ?_,
    fun z hz => ?_, ?_⟩
  · obtain ⟨w, hw, hwz⟩ := exists_gridded_of_mem_join hz
    obtain ⟨x, hx, hdated, rfl⟩ := mem_gridded.mp hw
    exact ⟨x, hx, hdated, hwz.symm⟩
  · have hgrid : (quantize x.time gridWidth).isNaN = false := isNaN_quantize hnan
    have hself : (x.onGrid.time == quantize x.time gridWidth) = true :=
      (beq_iff_rank hgrid hgrid).mpr rfl
    have hside {s : Series Float} (hxs : x ∈ s) :
        s.gridded.amountAt? (quantize x.time gridWidth) ≠ none := fun hnone =>
      amountAt?_eq_none_iff.mp hnone _ (mem_gridded.mpr ⟨x, hxs, ⟨hzero, hnan⟩, rfl⟩) hself
    by_contra hnot
    simp only [not_exists, not_and] at hnot
    have hnone := amountAt?_eq_none_iff.mpr hnot
    rw [hamount, Option.merge_eq_none_iff] at hnone
    rcases List.mem_append.mp hmem with hmem | hmem
    · exact hside hmem hnone.1
    · exact hside hmem hnone.2
  · rw [← hamount, hordered.amountAt?_eq hz]
  · rw [joinLoop_eq [] (Nat.zero_le _) (Nat.zero_le _), List.nil_append, List.drop_zero,
      List.drop_zero]

theorem merge_outer_join_sample :
    let xs : Series Float := [⟨31, 1⟩, ⟨0, 9⟩, ⟨-3, 2⟩, ⟨0 / 0, 7⟩, ⟨1 / 0, 4⟩, ⟨28, 5⟩]
    let ys : Series Float := [⟨3, 0.5⟩, ⟨26, 8⟩]
    xs ≠ [] ∧ ys ≠ [] ∧ xs.merge ys = [⟨-0.0, 2.5⟩, ⟨30, 14⟩, ⟨1 / 0, 4⟩] ∧
      ((xs.merge ys).Pairwise fun a b => a.time < b.time) ∧
      xs.gridded.amountAt? 30 = some 6 ∧ ys.gridded.amountAt? 30 = some 8 ∧
      joinLoop xs.collapse ys.collapse 0 0 [] = some (xs.merge ys) := by
  intro xs ys
  have hx : xs ≠ [] := List.cons_ne_nil _ _
  have hy : ys ≠ [] := List.cons_ne_nil _ _
  obtain ⟨⟨-, hascending⟩, -, -, -, hloop⟩ := merge_outer_join xs ys hx hy
  refine ⟨hx, hy, ?_, hascending, by decide +kernel, by decide +kernel, hloop⟩
  decide +kernel

end Orders

end Series

end Chargeback
