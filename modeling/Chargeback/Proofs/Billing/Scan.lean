import Chargeback.Proofs.Billing.Grammar

/-!
# Scanning a window by bytes

A window can be read by a loop that keeps the rest of the text and the milliseconds so far
(`Scan.step`). Each turn looks for the byte at which the figure ends and cuts the text there, and
then does the same with the name of the unit. A text can be cut only between two characters
(`cutAt?`), and this is where a run of characters of a class ends (`cutAt?_runEnd?`). So the loop
never cuts inside a character (`Scan.iterate_step_ne_torn`), and as each turn takes at least one
character off the text it ends, with the sum of the terms if the text is a row of terms
(`Scan.exists_iterate_step`). With the grammar this says what a window is (`read_grammar`).
-/

namespace Chargeback

variable {p : Char → Bool} {cs xs ys : List Char}

/-! ## Bytes -/

/-- The length of a text in bytes. -/
def byteLength (cs : List Char) : ℕ := (cs.map Char.utf8Size).sum

/-- The byte at which the first character outside a class starts. -/
def runEnd? (p : Char → Bool) : List Char → Option ℕ
  | [] => none
  | c :: cs => if p c then (runEnd? p cs).map (c.utf8Size + ·) else some 0

/-- The text before a byte, and the text from it on, if a character starts there or the text ends
there. -/
def cutAt? : ℕ → List Char → Option (List Char × List Char)
  | 0, cs => some ([], cs)
  | _ + 1, [] => none
  | n + 1, c :: cs =>
    if c.utf8Size ≤ n + 1 then (cutAt? (n + 1 - c.utf8Size) cs).map fun r => (c :: r.1, r.2)
    else none

theorem byteLength_cons (c : Char) (cs : List Char) :
    byteLength (c :: cs) = c.utf8Size + byteLength cs := by
  rw [byteLength, List.map_cons, List.sum_cons, byteLength]

theorem byteLength_eq_zero_iff : byteLength cs = 0 ↔ cs = [] := by
  cases cs with
  | nil => exact iff_of_true rfl rfl
  | cons c cs =>
    have hpos := c.utf8Size_pos
    rw [byteLength_cons]
    exact iff_of_false (by omega) (List.cons_ne_nil c cs)

/-- A text can be cut at the end of its first characters. -/
theorem cutAt?_byteLength (xs ys : List Char) :
    cutAt? (byteLength xs) (xs ++ ys) = some (xs, ys) := by
  induction xs with
  | nil => rw [byteLength, List.map_nil, List.sum_nil, List.nil_append, cutAt?]
  | cons c xs ih =>
    obtain ⟨n, hn⟩ : ∃ n, c.utf8Size + byteLength xs = n + 1 :=
      Nat.exists_eq_succ_of_ne_zero (by have := c.utf8Size_pos; omega)
    have hrest : n + 1 - c.utf8Size = byteLength xs := by omega
    rw [byteLength_cons, hn, List.cons_append, cutAt?, if_pos (by omega), hrest, ih]
    rfl

/-- The first character outside a class starts where the first run of the class ends. -/
theorem runEnd?_eq (p : Char → Bool) (cs : List Char) :
    runEnd? p cs = if cs.dropWhile p = [] then none else some (byteLength (cs.takeWhile p)) := by
  induction cs with
  | nil => rfl
  | cons c cs ih =>
    rw [runEnd?, List.dropWhile_cons, List.takeWhile_cons, ih]
    split
    · rw [byteLength_cons]
      split <;> rfl
    · rfl

/-- **A text is cut between two characters** where a run of a class ends. -/
theorem cutAt?_runEnd? {n : ℕ} (h : runEnd? p cs = some n) :
    cutAt? n cs = some (cs.takeWhile p, cs.dropWhile p) := by
  rw [runEnd?_eq] at h
  split at h
  · cases h
  · obtain rfl := Option.some.inj h
    have hcut := cutAt?_byteLength (cs.takeWhile p) (cs.dropWhile p)
    rwa [List.takeWhile_append_dropWhile] at hcut

theorem dropWhile_eq_nil_of_runEnd? (h : runEnd? p cs = none) : cs.dropWhile p = [] := by
  rw [runEnd?_eq] at h
  by_contra hne
  rw [if_neg hne] at h
  cases h

/-- A text is cut between two characters, or at its end, if the whole text is a run. -/
theorem cutAt?_runEnd?_getD (p : Char → Bool) (cs : List Char) :
    cutAt? ((runEnd? p cs).getD (byteLength cs)) cs = some (cs.takeWhile p, cs.dropWhile p) := by
  cases h : runEnd? p cs with
  | some n => exact cutAt?_runEnd? h
  | none =>
    have hnil := dropWhile_eq_nil_of_runEnd? h
    have hall := List.takeWhile_append_dropWhile (p := p) (l := cs)
    rw [hnil, List.append_nil] at hall
    have hcut := cutAt?_byteLength cs []
    rw [List.append_nil] at hcut
    rw [Option.getD_none, hcut, hall, hnil]

namespace Window

/-! ## The loop -/

/-- Where the loop stands. -/
inductive Scan where
  /-- The rest of the text is to be read; `total` milliseconds have been. -/
  | reading (rest : List Char) (total : Float)
  | finished (total : Float)
  | refused
  /-- The text was cut inside a character, or beyond its end. -/
  | torn

namespace Scan

/-- One turn of the loop: a figure and the name of a unit. -/
def step : Scan → Scan
  | reading rest total =>
    if rest = [] then finished total
    else
      match runEnd? isNumeric rest with
      | none => refused
      | some figureEnd =>
        if figureEnd = 0 then refused
        else
          match cutAt? figureEnd rest with
          | none => torn
          | some (figure, rest) =>
            match amount? figure with
            | none => refused
            | some amount =>
              match cutAt? ((runEnd? (!isNumeric ·) rest).getD (byteLength rest)) rest with
              | none => torn
              | some (name, rest) =>
                match TimeUnit.ofName? (String.ofList name) with
                | none => refused
                | some unit => reading rest (total + Term.milliseconds ⟨amount, unit⟩)
  | s => s

variable {rest : List Char} {total : Float}

theorem step_nil (total : Float) : (reading [] total).step = finished total := by
  rw [step, if_pos rfl]

/-- **One turn** takes a term off the text, or refuses a text that is not split into terms. -/
theorem step_cases (hne : rest ≠ []) (total : Float) :
    ((reading rest total).step = refused ∧ terms? rest = none) ∨
      ∃ term rest', (reading rest total).step = reading rest' (total + term.milliseconds) ∧
        terms? rest = (terms? rest').map (term :: ·) ∧ rest'.length < rest.length := by
  rw [step, if_neg hne, terms?, if_neg hne]
  cases hend : runEnd? isNumeric rest with
  | none =>
    -- the text ends after a figure, and no unit has an empty name
    have hnil := dropWhile_eq_nil_of_runEnd? hend
    refine .inl ⟨rfl, ?_⟩
    split
    · rfl
    · rw [hnil]
      cases amount? (rest.takeWhile isNumeric) <;> rfl
  | some figureEnd =>
    dsimp only
    rw [cutAt?_runEnd? hend]
    dsimp only
    split
    · next hzero =>
      -- there is no figure at all
      have hfigure : rest.takeWhile isNumeric = [] := by
        rw [runEnd?_eq] at hend
        split at hend
        · cases hend
        · rw [← byteLength_eq_zero_iff, Option.some.inj hend, hzero]
      exact .inl ⟨rfl, by rw [dif_pos hfigure]⟩
    · next hzero =>
      have hfigure : rest.takeWhile isNumeric ≠ [] := by
        intro hnil
        rw [runEnd?_eq, hnil] at hend
        split at hend
        · cases hend
        · exact hzero (Option.some.inj hend).symm
      rw [dif_neg hfigure]
      cases amount? (rest.takeWhile isNumeric) with
      | none => exact .inl ⟨rfl, rfl⟩
      | some amount =>
        dsimp only
        rw [cutAt?_runEnd?_getD]
        dsimp only
        cases TimeUnit.ofName? (String.ofList
            ((rest.dropWhile isNumeric).takeWhile fun c => !isNumeric c)) with
        | none => exact .inl ⟨rfl, rfl⟩
        | some unit =>
          refine .inr ⟨⟨amount, unit⟩, _, rfl, rfl, ?_⟩
          exact Nat.lt_of_le_of_lt length_dropWhile_le (length_dropWhile_lt hfigure)

theorem step_ne_torn {s : Scan} (h : s ≠ torn) : s.step ≠ torn := by
  cases s with
  | reading rest total =>
    by_cases hnil : rest = []
    · rw [hnil, step_nil]
      exact nofun
    · rcases step_cases hnil total with ⟨hstep, -⟩ | ⟨_, _, hstep, -⟩ <;> rw [hstep] <;> exact nofun
  | finished total => exact nofun
  | refused => exact nofun
  | torn => exact absurd rfl h

/-- **The loop never cuts inside a character.** -/
theorem iterate_step_ne_torn (rest : List Char) (total : Float) (n : ℕ) :
    step^[n] (reading rest total) ≠ torn := by
  induction n with
  | zero => exact nofun
  | succ n ih =>
    rw [Function.iterate_succ_apply']
    exact step_ne_torn ih

/-- **The loop ends** after at most one turn more than the text has characters, with the sum of the
terms or with a refusal. -/
theorem exists_iterate_step (rest : List Char) (total : Float) :
    ∃ n ≤ rest.length + 1, step^[n] (reading rest total) =
      (terms? rest).elim refused fun ts =>
        finished (ts.foldl (fun acc t => acc + t.milliseconds) total) := by
  generalize hlength : rest.length = length
  induction length using Nat.strong_induction_on generalizing rest total with
  | _ length ih =>
    by_cases hnil : rest = []
    · refine ⟨1, by omega, ?_⟩
      rw [hnil, Function.iterate_one, step_nil, terms?, if_pos rfl]
      rfl
    · rcases step_cases hnil total with ⟨hstep, hterms⟩ | ⟨term, rest', hstep, hterms, hlt⟩
      · refine ⟨1, by omega, ?_⟩
        rw [Function.iterate_one, hstep, hterms]
        rfl
      · obtain ⟨n, hn, hend⟩ := ih _ (hlength ▸ hlt) rest' (total + term.milliseconds) rfl
        refine ⟨n + 1, by omega, ?_⟩
        rw [Function.iterate_succ_apply, hstep, hend, hterms]
        cases terms? rest' <;> rfl

end Scan

/-! ## What a window is -/

/-- `t` is the text without the blanks at its ends. -/
structure IsTrimmed (cs t : List Char) : Prop where
  ends : ∃ lead trail, cs = lead ++ t ++ trail ∧ ∀ c ∈ lead ++ trail, isBlank c = true
  head : ∀ c ∈ t.head?, isBlank c = false
  last : ∀ c ∈ t.getLast?, isBlank c = false

theorem isBlank_head_dropWhile {c : Char} (h : c ∈ (cs.dropWhile isBlank).head?) :
    isBlank c = false := by
  have hnot := List.head?_dropWhile_not isBlank cs
  rw [Option.mem_def.mp h] at hnot
  simpa using hnot

theorem isTrimmed_trimBlanks (cs : List Char) : IsTrimmed cs (trimBlanks cs) := by
  generalize hu : cs.dropWhile isBlank = u
  have hcs : cs.takeWhile isBlank ++ u = cs := by
    rw [← hu, List.takeWhile_append_dropWhile]
  have ht : trimBlanks cs = (u.reverse.dropWhile isBlank).reverse := by rw [trimBlanks, hu]
  have hsplit : trimBlanks cs ++ (u.reverse.takeWhile isBlank).reverse = u := by
    rw [ht, ← List.reverse_append, List.takeWhile_append_dropWhile, List.reverse_reverse]
  refine ⟨⟨cs.takeWhile isBlank, (u.reverse.takeWhile isBlank).reverse, ?_, ?_⟩, ?_, ?_⟩
  · rw [List.append_assoc, hsplit, hcs]
  · intro c hc
    rcases List.mem_append.mp hc with hc | hc
    · exact List.mem_takeWhile_imp hc
    · exact List.mem_takeWhile_imp (List.mem_reverse.mp hc)
  · -- what is left starts with the first character after the blanks at the front
    intro c hc
    have hhead : c ∈ u.head? := by
      rw [← hsplit]
      cases h : trimBlanks cs with
      | nil => rw [h] at hc; cases hc
      | cons d ds => rw [h] at hc; exact hc
    exact isBlank_head_dropWhile (hu ▸ hhead)
  · intro c hc
    rw [ht, List.getLast?_reverse] at hc
    exact isBlank_head_dropWhile hc

/-- **What a window is.** A text is read as a window exactly if, blanks at its ends aside, it is a
row of one or more terms, each a figure and the name of a unit, whose milliseconds add up from left
to right to a positive finite number; the window has the whole number of milliseconds nearest to it,
a half going up, or the greatest signed 64-bit number of them. There is one way only to see a text
as a row of terms, and the fault of any other text carries the text as it was given. The loop that
reads the text by bytes never cuts it inside a character, and ends with the sum of the terms or with
a refusal. -/
theorem read_grammar (s : String) :
    IsTrimmed s.toList (trimBlanks s.toList) ∧
      (∀ w, read s = .ok w ↔ ∃ items, items ≠ [] ∧ trimBlanks s.toList = textOf items ∧
        0 < totalOf items ∧ (totalOf items).isFinite = true ∧
        w.milliseconds = min ⌊Binary64.value (totalOf items) + 1 / 2⌋₊ (2 ^ 63 - 1)) ∧
      (∀ items items', trimBlanks s.toList = textOf items →
        trimBlanks s.toList = textOf items' → items = items') ∧
      (∀ fault, read s = .error fault → fault = .invalidWindow s) ∧
      (∀ n, Scan.step^[n] (.reading (trimBlanks s.toList) 0.0) ≠ .torn) ∧
      ∃ n ≤ (trimBlanks s.toList).length + 1,
        (∃ items, trimBlanks s.toList = textOf items ∧
          Scan.step^[n] (.reading (trimBlanks s.toList) 0.0) = .finished (totalOf items)) ∨
        (∀ items, trimBlanks s.toList ≠ textOf items) ∧
          Scan.step^[n] (.reading (trimBlanks s.toList) 0.0) = .refused := by
  refine ⟨isTrimmed_trimBlanks s.toList, fun w => ?_, fun items items' h h' => ?_, fun fault h => ?_,
    Scan.iterate_step_ne_torn (trimBlanks s.toList) 0.0, ?_⟩
  · rw [read_eq_ok_iff, read?_eq_some_iff]
    simp only [Binary64.isUsable_iff_pos, and_assoc]
    rfl
  · exact textOf_injective (h.symm.trans h')
  · exact (read_eq_error_iff.mp h).2
  · generalize trimBlanks s.toList = t
    obtain ⟨n, hn, hend⟩ := Scan.exists_iterate_step t 0.0
    refine ⟨n, hn, ?_⟩
    cases hterms : terms? t with
    | none =>
      refine .inr ⟨fun items h => ?_, by rw [hend, hterms]; rfl⟩
      rw [terms?_eq_some_iff.mpr ⟨items, h, rfl⟩] at hterms
      cases hterms
    | some ts =>
      obtain ⟨items, htext, rfl⟩ := terms?_eq_some_iff.mp hterms
      exact .inl ⟨items, htext, by rw [hend, hterms]; rfl⟩

example : read " 1m.5ms\n" = .ok ⟨60001⟩ := by decide +kernel

end Window

end Chargeback
