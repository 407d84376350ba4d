import Mathlib.Data.List.TakeWhile
import Chargeback.Text.Runs

/-!
# Where a run ends

A run of characters of a class is taken off the front of a text as a whole if what follows it does
not go on with that class (`Stops`).
-/

namespace Chargeback

variable {p : Char → Bool} {c : Char} {cs run run' rest rest' : List Char}

/-- A text does not start with a character of a class. -/
def Stops (p : Char → Bool) (cs : List Char) : Prop := ∀ c ∈ cs.head?, p c = false

theorem stops_nil : Stops p [] := by simp [Stops]

theorem stops_cons (h : p c = false) : Stops p (c :: cs) := by
  rintro _ ⟨⟩
  exact h

theorem Stops.takeWhile_append (h : Stops p rest) (hrun : ∀ c ∈ run, p c = true) :
    (run ++ rest).takeWhile p = run := by
  have hrest : rest.takeWhile p = [] := by
    cases rest with
    | nil => rfl
    | cons c rest => exact List.takeWhile_cons_of_neg (by simp [h c rfl])
  rw [List.takeWhile_append_of_pos hrun, hrest, List.append_nil]

theorem Stops.dropWhile_append (h : Stops p rest) (hrun : ∀ c ∈ run, p c = true) :
    (run ++ rest).dropWhile p = rest := by
  rw [List.dropWhile_append_of_pos hrun]
  cases rest with
  | nil => rfl
  | cons c rest => exact List.dropWhile_cons_of_neg (by simp [h c rfl])

/-- A text has one first run of a class. -/
theorem Stops.append_inj (h : run ++ rest = run' ++ rest') (hrest : Stops p rest)
    (hrest' : Stops p rest') (hrun : ∀ c ∈ run, p c = true) (hrun' : ∀ c ∈ run', p c = true) :
    run = run' ∧ rest = rest' := by
  constructor
  · rw [← hrest.takeWhile_append hrun, h, hrest'.takeWhile_append hrun']
  · rw [← hrest.dropWhile_append hrun, h, hrest'.dropWhile_append hrun']

end Chargeback
