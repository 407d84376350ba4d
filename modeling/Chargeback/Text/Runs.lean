/-!
# Runs of characters

Texts are read run by run: the longest run of characters of a class is taken off the front. A reader
that takes off a run which is not empty comes closer to the end.
-/

namespace Chargeback

variable {p : Char → Bool} {cs : List Char}

theorem length_dropWhile_le : (cs.dropWhile p).length ≤ cs.length :=
  (List.dropWhile_sublist p).length_le

theorem length_dropWhile_lt (h : cs.takeWhile p ≠ []) :
    (cs.dropWhile p).length < cs.length := by
  have := congrArg List.length (List.takeWhile_append_dropWhile (p := p) (l := cs))
  have := List.length_pos_iff.mpr h
  simp only [List.length_append] at *
  omega

end Chargeback
