import Chargeback.Json.Printer
import Chargeback.Json.Reader
import Chargeback.Proofs.Text.Runs

/-!
# Reading numbers and strings

A text is split into tokens one after another (`lex_cons`), and blanks between them do not count
(`lex_blanks`). A number is the longest run of numeric characters and so ends before any other
character (`next?_number`). A written string is read up to its closing quote, character by character
(`string?_escaped`); the escape of a control character is followed by no escape that it could be
taken for a surrogate pair with (`string?_control`).
-/

namespace Chargeback.Json

namespace Token

/-! ## One token after another -/

variable {acc : List Token} {c : Char} {cs rest : List Char} {t : Token}

theorem lex_eq (acc : List Token) (cs : List Char) :
    lex acc cs =
      match cs.dropWhile isSpace with
      | [] => some acc.reverse
      | c :: rest => (next? (c :: rest)).bind fun r => lex (r.1 :: acc) r.2 := by
  rw [lex]
  split
  · next h => rw [h]
  · next c rest h =>
    rw [h]
    dsimp only
    split
    · next hnext => rw [hnext, Option.bind_some]
    · next hnext => rw [hnext, Option.bind_none]

theorem lex_cons (hc : isSpace c = false) (h : next? (c :: cs) = some (t, rest)) :
    lex acc (c :: cs) = lex (t :: acc) rest := by
  have hdrop : (c :: cs).dropWhile isSpace = c :: cs := List.dropWhile_cons_of_neg (by simp [hc])
  rw [lex_eq, hdrop]
  dsimp only
  rw [h, Option.bind_some]

theorem lex_blank (hc : isSpace c = true) : lex acc (c :: cs) = lex acc cs := by
  rw [lex_eq, lex_eq acc cs, List.dropWhile_cons_of_pos hc]

theorem lex_blanks {blanks : List Char} (h : ∀ c ∈ blanks, isSpace c = true) :
    lex acc (blanks ++ cs) = lex acc cs := by
  induction blanks with
  | nil => rfl
  | cons c blanks ih =>
    obtain ⟨hc, hblanks⟩ := List.forall_mem_cons.mp h
    rw [List.cons_append, lex_blank hc, ih hblanks]

/-! ## Numbers -/

theorem isNumeric_of_isDigit (h : c.isDigit = true) : isNumeric c = true := by
  simp [isNumeric, h]

/-- A text is numeric if what follows its leading digits is. -/
theorem isNumeric_of_dropWhile (h : ∀ c ∈ cs.dropWhile Char.isDigit, isNumeric c = true) :
    ∀ c ∈ cs, isNumeric c = true := by
  intro c hc
  rw [← List.takeWhile_append_dropWhile (p := Char.isDigit) (l := cs), List.mem_append] at hc
  exact hc.elim (fun hc => isNumeric_of_isDigit (List.mem_takeWhile_imp hc)) (h c)

theorem isNumeric_of_isExponent (h : isExponent cs = true) : ∀ c ∈ cs, isNumeric c = true := by
  cases cs with
  | nil => simp
  | cons e cs =>
    obtain ⟨he, hpower⟩ := Bool.and_eq_true_iff.mp h
    have hdigits {ds : List Char} (hds : (!ds.isEmpty && ds.all Char.isDigit) = true) :
        ∀ c ∈ ds, isNumeric c = true := fun c hc =>
      isNumeric_of_isDigit (List.all_eq_true.mp (Bool.and_eq_true_iff.mp hds).2 c hc)
    have hmark : isNumeric e = true := by
      rcases (Bool.or_eq_true _ _).mp he with he | he <;> rw [eq_of_beq he] <;> rfl
    refine List.forall_mem_cons.mpr ⟨hmark, ?_⟩
    split at hpower
    · exact List.forall_mem_cons.mpr ⟨rfl, hdigits hpower⟩
    · exact List.forall_mem_cons.mpr ⟨rfl, hdigits hpower⟩
    · exact hdigits hpower

theorem isNumeric_of_isMagnitude (h : isMagnitude cs = true) : ∀ c ∈ cs, isNumeric c = true := by
  obtain ⟨-, h⟩ := Bool.and_eq_true_iff.mp h
  apply isNumeric_of_dropWhile
  split at h
  · next rest hrest =>
    rw [hrest]
    have hexponent : isExponent (rest.dropWhile Char.isDigit) = true :=
      (Bool.and_eq_true_iff.mp h).2
    exact List.forall_mem_cons.mpr
      ⟨rfl, isNumeric_of_dropWhile (isNumeric_of_isExponent hexponent)⟩
  · exact isNumeric_of_isExponent h

/-- Numbers are made of numeric characters. -/
theorem isNumeric_of_isNumber (h : isNumber cs = true) : ∀ c ∈ cs, isNumeric c = true := by
  unfold isNumber at h
  split at h
  · exact List.forall_mem_cons.mpr ⟨rfl, isNumeric_of_isMagnitude h⟩
  · exact isNumeric_of_isMagnitude h

theorem isSpace_of_isNumeric (h : isNumeric c = true) : isSpace c = false := by
  refine Bool.eq_false_iff.mpr fun hspace => ?_
  simp only [isSpace, Bool.or_eq_true, beq_iff_eq] at hspace
  rcases hspace with ((rfl | rfl) | rfl) | rfl <;> exact absurd h (by decide)

/-- No other token starts with a numeric character. -/
theorem next?_of_isNumeric (h : isNumeric c = true) :
    next? (c :: cs) =
      if ((c :: cs).takeWhile isNumeric).isEmpty || !isNumber ((c :: cs).takeWhile isNumeric) then
        word? (c :: cs)
      else some (.number (String.ofList ((c :: cs).takeWhile isNumeric)),
        (c :: cs).dropWhile isNumeric) := by
  unfold next?
  split
  case h_8 => rfl
  all_goals
    next hcons =>
      obtain ⟨rfl, -⟩ := List.cons.inj hcons
      exact absurd h (by decide)

theorem next?_number (h : isNumber cs = true) (hrest : Stops isNumeric rest) :
    next? (cs ++ rest) = some (.number (String.ofList cs), rest) := by
  have hnumeric : ∀ c ∈ cs, isNumeric c = true := isNumeric_of_isNumber h
  have htake : (cs ++ rest).takeWhile isNumeric = cs := hrest.takeWhile_append hnumeric
  have hdrop : (cs ++ rest).dropWhile isNumeric = rest := hrest.dropWhile_append hnumeric
  cases cs with
  | nil => exact absurd h (by decide)
  | cons c cs =>
    have hc : isNumeric c = true := hnumeric c (List.mem_cons_self ..)
    rw [List.cons_append, next?_of_isNumeric hc, ← List.cons_append, htake, hdrop, h]
    rfl

/-! ## Strings -/

theorem hexDigit?_digitChar : ∀ n < 16, hexDigit? (Nat.digitChar n) = some n := by decide

theorem hexQuad?_control {n : Nat} (h : n < 0x20) :
    hexQuad? '0' '0' (Nat.digitChar (n / 16)) (Nat.digitChar (n % 16)) = some n := by
  have hhigh : hexDigit? (Nat.digitChar (n / 16)) = some (n / 16) :=
    hexDigit?_digitChar _ (by omega)
  have hlow : hexDigit? (Nat.digitChar (n % 16)) = some (n % 16) :=
    hexDigit?_digitChar _ (by omega)
  have hzero : hexDigit? '0' = some 0 := rfl
  simp only [hexQuad?, hzero, hhigh, hlow, Option.bind_eq_bind, Option.bind_some, Option.pure_def]
  congr 1
  omega

/-- The rest of a string starts with no escape of a unit, or with one of four digits. -/
def HasQuads (cs : List Char) : Prop :=
  ∀ a b c d rest, cs = '\\' :: 'u' :: a :: b :: c :: d :: rest → (hexQuad? a b c d).isSome = true

theorem hasQuads_escaped (s : List Char) : HasQuads (s.flatMap escaped ++ '"' :: rest) := by
  intro a b c d rest' h
  cases s with
  | nil => cases h
  | cons e s =>
    rw [List.flatMap_cons] at h
    unfold escaped at h
    split at h
    case h_8 hbackslash _ _ _ _ _ =>
      split at h
      · next hcontrol =>
        simp only [List.cons_append, List.cons.injEq] at h
        obtain ⟨-, -, rfl, rfl, rfl, rfl, -⟩ := h
        rw [hexQuad?_control hcontrol]
        rfl
      · exact absurd (List.cons.inj h).1 (hbackslash ·)
    all_goals simp at h

/-- A control character is read from its escape, also if another escape follows. -/
theorem string?_control {acc : List (Option Char)} (h : c.toNat < 0x20) (htail : HasQuads cs) :
    string? acc ('\\' :: 'u' :: '0' :: '0' :: Nat.digitChar (c.toNat / 16) ::
      Nat.digitChar (c.toNat % 16) :: cs) = string? (some c :: acc) cs := by
  have hhigh : isHigh c.toNat = false := by
    simp only [isHigh, Bool.and_eq_false_iff, decide_eq_false_iff_not]
    omega
  have hlow : isLow c.toNat = false := by
    simp only [isLow, Bool.and_eq_false_iff, decide_eq_false_iff_not]
    omega
  have hunit : ofUnit? c.toNat = some c := by simp [ofUnit?, hhigh, hlow]
  by_cases hpair : ∃ a b c d rest, cs = '\\' :: 'u' :: a :: b :: c :: d :: rest
  · obtain ⟨a, b, c', d, rest, rfl⟩ := hpair
    obtain ⟨m, hm⟩ := Option.isSome_iff_exists.mp (htail a b c' d rest rfl)
    rw [string?, hexQuad?_control h, hm]
    simp only [hhigh, Bool.false_and, Bool.false_eq_true, if_false, hunit]
  · rw [string?, hexQuad?_control h]
    · simp only [hunit]
    · rintro a b c' d rest rfl
      exact hpair ⟨a, b, c', d, rest, rfl⟩

/-- Any other character but the quote and the backslash stands for itself. -/
theorem string?_plain {acc : List (Option Char)} (hquote : c ≠ '"') (hbackslash : c ≠ '\\')
    (h : ¬ c.toNat < 0x20) : string? acc (c :: cs) = string? (some c :: acc) cs := by
  rw [string?, if_neg h]
  · exact hquote
  · exact fun _ _ _ _ _ _ _ _ _ hc _ => hbackslash hc
  · exact fun _ _ _ _ _ hc _ => hbackslash hc
  · exact fun _ _ hc _ => hbackslash hc

theorem string?_escaped_append {acc : List (Option Char)} (htail : HasQuads cs) :
    string? acc (escaped c ++ cs) = string? (some c :: acc) cs := by
  unfold escaped
  split
  case h_8 hquote hbackslash _ _ _ _ _ =>
    split
    · next hcontrol => exact string?_control hcontrol htail
    · next hplain => exact string?_plain hquote hbackslash hplain
  all_goals
    rw [List.cons_append, List.cons_append, List.nil_append, string?] <;> simp [shortEscape?]

/-- **A written string is read up to its closing quote.** -/
theorem string?_escaped (s : List Char) (acc : List (Option Char)) (rest : List Char) :
    string? acc (s.flatMap escaped ++ '"' :: rest) = some ((s.map some).reverse ++ acc, rest) := by
  induction s generalizing acc with
  | nil => rfl
  | cons c s ih =>
    rw [List.flatMap_cons, List.append_assoc, string?_escaped_append (hasQuads_escaped s), ih,
      List.map_cons, List.reverse_cons, List.append_assoc]
    rfl

theorem wholeString?_all (s : List Char) :
    wholeString? ((s.map some).reverse ++ []) = some (String.ofList s) := by
  have hfold : (s.map some).reverse.foldl (fun cs c => do return (← c) :: (← cs)) (some []) =
      some s := by
    rw [List.foldl_reverse]
    induction s with
    | nil => rfl
    | cons c s ih =>
      rw [List.map_cons, List.foldr_cons, ih]
      rfl
  rw [wholeString?, List.append_nil, hfold]
  rfl

end Token

end Chargeback.Json
