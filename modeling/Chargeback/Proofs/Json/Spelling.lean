import Mathlib.Data.List.Forall2
import Chargeback.Proofs.Json.Lexing
import Chargeback.Proofs.Json.Tokens

/-!
# Written values read back

A written value is read as its tokens (`reads_compact`, `reads_pretty`), and these are put together
to the value again: what is written reads back (`parse?_compact`, `parse?_pretty`). Numbers are the
one kind of token that does not show where it ends, so texts are read as tokens only up to a
character of which no numbers are made (`Token.Reads`).
-/

namespace Chargeback.Json

namespace Token

variable {acc : List Token} {c : Char} {cs rest : List Char} {t : Token} {ts : List Token}

/-! ## Texts that are read as tokens -/

/-- A text is read as a row of tokens, whatever has been read before it, up to where a number may
end. -/
def Reads (cs : List Char) (ts : List Token) : Prop :=
  ∀ (acc : List Token) (rest : List Char), Stops isNumeric rest →
    lex acc (cs ++ rest) = lex (ts.reverse ++ acc) rest

/-- A character that is a token by itself. -/
structure IsMark (c : Char) (t : Token) : Prop where
  isSpace : isSpace c = false
  isNumeric : isNumeric c = false
  next? (cs : List Char) : next? (c :: cs) = some (t, cs)

theorem isMark_openArray : IsMark '[' .openArray := ⟨rfl, rfl, fun _ => rfl⟩
theorem isMark_closeArray : IsMark ']' .closeArray := ⟨rfl, rfl, fun _ => rfl⟩
theorem isMark_openObject : IsMark '\x7b' .openObject := ⟨rfl, rfl, fun _ => rfl⟩
theorem isMark_closeObject : IsMark '\x7d' .closeObject := ⟨rfl, rfl, fun _ => rfl⟩
theorem isMark_comma : IsMark ',' .comma := ⟨rfl, rfl, fun _ => rfl⟩
theorem isMark_colon : IsMark ':' .colon := ⟨rfl, rfl, fun _ => rfl⟩

theorem IsMark.lex (h : IsMark c t) : lex acc (c :: cs) = Token.lex (t :: acc) cs :=
  lex_cons h.isSpace (h.next? cs)

theorem IsMark.stops (h : IsMark c t) : Stops Token.isNumeric (c :: cs) := stops_cons h.isNumeric

/-- A word of the grammar. -/
theorem reads_null : Reads "null".toList [.null] := fun _ _ _ => lex_cons rfl rfl

theorem reads_bool (b : Bool) : Reads (if b then "true" else "false").toList [.bool b] := by
  cases b <;> exact fun _ _ _ => lex_cons rfl rfl

theorem reads_number {literal : String} (h : isNumber literal.toList = true) :
    Reads literal.toList [.number literal] := by
  intro acc rest hrest
  have hnext : next? (literal.toList ++ rest) = some (.number literal, rest) := by
    rw [next?_number h hrest, String.ofList_toList]
  have hnumeric : ∀ c ∈ literal.toList, isNumeric c = true := isNumeric_of_isNumber h
  generalize literal.toList = cs at h hnext hnumeric
  cases cs with
  | nil => exact absurd h (by decide)
  | cons c cs => exact lex_cons (isSpace_of_isNumeric (hnumeric c (List.mem_cons_self ..))) hnext

theorem lex_quote (s : String) (acc : List Token) (rest : List Char) :
    lex acc ((quote s).toList ++ rest) = lex (.text (some s) :: acc) rest := by
  have hquote : (quote s).toList ++ rest = '"' :: (s.toList.flatMap escaped ++ '"' :: rest) := by
    simp [quote]
  have hnext : next? ('"' :: (s.toList.flatMap escaped ++ '"' :: rest)) =
      some (.text (some s), rest) := by
    simp only [next?, string?_escaped, Option.map_some, wholeString?_all, String.ofList_toList]
  rw [hquote, lex_cons rfl hnext]

theorem stops_append {blanks : List Char} (h : ∀ c ∈ blanks, isSpace c = true)
    (hcs : Stops isNumeric cs) : Stops isNumeric (blanks ++ cs) := by
  cases blanks with
  | nil => exact hcs
  | cons c blanks =>
    have hc : isSpace c = true := (List.forall_mem_cons.mp h).1
    refine stops_cons (Bool.eq_false_iff.mpr fun hnumeric => ?_)
    rw [isSpace_of_isNumeric hnumeric] at hc
    cases hc

/-! ## Containers -/

variable {blanks blanks' : List Char}

/-- Texts with commas between them, each followed by blanks. -/
theorem reads_row {css : List (List Char)} {tss : List (List Token)}
    (h : List.Forall₂ Reads css tss) (hblanks : ∀ c ∈ blanks, isSpace c = true) :
    Reads ((',' :: blanks).intercalate css) ([.comma].intercalate tss) := by
  induction h with
  | nil => exact fun _ _ _ => rfl
  | @cons cs ts css tss hcs hcss ih =>
    cases hcss with
    | nil => simpa using hcs
    | @cons ds us dss uss =>
      intro acc rest hrest
      rw [List.intercalate_cons_cons, List.intercalate_cons_cons, List.append_assoc,
        List.append_assoc, List.cons_append, hcs _ _ isMark_comma.stops, isMark_comma.lex,
        lex_blanks hblanks, ih _ _ hrest]
      simp

theorem reads_enclosed {o d : Char} {t' u : Token} (ho : IsMark o t') (hd : IsMark d u)
    (h : Reads cs ts) (hblanks : ∀ c ∈ blanks, isSpace c = true)
    (hblanks' : ∀ c ∈ blanks', isSpace c = true) :
    Reads (o :: (blanks ++ cs ++ blanks' ++ [d])) (t' :: (ts ++ [u])) := by
  intro acc rest _
  have hend : Stops isNumeric (blanks' ++ d :: rest) := stops_append hblanks' hd.stops
  rw [List.cons_append, ho.lex, List.append_assoc, List.append_assoc, List.append_assoc,
    lex_blanks hblanks, List.singleton_append, h _ _ hend, lex_blanks hblanks', hd.lex]
  simp

theorem reads_member (k : String) (h : Reads cs ts) (hblanks : ∀ c ∈ blanks, isSpace c = true) :
    Reads ((quote k).toList ++ ':' :: (blanks ++ cs)) (.text (some k) :: .colon :: ts) := by
  intro acc rest hrest
  rw [List.append_assoc, lex_quote, List.cons_append, isMark_colon.lex, List.append_assoc,
    lex_blanks hblanks, h _ _ hrest]
  simp

end Token

open Token

/-! ## Values -/

theorem forall₂_itemTokens {w : Json → String} {items : List Json}
    (h : ∀ v ∈ items, Reads (w v).toList v.tokens) :
    List.Forall₂ Reads ((items.map w).map String.toList) (itemTokens items) := by
  induction items with
  | nil => exact .nil
  | cons v items ih =>
    obtain ⟨hv, hitems⟩ := List.forall_mem_cons.mp h
    exact .cons hv (ih hitems)

/-- A member as it is written, with blanks after the colon. -/
def memberText (blanks : String) (w : Json → String) (m : String × Json) : String :=
  quote m.1 ++ ":" ++ blanks ++ w m.2

theorem forall₂_memberTokens {blanks : String} (hblanks : ∀ c ∈ blanks.toList, isSpace c = true)
    {w : Json → String} {members : List (String × Json)}
    (h : ∀ m ∈ members, Reads (w m.2).toList m.2.tokens) :
    List.Forall₂ Reads ((members.map (memberText blanks w)).map String.toList)
      (memberTokens members) := by
  induction members with
  | nil => exact .nil
  | cons m members ih =>
    obtain ⟨hm, hmembers⟩ := List.forall_mem_cons.mp h
    have hmember : Reads (memberText blanks w m).toList
        (.text (some m.1) :: .colon :: m.2.tokens) := by
      simpa [memberText] using reads_member m.1 hm hblanks
    exact .cons hmember (ih hmembers)

/-! ### On one line -/

theorem compactItems_eq_map (items : List Json) : compactItems items = items.map compact := by
  induction items with
  | nil => rfl
  | cons v items ih => rw [compactItems, ih, List.map_cons]

theorem compactMembers_eq_map (members : List (String × Json)) :
    compactMembers members = members.map (memberText "" compact) := by
  induction members with
  | nil => rfl
  | cons m members ih =>
    rw [compactMembers, ih, List.map_cons, memberText, String.append_empty]

/-- **A value on one line is read as its tokens.** -/
theorem reads_compact {v : Json} (h : v.IsSpelled) : Reads v.compact.toList v.tokens := by
  have hnone : ∀ c ∈ ([] : List Char), isSpace c = true := by simp
  induction h with
  | null => exact reads_null
  | bool b => exact reads_bool b
  | number h => exact reads_number h
  | string s => exact fun acc rest _ => lex_quote s acc rest
  | array _ ih =>
    have hrow := reads_row (forall₂_itemTokens ih) hnone
    simpa [compact, tokens, compactItems_eq_map] using
      reads_enclosed isMark_openArray isMark_closeArray hrow hnone hnone
  | object _ ih =>
    have hempty : ∀ c ∈ ("" : String).toList, isSpace c = true := by simp
    have hrow := reads_row (forall₂_memberTokens hempty ih) hnone
    simpa [compact, tokens, compactMembers_eq_map] using
      reads_enclosed isMark_openObject isMark_closeObject hrow hnone hnone

/-! ### Over several lines -/

theorem prettyItems_eq_map (level : Nat) (items : List Json) :
    prettyItems level items = items.map (pretty level) := by
  induction items with
  | nil => rfl
  | cons v items ih => rw [prettyItems, ih, List.map_cons]

theorem prettyMembers_eq_map (level : Nat) (members : List (String × Json)) :
    prettyMembers level members = members.map (memberText " " (pretty level)) := by
  induction members with
  | nil => rfl
  | cons m members ih =>
    have hcolon : (": " : String) = ":" ++ " " := rfl
    rw [prettyMembers, ih, List.map_cons, memberText, hcolon, ← String.append_assoc]

theorem isSpace_of_mem_newLine (level : Nat) : ∀ c ∈ (newLine level).toList, isSpace c = true := by
  intro c hc
  rw [newLine, String.toList_ofList, List.mem_cons, List.mem_replicate] at hc
  rcases hc with rfl | ⟨-, rfl⟩ <;> rfl

theorem reads_block {o d : Char} {t u : Token} {opening closing : String} {texts : List String}
    {tss : List (List Token)} (ho : IsMark o t) (hd : IsMark d u) (hopening : opening.toList = [o])
    (hclosing : closing.toList = [d]) (level : Nat)
    (h : List.Forall₂ Reads (texts.map String.toList) tss) :
    Reads (block opening closing level texts).toList
      (t :: ([.comma].intercalate tss ++ [u])) := by
  have hnone : ∀ c ∈ ([] : List Char), isSpace c = true := by simp
  cases texts with
  | nil =>
    cases h
    simpa [block, hopening, hclosing] using
      reads_enclosed ho hd (reads_row .nil hnone) hnone hnone
  | cons text texts =>
    have hrow := reads_row h (isSpace_of_mem_newLine (level + 1))
    simpa [block, hopening, hclosing] using
      reads_enclosed ho hd hrow (isSpace_of_mem_newLine _) (isSpace_of_mem_newLine _)

/-- **A value over several lines is read as its tokens.** -/
theorem reads_pretty {v : Json} (h : v.IsSpelled) (level : Nat) :
    Reads (v.pretty level).toList v.tokens := by
  have hblank : ∀ c ∈ (" " : String).toList, isSpace c = true := by simp [isSpace]
  induction h generalizing level with
  | null => exact reads_null
  | bool b => exact reads_bool b
  | number h => exact reads_number h
  | string s => exact fun acc rest _ => lex_quote s acc rest
  | array _ ih =>
    rw [pretty, tokens, prettyItems_eq_map]
    exact reads_block isMark_openArray isMark_closeArray rfl rfl level
      (forall₂_itemTokens fun v hv => ih v hv (level + 1))
  | object _ ih =>
    rw [pretty, tokens, prettyMembers_eq_map]
    exact reads_block isMark_openObject isMark_closeObject rfl rfl level
      (forall₂_memberTokens hblank fun m hm => ih m hm (level + 1))

/-! ## Reading back -/

/-- A text is read as the value of its tokens, whatever blanks come after them. -/
theorem parse?_of_reads {text : String} {cs blanks : List Char} {v : Json} (h : v.IsSpelled)
    (hreads : Reads cs v.tokens) (hblanks : ∀ c ∈ blanks, isSpace c = true)
    (htext : text.toList = cs ++ blanks) : parse? text = some v := by
  have hstops : Stops isNumeric blanks := by
    simpa using stops_append hblanks stops_nil
  have hlex : lex [] text.toList = some v.tokens := by
    rw [htext, hreads [] blanks hstops, ← List.append_nil blanks, lex_blanks hblanks, lex_eq]
    simp
  rw [parse?, hlex, Option.bind_some, ofTokens?_tokens h]

/-- **What is written on one line reads back.** -/
theorem parse?_compact {v : Json} (h : v.IsSpelled) : parse? v.compact = some v :=
  parse?_of_reads h (reads_compact h) (List.forall_mem_nil _) (List.append_nil _).symm

/-- **What is written over several lines reads back.** -/
theorem parse?_pretty {v : Json} (h : v.IsSpelled) (level : Nat) :
    parse? (v.pretty level) = some v :=
  parse?_of_reads h (reads_pretty h level) (List.forall_mem_nil _) (List.append_nil _).symm

end Chargeback.Json
