/-!
# Journals

A computation that reports on its way returns, beside its value, the list of what it reported, in
order. `Journaled` is a monad: the journal of a sequence is the concatenation of the journals.
-/

namespace Chargeback

/-- A value, and what was reported while it was computed. -/
structure Journaled (ε β : Type) where
  value : β
  journal : List ε := []

namespace Journaled

variable {ε β γ : Type}

/-- Reports one entry. -/
def tell (e : ε) : Journaled ε Unit := ⟨(), [e]⟩

/-- Reports a list of entries. -/
def tellAll (es : List ε) : Journaled ε Unit := ⟨(), es⟩

instance : Monad (Journaled ε) where
  pure b := ⟨b, []⟩
  bind x f :=
    let y := f x.value
    ⟨y.value, x.journal ++ y.journal⟩

@[simp] theorem value_pure (b : β) : (pure b : Journaled ε β).value = b := rfl

@[simp] theorem journal_pure (b : β) : (pure b : Journaled ε β).journal = [] := rfl

@[simp] theorem value_bind (x : Journaled ε β) (f : β → Journaled ε γ) :
    (x >>= f).value = (f x.value).value := rfl

@[simp] theorem journal_bind (x : Journaled ε β) (f : β → Journaled ε γ) :
    (x >>= f).journal = x.journal ++ (f x.value).journal := rfl

@[simp] theorem value_map (f : β → γ) (x : Journaled ε β) : (f <$> x).value = f x.value := rfl

@[simp] theorem journal_map (f : β → γ) (x : Journaled ε β) : (f <$> x).journal = x.journal :=
  List.append_nil x.journal

@[simp] theorem journal_tell (e : ε) : (tell e).journal = [e] := rfl

@[simp] theorem journal_tellAll (es : List ε) : (tellAll es).journal = es := rfl

theorem value_foldlM (f : β → γ → Journaled ε β) (b : β) (cs : List γ) :
    (cs.foldlM f b).value = cs.foldl (fun b c => (f b c).value) b := by
  induction cs generalizing b with
  | nil => rfl
  | cons c cs ih => simp [ih]

instance : LawfulMonad (Journaled ε) :=
  LawfulMonad.mk' (Journaled ε) (fun _ => by simp [Functor.map]) (fun _ _ => by simp [bind, pure])
    (fun _ _ _ => by simp [bind])

@[simp] theorem value_mapM (f : β → Journaled ε γ) (bs : List β) :
    (bs.mapM f).value = bs.map fun b => (f b).value := by
  induction bs with
  | nil => rfl
  | cons b bs ih => simp [ih]

@[simp] theorem journal_mapM (f : β → Journaled ε γ) (bs : List β) :
    (bs.mapM f).journal = bs.flatMap fun b => (f b).journal := by
  induction bs with
  | nil => rfl
  | cons b bs ih => simp [ih]

end Journaled

end Chargeback
