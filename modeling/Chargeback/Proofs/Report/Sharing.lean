import Mathlib.Data.Fintype.EquivFin
import Chargeback.Proofs.Command.Stages
import Chargeback.Proofs.Names

/-!
# Which workloads are shared

A policy keeps one value for each label name, the last that was given (`Assoc.get?_ofList_eq_some_iff`).
So it recognises a workload by a configured or added namespace, or by a label whose pair is the last
of its name. Pairs add up exactly if no name is given two values (`Consistent`); only then does every
pair count, and does adding more to the policy leave the workloads shared that were
(`SharedSettings.policy_recognises`).
-/

namespace Chargeback

/-! ## The last value of a name -/

section Last

variable {β : Type} {l : List (String × β)} {p q : String × β}

/-- The pair is in the list, and no pair after it has its name. -/
def LastOf (l : List (String × β)) (p : String × β) : Prop :=
  ∃ before after, l = before ++ p :: after ∧ p.1 ∉ after.map Prod.fst

theorem LastOf.mem (h : LastOf l p) : p ∈ l := by
  obtain ⟨before, after, rfl, -⟩ := h
  exact List.mem_append_right _ List.mem_cons_self

theorem not_lastOf_nil : ¬ LastOf [] p := fun h => nomatch h.mem

theorem lastOf_append_singleton : LastOf (l ++ [q]) p ↔ p = q ∨ p.1 ≠ q.1 ∧ LastOf l p := by
  constructor
  · rintro ⟨before, after, hsplit, hafter⟩
    rcases List.eq_nil_or_concat after with rfl | ⟨after, r, rfl⟩
    · obtain ⟨-, hq⟩ := List.append_inj' hsplit rfl
      exact .inl (List.cons.inj hq).1.symm
    · rw [List.concat_eq_append, ← List.cons_append, ← List.append_assoc] at hsplit
      obtain ⟨rfl, hq⟩ := List.append_inj' hsplit rfl
      obtain rfl := (List.cons.inj hq).1
      rw [List.concat_eq_append, List.map_append, List.mem_append, not_or] at hafter
      exact .inr ⟨fun h => hafter.2 (h ▸ List.mem_singleton_self _), before, after, rfl, hafter.1⟩
  · rintro (rfl | ⟨hne, before, after, rfl, hafter⟩)
    · exact ⟨l, [], rfl, List.not_mem_nil⟩
    · refine ⟨before, after ++ [q], by rw [List.append_assoc, List.cons_append], ?_⟩
      rw [List.map_append, List.mem_append, not_or]
      exact ⟨hafter, fun h => hne (List.mem_singleton.mp h)⟩

theorem lastOf_singleton (p : String × β) : LastOf [p] p := ⟨[], [], rfl, List.not_mem_nil⟩

/-- Every name has a last pair. -/
theorem exists_lastOf (h : p ∈ l) : ∃ b, LastOf l (p.1, b) := by
  induction l using List.reverseRecOn with
  | nil => cases h
  | append_singleton l q ih =>
    by_cases hname : p.1 = q.1
    · exact ⟨q.2, lastOf_append_singleton.mpr (.inl (Prod.ext hname rfl))⟩
    · have hmem : p ∈ l := by
        rcases List.mem_append.mp h with h | h
        · exact h
        · exact absurd (congrArg Prod.fst (List.mem_singleton.mp h)) hname
      obtain ⟨b, hb⟩ := ih hmem
      exact ⟨b, lastOf_append_singleton.mpr (.inr ⟨hname, hb⟩)⟩

/-- **The value of a name** is that of its last pair. -/
theorem Assoc.get?_ofList_eq_some_iff : (Assoc.ofList l).get? p.1 = some p.2 ↔ LastOf l p := by
  induction l using List.reverseRecOn with
  | nil => exact iff_of_false nofun not_lastOf_nil
  | append_singleton l q ih =>
    have hinsert : Assoc.ofList (l ++ [q]) = (Assoc.ofList l).insert q.1 q.2 := by
      rw [Assoc.ofList, List.foldl_append]
      rfl
    rw [hinsert, Assoc.get?_insert, lastOf_append_singleton]
    split
    · next h => simp [Prod.ext_iff, h, eq_comm]
    · next h => simp [Prod.ext_iff, h, ih]

/-- No name is given two values. -/
def Consistent (l : List (String × β)) : Prop := ∀ p ∈ l, ∀ q ∈ l, p.1 = q.1 → p.2 = q.2

instance [DecidableEq β] (l : List (String × β)) : Decidable (Consistent l) :=
  inferInstanceAs (Decidable (∀ p ∈ l, ∀ q ∈ l, p.1 = q.1 → p.2 = q.2))

/-- Every pair counts exactly if no name is given two values. -/
theorem consistent_iff : Consistent l ↔ ∀ p ∈ l, LastOf l p := by
  constructor
  · intro h p hp
    obtain ⟨b, hb⟩ := exists_lastOf hp
    obtain rfl : p.2 = b := h p hp (p.1, b) hb.mem rfl
    exact hb
  · intro h p hp q hq hname
    have hp := Assoc.get?_ofList_eq_some_iff.mpr (h p hp)
    have hq := Assoc.get?_ofList_eq_some_iff.mpr (h q hq)
    rw [hname, hq] at hp
    exact (Option.some.inj hp).symm

end Last

/-! ## Policies -/

namespace SharedSettings

variable {s : SharedSettings} {enable : Bool} {namespaces namespaces' : List String}
  {selectors selectors' : List String} {p : SharingPolicy}

/-- The configured pairs of a label name and a value, and after them those added. -/
def pairs (s : SharedSettings) (selectors : List String) : List (String × String) :=
  s.labelNames.zip s.labelValues ++ selectors.filterMap (cut? '=')

/-- Whether the workload is in the namespace of the system, a configured or an added one. -/
def Hosts {α : Type} (s : SharedSettings) (namespaces : List String) (w : Workload α) : Prop :=
  w.namespaceName = systemNamespace ∨ w.namespaceName ∈ s.namespaces ∨
    w.namespaceName ∈ namespaces

/-- Whether the namespace or a label of the workload is configured or added. -/
def Names {α : Type} (s : SharedSettings) (namespaces selectors : List String) (w : Workload α) :
    Prop :=
  s.Hosts namespaces w ∨ ∃ pair ∈ s.pairs selectors, w.labels.get? pair.1 = some pair.2

theorem filterMap_of_mapM {added : List (String × String)}
    (h : selectors.mapM readSelector = .ok added) : selectors.filterMap (cut? '=') = added := by
  rw [mapM_eq_ok_iff] at h
  induction h with
  | nil => rfl
  | cons hpair _ ih => rw [List.filterMap_cons_some (Command.readSelector_eq_ok_iff.mp hpair), ih]

/-- What a policy is made of. -/
theorem policy_eq_ok (h : s.policy enable namespaces selectors = .ok p) :
    p = { enabled := s.enabled || enable
          namespaces := distinctAscending (systemNamespace :: (s.namespaces ++ namespaces))
          selectors := Assoc.ofList (s.pairs selectors) } := by
  unfold policy SharingPolicy.ofLists at h
  obtain ⟨added, hadded, h⟩ := bind_eq_ok_iff.mp h
  rw [mapError_eq_ok_iff] at h
  split at h
  · next hlength =>
    rw [List.length_append, List.length_append, List.length_map, List.length_map,
      Nat.add_right_cancel_iff] at hlength
    rw [pairs, filterMap_of_mapM hadded, ← Command.zip_append_pairs hlength]
    exact (Except.ok.inj h).symm
  · cases h

variable {α : Type}

theorem recognises_iff (h : s.policy enable namespaces selectors = .ok p) (w : Workload α) :
    p.recognises w = true ↔ s.Hosts namespaces w ∨
      ∃ pair, LastOf (s.pairs selectors) pair ∧ w.labels.get? pair.1 = some pair.2 := by
  rw [policy_eq_ok h, SharingPolicy.recognises, Bool.or_eq_true, List.contains_iff_mem,
    mem_distinctAscending, List.mem_cons, List.mem_append, List.any_eq_true]
  simp only [Assoc.mem_entries_iff, Assoc.get?_ofList_eq_some_iff, beq_iff_eq, Hosts]

theorem names_of_recognises (h : s.policy enable namespaces selectors = .ok p) {w : Workload α}
    (hw : p.recognises w = true) : s.Names namespaces selectors w := by
  refine ((recognises_iff h w).mp hw).imp_right ?_
  rintro ⟨pair, hpair, hlabel⟩
  exact ⟨pair, hpair.mem, hlabel⟩

theorem recognises_of_names (h : s.policy enable namespaces selectors = .ok p)
    (hconsistent : Consistent (s.pairs selectors)) {w : Workload α}
    (hw : s.Names namespaces selectors w) : p.recognises w = true := by
  refine (recognises_iff h w).mpr (hw.imp_right ?_)
  rintro ⟨pair, hpair, hlabel⟩
  exact ⟨pair, consistent_iff.mp hconsistent pair hpair, hlabel⟩

/-- A namespace that is not shared. -/
theorem exists_not_hosts (s : SharedSettings) (namespaces : List String) :
    ∃ name, ∀ w : Workload α, w.namespaceName = name → ¬ s.Hosts namespaces w := by
  obtain ⟨name, hname⟩ := Infinite.exists_notMem_finset
    (systemNamespace :: (s.namespaces ++ namespaces)).toFinset
  refine ⟨name, fun w hw hhosts => hname ?_⟩
  rw [List.mem_toFinset, List.mem_cons, List.mem_append, ← hw]
  exact hhosts

/-- Every pair counts only if no name is given two values. -/
theorem consistent_of_recognises (h : s.policy enable namespaces selectors = .ok p)
    (hall : ∀ w : Workload α, s.Names namespaces selectors w → p.recognises w = true) :
    Consistent (s.pairs selectors) := by
  obtain ⟨name, hname⟩ := exists_not_hosts (α := α) s namespaces
  refine consistent_iff.mpr fun pair hpair => ?_
  -- a workload with nothing but this label, in a namespace that is not shared
  let w : Workload α := { namespaceName := name, labels := Assoc.ofList [pair] }
  have hlabel : w.labels.get? pair.1 = some pair.2 :=
    Assoc.get?_ofList_eq_some_iff.mpr (lastOf_singleton pair)
  have hw := hall w (.inr ⟨pair, hpair, hlabel⟩)
  obtain ⟨q, hq, hqlabel⟩ := ((recognises_iff h w).mp hw).resolve_left (hname w rfl)
  have hmem : q ∈ [pair] := (Assoc.get?_ofList_eq_some_iff.mp hqlabel).mem
  exact List.mem_singleton.mp hmem ▸ hq

theorem Hosts.mono {w : Workload α} (hw : s.Hosts namespaces w)
    (hnamespaces : namespaces ⊆ namespaces') : s.Hosts namespaces' w :=
  hw.imp_right (.imp_right fun h => hnamespaces h)

theorem pairs_subset (s : SharedSettings) (hselectors : selectors ⊆ selectors') :
    s.pairs selectors ⊆ s.pairs selectors' := by
  intro pair hpair
  rcases List.mem_append.mp hpair with hpair | hpair
  · exact List.mem_append_left _ hpair
  · obtain ⟨selector, hselector, hcut⟩ := List.mem_filterMap.mp hpair
    exact List.mem_append_right _ (List.mem_filterMap.mpr ⟨selector, hselectors hselector, hcut⟩)

/-- **Shared workloads.** A policy recognises a workload by the namespace of the system, a configured
or an added one, or by a label with the last value that the configured pairs and the added selectors
give it. So each of these pairs counts if and only if no name is given two values. When namespaces
are added, a workload that is shared stays so; and when selectors are, as long as no name is given
two values. -/
theorem policy_recognises (h : s.policy enable namespaces selectors = .ok p) :
    (∀ w : Workload α, p.recognises w = true ↔ s.Hosts namespaces w ∨
      ∃ pair, LastOf (s.pairs selectors) pair ∧ w.labels.get? pair.1 = some pair.2) ∧
    ((∀ w : Workload α, p.recognises w = true ↔ s.Names namespaces selectors w) ↔
      Consistent (s.pairs selectors)) ∧
    (∀ enable' namespaces' selectors' p', s.policy enable' namespaces' selectors' = .ok p' →
      namespaces ⊆ namespaces' →
      selectors' = selectors ∨ selectors ⊆ selectors' ∧ Consistent (s.pairs selectors') →
      ∀ w : Workload α, p.recognises w = true → p'.recognises w = true) := by
  refine ⟨recognises_iff h, ⟨fun hall => ?_, fun hconsistent w => ?_⟩, ?_⟩
  · exact consistent_of_recognises h fun w => (hall w).mpr
  · exact ⟨names_of_recognises h, recognises_of_names h hconsistent⟩
  · rintro enable' namespaces' selectors' p' h' hnamespaces (rfl | ⟨hselectors, hconsistent⟩) w hw
    · exact (recognises_iff h' w).mpr
        (((recognises_iff h w).mp hw).imp_left fun hhosts => hhosts.mono hnamespaces)
    · refine recognises_of_names h' hconsistent ?_
      rcases names_of_recognises h hw with hhosts | ⟨pair, hpair, hlabel⟩
      · exact .inl (hhosts.mono hnamespaces)
      · exact .inr ⟨pair, s.pairs_subset hselectors hpair, hlabel⟩

/-- The workloads of one team are configured as shared. -/
def teamSettings : SharedSettings where
  labelNames := ["team"]
  labelValues := ["platform"]

/-- A workload of that team. -/
def teamWorkload : Workload Float where
  namespaceName := "shop"
  labels := Assoc.ofList [("team", "platform")]

/-- A selector of another label is added to the configured one. -/
theorem policy_recognises_tier : ∃ p, teamSettings.policy true [] ["tier=infra"] = .ok p ∧
    (∀ w : Workload Float, p.recognises w = true ↔ teamSettings.Names [] ["tier=infra"] w) ∧
    p.recognises teamWorkload = true := by
  obtain ⟨p, hp⟩ : ∃ p, teamSettings.policy true [] ["tier=infra"] = .ok p := ⟨_, rfl⟩
  have hall := (policy_recognises (α := Float) hp).2.1.mpr (by decide +kernel)
  refine ⟨p, hp, hall, (hall teamWorkload).mpr ?_⟩
  exact .inr ⟨("team", "platform"), by decide +kernel, by decide +kernel⟩

/-- **A selector that takes away**: the selector of another team is added to the configured one, and
the workloads of the first are shared no more. -/
theorem policy_recognises_overridden : ∃ p p', teamSettings.policy true [] [] = .ok p ∧
    teamSettings.policy true [] ["team=web"] = .ok p' ∧
    p.recognises teamWorkload = true ∧ p'.recognises teamWorkload = false ∧
    teamSettings.Names [] ["team=web"] teamWorkload :=
  ⟨_, _, rfl, rfl, by decide +kernel, by decide +kernel,
    .inr ⟨("team", "platform"), by decide +kernel, by decide +kernel⟩⟩

end SharedSettings

end Chargeback
