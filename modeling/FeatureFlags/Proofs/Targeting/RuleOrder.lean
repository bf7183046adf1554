import FeatureFlags.Proofs.Targeting.Overrides

/-!
# The order of rules

`Context.le` is a linear order, so the rules of a flag stand in one order whatever order their
states came in (`rulesOfOverrides_congr`), and a document hangs on nothing but its keys and its
overrides (`compile_congr`).
-/

namespace FeatureFlags

namespace Context

theorem rank_injective {a b : ContextType} (h : rank a = rank b) : a = b := by
  cases a <;> cases b <;> first | rfl | cases h

theorem le_iff {a b : Context} :
    le a b = true ↔ rank a.type < rank b.type ∨ a.type = b.type ∧ a.id ≤ b.id := by
  unfold le
  by_cases h : rank a.type = rank b.type
  · simp [rank_injective h]
  · have hne : a.type ≠ b.type := fun e => h (congrArg rank e)
    simp [h, hne]

theorem le_total (a b : Context) : (le a b || le b a) = true := by
  rw [Bool.or_eq_true, le_iff, le_iff]
  rcases Nat.lt_trichotomy (rank a.type) (rank b.type) with h | h | h
  · exact .inl (.inl h)
  · have e := rank_injective h
    rcases String.le_total a.id b.id with hid | hid
    · exact .inl (.inr ⟨e, hid⟩)
    · exact .inr (.inr ⟨e.symm, hid⟩)
  · exact .inr (.inl h)

theorem le_trans (a b c : Context) (hab : le a b = true) (hbc : le b c = true) :
    le a c = true := by
  rw [le_iff] at *
  rcases hab with hab | ⟨tab, hab⟩ <;> rcases hbc with hbc | ⟨tbc, hbc⟩
  · exact .inl (Nat.lt_trans hab hbc)
  · exact .inl (tbc ▸ hab)
  · exact .inl (tab ▸ hbc)
  · exact .inr ⟨tab.trans tbc, String.le_trans hab hbc⟩

theorem le_antisymm {a b : Context} (hab : le a b = true) (hba : le b a = true) : a = b := by
  obtain ⟨ta, ia⟩ := a
  obtain ⟨tb, ib⟩ := b
  rw [le_iff] at *
  rcases hab with hab | ⟨tab, hab⟩ <;> rcases hba with hba | ⟨tba, hba⟩
  · simp only at hab hba; omega
  · simp only at tba hab; subst tba; omega
  · simp only at tab hba; subst tab; omega
  · simp only at tab; subst tab
    exact congrArg _ (String.le_antisymm hab hba)

end Context

namespace Targeting

/-- The overrides of a flag in the order of its rules. -/
def sorted (o : Overrides) : List (Context × Bool) :=
  o.entries.mergeSort fun a b => Context.le a.1 b.1

theorem rulesOfOverrides_eq (o : Overrides) :
    rulesOfOverrides o = (sorted o).map fun e => Rule.ofContext e.1 e.2 := rfl

theorem sorted_perm (o : Overrides) : (sorted o).Perm o.entries := List.mergeSort_perm _ _

theorem mem_sorted {o : Overrides} {c : Context} {b : Bool} :
    (c, b) ∈ sorted o ↔ o.get? c = some b := by
  rw [(sorted_perm o).mem_iff, Table.get?_eq_some_iff]

theorem pairwise_sorted (o : Overrides) :
    (sorted o).Pairwise fun a b => Context.le a.1 b.1 = true :=
  List.pairwise_mergeSort (fun a b c => Context.le_trans a.1 b.1 c.1)
    (fun a b => Context.le_total a.1 b.1) o.entries

/-- The order is the only one in which the overrides are sorted. -/
theorem sorted_eq {o : Overrides} {l : List (Context × Bool)} (hperm : l.Perm o.entries)
    (hl : l.Pairwise fun a b => Context.le a.1 b.1 = true) : sorted o = l := by
  refine ((sorted_perm o).trans hperm.symm).eq_of_pairwise ?_ (pairwise_sorted o) hl
  -- equal contexts have equal values, since both are read off one table
  rintro ⟨c, b⟩ ⟨c', b'⟩ hm hm' hle hle'
  obtain rfl : c = c' := Context.le_antisymm hle hle'
  have hb := mem_sorted.1 hm
  have hb' := Table.get?_eq_some_iff.2 (hperm.mem_iff.1 hm')
  rw [hb] at hb'
  cases hb'
  rfl

/-- Overrides that are the same for every context are in the same order. -/
theorem sorted_congr {o o' : Overrides} (h : ∀ c, o.get? c = o'.get? c) : sorted o = sorted o' :=
  sorted_eq ((sorted_perm o').trans (Table.entries_perm_of_get? h).symm) (pairwise_sorted o')

theorem rulesOfOverrides_congr {o o' : Overrides} (h : ∀ c, o.get? c = o'.get? c) :
    rulesOfOverrides o = rulesOfOverrides o' := by
  rw [rulesOfOverrides_eq, rulesOfOverrides_eq, sorted_congr h]

theorem flagWith_congr {o o' : Overrides} (h : ∀ c, o.get? c = o'.get? c) :
    flagWith o = flagWith o' := by
  unfold flagWith
  rw [rulesOfOverrides_congr h, (Table.entries_perm_of_get? h).isEmpty_eq]

/-- **A document is its keys and its overrides.** -/
theorem compile_congr {features features' : List Feature} {states states' : List FeatureState}
    (hk : features.map Feature.key = features'.map Feature.key)
    (ho : ∀ key c, override? features states key c = override? features' states' key c) :
    compile features states = compile features' states' := by
  have hflag : flagOf (groupStates features states) = flagOf (groupStates features' states') := by
    funext key
    rw [flagOf_eq, flagOf_eq]
    exact flagWith_congr fun c => by rw [get?_groupStates, get?_groupStates, ho]
  have hf := compile_flags features states
  rw [hflag, hk, ← compile_flags features' states'] at hf
  exact congrArg Document.mk hf

end Targeting

end FeatureFlags
