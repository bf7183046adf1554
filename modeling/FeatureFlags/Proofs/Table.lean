import FeatureFlags.Table

/-!
# What a table holds

`get?` after every operation, and `entries` in terms of `get?`. A table is its keys in order and
what it gives for them (`entries_eq_filterMap`), so nothing else is needed to compare tables.
-/

namespace FeatureFlags.Table

variable {κ α β : Type} [DecidableEq κ]

theorem find?_putEntry (k j : κ) (a : α) (l : List (κ × α)) :
    (putEntry k a l).find? (fun e => e.1 = j) =
      if j = k then some (k, a) else l.find? fun e => e.1 = j := by
  induction l with
  | nil => by_cases h : j = k <;> simp [putEntry, h, Ne.symm]
  | cons e rest ih =>
    obtain ⟨k', b⟩ := e
    by_cases hk : k' = k
    · subst hk
      by_cases hj : j = k'
      · simp [putEntry, hj]
      · simp [putEntry, hj, Ne.symm hj]
    · simp only [putEntry, if_neg hk, List.find?_cons, ih]
      by_cases hj : k' = j
      · subst hj; simp [hk]
      · simp [hj]

@[simp] theorem get?_empty (k : κ) : (empty : Table κ α).get? k = none := rfl

@[simp] theorem get?_put (t : Table κ α) (k j : κ) (a : α) :
    (t.put k a).get? j = if j = k then some a else t.get? j := by
  simp only [get?, put, find?_putEntry]
  split <;> rfl

@[simp] theorem get?_erase (t : Table κ α) (k j : κ) :
    (t.erase k).get? j = if j = k then none else t.get? j := by
  simp only [get?, erase, List.find?_filter]
  by_cases h : j = k
  · subst h
    simp
  · simp only [if_neg h]
    congr 2
    funext e
    by_cases he : e.1 = j <;> simp [he, h]

/-- What a key has after a put is what was put there, or what it had before. -/
theorem eq_or_get?_of_put {t : Table κ α} {k j : κ} {a b : α} (h : (t.put k a).get? j = some b) :
    j = k ∧ b = a ∨ j ≠ k ∧ t.get? j = some b := by
  rw [get?_put] at h
  split at h
  · rename_i e
    cases h
    exact .inl ⟨e, rfl⟩
  · rename_i e
    exact .inr ⟨e, h⟩

theorem get?_of_erase {t : Table κ α} {k j : κ} {b : α} (h : (t.erase k).get? j = some b) :
    t.get? j = some b := by
  rw [get?_erase] at h
  split at h
  · cases h
  · exact h

theorem get?_eq_some_iff {t : Table κ α} {k : κ} {a : α} :
    t.get? k = some a ↔ (k, a) ∈ t.entries := by
  obtain ⟨l, hl⟩ := t
  induction l with
  | nil => simp [get?]
  | cons e rest ih =>
    obtain ⟨k', b⟩ := e
    obtain ⟨hk', hrest⟩ := List.nodup_cons.1 hl
    by_cases h : k' = k
    · subst h
      have hout : (k', a) ∉ rest := fun hm => hk' (List.mem_map.2 ⟨(k', a), hm, rfl⟩)
      simp [get?, hout, eq_comm]
    · have := ih hrest
      simp only [get?, List.find?_cons, h, decide_false, List.mem_cons, Prod.mk.injEq, Ne.symm h,
        false_and, false_or] at this ⊢
      exact this

theorem get?_eq_none_iff {t : Table κ α} {k : κ} : t.get? k = none ↔ k ∉ t.keys := by
  simp only [get?, keys, Option.map_eq_none_iff, List.find?_eq_none, decide_eq_true_eq, List.mem_map,
    not_exists, not_and]

theorem filter_ne_of_not_mem {k : κ} {l : List (κ × α)} (h : k ∉ l.map Prod.fst) :
    (l.filter fun e => e.1 ≠ k) = l := by
  refine List.filter_eq_self.2 fun e he => decide_eq_true fun hek => ?_
  exact h (hek ▸ List.mem_map_of_mem he)

/-- Taking out a key that is not there changes nothing. -/
theorem erase_of_get?_eq_none {t : Table κ α} {k : κ} (h : t.get? k = none) : t.erase k = t := by
  have hk : k ∉ t.entries.map Prod.fst := get?_eq_none_iff.1 h
  obtain ⟨l, hl⟩ := t
  simp only [erase, filter_ne_of_not_mem hk]

theorem mem_keys {t : Table κ α} {k : κ} : k ∈ t.keys ↔ (t.get? k).isSome := by
  have := get?_eq_none_iff (t := t) (k := k)
  cases h : t.get? k <;> simp_all

theorem mem_values {t : Table κ α} {a : α} : a ∈ t.values ↔ ∃ k, t.get? k = some a := by
  simp [values, get?_eq_some_iff]

omit [DecidableEq κ] in
theorem nodup_entries (t : Table κ α) : t.entries.Nodup :=
  List.Pairwise.of_map Prod.fst (fun _ _ h e => h (congrArg Prod.fst e)) t.nodup_keys

theorem keys_put (t : Table κ α) (k : κ) (a : α) :
    (t.put k a).keys = if k ∈ t.keys then t.keys else t.keys ++ [k] := keys_putEntry k a t.entries

/-- The entries are read off the keys. -/
theorem entries_eq_filterMap (t : Table κ α) :
    t.entries = t.keys.filterMap fun k => (t.get? k).map fun a => (k, a) := by
  have key : ∀ l : List (κ × α), (∀ e ∈ l, t.get? e.1 = some e.2) →
      l = (l.map Prod.fst).filterMap fun k => (t.get? k).map fun a => (k, a) := by
    intro l hl
    induction l with
    | nil => rfl
    | cons e rest ih =>
      have he := hl e (by simp)
      simp only [List.map_cons, List.filterMap_cons, he, Option.map_some]
      rw [← ih fun e' h' => hl e' (by simp [h'])]
  exact key _ fun e he => get?_eq_some_iff.2 he

theorem values_eq_filterMap (t : Table κ α) : t.values = t.keys.filterMap t.get? := by
  rw [values, entries_eq_filterMap t, List.map_filterMap]
  congr 1
  funext k
  cases t.get? k <;> rfl

/-- Tables that give the same for every key hold the same entries, perhaps in another order. -/
theorem entries_perm_of_get? {t u : Table κ α} (hg : ∀ k, t.get? k = u.get? k) :
    t.entries.Perm u.entries := by
  refine (List.perm_ext_iff_of_nodup t.nodup_entries u.nodup_entries).2 fun e => ?_
  rw [← get?_eq_some_iff, ← get?_eq_some_iff, hg]

/-! ## Changes of one entry -/

/-- The table has got a new entry, at its end. -/
def Appends (t u : Table κ α) (k : κ) (a : α) : Prop :=
  k ∉ t.keys ∧ u.entries = t.entries ++ [(k, a)]

/-- One entry of the table has got a new value where it stands. -/
def Replaces (t u : Table κ α) (k : κ) (old new : α) : Prop :=
  ∃ before after, t.entries = before ++ (k, old) :: after ∧ u.entries = before ++ (k, new) :: after

/-- One entry of the table is gone. -/
def Removes (t u : Table κ α) (k : κ) (old : α) : Prop :=
  ∃ before after, t.entries = before ++ (k, old) :: after ∧ u.entries = before ++ after

theorem entries_put (t : Table κ α) (k : κ) (a : α) :
    (t.put k a).entries = putEntry k a t.entries := rfl

theorem entries_erase (t : Table κ α) (k : κ) :
    (t.erase k).entries = t.entries.filter fun e => e.1 ≠ k := rfl

theorem putEntry_of_not_mem {k : κ} {a : α} {l : List (κ × α)} (h : k ∉ l.map Prod.fst) :
    putEntry k a l = l ++ [(k, a)] := by
  induction l with
  | nil => rfl
  | cons e rest ih =>
    obtain ⟨j, b⟩ := e
    simp only [List.map_cons, List.mem_cons, not_or] at h
    obtain ⟨hne, hrest⟩ := h
    rw [putEntry, if_neg fun e => hne e.symm, ih hrest, List.cons_append]

theorem putEntry_append_cons {k : κ} {a b : α} {before after : List (κ × α)}
    (h : k ∉ before.map Prod.fst) :
    putEntry k a (before ++ (k, b) :: after) = before ++ (k, a) :: after := by
  induction before with
  | nil => simp [putEntry]
  | cons e rest ih =>
    obtain ⟨j, c⟩ := e
    simp only [List.map_cons, List.mem_cons, not_or] at h
    obtain ⟨hne, hrest⟩ := h
    rw [List.cons_append, putEntry, if_neg fun e => hne e.symm, ih hrest, List.cons_append]

/-- The one entry of a key stands between entries of other keys. -/
theorem split_of_get? {t : Table κ α} {k : κ} {a : α} (h : t.get? k = some a) :
    ∃ before after, t.entries = before ++ (k, a) :: after ∧ k ∉ before.map Prod.fst ∧
      k ∉ after.map Prod.fst := by
  obtain ⟨before, after, hsplit⟩ := List.append_of_mem (get?_eq_some_iff.1 h)
  have hnodup := t.nodup_keys
  rw [hsplit, List.map_append, List.map_cons, List.nodup_append, List.nodup_cons] at hnodup
  obtain ⟨-, ⟨hafter, -⟩, hdisjoint⟩ := hnodup
  exact ⟨before, after, hsplit, fun hk => hdisjoint k hk k (by simp) rfl, hafter⟩

theorem appends_put {t : Table κ α} {k : κ} (h : t.get? k = none) (a : α) :
    t.Appends (t.put k a) k a :=
  have hk : k ∉ t.keys := get?_eq_none_iff.1 h
  ⟨hk, putEntry_of_not_mem hk⟩

theorem replaces_put {t : Table κ α} {k : κ} {old : α} (h : t.get? k = some old) (new : α) :
    t.Replaces (t.put k new) k old new := by
  obtain ⟨before, after, hsplit, hbefore, -⟩ := split_of_get? h
  refine ⟨before, after, hsplit, ?_⟩
  rw [entries_put, hsplit, putEntry_append_cons hbefore]

theorem removes_erase {t : Table κ α} {k : κ} {old : α} (h : t.get? k = some old) :
    t.Removes (t.erase k) k old := by
  obtain ⟨before, after, hsplit, hbefore, hafter⟩ := split_of_get? h
  refine ⟨before, after, hsplit, ?_⟩
  rw [entries_erase, hsplit, List.filter_append, filter_ne_of_not_mem hbefore,
    List.filter_cons_of_neg (by simp), filter_ne_of_not_mem hafter]

end FeatureFlags.Table
