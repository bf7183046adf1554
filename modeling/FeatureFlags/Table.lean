/-!
# Tables

A table maps keys to values and remembers the order in which its keys were first put. Putting a
key that is there replaces its value where it stands. That no key occurs twice is part of the
type.
-/

namespace FeatureFlags

/-- A map with distinct keys in the order they were first put. -/
structure Table (κ α : Type) where
  entries : List (κ × α)
  nodup_keys : (entries.map Prod.fst).Nodup

namespace Table

variable {κ α : Type} [DecidableEq κ]

/-- The pairs after `k` is given the value `a`. -/
def putEntry (k : κ) (a : α) : List (κ × α) → List (κ × α)
  | [] => [(k, a)]
  | (k', b) :: rest => if k' = k then (k, a) :: rest else (k', b) :: putEntry k a rest

theorem keys_putEntry (k : κ) (a : α) (l : List (κ × α)) :
    (putEntry k a l).map Prod.fst =
      if k ∈ l.map Prod.fst then l.map Prod.fst else l.map Prod.fst ++ [k] := by
  induction l with
  | nil => rfl
  | cons e rest ih =>
    obtain ⟨k', b⟩ := e
    by_cases h : k' = k
    · subst h; simp [putEntry]
    · have h' : ¬ k = k' := fun e => h e.symm
      simp only [putEntry, if_neg h, List.map_cons, ih, List.mem_cons, h', false_or]
      split <;> simp

theorem nodup_putEntry {k : κ} {a : α} {l : List (κ × α)} (h : (l.map Prod.fst).Nodup) :
    ((putEntry k a l).map Prod.fst).Nodup := by
  rw [keys_putEntry]
  split
  · exact h
  · rename_i hk
    refine List.nodup_append.2 ⟨h, by simp, ?_⟩
    intro x hx y hy e
    simp only [List.mem_singleton] at hy
    exact hk (hy ▸ e ▸ hx)

def empty : Table κ α := ⟨[], List.nodup_nil⟩

instance : Inhabited (Table κ α) := ⟨empty⟩

/-- The value of a key. -/
def get? (t : Table κ α) (k : κ) : Option α :=
  (t.entries.find? fun e => e.1 = k).map Prod.snd

/-- Gives a key a value: in place when the key is there, else at the end. -/
def put (t : Table κ α) (k : κ) (a : α) : Table κ α :=
  ⟨putEntry k a t.entries, nodup_putEntry t.nodup_keys⟩

/-- Takes a key out; the others keep their order. -/
def erase (t : Table κ α) (k : κ) : Table κ α :=
  ⟨t.entries.filter fun e => e.1 ≠ k, (List.filter_sublist.map Prod.fst).nodup t.nodup_keys⟩

def keys (t : Table κ α) : List κ := t.entries.map Prod.fst

def values (t : Table κ α) : List α := t.entries.map Prod.snd

/-- The table after all pairs are put, in order. -/
def ofList (l : List (κ × α)) : Table κ α :=
  l.foldl (fun t e => t.put e.1 e.2) empty

end Table

end FeatureFlags
