import FeatureFlags.Text.Blank
import Mathlib.Data.List.DropRight

/-!
# Trimmed and blank texts

A text is blank when nothing is left of it after its blanks are trimmed, and a trimmed text is one
that trimming leaves alone (`trim_trim`). A list that is sorted by texts is in their order
(`pairwise_mergeSort`).
-/

namespace FeatureFlags.Text

theorem trimChars_eq_nil_iff {p : Char → Bool} {cs : List Char} :
    trimChars p cs = [] ↔ ∀ c ∈ cs, p c = true := by
  unfold trimChars trimEnd
  rw [List.reverse_eq_nil_iff, List.dropWhile_eq_nil_iff]
  simp only [List.mem_reverse]
  -- what the front trim leaves is trimmed in front already
  rw [← List.dropWhile_eq_nil_iff, List.dropWhile_idempotent, List.dropWhile_eq_nil_iff]

/-- Taking off an end never uncovers the front: what is left begins as the list did. -/
theorem dropWhile_trimEnd {p : Char → Bool} {cs : List Char} (h : cs.dropWhile p = cs) :
    (trimEnd p cs).dropWhile p = trimEnd p cs := by
  have hpre : trimEnd p cs <+: cs := List.rdropWhile_prefix p cs
  rw [List.dropWhile_eq_self_iff] at h ⊢
  intro hl
  rw [hpre.getElem hl]
  exact h (Nat.lt_of_lt_of_le hl hpre.length_le)

theorem trimChars_trimChars (p : Char → Bool) (cs : List Char) :
    trimChars p (trimChars p cs) = trimChars p cs := by
  have hfront : (trimChars p cs).dropWhile p = trimChars p cs :=
    dropWhile_trimEnd (List.dropWhile_idempotent p cs)
  have hend : trimEnd p (trimEnd p (cs.dropWhile p)) = trimEnd p (cs.dropWhile p) :=
    List.rdropWhile_idempotent p _
  conv => lhs; rw [trimChars, hfront]
  exact hend

@[simp] theorem trim_trim (p : Char → Bool) (s : String) : trim p (trim p s) = trim p s := by
  simp [trim, trimChars_trimChars]

/-- A text is blank when trimming its blanks leaves nothing. -/
theorem trim_isBlank_eq_empty_iff (s : String) : trim isBlank s = "" ↔ isBlankText s = true := by
  have hempty : trim isBlank s = "" ↔ trimChars isBlank s.toList = [] := by
    rw [trim, ← String.toList_inj, String.toList_ofList]
    rfl
  rw [hempty, trimChars_eq_nil_iff, isBlankText, List.all_eq_true]

/-! ## The end that a trim leaves -/

section

variable {p : Char → Bool} {cs : List Char}

theorem trimEnd_isPrefix (p : Char → Bool) (cs : List Char) : trimEnd p cs <+: cs :=
  List.rdropWhile_prefix p cs

theorem trimEnd_eq_self_iff : trimEnd p cs = cs ↔ ∀ c ∈ cs.getLast?, p c = false := by
  have h : trimEnd p cs = cs ↔ ∀ hne : cs ≠ [], ¬ p (cs.getLast hne) = true :=
    List.rdropWhile_eq_self_iff
  rw [h]
  constructor
  · intro hlast c hc
    obtain ⟨hne, rfl⟩ := List.mem_getLast?_eq_getLast hc
    simpa using hlast hne
  · intro hlast hne
    simpa using hlast _ (List.getLast?_eq_some_getLast hne)

/-- A trimmed end is no character of the class. -/
theorem eq_false_of_mem_getLast?_trimEnd {c : Char} (h : c ∈ (trimEnd p cs).getLast?) :
    p c = false :=
  trimEnd_eq_self_iff.1 (List.rdropWhile_idempotent p cs) c h

/-- What a trim takes off is of the class. -/
theorem exists_eq_trimEnd_append (p : Char → Bool) (cs : List Char) :
    ∃ taken, cs = trimEnd p cs ++ taken ∧ ∀ c ∈ taken, p c = true :=
  ⟨cs.rtakeWhile p, List.rdropWhile_append_rtakeWhile.symm, fun _ hc => List.mem_rtakeWhile_imp hc⟩

theorem trimEnd_append_cons {kept taken : List Char} {c : Char} (hc : p c = false)
    (htaken : ∀ d ∈ taken, p d = true) : trimEnd p (kept ++ c :: taken) = kept ++ [c] := by
  have hreverse : taken.reverse.dropWhile p = [] := by
    rw [List.dropWhile_eq_nil_iff]
    intro d hd
    exact htaken d (List.mem_reverse.1 hd)
  simp [trimEnd, List.dropWhile_append, hreverse, hc]

end

/-! ## Lists in the order of a text -/

theorem pairwise_mergeSort {α : Type} (text : α → String) (l : List α) :
    (l.mergeSort fun a b => decide (text a ≤ text b)).Pairwise fun a b => text a ≤ text b := by
  have htrans : ∀ a b c : α, decide (text a ≤ text b) = true → decide (text b ≤ text c) = true →
      decide (text a ≤ text c) = true := by
    intro a b c hab hbc
    exact decide_eq_true (String.le_trans (of_decide_eq_true hab) (of_decide_eq_true hbc))
  have htotal : ∀ a b : α, (decide (text a ≤ text b) || decide (text b ≤ text a)) = true := by
    intro a b
    rw [Bool.or_eq_true, decide_eq_true_eq, decide_eq_true_eq]
    exact String.le_total (text a) (text b)
  exact (List.pairwise_mergeSort htrans htotal l).imp fun hle => of_decide_eq_true hle

end FeatureFlags.Text

namespace FeatureFlags

/-! ## Texts that are given -/

theorem given_eq_self {o : Option String} (h : ∀ s, o = some s → s ≠ "") : given o = o := by
  cases o with
  | none => rfl
  | some s => simp [given, Option.filter, h s rfl]

theorem given_eq_some_iff {o : Option String} {s : String} :
    given o = some s ↔ o = some s ∧ s ≠ "" := by
  simp [given, Option.filter_eq_some_iff]

theorem given_eq_none_iff {o : Option String} : given o = none ↔ o = none ∨ o = some "" := by
  cases o with
  | none => simp [given]
  | some s => simp [given, Option.filter]

/-- What keeps the empty text apart from the others keeps what is given. -/
theorem given_map {f : String → String} (hf : ∀ s, f s = "" ↔ s = "") (o : Option String) :
    given (o.map f) = (given o).map f := by
  cases o with
  | none => rfl
  | some s => by_cases hs : s = "" <;> simp [given, Option.filter, hf, hs]

end FeatureFlags
