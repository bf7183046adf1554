import FeatureFlags.Identifier
import FeatureFlags.Json.Reader
import Mathlib.Algebra.Group.Nat.Defs
import Mathlib.Data.List.Forall2

/-!
# Identifiers that are drawn

The identifiers of both kinds have sixteen characters: a tag of three, the separator and twelve that
are drawn. The tag tells the kind (`entityOf?_make`). What the counting stream draws for an
identifier is the last twelve digits of its number (`draw_counting`), which can be read back, so
identifiers that are issued one after the other are distinct for as long as the numbers have no more
digits than that (`nodup_issue`).
-/

namespace FeatureFlags

/-- The entity whose tag an identifier begins with. -/
def Identifier.entityOf? (id : String) : Option Entity :=
  [Entity.feature, .featureState].find? fun e =>
    (e.tag ++ usualSeparator).toList.isPrefixOf id.toList

namespace Identifier

theorem length_next (e : Entity) (issued : Nat) : (next e issued).length = 16 := by
  have htag : e.tag.length = 3 := by cases e <;> rfl
  have hseparator : usualSeparator.length = 1 := rfl
  have hdrawn : (draw counting (issued * usualLength) usualLength).length = 12 := by
    simp [draw, usualLength]
  simp [next, make, String.length_append, htag, hseparator, hdrawn]

theorem next_ne_empty (e : Entity) (issued : Nat) : next e issued ≠ "" := by
  intro h
  have hlength := length_next e issued
  rw [h] at hlength
  cases hlength

/-! ## Tags -/

theorem entityOf?_make (e : Entity) (drawn : List Char) :
    entityOf? (make e usualSeparator drawn) = some e := by
  cases e <;> simp [entityOf?, make, String.toList_append, Entity.tag, usualSeparator]

/-! ## Digits -/

/-- The last digits of a number, as they are drawn. -/
def lastDigits (width n : Nat) : List Char :=
  (List.range width).map fun i => pick (n / 10 ^ (width - 1 - i) % 10)

theorem value_pick : ∀ d < 10, (pick d).toNat - '0'.toNat = d := by
  decide

theorem pick_mem_alphabet (n : Nat) : pick n ∈ alphabet := by
  have hlt : n % alphabet.length < alphabet.length := Nat.mod_lt n (by decide)
  rw [pick, List.getD_eq_getElem?_getD, List.getElem?_eq_getElem hlt, Option.getD_some]
  exact List.getElem_mem hlt

/-- The last digit of a number stands at the end. -/
theorem lastDigits_succ (width n : Nat) :
    lastDigits (width + 1) n = lastDigits width (n / 10) ++ [pick (n % 10)] := by
  unfold lastDigits
  rw [List.range_succ, List.map_append, List.map_singleton]
  congr 1
  · refine List.map_congr_left fun i hi => ?_
    have hlt : i < width := List.mem_range.1 hi
    have hexponent : width + 1 - 1 - i = (width - 1 - i) + 1 := by omega
    rw [hexponent, Nat.pow_succ', Nat.div_div_eq_div_mul]
  · simp

theorem digitsValue_lastDigits (width n : Nat) :
    Json.digitsValue (lastDigits width n) = n % 10 ^ width := by
  induction width generalizing n with
  | zero => simp [lastDigits, Json.digitsValue, Nat.mod_one]
  | succ width ih =>
    have hlast := value_pick (n % 10) (Nat.mod_lt n (by decide))
    have hrest := ih (n / 10)
    rw [lastDigits_succ, Nat.pow_succ', Nat.mod_mul]
    unfold Json.digitsValue at hrest ⊢
    rw [List.foldl_append, hrest]
    simp only [List.foldl_cons, List.foldl_nil, hlast]
    omega

/-- The counting stream draws the digits of the number of the identifier, counted from one. -/
theorem draw_counting (issued : Nat) :
    draw counting (issued * usualLength) usualLength = lastDigits usualLength (issued + 1) := by
  unfold draw lastDigits
  refine List.map_congr_left fun i hi => ?_
  have hlt : i < 12 := List.mem_range.1 hi
  have hgroup : (issued * usualLength + i) / usualLength = issued := by
    unfold usualLength
    omega
  have hplace : (issued * usualLength + i) % usualLength = i := by
    unfold usualLength
    omega
  rw [counting, hgroup, hplace]
  rfl

/-- An identifier tells its kind and the last twelve digits of its number. -/
theorem eq_of_next_eq {e e' : Entity} {m n : Nat} (h : next e m = next e' n) :
    e = e' ∧ (m + 1) % 10 ^ usualLength = (n + 1) % 10 ^ usualLength := by
  have hentity : entityOf? (next e m) = entityOf? (next e' n) := by rw [h]
  unfold next at hentity
  rw [entityOf?_make, entityOf?_make, Option.some.injEq] at hentity
  subst hentity
  refine ⟨rfl, ?_⟩
  have hdrawn : lastDigits usualLength (m + 1) = lastDigits usualLength (n + 1) := by
    unfold next make at h
    rw [draw_counting, draw_counting, ← String.toList_inj] at h
    simpa [String.toList_append] using h
  rw [← digitsValue_lastDigits, hdrawn, digitsValue_lastDigits]

/-- Numbers that are less than the greatest of twelve digits apart do not get one identifier. -/
theorem next_ne_of_lt {e e' : Entity} {m n : Nat} (h : m < n) (hnear : n < m + 10 ^ usualLength) :
    next e m ≠ next e' n := by
  intro heq
  obtain ⟨-, hmod⟩ := eq_of_next_eq heq
  unfold usualLength at hmod hnear
  omega

/-! ## Identifiers that are issued one after the other -/

/-- The identifiers for some entities, drawn from draw number `start` of a stream on. -/
def issue (stream : Nat → Nat) : Nat → List Entity → List String
  | _, [] => []
  | start, e :: rest =>
    make e usualSeparator (draw stream start usualLength) ::
      issue stream (start + usualLength) rest

/-- An identifier of the usual form for an entity. -/
structure Names (id : String) (e : Entity) : Prop where
  parts : ∃ drawn : List Char, drawn.length = 12 ∧ (∀ c ∈ drawn, c ∈ alphabet) ∧
    id = e.tag ++ "_" ++ String.ofList drawn
  entity : entityOf? id = some e

theorem names_make (stream : Nat → Nat) (start : Nat) (e : Entity) :
    Names (make e usualSeparator (draw stream start usualLength)) e where
  parts := by
    refine ⟨draw stream start usualLength, by simp [draw, usualLength], ?_, rfl⟩
    intro c hc
    obtain ⟨i, -, rfl⟩ := List.mem_map.1 hc
    exact pick_mem_alphabet _
  entity := entityOf?_make e _

theorem issue_names (stream : Nat → Nat) (start : Nat) (entities : List Entity) :
    List.Forall₂ Names (issue stream start entities) entities := by
  induction entities generalizing start with
  | nil => exact .nil
  | cons e rest ih => exact .cons (names_make stream start e) (ih _)

theorem issue_counting_cons (k : Nat) (e : Entity) (rest : List Entity) :
    issue counting (k * usualLength) (e :: rest) =
      next e k :: issue counting ((k + 1) * usualLength) rest := by
  rw [issue, Nat.succ_mul]
  rfl

theorem exists_of_mem_issue {k : Nat} {entities : List Entity} {id : String}
    (h : id ∈ issue counting (k * usualLength) entities) :
    ∃ e j, k ≤ j ∧ j < k + entities.length ∧ id = next e j := by
  induction entities generalizing k with
  | nil => cases h
  | cons e rest ih =>
    rw [issue_counting_cons] at h
    rcases List.mem_cons.1 h with rfl | h
    · exact ⟨e, k, Nat.le_refl k, by simp, rfl⟩
    · obtain ⟨e', j, hle, hlt, rfl⟩ := ih h
      rw [List.length_cons]
      exact ⟨e', j, by omega, by omega, rfl⟩

theorem nodup_issue {k : Nat} {entities : List Entity}
    (h : entities.length ≤ 10 ^ usualLength) :
    (issue counting (k * usualLength) entities).Nodup := by
  induction entities generalizing k with
  | nil => exact List.nodup_nil
  | cons e rest ih =>
    rw [List.length_cons] at h
    rw [issue_counting_cons, List.nodup_cons]
    refine ⟨fun hmem => ?_, ih (by omega)⟩
    obtain ⟨e', j, hle, hlt, heq⟩ := exists_of_mem_issue hmem
    exact next_ne_of_lt (by omega) (by omega) heq

end Identifier

end FeatureFlags
