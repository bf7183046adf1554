import FeatureFlags.Json.Encoding

/-!
# How JSON is read

A text is read as it was written, whatever encoding its bytes might pass for, when neither of its
first two characters is zero (`sent?_eq_some`).

The depth to which lists and objects are read decides only whether a text is nested too deep. What
is read to some depth, or refused for another reason, comes out the same to every greater depth
(`read_of_le`).
-/

namespace FeatureFlags.Json

/-! ## Bytes -/

/-- Zero is a byte of the zero character alone. -/
theorem ne_zero_of_mem_utf8EncodeChar {c : Char} (h : c ≠ '\x00') :
    ∀ b ∈ String.utf8EncodeChar c, b.toNat ≠ 0 := by
  have hzero : c.val.toNat ≠ 0 := fun hzero => h (Char.ext (UInt32.toNat_inj.1 hzero))
  unfold String.utf8EncodeChar
  dsimp only
  repeat' split
  all_goals
    simp only [List.forall_mem_cons, UInt8.toNat_ofNat', List.not_mem_nil, false_imp_iff,
      implies_true, and_true]
    omega

theorem bytesOf_cons (c : Char) (cs : List Char) :
    bytesOf (c :: cs) = (String.utf8EncodeChar c).map UInt8.toNat ++ bytesOf cs := by
  rw [bytesOf, List.flatMap_cons, List.map_append]
  rfl

/-- The bytes of a text start with one that is not zero, when its first character is not. -/
theorem exists_bytesOf_cons {c : Char} (h : c ≠ '\x00') (cs : List Char) :
    ∃ b bytes, b ≠ 0 ∧ (∀ b ∈ bytes, b ≠ 0) ∧ bytesOf (c :: cs) = b :: bytes ++ bytesOf cs := by
  have hall : ∀ b ∈ (String.utf8EncodeChar c).map UInt8.toNat, b ≠ 0 :=
    List.forall_mem_map.2 (ne_zero_of_mem_utf8EncodeChar h)
  rw [bytesOf_cons]
  cases hbytes : (String.utf8EncodeChar c).map UInt8.toNat with
  | nil => exact absurd (List.map_eq_nil_iff.1 hbytes) (String.utf8EncodeChar_ne_nil)
  | cons b bytes =>
    rw [hbytes] at hall
    obtain ⟨hb, hrest⟩ := List.forall_mem_cons.1 hall
    exact ⟨b, bytes, hb, hrest, rfl⟩

theorem Encoding.detect_eq_utf8 {a b : Nat} (ha : a ≠ 0) (hb : b ≠ 0) (bytes : List Nat) :
    Encoding.detect (a :: b :: bytes) = .utf8 := by
  unfold detect
  split <;> simp_all

/-- **A text whose first two characters are not zero is read as it was written.** -/
theorem sent?_eq_some {s : String} {a b : Char} {cs : List Char} (h : s.toList = a :: b :: cs)
    (hmark : a ≠ '\ufeff') (ha : a ≠ '\x00') (hb : b ≠ '\x00') : sent? s = some s.toList := by
  obtain ⟨x, bytes, hx, hbytes, hfirst⟩ := exists_bytesOf_cons ha (b :: cs)
  obtain ⟨y, bytes', hy, -, hsecond⟩ := exists_bytesOf_cons hb cs
  have hdetect : Encoding.detect (bytesOf (a :: b :: cs)) = .utf8 := by
    rw [hfirst, hsecond]
    cases bytes with
    | nil => exact Encoding.detect_eq_utf8 hx hy _
    | cons z bytes => exact Encoding.detect_eq_utf8 hx (hbytes z List.mem_cons_self) _
  unfold sent?
  rw [h]
  split
  · rename_i heq
    cases heq
    exact absurd rfl hmark
  · simp only [hdetect]

/-! ## Depth -/

/-- A result is what another one is, which may also be that the nesting is too deep. -/
def Deepens {α : Type} (r r' : Except Refusal α) : Prop :=
  r' = r ∨ ∃ kind, r = .error (.tooDeep kind)

/-- One level is taken off on both sides before reading goes on inside. -/
theorem Deepens.inside {α : Type} {kind : String} {read : Nat → Except Refusal α}
    (hread : ∀ {depth depth' : Nat}, depth ≤ depth' → Deepens (read depth) (read depth'))
    {depth depth' : Nat} : depth ≤ depth' →
    Deepens (match depth with | 0 => .error (.tooDeep kind) | depth + 1 => read depth)
      (match depth' with | 0 => .error (.tooDeep kind) | depth' + 1 => read depth') := by
  intro h
  cases depth with
  | zero => exact .inr ⟨kind, rfl⟩
  | succ depth =>
    cases depth' with
    | zero => exact absurd h (Nat.not_succ_le_zero depth)
    | succ depth' => exact hread (Nat.le_of_succ_le_succ h)

/-- What is true of the readers with `fuel` steps left. -/
structure ReadersDeepen (fuel : Nat) : Prop where
  value : ∀ {depth depth' : Nat}, depth ≤ depth' → ∀ cs,
    Deepens (readValue fuel depth cs) (readValue fuel depth' cs)
  items : ∀ {depth depth' : Nat}, depth ≤ depth' → ∀ got cs,
    Deepens (readItems fuel depth got cs) (readItems fuel depth' got cs)
  members : ∀ {depth depth' : Nat}, depth ≤ depth' → ∀ got cs,
    Deepens (readMembers fuel depth got cs) (readMembers fuel depth' got cs)

namespace ReadersDeepen

variable {fuel depth depth' : Nat}

theorem readValue (h : ReadersDeepen fuel) (hdepth : depth ≤ depth') (cs : List Char) :
    Deepens (readValue (fuel + 1) depth cs) (Json.readValue (fuel + 1) depth' cs) := by
  unfold Json.readValue
  split
  · exact .inl rfl
  · refine .inside (fun hinner => ?_) hdepth
    split
    · exact .inl rfl
    · exact h.items hinner _ _
  · refine .inside (fun hinner => ?_) hdepth
    split
    · exact .inl rfl
    · exact h.members hinner _ _
  · exact .inl rfl

theorem readItems (h : ReadersDeepen fuel) (hdepth : depth ≤ depth') (got : List Json)
    (cs : List Char) :
    Deepens (readItems (fuel + 1) depth got cs) (Json.readItems (fuel + 1) depth' got cs) := by
  unfold Json.readItems
  rcases h.value hdepth cs with heq | ⟨kind, hdeep⟩
  · rw [heq]
    split
    · exact .inl rfl
    · split
      · exact .inl rfl
      · exact h.items hdepth _ _
      · exact .inl rfl
  · rw [hdeep]
    exact .inr ⟨kind, rfl⟩

theorem readMembers (h : ReadersDeepen fuel) (hdepth : depth ≤ depth')
    (got : List (List Sign × Json)) (cs : List Char) :
    Deepens (readMembers (fuel + 1) depth got cs) (Json.readMembers (fuel + 1) depth' got cs) := by
  unfold Json.readMembers
  split
  · split
    · exact .inl rfl
    · split
      · rename_i rest _
        rcases h.value hdepth (skipSpace rest) with heq | ⟨kind, hdeep⟩
        · rw [heq]
          split
          · exact .inl rfl
          · simp only
            split
            · exact .inl rfl
            · exact h.members hdepth _ _
            · exact .inl rfl
        · rw [hdeep]
          exact .inr ⟨kind, rfl⟩
      · exact .inl rfl
  · exact .inl rfl

end ReadersDeepen

/-- The readers go deeper together: each calls the others with one step less. -/
theorem readersDeepen (fuel : Nat) : ReadersDeepen fuel := by
  induction fuel with
  | zero => exact ⟨fun _ _ => .inl rfl, fun _ _ _ => .inl rfl, fun _ _ _ => .inl rfl⟩
  | succ fuel ih => exact ⟨ih.readValue, ih.readItems, ih.readMembers⟩

/-- **A greater depth changes nothing but what is nested too deep.** -/
theorem read_of_le {depth depth' : Nat} (h : depth ≤ depth') (cs : List Char) :
    Deepens (read depth cs) (read depth' cs) := by
  unfold read
  rcases (readersDeepen (2 * cs.length + 2)).value h (skipSpace cs) with heq | ⟨kind, hdeep⟩
  · rw [heq]
    exact .inl rfl
  · rw [hdeep]
    exact .inr ⟨kind, rfl⟩

/-- A value that is read is read to every greater depth. -/
theorem read_eq_ok_of_le {depth depth' : Nat} (h : depth ≤ depth') {cs : List Char} {v : Json}
    (hread : read depth cs = .ok v) : read depth' cs = .ok v := by
  rcases read_of_le h cs with heq | ⟨kind, hdeep⟩
  · rw [heq, hread]
  · rw [hread] at hdeep
    cases hdeep

/-- What is made of a value that is read is made of it to every greater depth. -/
theorem bind_read_of_le {α : Type} {depth depth' : Nat} (h : depth ≤ depth') {cs : List Char}
    {make : Json → Option α} {a : α} (hmake : (read depth cs).toOption.bind make = some a) :
    (read depth' cs).toOption.bind make = some a := by
  cases hread : read depth cs with
  | error e =>
    rw [hread] at hmake
    cases hmake
  | ok v =>
    rw [hread] at hmake
    rw [read_eq_ok_of_le h hread]
    exact hmake

end FeatureFlags.Json
