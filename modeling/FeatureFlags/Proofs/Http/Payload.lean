import FeatureFlags.Http.Endpoint
import FeatureFlags.Proofs.Validation

/-!
# Payloads that are refused

Whoever reads a payload that is wrong is told so by issues, at least one, and each of them quotes
the value it is about: a member of the payload or the payload itself. So when the payload can be
written as JSON, what is wrong with it can be told. JSON that is read may hold what cannot be
written, a number out of range or half of a surrogate pair; then the quotation fails.
-/

namespace FeatureFlags

variable {α β : Type}

/-! ## Quotations -/

/-- What is rejected has issues, and their inputs are such values. -/
def Checked.Quotes (P : Json → Prop) (c : Checked α) : Prop :=
  ∀ issues, c = .rejected issues → issues ≠ [] ∧ ∀ i ∈ issues, P i.input

namespace Checked.Quotes

variable {P Q : Json → Prop}

theorem accepted (a : α) : (Checked.accepted a).Quotes P := nofun

theorem flawed {flaw : Flaw} {v : Json} (h : P v) :
    (Checked.flawed flaw v : Checked α).Quotes P := by
  rintro issues ⟨⟩
  exact ⟨List.cons_ne_nil _ _, List.forall_mem_singleton.2 h⟩

theorem mono {c : Checked α} (hc : c.Quotes P) (h : ∀ v, P v → Q v) : c.Quotes Q := by
  intro issues hissues
  obtain ⟨hne, hall⟩ := hc issues hissues
  exact ⟨hne, fun i hi => h _ (hall i hi)⟩

theorem map {c : Checked α} (hc : c.Quotes P) (f : α → β) : (c.map f).Quotes P := by
  cases c with
  | accepted a => exact accepted _
  | rejected issues =>
    rintro _ ⟨⟩
    exact hc issues rfl

theorem ap {f : Checked (α → β)} {c : Checked α} (hf : f.Quotes P) (hc : c.Quotes P) :
    (f.ap c).Quotes P := by
  cases f with
  | accepted f =>
    cases c with
    | accepted a => exact accepted _
    | rejected issues =>
      rintro _ ⟨⟩
      exact hc issues rfl
  | rejected first =>
    obtain ⟨hne, hfirst⟩ := hf first rfl
    cases c with
    | accepted a =>
      rintro _ ⟨⟩
      exact ⟨hne, hfirst⟩
    | rejected second =>
      rintro _ ⟨⟩
      exact ⟨List.append_ne_nil_of_left_ne_nil hne _,
        List.forall_mem_append.2 ⟨hfirst, (hc second rfl).2⟩⟩

theorem andThen {c : Checked α} {f : α → Checked β} (hc : c.Quotes P)
    (hf : ∀ a, (f a).Quotes P) : (c.andThen f).Quotes P := by
  cases c with
  | accepted a => exact hf a
  | rejected issues =>
    rintro _ ⟨⟩
    exact hc issues rfl

theorem under {c : Checked α} (hc : c.Quotes P) (step : Step) : (c.under step).Quotes P := by
  cases c with
  | accepted a => exact accepted a
  | rejected issues =>
    obtain ⟨hne, hall⟩ := hc issues rfl
    rintro _ ⟨⟩
    refine ⟨by simpa using hne, fun i hi => ?_⟩
    obtain ⟨j, hj, rfl⟩ := List.mem_map.1 hi
    exact hall j hj

/-! ## Single values -/

theorem string (v : Json) : (Checked.string v).Quotes (· = v) := by
  cases v <;> first | exact accepted _ | exact flawed rfl

theorem text (b : Checked.Bounds) (v : Json) : (Checked.text b v).Quotes (· = v) := by
  refine (string v).andThen fun s => ?_
  dsimp only
  split
  · exact flawed rfl
  · exact accepted _

theorem nullable {read : Json → Checked α} (hread : ∀ v, (read v).Quotes (· = v)) (v : Json) :
    (Checked.nullable read v).Quotes (· = v) := by
  unfold Checked.nullable
  split
  · exact accepted _
  · exact (hread _).map some

theorem choice (flaw : Flaw) (ofName? : String → Option α) (v : Json) :
    (Checked.choice flaw ofName? v).Quotes (· = v) := by
  unfold Checked.choice
  split
  · split
    · exact accepted _
    · exact flawed rfl
  · exact flawed rfl

theorem bool (v : Json) : (Checked.bool v).Quotes (· = v) := by
  cases v with
  | bool b => exact accepted b
  | int i | real x | string s =>
    unfold Checked.bool
    dsimp only
    repeat' split
    all_goals first | exact accepted _ | exact flawed rfl
  | null | unpaired | array | object => exact flawed rfl

end Checked.Quotes

/-! ## Payloads -/

/-- The object, or the value of one of its members. -/
def Json.PartOf (members : List (String × Json)) (v : Json) : Prop :=
  v = .object members ∨ ∃ name, member? members name = some v

namespace Field

variable {f : Field} {o : List (String × Json)} {read : Json → Checked α}

theorem find?_partOf {name : String} {v : Json} (h : f.find? o = some (name, v)) :
    Json.PartOf o v := by
  unfold find? at h
  split at h
  · rename_i hmember
    cases h
    exact .inr ⟨_, hmember⟩
  · obtain ⟨_, hmember, heq⟩ := Option.map_eq_some_iff.1 h
    cases heq
    exact .inr ⟨_, hmember⟩

theorem required_quotes (hread : ∀ v, (read v).Quotes (· = v)) :
    (f.required read o).Quotes (Json.PartOf o) := by
  unfold required
  split
  · rename_i hfind
    exact ((hread _).mono fun _ h => h ▸ find?_partOf hfind).under _
  · rintro issues ⟨⟩
    exact ⟨List.cons_ne_nil _ _, List.forall_mem_singleton.2 (.inl rfl)⟩

theorem withDefault_quotes {default : α} (hread : ∀ v, (read v).Quotes (· = v)) :
    (f.withDefault default read o).Quotes (Json.PartOf o) := by
  unfold withDefault
  split
  · rename_i hfind
    exact ((hread _).mono fun _ h => h ▸ find?_partOf hfind).under _
  · exact .accepted _

end Field

theorem Feature.Draft.ofMembers_quotes (o : List (String × Json)) :
    (Feature.Draft.ofMembers o).Quotes (Json.PartOf o) := by
  refine .ap (.ap (.map ?_ _) ?_) ?_
  · exact Field.required_quotes (.text _)
  · exact Field.required_quotes (.text _)
  · exact Field.withDefault_quotes (.nullable (.text _))

theorem Feature.Patch.ofMembers_quotes (o : List (String × Json)) :
    (Feature.Patch.ofMembers o).Quotes (Json.PartOf o) := by
  refine .ap (.ap (.map ?_ _) ?_) ?_
  · exact Field.withDefault_quotes (.nullable (.text _))
  · exact Field.withDefault_quotes (.nullable (.text _))
  · exact Field.withDefault_quotes fun v => (Checked.Quotes.nullable (.text _) v).map some

namespace FeatureState

theorem shaped_quotes (o : List (String × Json)) (r : Except ShapeError α) :
    (shaped o r).Quotes (Json.PartOf o) := by
  cases r with
  | ok a => exact .accepted a
  | error e => exact .flawed (.inl rfl)

theorem Draft.ofMembers_quotes (o : List (String × Json)) :
    (Draft.ofMembers o).Quotes (Json.PartOf o) := by
  refine .andThen (.ap (.ap (.ap (.ap (.map ?_ _) ?_) ?_) ?_) ?_) fun _ => shaped_quotes o _
  · exact Field.withDefault_quotes (.nullable (.text _))
  · exact Field.withDefault_quotes (.nullable (.text _))
  · exact Field.required_quotes (.choice _ _)
  · exact Field.withDefault_quotes (.nullable (.text _))
  · exact Field.required_quotes .bool

theorem Patch.ofMembers_quotes (o : List (String × Json)) :
    (Patch.ofMembers o).Quotes (Json.PartOf o) := by
  refine .andThen (.ap (.ap (.ap (.map ?_ _) ?_) ?_) ?_) fun _ => shaped_quotes o _
  · exact Field.withDefault_quotes (.nullable (.text _))
  · exact Field.required_quotes (.choice _ _)
  · exact Field.withDefault_quotes (.nullable (.text _))
  · exact Field.required_quotes .bool

end FeatureState

/-- A value that can be written has parts that can be written. -/
theorem Json.PartOf.isWritable {o : List (String × Json)} {v : Json} (h : Json.PartOf o v)
    (ho : (Json.object o).isWritable = true) : v.isWritable = true := by
  rcases h with rfl | ⟨name, h⟩
  · exact ho
  · induction o with
    | nil => cases h
    | cons member o ih =>
      obtain ⟨name', v'⟩ := member
      obtain ⟨hv', ho⟩ := Bool.and_eq_true_iff.1 ho
      rw [Json.member?, List.lookup_cons] at h
      split at h
      · cases h
        exact hv'
      · exact ih ho h

namespace Http

variable {read : List (String × Json) → Checked α}

theorem Payload.read_eq_accepted {p : Payload} {a : α} (model : String) :
    p.read read = .accepted a ↔ ∃ v, p = .value v ∧ Checked.record model read v = .accepted a := by
  unfold Payload.read
  rw [Checked.under_eq_accepted]
  cases p with
  | absent => simp [Checked.flawed]
  | text s => simp [Checked.flawed]
  | value v => cases v <;> simp [Checked.record, Checked.flawed]

/-- What is wrong with a payload can be told when the payload can be written. -/
theorem Payload.read_quotes (hread : ∀ o, (read o).Quotes (Json.PartOf o)) {p : Payload}
    (hp : ∀ v, p = .value v → v.isWritable = true) :
    (p.read read).Quotes (fun v => v.isWritable = true) := by
  refine .under ?_ bodyStep
  cases p with
  | absent => exact .flawed rfl
  | text s => exact .flawed rfl
  | value v =>
    have hv := hp v rfl
    cases v with
    | object o => exact (hread o).mono fun _ h => h.isWritable hv
    | _ => exact .flawed hv

variable [Json.DepthLimit]

/-- The value that a request brings along, when its body is JSON. -/
def Request.data? (r : Request) : Option Json :=
  match r.payload with
  | .ok (.value v) => some v
  | _ => none

/-- What is wrong with the body of a request that should be read so. -/
def Request.Rejected (r : Request) (read : List (String × Json) → Checked α)
    (issues : List Issue) : Prop :=
  match r.payload with
  | .error .unreadable => False
  | .error (.undecodable offset defect) => issues = [undecodable offset defect]
  | .ok p => p.read read = .rejected issues

/-- Something is wrong, and it can be told when the body can be written. -/
theorem Request.Rejected.quotes {r : Request} {issues : List Issue} (h : r.Rejected read issues)
    (hread : ∀ o, (read o).Quotes (Json.PartOf o))
    (hdata : ∀ v, r.data? = some v → v.isWritable = true) :
    ∀ i ∈ issues, i.input.isWritable = true := by
  unfold Rejected at h
  split at h
  · exact h.elim
  · subst h
    exact List.forall_mem_singleton.2 rfl
  · rename_i p hp
    refine (Payload.read_quotes hread (fun v hv => hdata v ?_) issues h).2
    rw [data?, hp, hv]

/-- A body is taken, is not read at all, or is refused with what is wrong; which of these does not
depend on what is to be done with the payload. -/
theorem withPayload_cases (r : Request) (read : List (String × Json) → Checked α)
    (model : String) :
    (∃ v a, r.data? = some v ∧ Checked.record model read v = .accepted a ∧
        ∀ {σ : Type} (go : α → Service σ Response), withPayload r read go = go a) ∨
      (∀ v a, r.data? = some v → Checked.record model read v ≠ .accepted a) ∧
        (r.payload = .error .unreadable ∧
            (∀ {σ : Type} (go : α → Service σ Response), withPayload r read go =
              pure (.detail 400 "There was an error parsing the body")) ∨
          ∃ issues, r.Rejected read issues ∧
            ∀ {σ : Type} (go : α → Service σ Response),
              withPayload r read go = rejected issues) := by
  have hdata : ∀ v, r.data? = some v ↔ r.payload = .ok (.value v) := by
    intro v
    unfold Request.data?
    split <;> simp_all
  cases hp : r.payload with
  | error refusal =>
    have hnone : ∀ v a, r.data? = some v → Checked.record model read v ≠ .accepted a := by
      intro v a hv
      rw [hdata, hp] at hv
      cases hv
    refine .inr ⟨hnone, ?_⟩
    cases refusal with
    | unreadable => exact .inl ⟨rfl, fun go => by rw [withPayload, hp]⟩
    | undecodable offset defect =>
      refine .inr ⟨[undecodable offset defect], ?_, fun go => by rw [withPayload, hp]⟩
      rw [Request.Rejected, hp]
  | ok p =>
    cases hread : p.read read with
    | accepted a =>
      obtain ⟨v, rfl, hv⟩ := (Payload.read_eq_accepted model).1 hread
      exact .inl ⟨v, a, (hdata v).2 hp, hv, fun go => by simp only [withPayload, hp, hread]⟩
    | rejected issues =>
      refine .inr ⟨?_, .inr ⟨issues, ?_, fun go => by simp only [withPayload, hp, hread]⟩⟩
      · intro v a hv ha
        rw [hdata, hp, Except.ok.injEq] at hv
        rw [(Payload.read_eq_accepted model).2 ⟨v, hv, ha⟩] at hread
        cases hread
      · rw [Request.Rejected, hp]
        exact hread

end Http

end FeatureFlags
