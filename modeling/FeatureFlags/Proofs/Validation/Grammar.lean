import FeatureFlags.Proofs.Validation

/-!
# Grammars of records

Which data make a record, what record, and what is said about the other data, in terms that do not
mention how data are read. A `Kind` of value says what its values mean and what is wrong with
others; a `Slot` is a field with a kind; a `Form` is a record with what its slots hold and what is
asked of them together.

`IsReadBy` ties a grammar to a reader: the reader accepts what the grammar accepts, and rejects what
it refuses, with the same issues. A reader that collects is put together from its fields by
`Checked.Agrees.map` and `Checked.Agrees.ap`, which lay the reports of the fields end to end.
-/

namespace FeatureFlags

variable {α β : Type}

/-! ## Reports -/

/-- The issues with data: of every field the fault it has, if it has one, in the order of the
fields. A field is given by the issues that would be a fault of it. -/
inductive Reports : List (Issue → Prop) → List Issue → Prop
  | nil : Reports [] []
  | fault {Fault : Issue → Prop} {faults : List (Issue → Prop)} {i : Issue} {issues : List Issue} :
      Fault i → Reports faults issues → Reports (Fault :: faults) (i :: issues)
  | fine {Fault : Issue → Prop} {faults : List (Issue → Prop)} {issues : List Issue} :
      (∀ i, ¬ Fault i) → Reports faults issues → Reports (Fault :: faults) issues

theorem reports_append {first second : List (Issue → Prop)} {issues : List Issue} :
    Reports (first ++ second) issues ↔
      ∃ a b, Reports first a ∧ Reports second b ∧ issues = a ++ b := by
  induction first generalizing issues with
  | nil =>
    constructor
    · exact fun h => ⟨[], issues, .nil, h, rfl⟩
    · rintro ⟨_, b, ⟨⟩, hb, rfl⟩
      exact hb
  | cons Fault first ih =>
    constructor
    · intro h
      cases h with
      | fault hi h =>
        obtain ⟨a, b, ha, hb, rfl⟩ := ih.1 h
        exact ⟨_, b, .fault hi ha, hb, rfl⟩
      | fine hfine h =>
        obtain ⟨a, b, ha, hb, rfl⟩ := ih.1 h
        exact ⟨a, b, .fine hfine ha, hb, rfl⟩
    · rintro ⟨a, b, ha, hb, rfl⟩
      cases ha with
      | fault hi ha => exact .fault hi (ih.2 ⟨_, b, ha, hb, rfl⟩)
      | fine hfine ha => exact .fine hfine (ih.2 ⟨a, b, ha, hb, rfl⟩)

namespace Checked

/-- What is wrong with the data; nothing when they are accepted. -/
def issues : Checked α → List Issue
  | .accepted _ => []
  | .rejected issues => issues

theorem issues_map (f : α → β) (c : Checked α) : (c.map f).issues = c.issues := by
  cases c <;> rfl

/-- Of two readings side by side the issues of both are kept. -/
theorem issues_ap (f : Checked (α → β)) (c : Checked α) :
    (f.ap c).issues = f.issues ++ c.issues := by
  cases f <;> cases c <;> simp [ap, issues]

/-- The reading gives what the data mean, and its issues are the faults that the fields have. -/
structure Agrees (c : Checked α) (Means : α → Prop) (faults : List (Issue → Prop)) : Prop where
  accepted : ∀ a, c = .accepted a ↔ Means a
  reports : ∀ issues, Reports faults issues ↔ issues = c.issues
  nonempty : c ≠ .rejected []

namespace Agrees

variable {c : Checked α} {Means : α → Prop} {faults : List (Issue → Prop)}

theorem rejected (h : c.Agrees Means faults) (issues : List Issue) :
    c = .rejected issues ↔ Reports faults issues ∧ issues ≠ [] := by
  have hnonempty := h.nonempty
  rw [h.reports]
  cases c with
  | accepted a => simp [Checked.issues]
  | rejected found =>
    simp only [Checked.issues, Checked.rejected.injEq]
    constructor
    · rintro rfl
      exact ⟨rfl, fun hnil => hnonempty (by rw [hnil])⟩
    · exact fun hissues => hissues.1.symm

/-- A reading of one value, which has one fault or none. -/
theorem single {Fault : Issue → Prop} (haccepted : ∀ a, c = .accepted a ↔ Means a)
    (hrejected : ∀ issues, c = .rejected issues ↔ ∃ i, Fault i ∧ issues = [i]) :
    c.Agrees Means [Fault] where
  accepted := haccepted
  reports issues := by
    cases c with
    | accepted a =>
      have hfine : ∀ i, ¬ Fault i := fun i hi => nomatch (hrejected [i]).2 ⟨i, hi, rfl⟩
      constructor
      · intro h
        cases h with
        | fault hi _ => exact absurd hi (hfine _)
        | fine _ h =>
          cases h
          rfl
      · rintro rfl
        exact .fine hfine .nil
    | rejected found =>
      obtain ⟨i, hi, rfl⟩ := (hrejected found).1 rfl
      constructor
      · intro h
        cases h with
        | @fault _ _ j _ hj h =>
          cases h
          cases (hrejected [j]).2 ⟨j, hj, rfl⟩
          rfl
        | fine hfine _ => exact absurd hi (hfine i)
      · rintro rfl
        exact .fault hi .nil
  nonempty := by
    intro hnil
    obtain ⟨i, -, hi⟩ := (hrejected []).1 hnil
    cases hi

theorem of_iff {Means' : α → Prop} (h : c.Agrees Means faults) (hiff : ∀ a, Means a ↔ Means' a) :
    c.Agrees Means' faults :=
  ⟨fun a => (h.accepted a).trans (hiff a), h.reports, h.nonempty⟩

theorem map (h : c.Agrees Means faults) (f : α → β) :
    (c.map f).Agrees (fun b => ∃ a, Means a ∧ f a = b) faults where
  accepted b := by simp only [map_eq_accepted, h.accepted]
  reports issues := by rw [h.reports, issues_map]
  nonempty := by
    have hnonempty := h.nonempty
    cases c with
    | accepted a => exact nofun
    | rejected issues => simpa [Checked.map] using hnonempty

theorem ap {f : Checked (α → β)} {Means' : (α → β) → Prop} {first : List (Issue → Prop)}
    (hf : f.Agrees Means' first) (h : c.Agrees Means faults) :
    (f.ap c).Agrees (fun b => ∃ g a, Means' g ∧ Means a ∧ g a = b) (first ++ faults) where
  accepted b := by simp only [ap_eq_accepted, hf.accepted, h.accepted]
  reports issues := by
    simp only [reports_append, hf.reports, h.reports, issues_ap]
    constructor
    · rintro ⟨_, _, rfl, rfl, rfl⟩
      rfl
    · exact fun hissues => ⟨_, _, rfl, rfl, hissues⟩
  nonempty := by
    have hnonempty := h.nonempty
    have hnonempty' := hf.nonempty
    cases f <;> cases c <;> simp_all [Checked.ap]

end Agrees

end Checked

/-! ## Kinds of value -/

/-- A kind of value: what its values mean, and what is wrong with the values of no meaning. -/
structure Kind (α : Type) where
  Means : Json → α → Prop
  Flawed : Json → Flaw → Prop

/-- The reader gives every value its meaning, or tells its flaw. -/
structure Kind.IsReadBy (k : Kind α) (read : Json → Checked α) : Prop where
  accepted : ∀ v a, read v = .accepted a ↔ k.Means v a
  rejected : ∀ v issues, read v = .rejected issues ↔
    ∃ flaw, k.Flawed v flaw ∧ issues = [⟨flaw, [], v⟩]

/-- No value has two meanings or two flaws, or both a meaning and a flaw. -/
structure Kind.IsClear (k : Kind α) : Prop where
  meaning : ∀ {v a b}, k.Means v a → k.Means v b → a = b
  flaw : ∀ {v flaw flaw'}, k.Flawed v flaw → k.Flawed v flaw' → flaw = flaw'
  disjoint : ∀ {v a flaw}, k.Means v a → ¬ k.Flawed v flaw

/-- What the reader does with the value has a ground: a meaning of it, or a flaw. -/
def Kind.Grounds (k : Kind α) (read : Json → Checked α) (v : Json) : Prop :=
  (∃ a, read v = .accepted a ∧ k.Means v a) ∨ ∃ flaw, read v = .flawed flaw v ∧ k.Flawed v flaw

/-- When a kind is clear, it is enough that whatever the reader does has a ground. -/
theorem Kind.IsClear.isReadBy {k : Kind α} (hk : k.IsClear) {read : Json → Checked α}
    (hread : ∀ v, k.Grounds read v) : k.IsReadBy read where
  accepted v a := by
    rcases hread v with ⟨b, hb, hmeans⟩ | ⟨flaw, hflaw, hflawed⟩
    · rw [hb, Checked.accepted.injEq]
      exact ⟨fun hab => hab ▸ hmeans, hk.meaning hmeans⟩
    · rw [hflaw]
      exact ⟨nofun, fun hmeans => absurd hflawed (hk.disjoint hmeans)⟩
  rejected v issues := by
    rcases hread v with ⟨b, hb, hmeans⟩ | ⟨flaw, hflaw, hflawed⟩
    · rw [hb]
      exact ⟨nofun, fun ⟨_, hflawed, _⟩ => absurd hflawed (hk.disjoint hmeans)⟩
    · rw [hflaw, Checked.flawed, Checked.rejected.injEq]
      constructor
      · rintro rfl
        exact ⟨flaw, hflawed, rfl⟩
      · rintro ⟨flaw', hflawed', rfl⟩
        rw [hk.flaw hflawed hflawed']

/-! ## Fields -/

namespace Field

variable {f : Field} {o : List (String × Json)}

/-- The value of the field stands in the object under this name: under the first name of the field,
or under its other name when the first is absent. -/
inductive StandsAs (f : Field) (o : List (String × Json)) : String → Json → Prop
  | first {v : Json} : Json.member? o f.name = some v → StandsAs f o f.name v
  | other {v : Json} : Json.member? o f.name = none → Json.member? o f.other = some v →
      StandsAs f o f.other v

/-- The field stands in the object under neither of its names. -/
def IsAbsent (f : Field) (o : List (String × Json)) : Prop :=
  Json.member? o f.name = none ∧ Json.member? o f.other = none

theorem find?_eq_some_iff {name : String} {v : Json} :
    f.find? o = some (name, v) ↔ f.StandsAs o name v := by
  unfold find?
  constructor
  · intro h
    split at h
    · rename_i hfirst
      cases h
      exact .first hfirst
    · rename_i hfirst
      obtain ⟨v, hother, ⟨⟩⟩ := Option.map_eq_some_iff.1 h
      exact .other hfirst hother
  · rintro (hfirst | ⟨hfirst, hother⟩)
    · rw [hfirst]
    · rw [hfirst, hother]
      rfl

theorem find?_eq_none_iff : f.find? o = none ↔ f.IsAbsent o := by
  unfold find? IsAbsent
  cases Json.member? o f.name <;> simp

end Field

/-- A field of a record with the kind of its values, and with the value it has when it is absent, if
it may be absent. -/
structure Slot (α : Type) where
  field : Field
  kind : Kind α
  default : Option α

namespace Slot

/-- What the object holds in the slot. -/
inductive Holds (s : Slot α) (o : List (String × Json)) : α → Prop
  | given {name : String} {v : Json} {a : α} : s.field.StandsAs o name v → s.kind.Means v a →
      Holds s o a
  | absent {a : α} : s.field.IsAbsent o → s.default = some a → Holds s o a

/-- What is wrong with the object in the slot. -/
inductive Fault (s : Slot α) (o : List (String × Json)) : Issue → Prop
  | flawed {name : String} {v : Json} {flaw : Flaw} : s.field.StandsAs o name v →
      s.kind.Flawed v flaw → Fault s o ⟨flaw, [.member name], v⟩
  | missing : s.field.IsAbsent o → s.default = none →
      Fault s o ⟨.missing, [.member s.field.name], .object o⟩

/-- Reads the field of a slot. -/
def read (s : Slot α) (value : Json → Checked α) (o : List (String × Json)) : Checked α :=
  match s.default with
  | none => s.field.required value o
  | some a => s.field.withDefault a value o

variable {s : Slot α} {o : List (String × Json)} {value : Json → Checked α}

theorem read_of_find? {name : String} {v : Json} (hf : s.field.find? o = some (name, v)) :
    s.read value o = (value v).under (.member name) := by
  unfold read Field.required Field.withDefault
  split <;> rw [hf]

theorem read_of_absent (hf : s.field.find? o = none) :
    s.read value o =
      match s.default with
      | none => .rejected [⟨.missing, [.member s.field.name], .object o⟩]
      | some a => .accepted a := by
  unfold read Field.required Field.withDefault
  split <;> rw [hf]

theorem holds_of_find? {name : String} {v : Json} (hf : s.field.find? o = some (name, v)) (a : α) :
    s.Holds o a ↔ s.kind.Means v a := by
  constructor
  · rintro (⟨hstands, hmeans⟩ | ⟨habsent, -⟩)
    · cases hf.symm.trans (Field.find?_eq_some_iff.2 hstands)
      exact hmeans
    · cases hf.symm.trans (Field.find?_eq_none_iff.2 habsent)
  · exact .given (Field.find?_eq_some_iff.1 hf)

theorem fault_of_find? {name : String} {v : Json} (hf : s.field.find? o = some (name, v))
    (i : Issue) : s.Fault o i ↔ ∃ flaw, s.kind.Flawed v flaw ∧ i = ⟨flaw, [.member name], v⟩ := by
  constructor
  · rintro (⟨hstands, hflawed⟩ | ⟨habsent, -⟩)
    · cases hf.symm.trans (Field.find?_eq_some_iff.2 hstands)
      exact ⟨_, hflawed, rfl⟩
    · cases hf.symm.trans (Field.find?_eq_none_iff.2 habsent)
  · rintro ⟨flaw, hflawed, rfl⟩
    exact .flawed (Field.find?_eq_some_iff.1 hf) hflawed

theorem holds_of_absent (hf : s.field.find? o = none) (a : α) :
    s.Holds o a ↔ s.default = some a := by
  constructor
  · rintro (⟨hstands, -⟩ | ⟨-, hdefault⟩)
    · cases hf.symm.trans (Field.find?_eq_some_iff.2 hstands)
    · exact hdefault
  · exact .absent (Field.find?_eq_none_iff.1 hf)

theorem fault_of_absent (hf : s.field.find? o = none) (i : Issue) :
    s.Fault o i ↔ s.default = none ∧ i = ⟨.missing, [.member s.field.name], .object o⟩ := by
  constructor
  · rintro (⟨hstands, -⟩ | ⟨-, hdefault⟩)
    · cases hf.symm.trans (Field.find?_eq_some_iff.2 hstands)
    · exact ⟨hdefault, rfl⟩
  · rintro ⟨hdefault, rfl⟩
    exact .missing (Field.find?_eq_none_iff.1 hf) hdefault

/-- A slot is read as it should be when the kind of its values is. -/
theorem agrees (s : Slot α) (h : s.kind.IsReadBy value) (o : List (String × Json)) :
    (s.read value o).Agrees (s.Holds o) [s.Fault o] := by
  cases hf : s.field.find? o with
  | some found =>
    obtain ⟨name, v⟩ := found
    refine .single (fun a => ?_) fun issues => ?_
    · rw [read_of_find? hf, Checked.under_eq_accepted, h.accepted, holds_of_find? hf]
    · simp only [read_of_find? hf, fault_of_find? hf, Checked.under_eq_rejected, h.rejected]
      constructor
      · rintro ⟨_, ⟨flaw, hflawed, rfl⟩, rfl⟩
        exact ⟨_, ⟨flaw, hflawed, rfl⟩, rfl⟩
      · rintro ⟨_, ⟨flaw, hflawed, rfl⟩, rfl⟩
        exact ⟨_, ⟨flaw, hflawed, rfl⟩, rfl⟩
  | none =>
    refine .single (fun a => ?_) fun issues => ?_
    · rw [read_of_absent hf, holds_of_absent hf]
      cases s.default <;> simp
    · simp only [read_of_absent hf, fault_of_absent hf]
      cases s.default <;> simp [eq_comm]

end Slot

/-! ## Records -/

/-- A record by what an object holds of it, field by field, the faults that each field may have, the
objections that there may be to fields without faults, and what is made of the fields. -/
structure Form (α : Type) where
  model : String
  Holds : List (String × Json) → α → Prop
  faults : List (String × Json) → List (Issue → Prop)
  Objection : α → String → Prop
  settle : α → α

namespace Form

/-- The data make the record: an object that holds its fields, to which there is no objection. -/
inductive Accepts (f : Form α) : Json → α → Prop
  | mk {o : List (String × Json)} {a : α} : f.Holds o a → (∀ reason, ¬ f.Objection a reason) →
      Accepts f (.object o) (f.settle a)

/-- The data make no record, for these reasons: they are no object, they have faults, or there is an
objection to fields that have none. -/
inductive Refuses (f : Form α) : Json → List Issue → Prop
  | notObject {v : Json} : (∀ o, v ≠ .object o) → Refuses f v [⟨.notRecord f.model, [], v⟩]
  | faults {o : List (String × Json)} {issues : List Issue} : Reports (f.faults o) issues →
      issues ≠ [] → Refuses f (.object o) issues
  | objection {o : List (String × Json)} {a : α} {reason : String} : f.Holds o a →
      f.Objection a reason → Refuses f (.object o) [⟨.refused reason, [], .object o⟩]

/-- The reader makes the records that the form describes, and refuses other data as it says. -/
structure IsReadBy (f : Form α) (read : Json → Checked α) : Prop where
  accepted : ∀ v a, read v = .accepted a ↔ f.Accepts v a
  rejected : ∀ v issues, read v = .rejected issues ↔ f.Refuses v issues

/-- A record is read as it should be when its fields are, and the check that follows makes one
objection where there is one, and else the record. -/
theorem isReadBy (f : Form α) {fields : List (String × Json) → Checked α}
    {check : List (String × Json) → α → Checked α}
    (hfields : ∀ o, (fields o).Agrees (f.Holds o) (f.faults o))
    (hunique : ∀ {a reason reason'}, f.Objection a reason → f.Objection a reason' →
      reason = reason')
    (hcheck : ∀ o a,
      (check o a = .accepted (f.settle a) ∧ ∀ reason, ¬ f.Objection a reason) ∨
        ∃ reason, check o a = .flawed (.refused reason) (.object o) ∧ f.Objection a reason) :
    f.IsReadBy (Checked.record f.model fun o => (fields o).andThen (check o)) where
  accepted v b := by
    simp only [Checked.record_eq_accepted, Checked.andThen_eq_accepted, (hfields _).accepted]
    constructor
    · rintro ⟨o, rfl, a, hholds, hb⟩
      rcases hcheck o a with ⟨ha, hfine⟩ | ⟨reason, ha, -⟩
      · cases ha.symm.trans hb
        exact .mk hholds hfine
      · cases ha.symm.trans hb
    · rintro ⟨hholds, hfine⟩
      rename_i o a
      rcases hcheck o a with ⟨ha, -⟩ | ⟨reason, -, hobjection⟩
      · exact ⟨o, rfl, a, hholds, ha⟩
      · exact absurd hobjection (hfine reason)
  rejected v issues := by
    simp only [Checked.record_eq_rejected, Checked.andThen_eq_rejected, (hfields _).accepted,
      (hfields _).rejected]
    constructor
    · rintro (⟨o, rfl, ⟨hreports, hissues⟩ | ⟨a, hholds, ha⟩⟩ | ⟨hv, rfl⟩)
      · exact .faults hreports hissues
      · rcases hcheck o a with ⟨ha', -⟩ | ⟨reason, ha', hobjection⟩
        · cases ha'.symm.trans ha
        · cases ha'.symm.trans ha
          exact .objection hholds hobjection
      · exact .notObject hv
    · intro h
      cases h with
      | notObject hv => exact .inr ⟨hv, rfl⟩
      | faults hreports hissues => exact .inl ⟨_, rfl, .inl ⟨hreports, hissues⟩⟩
      | @objection o a reason hholds hobjection =>
        rcases hcheck o a with ⟨-, hfine⟩ | ⟨reason', ha, hobjection'⟩
        · exact absurd hobjection (hfine reason)
        · cases hunique hobjection hobjection'
          exact .inl ⟨o, rfl, .inr ⟨a, hholds, ha⟩⟩

end Form

end FeatureFlags
