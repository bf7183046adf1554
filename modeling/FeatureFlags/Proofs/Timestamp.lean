import FeatureFlags.Timestamp.Reader

/-!
# Timestamps as they are written

A timestamp is read back from its text (`read_textOf`): whatever its fields, its fraction and its
offset, the reader takes the text apart as it was put together. Every part is written in a width
that its number fits in, so it is found by its length alone; only the fraction is found by its
digits, and nothing that can follow it is a digit.
-/

namespace FeatureFlags.Timestamp

/-! ## Digits -/

theorem digit?_digitChar : ∀ d < 10, digit? d.digitChar = some d := by
  decide

theorem isDigit_digitChar : ∀ d < 10, Json.isDigit d.digitChar = true := by
  decide

theorem value_digitChar : ∀ d < 10, d.digitChar.toNat - '0'.toNat = d := by
  decide

theorem padded_one {n : Nat} (h : n < 10) : padded 1 n = [n.digitChar] := by
  rw [padded, Nat.toDigits_of_lt_base h]
  rfl

/-- The last digit of a number stands at the end of its text. -/
theorem padded_succ (w n : Nat) :
    padded (w + 2) n = padded (w + 1) (n / 10) ++ [(n % 10).digitChar] := by
  unfold padded
  by_cases h : n < 10
  · -- the zero that is written for the tenth is one of the zeros that fill the width
    have hdiv : n / 10 = 0 := Nat.div_eq_of_lt h
    have hmod : n % 10 = n := Nat.mod_eq_of_lt h
    rw [hdiv, hmod, Nat.toDigits_of_lt_base h, Nat.toDigits_of_lt_base (by decide)]
    simp [List.replicate_succ']
  · rw [Nat.toDigits_of_base_le (by decide) (Nat.le_of_not_lt h)]
    simp

/-- A number has one digit more than its tenth. -/
theorem div_lt_pow {w n : Nat} (h : n < Nat.pow 10 (w + 2)) : n / 10 < Nat.pow 10 (w + 1) := by
  have hmul : n < Nat.pow 10 (w + 1) * 10 := h
  exact Nat.div_lt_of_lt_mul (by rwa [Nat.mul_comm])

theorem length_padded {w n : Nat} (h : n < Nat.pow 10 (w + 1)) :
    (padded (w + 1) n).length = w + 1 := by
  induction w generalizing n with
  | zero => rw [padded_one h, List.length_singleton]
  | succ w ih => rw [padded_succ, List.length_append, ih (div_lt_pow h), List.length_singleton]

theorem isDigit_padded {w n : Nat} (h : n < Nat.pow 10 (w + 1)) :
    ∀ c ∈ padded (w + 1) n, Json.isDigit c = true := by
  induction w generalizing n with
  | zero =>
    rw [padded_one h]
    exact List.forall_mem_singleton.2 (isDigit_digitChar n h)
  | succ w ih =>
    rw [padded_succ]
    intro c hc
    rcases List.mem_append.1 hc with hc | hc
    · exact ih (div_lt_pow h) c hc
    · rw [List.mem_singleton.1 hc]
      exact isDigit_digitChar _ (Nat.mod_lt _ (by decide))

theorem digitsValue_padded {w n : Nat} (h : n < Nat.pow 10 (w + 1)) :
    Json.digitsValue (padded (w + 1) n) = n := by
  induction w generalizing n with
  | zero =>
    have hvalue := value_digitChar n h
    rw [padded_one h]
    simpa [Json.digitsValue] using hvalue
  | succ w ih =>
    have hvalue := value_digitChar (n % 10) (Nat.mod_lt _ (by decide))
    have hrest := ih (div_lt_pow h)
    rw [padded_succ]
    unfold Json.digitsValue at hrest ⊢
    rw [List.foldl_append, hrest]
    simp only [List.foldl_cons, List.foldl_nil, hvalue]
    omega

theorem twoDigits?_padded {n : Nat} (h : n < 100) (rest : List Char) :
    twoDigits? (padded 2 n ++ rest) = some (n, rest) := by
  have htens := digit?_digitChar (n / 10) (by omega)
  have hones := digit?_digitChar (n % 10) (by omega)
  have hvalue : n / 10 * 10 + n % 10 = n := Nat.div_add_mod' n 10
  rw [padded_succ, padded_one (by omega)]
  simp [twoDigits?, htens, hones, hvalue]

theorem fourDigits?_padded {n : Nat} (h : n < 10000) (rest : List Char) :
    fourDigits? (padded 4 n ++ rest) = some (n, rest) := by
  have hthousands := digit?_digitChar (n / 10 / 10 / 10) (by omega)
  have hhundreds := digit?_digitChar (n / 10 / 10 % 10) (by omega)
  have htens := digit?_digitChar (n / 10 % 10) (by omega)
  have hones := digit?_digitChar (n % 10) (by omega)
  have hvalue :
      ((n / 10 / 10 / 10 * 10 + n / 10 / 10 % 10) * 10 + n / 10 % 10) * 10 + n % 10 = n := by
    omega
  rw [padded_succ, padded_succ, padded_succ, padded_one (by omega)]
  simp only [List.cons_append, List.nil_append, fourDigits?, hthousands, hhundreds, htens, hones,
    Option.bind_eq_bind, Option.bind_some, hvalue]

/-! ## Date -/

theorem length_le_byteCount (cs : List Char) : cs.length ≤ byteCount cs := by
  induction cs with
  | nil => exact Nat.le_refl 0
  | cons c cs ih =>
    have hc : 0 < c.utf8Size := c.utf8Size_pos
    have hcs : byteCount (c :: cs) = c.utf8Size + byteCount cs := rfl
    rw [hcs, List.length_cons]
    omega

theorem daysInMonth_le (year month : Nat) : daysInMonth year month ≤ 31 := by
  unfold daysInMonth
  grind

/-- A date that exists is read from its text. -/
theorem readDate_text {year month day : Nat} (rest : List Char) (hyear : 1 ≤ year ∧ year ≤ 9999)
    (hmonth : 1 ≤ month ∧ month ≤ 12) (hday : 1 ≤ day ∧ day ≤ daysInMonth year month) :
    readDate (padded 4 year ++ '-' :: (padded 2 month ++ '-' :: (padded 2 day ++ rest))) =
      .ok ((year, month, day), rest) := by
  have hdays := daysInMonth_le year month
  -- the ten characters of a date are enough for the reader to look at it
  have hlong : ¬ byteCount
      (padded 4 year ++ '-' :: (padded 2 month ++ '-' :: (padded 2 day ++ rest))) < 10 := by
    have hcount := length_le_byteCount
      (padded 4 year ++ '-' :: (padded 2 month ++ '-' :: (padded 2 day ++ rest)))
    have hyear' : (padded 4 year).length = 4 := length_padded (show year < 10000 by omega)
    have hmonth' : (padded 2 month).length = 2 := length_padded (show month < 100 by omega)
    have hday' : (padded 2 day).length = 2 := length_padded (show day < 100 by omega)
    simp only [List.length_append, List.length_cons] at hcount
    omega
  have hyears := fourDigits?_padded (n := year) (by omega)
    ('-' :: (padded 2 month ++ '-' :: (padded 2 day ++ rest)))
  have hmonths := twoDigits?_padded (n := month) (by omega) ('-' :: (padded 2 day ++ rest))
  have hdays := twoDigits?_padded (n := day) (by omega) rest
  have hmonth' : ¬ (month = 0 ∨ 12 < month) := by omega
  have hday' : ¬ (day = 0 ∨ daysInMonth year month < day) := by omega
  have hyear' : year ≠ 0 := by omega
  simp [readDate, hlong, hyears, hmonths, hdays, hmonth', hday', hyear', pure, Except.pure]

/-! ## Time of day -/

/-- Hours and minutes make the number of minutes again, ahead of UTC or behind it. -/
theorem readOffset?_signed {n : Nat} (h : n < 1440) :
    readOffset? ('+' :: (padded 2 (n / 60) ++ ':' :: padded 2 (n % 60))) = some (some (n : Int)) ∧
      readOffset? ('-' :: (padded 2 (n / 60) ++ ':' :: padded 2 (n % 60))) =
        some (some (-(n : Int))) := by
  have hhours := twoDigits?_padded (n := n / 60) (by omega) (':' :: padded 2 (n % 60))
  have hminutes := twoDigits?_padded (n := n % 60) (by omega) []
  rw [List.append_nil] at hminutes
  have hminute : n % 60 < 60 := Nat.mod_lt _ (by decide)
  have htotal : n / 60 * 60 + n % 60 = n := Nat.div_add_mod' n 60
  constructor
  · simp only [readOffset?, readOffsetMinutes?, hhours, hminutes, Option.bind_eq_bind,
      Option.bind_some, htotal, hminute, List.isEmpty_nil, decide_true, Bool.and_self]
    rfl
  · simp only [readOffset?, readOffsetMinutes?, hhours, hminutes, Option.bind_eq_bind,
      Option.bind_some, htotal, hminute, List.isEmpty_nil, decide_true, Bool.and_self]
    rfl

theorem readOffset?_offsetText {offset : Option Int}
    (h : ∀ o, offset = some o → o.natAbs < 1440) :
    readOffset? (offsetText offset) = some offset := by
  cases offset with
  | none => rfl
  | some o =>
    obtain ⟨hahead, hbehind⟩ := readOffset?_signed (h o rfl)
    unfold offsetText
    by_cases hzero : o = 0
    · subst hzero
      rfl
    · by_cases hsign : o < 0
      · have ho : -(o.natAbs : Int) = o := by omega
        rw [ho] at hbehind
        simpa only [beq_iff_eq, hzero, hsign, if_true, if_false, List.cons_append] using hbehind
      · have ho : (o.natAbs : Int) = o := by omega
        rw [ho] at hahead
        simpa only [beq_iff_eq, hzero, hsign, if_false, List.cons_append] using hahead

/-- No offset begins with what belongs to a fraction. -/
theorem offsetText_cases (offset : Option Int) :
    offsetText offset = [] ∨
      ∃ c rest, offsetText offset = c :: rest ∧ Json.isDigit c = false ∧ c ≠ '.' ∧ c ≠ ',' := by
  cases offset with
  | none => exact .inl rfl
  | some o =>
    unfold offsetText
    by_cases hzero : o = 0
    · subst hzero
      exact .inr ⟨'Z', [], rfl, by decide⟩
    · by_cases hsign : o < 0
      · simp only [beq_iff_eq, hzero, hsign, if_true, if_false]
        exact .inr ⟨'-', _, rfl, by decide⟩
      · simp only [beq_iff_eq, hzero, hsign, if_false]
        exact .inr ⟨'+', _, rfl, by decide⟩

/-- The fraction of a second as it is written. -/
def fractionText (micro : Nat) : List Char := if micro == 0 then [] else '.' :: padded 6 micro

/-- The digits of a fraction end where the offset begins. -/
theorem span_fraction {micro : Nat} (offset : Option Int) (h : micro < 1000000) :
    (padded 6 micro ++ offsetText offset).takeWhile Json.isDigit = padded 6 micro ∧
      (padded 6 micro ++ offsetText offset).dropWhile Json.isDigit = offsetText offset := by
  have hdigits : ∀ c ∈ padded 6 micro, Json.isDigit c = true := isDigit_padded h
  rw [List.takeWhile_append_of_pos hdigits, List.dropWhile_append_of_pos hdigits]
  rcases offsetText_cases offset with hnil | ⟨c, rest, hcons, hc, -⟩
  · simp [hnil]
  · simp [hcons, hc]

theorem readSeconds?_text {second micro : Nat} (offset : Option Int) (hsecond : second < 60)
    (hmicro : micro < 1000000) :
    readSeconds? (':' :: (padded 2 second ++ (fractionText micro ++ offsetText offset))) =
      some ((second, micro), offsetText offset) := by
  have hseconds := twoDigits?_padded (n := second) (by omega)
    (fractionText micro ++ offsetText offset)
  unfold fractionText at hseconds ⊢
  by_cases hzero : micro = 0
  · -- what comes next is the offset, which does not look like a fraction
    subst hzero
    rcases offsetText_cases offset with hnil | ⟨c, rest, hcons, -, hpoint, hcomma⟩
    · simp_all [readSeconds?]
    · simp_all [readSeconds?]
  · obtain ⟨htake, hdrop⟩ := span_fraction offset hmicro
    have hvalue : Json.digitsValue (padded 6 micro) = micro := digitsValue_padded hmicro
    have hlength : (padded 6 micro).length = 6 := length_padded hmicro
    have hsix : (padded 6 micro).take 6 = padded 6 micro := List.take_of_length_le (by omega)
    have hempty : (padded 6 micro).isEmpty = false := by
      rw [List.isEmpty_eq_false_iff, ne_eq, ← List.length_eq_zero_iff, hlength]
      decide
    simp only [beq_iff_eq, hzero, if_false, List.cons_append] at hseconds ⊢
    simp [readSeconds?, hseconds, -List.isEmpty_iff, htake, hdrop, hempty, hsix, hvalue, hlength]

/-! ## The whole of a text -/

/-- The bounds of a date and time that exists. -/
structure Bounded (m : Moment) : Prop where
  year : 1 ≤ m.year ∧ m.year ≤ 9999
  month : 1 ≤ m.month ∧ m.month ≤ 12
  day : 1 ≤ m.day ∧ m.day ≤ daysInMonth m.year m.month
  hour : m.hour < 24
  minute : m.minute < 60
  second : m.second < 60
  micro : m.micro < 1000000
  offset : ∀ o, m.offset = some o → o.natAbs < 1440

theorem bounded_moment (t : Timestamp) : Bounded t.moment := by
  obtain ⟨m, hm⟩ := t
  simp only [Moment.isReal, Bool.and_eq_true, decide_eq_true_eq] at hm
  obtain ⟨⟨⟨⟨⟨⟨⟨⟨⟨⟨hy, hy'⟩, hmo⟩, hmo'⟩, hd⟩, hd'⟩, hh⟩, hmi⟩, hs⟩, hu⟩, ho⟩ := hm
  refine ⟨⟨hy, hy'⟩, ⟨hmo, hmo'⟩, ⟨hd, hd'⟩, hh, hmi, hs, hu, fun o hoffset => ?_⟩
  rw [hoffset] at ho
  exact of_decide_eq_true ho

/-- Time of day, fraction and offset as they are written. -/
def timeText (m : Moment) : List Char :=
  padded 2 m.hour ++ ':' :: (padded 2 m.minute ++ ':' ::
    (padded 2 m.second ++ (fractionText m.micro ++ offsetText m.offset)))

theorem textOf_eq (m : Moment) :
    textOf m = padded 4 m.year ++ '-' :: (padded 2 m.month ++ '-' ::
      (padded 2 m.day ++ 'T' :: timeText m)) := by
  simp only [textOf, timeText, fractionText, List.append_assoc, List.cons_append]

theorem readTime?_timeText (t : Timestamp) :
    readTime? (t.moment.year, t.moment.month, t.moment.day) ('T' :: timeText t.moment) =
      some t := by
  have hbounded := bounded_moment t
  have hhour := twoDigits?_padded (n := t.moment.hour) (by have := hbounded.hour; omega)
  have hminute := twoDigits?_padded (n := t.moment.minute) (by have := hbounded.minute; omega)
  have hseconds := readSeconds?_text t.moment.offset hbounded.second hbounded.micro
  have hoffset := readOffset?_offsetText hbounded.offset
  have hreal : ofMoment? t.moment = some t := dif_pos t.isReal
  simp [readTime?, timeText, hhour, hminute, hseconds, hoffset, hreal]

/-- **A timestamp is read back from its text.** -/
theorem read_textOf (t : Timestamp) : read (textOf t.moment) = .ok t := by
  have hbounded := bounded_moment t
  have hdate := readDate_text ('T' :: timeText t.moment) hbounded.year hbounded.month hbounded.day
  rw [← textOf_eq] at hdate
  simp only [read, hdate, readTime?_timeText]

end FeatureFlags.Timestamp
