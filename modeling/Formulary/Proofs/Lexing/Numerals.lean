import Formulary.Lexeme

/-! Scanning numerals with which the text behind them does not go on, as at a mark or at the
end. The scanner stops exactly there, so it gives the numeral back.
-/

namespace Formulary

/-- The first character of the text, if there is one, is not of the kind. -/
def Stops (kind : Char → Bool) (text : List Char) : Prop :=
  ∀ c ∈ text.head?, kind c = false

theorem takeWhile_append_of_stops {kind : Char → Bool} {before rest : List Char}
    (all : ∀ c ∈ before, kind c = true) (stops : Stops kind rest)
    : (before ++ rest).takeWhile kind = before := by
  rw [List.takeWhile_append_of_pos all]
  cases rest with
  | nil => simp
  | cons c rest => simp [stops c rfl]

theorem dropWhile_append_of_stops {kind : Char → Bool} {before rest : List Char}
    (all : ∀ c ∈ before, kind c = true) (stops : Stops kind rest)
    : (before ++ rest).dropWhile kind = rest := by
  rw [List.dropWhile_append_of_pos all]
  cases rest with
  | nil => simp
  | cons c rest => simp [stops c rfl]

/-- What is true of the ten digits by their code points, is true of every digit. -/
theorem eq_of_isDigit (kind : Char → Bool) (value : Bool)
    (each : ((List.range' 48 10).all fun code => kind (Char.ofNat code) == value) = true)
    {c : Char} (digit : c.isDigit = true)
    : kind c = value := by
  obtain ⟨low, high⟩ := Char.isDigit_iff_toNat.mp digit
  have listed : c.toNat ∈ List.range' 48 10 :=
    List.mem_range'_1.mpr ⟨low, Nat.lt_succ_of_le high⟩
  have holds := List.all_eq_true.mp each c.toNat listed
  rwa [Char.ofNat_toNat, beq_iff_eq] at holds

theorem isDigit_of_mem_toDigits {number : Nat} {c : Char} (member : c ∈ Nat.toDigits 10 number)
    : c.isDigit = true :=
  Nat.isDigit_of_mem_toDigits (by decide) (by decide) member

/-- The characters of operators and parentheses. -/
def markChars : List Char :=
  ['+', '-', '*', '/', '^', '(', ')']

/-- The text begins with a mark, if with anything. -/
def Delimited (text : List Char) : Prop :=
  ∀ c ∈ text.head?, c ∈ markChars

/-- Nothing at all is delimited. -/
theorem delimited_nil : Delimited [] :=
  nofun

/-- A text with a mark in front is delimited. -/
theorem delimited_cons {c : Char} (mark : c ∈ markChars) (rest : List Char)
    : Delimited (c :: rest) := by
  intro first found
  cases found
  exact mark

/-- What no mark is of the kind of, stops before a delimited text. -/
theorem Delimited.stops {text : List Char} (delimited : Delimited text) (kind : Char → Bool)
    (none : markChars.any kind = false)
    : Stops kind text := by
  intro c first
  have outside : ¬kind c = true := List.any_eq_false.mp none c (delimited c first)
  exact eq_false_of_ne_true outside

theorem Delimited.stops_isDigit {text : List Char} (delimited : Delimited text)
    : Stops Char.isDigit text :=
  delimited.stops _ (by decide)

theorem Stops.of_cons {kind : Char → Bool} {c : Char} (rest : List Char) (other : kind c = false)
    : Stops kind (c :: rest) := by
  intro first found
  cases found
  exact other

namespace PowerPart

/-- The character is the sign of a power of ten. -/
def isSign (c : Char) : Bool :=
  c = '+' ∨ c = '-'

/-- Digits are no signs, so a sign comes first only where there are no digits. -/
theorem stops_isSign {digits rest : List Char} (all : ∀ c ∈ digits, c.isDigit = true)
    (stops : digits = [] → Stops isSign rest)
    : Stops isSign (digits ++ rest) := by
  cases digits with
  | nil => exact stops rfl
  | cons first more =>
      have digit : first.isDigit = true := all first List.mem_cons_self
      exact .of_cons _ (eq_of_isDigit isSign false (by decide) digit)

/-- Without a sign in front nothing is split off. -/
theorem scanSign_of_stops {text : List Char} (stops : Stops isSign text)
    : scanSign text = (none, text) := by
  cases text with
  | nil => rfl
  | cons c rest =>
      have other : ¬(c = '+' ∨ c = '-') := of_decide_eq_false (stops c rfl)
      rw [scanSign, if_neg other]

/-- A sign is split off. -/
theorem scanSign_of_isSign {sign : Char} (signed : isSign sign = true) (rest : List Char)
    : scanSign (sign :: rest) = (some sign, rest) := by
  rw [scanSign, if_pos (of_decide_eq_true signed)]

/-- Behind its letter a power of ten is a sign, if there is one, and digits. -/
theorem scan_e (rest : List Char)
    : scan ('e' :: rest)
      = (some {
            sign := (scanSign rest).1
            digits := (scanSign rest).2.takeWhile Char.isDigit
          },
          (scanSign rest).2.dropWhile Char.isDigit) :=
  rfl

/-- Without the letter in front there is no power of ten. -/
theorem scan_of_stops {text : List Char} (stops : Stops (· == 'e') text)
    : scan text = (none, text) := by
  cases text with
  | nil => rfl
  | cons c rest =>
      have other : c ≠ 'e' := by simpa using stops c rfl
      rw [scan, if_neg other]

end PowerPart

namespace Fraction

/-- Without a mark in front there is no fraction. -/
theorem scan_of_stops {marks text : List Char} (stops : Stops (· ∈ marks) text)
    : scan marks text = (none, text) := by
  cases text with
  | nil => rfl
  | cons c rest =>
      have other : c ∉ marks := of_decide_eq_false (stops c rfl)
      rw [scan, if_neg other]

/-- Behind its mark a fraction is digits. -/
theorem scan_of_mem {marks : List Char} {mark : Char} (marked : mark ∈ marks)
    (rest : List Char)
    : scan marks (mark :: rest)
      = (some { mark := mark, digits := rest.takeWhile Char.isDigit },
          rest.dropWhile Char.isDigit) := by
  rw [scan, if_pos marked]

end Fraction

namespace Numeral

/-- A mark is no digit. -/
theorem not_isDigit_of_isMark {mark : Char} (marked : mark ∈ ['.', ','])
    : ¬mark.isDigit = true := by
  have none : ['.', ','].any Char.isDigit = false := by decide
  exact List.any_eq_false.mp none mark marked

/-- A numeral as it may stand in a formula: digits, then perhaps a mark and more digits, then
perhaps a power of ten. Digits may be missing behind the mark and in the power.
-/
structure Written (numeral : Numeral) : Prop where
  whole : numeral.whole ≠ [] ∧ ∀ c ∈ numeral.whole, c.isDigit = true
  fraction
    : ∀ part ∈ numeral.fraction,
        part.mark ∈ ['.', ','] ∧ ∀ c ∈ part.digits, c.isDigit = true
  power
    : ∀ part ∈ numeral.power,
        (∀ sign ∈ part.sign, PowerPart.isSign sign = true)
        ∧ ∀ c ∈ part.digits, c.isDigit = true

/-- A numeral has a digit in front. -/
theorem Written.exists_chars_eq {numeral : Numeral} (written : numeral.Written)
    : ∃ first more, first.isDigit = true ∧ numeral.chars = first :: more := by
  obtain ⟨nonempty, digits⟩ := written.whole
  obtain ⟨first, more, whole⟩ := List.exists_cons_of_ne_nil nonempty
  exact ⟨first, _, digits first (by simp [whole]), by rw [chars, whole]; rfl⟩

/-- The text does not go on with the numeral. -/
structure EndsBefore (numeral : Numeral) (rest : List Char) : Prop where
  digit : Stops Char.isDigit rest
  mark
    : numeral.fraction = none
      → numeral.power = none
      → Stops (· ∈ ['.', ',']) rest
  power : numeral.power = none → Stops (· == 'e') rest
  sign
    : ∀ part ∈ numeral.power,
        part.sign = none
        → part.digits = []
        → Stops PowerPart.isSign rest

/-- Nothing goes on at the end of the text. -/
theorem endsBefore_nil (numeral : Numeral) : numeral.EndsBefore [] where
  digit := by simp [Stops]
  mark := by simp [Stops]
  power := by simp [Stops]
  sign := by simp [Stops]

/-- The power of ten of a numeral is scanned whole. -/
theorem scan_power {numeral : Numeral} (written : numeral.Written) {rest : List Char}
    (ends : numeral.EndsBefore rest)
    : PowerPart.scan (numeral.power.elim [] PowerPart.chars ++ rest)
      = (numeral.power, rest) := by
  cases power : numeral.power with
  | none => exact PowerPart.scan_of_stops (ends.power power)
  | some part =>
      obtain ⟨signs, digits⟩ := written.power part power
      have scanned
          : PowerPart.scanSign (part.sign.toList ++ part.digits ++ rest)
            = (part.sign, part.digits ++ rest) := by
        cases signed : part.sign with
        | some sign => exact PowerPart.scanSign_of_isSign (signs sign signed) _
        | none =>
            exact PowerPart.scanSign_of_stops
              (PowerPart.stops_isSign digits (ends.sign part power signed))
      simp only [Option.elim, PowerPart.chars, List.cons_append, PowerPart.scan_e, scanned,
        takeWhile_append_of_stops digits ends.digit, dropWhile_append_of_stops digits ends.digit]

/-- The fraction of a numeral is scanned whole. -/
theorem scan_fraction {numeral : Numeral} (written : numeral.Written) {rest : List Char}
    (digit : Stops Char.isDigit rest)
    (mark : numeral.fraction = none → Stops (· ∈ ['.', ',']) rest)
    : Fraction.scan ['.', ','] (numeral.fraction.elim [] Fraction.chars ++ rest)
      = (numeral.fraction, rest) := by
  cases fraction : numeral.fraction with
  | none => exact Fraction.scan_of_stops (mark fraction)
  | some part =>
      obtain ⟨marked, digits⟩ := written.fraction part fraction
      simp only [Option.elim, Fraction.chars, List.cons_append, Fraction.scan_of_mem marked,
        takeWhile_append_of_stops digits digit, dropWhile_append_of_stops digits digit]

/-- A numeral with which the text does not go on is scanned whole. -/
theorem scan_chars_append {numeral : Numeral} (written : numeral.Written) {rest : List Char}
    (ends : numeral.EndsBefore rest)
    : scan ['.', ','] (numeral.chars ++ rest) = (numeral, rest) := by
  -- A fraction ends where the letter of the power of ten or the rest follows.
  have afterFraction (kind : Char → Bool) (power : kind 'e' = false)
      (stops : numeral.power = none → Stops kind rest)
      : Stops kind (numeral.power.elim [] PowerPart.chars ++ rest) := by
    cases found : numeral.power with
    | none => exact stops found
    | some part => exact .of_cons _ power
  -- The digits in front end where a mark, that letter or the rest follows.
  have afterWhole
      : Stops Char.isDigit
          (numeral.fraction.elim [] Fraction.chars
            ++ (numeral.power.elim [] PowerPart.chars ++ rest)) := by
    cases fraction : numeral.fraction with
    | none => exact afterFraction Char.isDigit (by decide) fun _ => ends.digit
    | some part =>
        have other := not_isDigit_of_isMark (written.fraction part fraction).1
        exact .of_cons _ (eq_false_of_ne_true other)
  obtain ⟨_, digits⟩ := written.whole
  simp only [scan, chars, List.append_assoc, takeWhile_append_of_stops digits afterWhole,
    dropWhile_append_of_stops digits afterWhole,
    scan_fraction written (afterFraction _ (by decide) fun _ => ends.digit)
      (fun none => afterFraction _ (by decide) (ends.mark none)),
    scan_power written ends]

/-- A numeral as numbers are written: digits, then perhaps a point and more digits, then
perhaps a power of ten without a plus sign.
-/
structure Standard (numeral : Numeral) : Prop where
  whole : numeral.whole ≠ [] ∧ ∀ c ∈ numeral.whole, c.isDigit = true
  fraction : ∀ part ∈ numeral.fraction, part.mark = '.' ∧ ∀ c ∈ part.digits, c.isDigit = true
  power
    : ∀ part ∈ numeral.power,
        (part.sign = none ∨ part.sign = some '-')
        ∧ part.digits ≠ []
        ∧ ∀ c ∈ part.digits, c.isDigit = true

namespace Standard

theorem isComplete {numeral : Numeral} (standard : numeral.Standard)
    : numeral.isComplete = true := by
  obtain ⟨nonempty, _⟩ := standard.whole
  cases power : numeral.power with
  | none => simp [Numeral.isComplete, power, nonempty]
  | some part =>
      obtain ⟨_, digits, _⟩ := standard.power part power
      simp [Numeral.isComplete, power, nonempty, digits]

theorem written {numeral : Numeral} (standard : numeral.Standard) : numeral.Written where
  whole := standard.whole
  fraction part found := by
    obtain ⟨point, digits⟩ := standard.fraction part found
    exact ⟨by simp [point], digits⟩
  power part found := by
    obtain ⟨sign, _, digits⟩ := standard.power part found
    refine ⟨fun c signed => ?_, digits⟩
    rcases sign with unsigned | negative
    · simp [unsigned] at signed
    · obtain rfl : '-' = c := by simpa [negative] using signed
      rfl

/-- A mark goes on with no standard numeral. -/
theorem endsBefore {numeral : Numeral} (standard : numeral.Standard) {rest : List Char}
    (delimited : Delimited rest)
    : numeral.EndsBefore rest where
  digit := delimited.stops_isDigit
  mark _ _ := delimited.stops _ (by decide)
  power _ := delimited.stops _ (by decide)
  sign part found _ missing := absurd missing (standard.power part found).2.1

end Standard

end Numeral

end Formulary
