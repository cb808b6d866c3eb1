import Formulary.Proofs.Lexing.Numerals

/-! The longest numeral at the front of a text. The scanner takes each part as far as it
goes, so nothing which is written as a numeral reaches further.
-/

namespace Formulary

namespace PowerPart

/-- Nothing but a sign is split off. -/
theorem isSign_of_scanSign {text : List Char} {sign : Char}
    (found : (scanSign text).1 = some sign)
    : isSign sign = true := by
  cases text with
  | nil => cases found
  | cons c rest =>
      by_cases signed : isSign c = true
      · rw [scanSign_of_isSign signed] at found
        cases found
        exact signed
      · rw [scanSign_of_stops (.of_cons _ (eq_false_of_ne_true signed))] at found
        cases found

/-- What stands behind the sign which is split off ends the text. -/
theorem scanSign_isSuffix (text : List Char) : (scanSign text).2 <:+ text :=
  ⟨_, sign_append_rest text⟩

/-- What stands behind the power of ten which is split off ends the text. -/
theorem scan_isSuffix (text : List Char) : (scan text).2 <:+ text :=
  ⟨_, chars_append_rest text⟩

end PowerPart

namespace Fraction

/-- What stands behind the fraction which is split off ends the text. -/
theorem scan_isSuffix (marks text : List Char) : (scan marks text).2 <:+ text :=
  ⟨_, chars_append_rest marks text⟩

end Fraction

namespace Numeral

/-- What the scanner takes off a text with a digit in front is written as a numeral. -/
theorem written_scan {first : Char} (digit : first.isDigit = true) (rest : List Char)
    : (scan ['.', ','] (first :: rest)).1.Written where
  whole := by
    refine ⟨by simp [scan, digit], fun c member => ?_⟩
    exact List.all_eq_true.mp List.all_takeWhile c member
  fraction part found := by
    simp only [scan] at found
    unfold Fraction.scan at found
    split at found
    · cases found
    · split at found
      · rename_i marked
        cases found
        exact ⟨marked, fun c member => List.all_eq_true.mp List.all_takeWhile c member⟩
      · cases found
  power part found := by
    simp only [scan] at found
    unfold PowerPart.scan at found
    split at found
    · cases found
    · split at found
      · cases found
        exact ⟨fun _ => PowerPart.isSign_of_scanSign,
          fun c member => List.all_eq_true.mp List.all_takeWhile c member⟩
      · cases found

/-- The scanner leaves no more behind a power of ten than stands there. -/
theorem scan_power_isSuffix {numeral : Numeral} (written : numeral.Written) (rest : List Char)
    : (PowerPart.scan (numeral.power.elim [] PowerPart.chars ++ rest)).2 <:+ rest := by
  cases power : numeral.power with
  | none => exact PowerPart.scan_isSuffix rest
  | some part =>
      obtain ⟨signs, digits⟩ := written.power part power
      simp only [Option.elim, PowerPart.chars, List.cons_append, PowerPart.scan_e]
      cases signed : part.sign with
      | some sign =>
          rw [Option.toList_some, List.append_assoc, List.singleton_append,
            PowerPart.scanSign_of_isSign (signs sign signed),
            List.dropWhile_append_of_pos digits]
          exact List.dropWhile_suffix _
      | none =>
          rw [Option.toList_none, List.nil_append]
          by_cases empty : part.digits = []
          · rw [empty, List.nil_append]
            exact (List.dropWhile_suffix _).trans (PowerPart.scanSign_isSuffix rest)
          · have stops : Stops PowerPart.isSign (part.digits ++ rest) :=
              PowerPart.stops_isSign digits (absurd · empty)
            rw [PowerPart.scanSign_of_stops stops, List.dropWhile_append_of_pos digits]
            exact List.dropWhile_suffix _

/-- The scanner leaves no more behind a numeral than stands there, since each part of it is
taken whole.
-/
theorem scan_isSuffix {numeral : Numeral} (written : numeral.Written) (rest : List Char)
    : (scan ['.', ','] (numeral.chars ++ rest)).2 <:+ rest := by
  have powerSuffix := scan_power_isSuffix written rest
  have dropped : rest.dropWhile Char.isDigit <:+ rest := List.dropWhile_suffix _
  -- A power of ten begins with a letter, which is neither a digit nor a mark.
  have kept (part : PowerPart)
      : (part.chars ++ rest).dropWhile Char.isDigit = part.chars ++ rest :=
    List.dropWhile_cons_of_neg (by decide)
  simp only [scan, chars, List.append_assoc, List.dropWhile_append_of_pos written.whole.2]
  cases fraction : numeral.fraction with
  | some part =>
      obtain ⟨marked, digits⟩ := written.fraction part fraction
      simp only [Option.elim, Fraction.chars, List.cons_append]
      rw [List.dropWhile_cons_of_neg (not_isDigit_of_isMark marked), Fraction.scan_of_mem marked,
        List.dropWhile_append_of_pos digits]
      cases power : numeral.power with
      | some power' =>
          rw [power] at powerSuffix
          simp only [Option.elim] at powerSuffix ⊢
          rwa [kept]
      | none => exact (PowerPart.scan_isSuffix _).trans dropped
  | none =>
      cases power : numeral.power with
      | some part =>
          rw [power] at powerSuffix
          simp only [Option.elim, List.nil_append] at powerSuffix ⊢
          have unmarked : Stops (· ∈ ['.', ',']) (part.chars ++ rest) :=
            .of_cons _ (by decide)
          rwa [kept, Fraction.scan_of_stops unmarked]
      | none =>
          exact ((PowerPart.scan_isSuffix _).trans (Fraction.scan_isSuffix _ _)).trans dropped

/-- No numeral at the front of a text is longer than the one which is scanned. -/
theorem length_chars_le_scan {numeral : Numeral} (written : numeral.Written)
    (rest : List Char)
    : numeral.chars.length ≤ (scan ['.', ','] (numeral.chars ++ rest)).1.chars.length := by
  have whole := congrArg List.length (chars_append_rest ['.', ','] (numeral.chars ++ rest))
  have left := (scan_isSuffix written rest).length_le
  simp only [List.length_append] at whole
  omega

end Numeral

end Formulary
