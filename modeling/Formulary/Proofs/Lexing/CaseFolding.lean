import Formulary.Proofs.Lexing.NormalText

/-! The normal text of a formula in any case and with any blanks. Where a sigma is final is
decided by its neighbours, blanks included, and nothing else is. So the normal text is settled
by the letters of the formula, except for which sigmas are final.
-/

namespace Formulary.Text

open Unicode

-----------------------------------------------------------------------------------------
-- Texts with the same letters
-----------------------------------------------------------------------------------------

/-- The character is a sigma in lower case, be it final or not. -/
def isSigma (c : Char) : Bool :=
  c = 'σ' || c = 'ς'

/-- The character, with the sigma within words in the place of the final one. -/
def medial (c : Char) : Char :=
  if c = 'ς' then 'σ' else c

/-- The texts are the same but for which sigmas are final. -/
def SameLetters (first second : List Char) : Prop :=
  first.map medial = second.map medial

/-- What does not tell the two sigmas apart, comes to the same for the letter. -/
theorem apply_medial {α : Type} (property : Char → α) (same : property 'ς' = property 'σ')
    (c : Char)
    : property (medial c) = property c := by
  unfold medial
  split
  · rename_i final
    rw [final, same]
  · rfl

/-- What does not tell the two sigmas apart, does not tell characters with the same letter
apart.
-/
theorem apply_eq_of_medial_eq {α : Type} {c c' : Char} (same : medial c = medial c')
    (property : Char → α) (both : property 'ς' = property 'σ')
    : property c = property c' := by
  rw [← apply_medial property both, same, apply_medial property both]

/-- A character which lacks what both sigmas have is none of them. -/
theorem not_isSigma_of_apply {c : Char} (property : Char → Bool)
    (sigmas : property 'σ' = true ∧ property 'ς' = true) (fails : property c = false)
    : isSigma c = false := by
  apply eq_false_of_ne_true
  intro sigma
  simp only [isSigma, Bool.or_eq_true, decide_eq_true_eq] at sigma
  rcases sigma with rfl | rfl
  · cases fails.symm.trans sigmas.1
  · cases fails.symm.trans sigmas.2

/-- Only a sigma has the same letter as another character. -/
theorem eq_of_medial_eq {c c' : Char} (same : medial c = medial c')
    (plain : isSigma c = false)
    : c' = c := by
  simp only [isSigma, Bool.or_eq_false_iff, decide_eq_false_iff_not] at plain
  obtain ⟨notMedial, notFinal⟩ := plain
  unfold medial at same
  rw [if_neg notFinal] at same
  split at same
  · exact absurd same notMedial
  · exact same.symm

namespace SameLetters

variable {text text' : List Char}

/-- A text which has the same letters as two texts one behind the other consists of two such
parts.
-/
theorem exists_append {front behind : List Char} (same : SameLetters (front ++ behind) text')
    : ∃ front' behind',
        text' = front' ++ behind' ∧ SameLetters front front' ∧ SameLetters behind behind' := by
  unfold SameLetters at same
  rw [List.map_append] at same
  obtain ⟨front', behind', split, sameFront, sameBehind⟩ := List.map_eq_append_iff.mp same.symm
  exact ⟨front', behind', split, sameFront.symm, sameBehind.symm⟩

/-- A text which has the same letters as one with a character in front has that letter in
front.
-/
theorem exists_cons {c : Char} {rest : List Char} (same : SameLetters (c :: rest) text')
    : ∃ c' rest', text' = c' :: rest' ∧ medial c = medial c' ∧ SameLetters rest rest' := by
  unfold SameLetters at same
  rw [List.map_cons] at same
  obtain ⟨c', rest', split, sameLetter, sameRest⟩ := List.map_eq_cons_iff.mp same.symm
  exact ⟨c', rest', split, sameLetter.symm, sameRest.symm⟩

/-- Behind the same characters the letters are the same if they are the same on the whole. -/
theorem of_append_left {front behind behind' : List Char}
    (same : SameLetters (front ++ behind) (front ++ behind'))
    : SameLetters behind behind' := by
  unfold SameLetters at same
  rw [List.map_append, List.map_append] at same
  exact List.append_cancel_left same

theorem symm (same : SameLetters text text') : SameLetters text' text :=
  Eq.symm same

/-- Texts with the same letters are equally long. -/
theorem length_eq (same : SameLetters text text') : text.length = text'.length := by
  simpa using congrArg List.length same

/-- What is true of all letters of a text, is true of those of the other, if it does not tell
the two sigmas apart.
-/
theorem all_eq (same : SameLetters text text') (property : Char → Bool)
    (both : property 'ς' = property 'σ')
    : text.all property = text'.all property := by
  have asMedial (letters : List Char)
      : (letters.map medial).all property = letters.all property := by
    rw [List.all_map]
    exact congrArg letters.all (funext (apply_medial property both))
  rw [← asMedial text, same, asMedial]

/-- There is no sigma in ASCII, so such a text is the only one with its letters, by induction on
the text.
-/
theorem eq_of_isAscii (same : SameLetters text text') (ascii : isAscii text = true)
    : text' = text := by
  induction text generalizing text' with
  | nil => exact List.map_eq_nil_iff.mp same.symm
  | cons c rest ih =>
      obtain ⟨c', rest', rfl, sameLetter, sameRest⟩ := same.exists_cons
      rw [isAscii_cons, Bool.and_eq_true, decide_eq_true_eq] at ascii
      obtain ⟨low, asciiRest⟩ := ascii
      have plain : isSigma c = false :=
        not_isSigma_of_apply (fun c => !decide (c.toNat < 0x80)) (by decide) (by simpa using low)
      rw [eq_of_medial_eq sameLetter plain, ih sameRest asciiRest]

end SameLetters

-----------------------------------------------------------------------------------------
-- Lowercase of a character alone
-----------------------------------------------------------------------------------------

/-- The letters of the lowercase of a character. -/
def lowerLetters (c : Char) : List Char :=
  (lowerAmong [] c []).map medial

/-- Whatever stands around a character, its lowercase has the same letters. -/
theorem map_medial_lowerAmong (before : List Char) (c : Char) (after : List Char)
    : (lowerAmong before c after).map medial = lowerLetters c := by
  unfold lowerLetters lowerAmong
  split
  · split <;> rfl
  · rfl

/-- The lowercase of a text has the letters of the lowercase of each character, by induction
on the text.
-/
theorem map_medial_lowercaseAfter (before text : List Char)
    : (lowercaseAfter before text).map medial = text.flatMap lowerLetters := by
  induction text generalizing before with
  | nil => rfl
  | cons c text ih =>
      rw [lowercaseAfter, List.map_append, map_medial_lowerAmong, ih, List.flatMap_cons]

/-- What is true of all ASCII characters by their code points, is true of each of them. -/
theorem apply_of_ascii (property : Char → Bool)
    (each : ((List.range 0x80).all fun code => property (Char.ofNat code)) = true) {c : Char}
    (ascii : c.toNat < 0x80)
    : property c = true := by
  have holds := List.all_eq_true.mp each c.toNat (List.mem_range.mpr ascii)
  rwa [Char.ofNat_toNat] at holds

/-- The lowercase of ASCII is in ASCII, and its own lowercase. -/
theorem toLower_of_ascii {c : Char} (ascii : c.toNat < 0x80)
    : c.toLower.toNat < 0x80 ∧ c.toLower.toLower = c.toLower := by
  have checked :=
    apply_of_ascii (fun c => c.toLower.toNat < 0x80 && c.toLower.toLower == c.toLower)
      (by decide) ascii
  simpa using checked

/-- Beyond ASCII there is no Latin capital. -/
theorem toLower_of_not_ascii {c : Char} (beyond : ¬c.toNat < 0x80) : c.toLower = c := by
  apply Char.toLower_eq_of_not_isUpper
  intro upper
  have low : c.toNat ≤ 'Z'.toNat := by
    simp only [Char.isUpper, decide_eq_true_eq] at upper
    exact upper.2
  exact beyond (Nat.lt_of_le_of_lt low (by decide))

/-- The letter of an ASCII character is its lowercase. -/
theorem lowerLetters_of_ascii {c : Char} (ascii : c.toNat < 0x80)
    : lowerLetters c = [c.toLower] := by
  have notFinal : c.toLower ≠ 'ς' := by
    intro final
    have low := (toLower_of_ascii ascii).1
    rw [final] at low
    exact absurd low (by decide)
  rw [lowerLetters, lowerAmong_of_ascii ascii, List.map_singleton, medial, if_neg notFinal]

/-- The case of a Latin letter does not count. -/
theorem lowerLetters_toLower (c : Char) : lowerLetters c.toLower = lowerLetters c := by
  by_cases ascii : c.toNat < 0x80
  · obtain ⟨low, lower⟩ := toLower_of_ascii ascii
    rw [lowerLetters_of_ascii ascii, lowerLetters_of_ascii low, lower]
  · rw [toLower_of_not_ascii ascii]

/-- The letter of a blank is the blank. -/
theorem lowerLetters_of_isBlank {c : Char} (blank : isBlank c = true) : lowerLetters c = [c] := by
  simp only [isBlank, Bool.or_eq_true, beq_iff_eq] at blank
  rcases blank with ((rfl | rfl) | rfl) | rfl <;> rfl

/-- A character with a code point above that of the space is no blank. -/
theorem not_isBlank_of_lt {c : Char} (above : 0x20 < c.toNat) : isBlank c = false := by
  apply eq_false_of_ne_true
  intro blank
  simp only [isBlank, Bool.or_eq_true, beq_iff_eq] at blank
  rcases blank with ((rfl | rfl) | rfl) | rfl <;> exact absurd above (by decide)

/-- No rule leads to a blank. -/
theorem not_isBlank_of_covers {rule : CaseRule} (listed : rule ∈ caseRules) {code : Nat}
    (covered : rule.covers code = true)
    : isBlank (Char.ofNat (code + rule.shift).toNat) = false := by
  have high : 0x20 < rule.first + rule.shift := by
    have all : caseRules.all (fun rule => 0x20 < rule.first + rule.shift) = true := by decide
    simpa using List.all_eq_true.mp all rule listed
  have reached : rule.first ≤ code := by
    simp only [CaseRule.covers, Bool.and_eq_true, decide_eq_true_eq] at covered
    exact covered.1.1
  by_cases valid : (code + rule.shift).toNat.isValidChar
  · apply not_isBlank_of_lt
    rw [Char.toNat_ofNat, if_pos valid]
    omega
  · rw [Char.ofNat, dif_neg valid]
    rfl

/-- No character becomes a blank in lower case. -/
theorem not_isBlank_lowerChar {c : Char} (visible : isBlank c = false)
    : isBlank (lowerChar c) = false := by
  by_cases ascii : c.toNat < 0x80
  · have kept := apply_of_ascii (fun c => isBlank c.toLower == isBlank c) (by decide) ascii
    rw [lowerChar_of_ascii ascii, beq_iff_eq.mp kept, visible]
  · rw [lowerChar, if_neg ascii]
    split
    · rename_i rule found
      have covered : rule.covers c.toNat = true := by simpa using List.find?_some found
      exact not_isBlank_of_covers (List.mem_of_find?_eq_some found) covered
    · exact visible

/-- No letter of a character other than a blank is a blank. -/
theorem not_isBlank_of_mem_lowerLetters {c letter : Char} (visible : isBlank c = false)
    (member : letter ∈ lowerLetters c)
    : isBlank letter = false := by
  obtain ⟨lower, among, rfl⟩ := List.mem_map.mp member
  rw [apply_medial isBlank rfl]
  unfold lowerAmong at among
  split at among
  · cases List.mem_singleton.mp among
    rfl
  · split at among
    · rcases List.mem_pair.mp among with rfl | rfl <;> rfl
    · cases List.mem_singleton.mp among
      exact not_isBlank_lowerChar visible

-----------------------------------------------------------------------------------------
-- Normal texts
-----------------------------------------------------------------------------------------

/-- The text without blanks, and with the Latin letters in lower case. -/
def caseless (text : String) : List Char :=
  (text.toList.filter fun c => !isBlank c).map Char.toLower

/-- The letters which are no blanks are those of the characters which are none, by induction
on the text.
-/
theorem filter_flatMap_lowerLetters (text : List Char)
    : (text.flatMap lowerLetters).filter (fun c => !isBlank c)
      = ((text.filter fun c => !isBlank c).map Char.toLower).flatMap lowerLetters := by
  induction text with
  | nil => rfl
  | cons c text ih =>
      rw [List.flatMap_cons, List.filter_append, ih]
      cases blank : isBlank c with
      | true => simp [lowerLetters_of_isBlank blank, blank]
      | false =>
          have kept : (lowerLetters c).filter (fun c => !isBlank c) = lowerLetters c := by
            apply List.filter_eq_self.mpr
            intro letter member
            rw [not_isBlank_of_mem_lowerLetters blank member]
            rfl
          simp [kept, blank, lowerLetters_toLower]

/-- The letters of the normal text are those of the text without case and blanks. -/
theorem map_medial_normalize (text : String)
    : (normalize text).map medial = (caseless text).flatMap lowerLetters := by
  have blind : (fun c => !isBlank c) ∘ medial = fun c => !isBlank c :=
    funext (apply_medial (fun c => !isBlank c) rfl)
  have filtered
      : (normalize text).map medial
        = ((lowercase text.toList).map medial).filter (fun c => !isBlank c) := by
    rw [normalize, List.filter_map, blind]
  rw [filtered, lowercase, map_medial_lowercaseAfter, filter_flatMap_lowerLetters, caseless]

/-- The normal texts of formulas have the same letters if case and blanks are all in which the
formulas differ.
-/
theorem sameLetters_normalize {text text' : String} (same : caseless text = caseless text')
    : SameLetters (normalize text) (normalize text') := by
  rw [SameLetters, map_medial_normalize, map_medial_normalize, same]

/-- A blank makes a sigma final, since it ends the word. -/
example
    : normalize "ΑΣΑ" = ['α', 'σ', 'α'] ∧ normalize "ΑΣ Α" = ['α', 'ς', 'α'] := by
  decide +kernel

end Formulary.Text
