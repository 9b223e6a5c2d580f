import Criteria.Proofs.Leaf.Accepted
/-!
# Leaves — classes of characters

Letters are those of Unicode and digits are ASCII for the leaves that want
nothing else, or both. The leaf of special characters goes by another line: it
passes over numbers of every kind, and a number of another script, a fraction or
a number in a circle is no digit, nor mostly a letter. So special characters are
those that are neither letter nor digit, except for such numbers; and a text with
one of them may be in none of the four classes.
-/

namespace Criteria

/-- ASCII digits are numbers. -/
theorem Unicode.isNumeric_of_isDigit {c : Char} (h : c.isDigit = true) : isNumeric c = true := by
  have hdigits : ∀ n < 10,
      ((Category.all[Runs.valueAt 32 Category.runs (48 + n) 29]?).getD .unassigned).isNumber =
        true := by decide
  obtain ⟨hlow, hhigh⟩ : 48 ≤ c.toNat ∧ c.toNat ≤ 57 := by
    simpa [Char.isDigit, UInt32.le_iff_toNat_le] using h
  obtain ⟨n, hn⟩ : ∃ n, c.toNat = 48 + n := ⟨c.toNat - 48, by omega⟩
  rw [isNumeric, category, hn]
  exact hdigits n (by omega)

namespace Leaf

variable {α : Type}

/-- A number that is neither a letter nor an ASCII digit. -/
def IsOtherNumber (c : Char) : Prop :=
  Unicode.isNumeric c = true ∧ Unicode.isAlphabetic c = false ∧ c.isDigit = false

theorem isAlphanumeric_iff {c : Char} : Text.isAlphanumeric c = true ↔
    Unicode.isAlphabetic c = true ∨ c.isDigit = true ∨ IsOtherNumber c := by
  rw [Text.isAlphanumeric, Bool.or_eq_true, IsOtherNumber]
  cases hletter : Unicode.isAlphabetic c with
  | true => simp
  | false =>
    cases hdigit : c.isDigit with
    | true => simp [Unicode.isNumeric_of_isDigit hdigit]
    | false => simp

/-- A text of two kinds of characters is of one kind, or has both. -/
theorem one_kind_or_both {s : List Char} {p q : Char → Prop} (h : ∀ c ∈ s, p c ∨ q c) :
    (∀ c ∈ s, p c) ∨ (∀ c ∈ s, q c) ∨ (∃ c ∈ s, p c) ∧ ∃ c ∈ s, q c := by
  by_cases hp : ∀ c ∈ s, p c
  · exact Or.inl hp
  by_cases hq : ∀ c ∈ s, q c
  · exact Or.inr (Or.inl hq)
  obtain ⟨c, hc, hnot⟩ : ∃ c ∈ s, ¬ p c := by simpa using hp
  obtain ⟨d, hd, hnot'⟩ : ∃ c ∈ s, ¬ q c := by simpa using hq
  exact Or.inr (Or.inr ⟨⟨d, hd, (h d hd).resolve_right hnot'⟩, c, hc, (h c hc).resolve_left hnot⟩)

/-! ## What each leaf asks of a text -/

section Classes

variable (config : Config) (read : α → String) (r : Clock.Readings) (item : α)

theorem accepts_onlyLetters_iff : accepts config [text read .onlyLetters] r item = true ↔
    (read item).toList ≠ [] ∧ ∀ c ∈ (read item).toList, Unicode.isAlphabetic c = true := by
  rw [accepts_text rfl]
  simp

theorem accepts_onlyDigits_iff : accepts config [text read .onlyDigits] r item = true ↔
    (read item).toList ≠ [] ∧ ∀ c ∈ (read item).toList, c.isDigit = true := by
  rw [accepts_text rfl]
  simp

theorem accepts_lettersAndDigits_iff :
    accepts config [text read .lettersAndDigits] r item = true ↔
      (∃ c ∈ (read item).toList, Unicode.isAlphabetic c = true) ∧
        ∃ c ∈ (read item).toList, c.isDigit = true := by
  rw [accepts_text rfl]
  simp

theorem accepts_specialCharacters_eq_false_iff :
    accepts config [text read .specialCharacters] r item = false ↔
      ∀ c ∈ (read item).toList, Text.isAlphanumeric c = true := by
  rw [accepts_text rfl]
  simp

end Classes

/-- A letter, as the leaf of letters judges the text of this character alone. -/
theorem accepts_letter_iff (config : Config) (r : Clock.Readings) (c : Char) :
    accepts config [text id .onlyLetters] r (String.singleton c) = true ↔
      Unicode.isAlphabetic c = true := by
  rw [accepts_onlyLetters_iff]
  simp

theorem accepts_digit_iff (config : Config) (r : Clock.Readings) (c : Char) :
    accepts config [text id .onlyDigits] r (String.singleton c) = true ↔ c.isDigit = true := by
  rw [accepts_onlyDigits_iff]
  simp

/-- **The leaf of special characters passes over letters, digits and other
numbers.** It rejects a text exactly if each character is a letter, as the leaf of
letters judges it, or a digit, as the leaf of digits does, or a number that is
neither. So of the texts with a character, the four leaves of classes all reject
those that have nothing else and have such a number, but not both a letter and a
digit; and they reject no others. -/
theorem classes_exact (config : Config) (read : α → String) (r : Clock.Readings) (item : α) :
    let on (t : TextTest) : Bool := accepts config [text read t] r item
    let letter (c : Char) : Prop := accepts config [text id .onlyLetters] r (String.singleton c) = true
    let digit (c : Char) : Prop := accepts config [text id .onlyDigits] r (String.singleton c) = true
    let s := (read item).toList
    (on .specialCharacters = false ↔ ∀ c ∈ s, letter c ∨ digit c ∨ IsOtherNumber c) ∧
      (s ≠ [] ∧ on .specialCharacters = false ∧ on .onlyLetters = false ∧ on .onlyDigits = false ∧
          on .lettersAndDigits = false ↔
        (∀ c ∈ s, letter c ∨ digit c ∨ IsOtherNumber c) ∧ (∃ c ∈ s, IsOtherNumber c) ∧
          ¬ ((∃ c ∈ s, letter c) ∧ ∃ c ∈ s, digit c)) := by
  intro on letter digit s
  have hletter (c : Char) : letter c ↔ Unicode.isAlphabetic c = true :=
    accepts_letter_iff config r c
  have hdigit (c : Char) : digit c ↔ c.isDigit = true := accepts_digit_iff config r c
  have hspecial : on .specialCharacters = false ↔
      ∀ c ∈ s, letter c ∨ digit c ∨ IsOtherNumber c := by
    simp only [hletter, hdigit, ← isAlphanumeric_iff]
    exact accepts_specialCharacters_eq_false_iff config read r item
  refine ⟨hspecial, ?_⟩
  rw [hspecial, ← Bool.not_eq_true, ← Bool.not_eq_true, ← Bool.not_eq_true,
    accepts_onlyLetters_iff config read r item, accepts_onlyDigits_iff config read r item,
    accepts_lettersAndDigits_iff config read r item]
  simp only [hletter, hdigit]
  constructor
  · rintro ⟨hne, hall, hletters, hdigits, hboth⟩
    refine ⟨hall, ?_, hboth⟩
    by_contra hnone
    have hkinds : ∀ c ∈ s, Unicode.isAlphabetic c = true ∨ c.isDigit = true := fun c hc =>
      (hall c hc).imp_right fun h => h.resolve_right fun hother => hnone ⟨c, hc, hother⟩
    rcases one_kind_or_both hkinds with h | h | h
    · exact hletters ⟨hne, h⟩
    · exact hdigits ⟨hne, h⟩
    · exact hboth h
  · rintro ⟨hall, ⟨c, hc, -, hnotletter, hnotdigit⟩, hboth⟩
    refine ⟨List.ne_nil_of_mem hc, hall, fun h => ?_, fun h => ?_, hboth⟩
    · exact absurd (h.2 c hc) (by simp [hnotletter])
    · exact absurd (h.2 c hc) (by simp [hnotdigit])

/-- **A half is in none of the four classes**: it is no letter and no digit, and no
special character. -/
theorem half_in_no_class :
    let r : Clock.Readings := ⟨.epoch, .epoch⟩
    let on (t : TextTest) : Bool := accepts .standard [text id t] r "½"
    on .specialCharacters = false ∧ on .onlyLetters = false ∧ on .onlyDigits = false ∧
      on .lettersAndDigits = false := by
  decide

end Leaf

end Criteria
