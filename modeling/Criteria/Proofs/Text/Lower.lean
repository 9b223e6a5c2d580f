import Criteria.Text.Search
import Mathlib.Data.List.Count
import Mathlib.Data.List.Infix
/-!
# Text in lower case — inside other text

Of all characters only the capital sigma looks around when it goes to lower
case, and what it asks is whether a cased character is the first that case
does not look past, before it and after it. A place is settled if no text
around can change the answer, and a text is steady if all its capital sigmas
stand in settled places. The lower case of a steady text occurs in the lower
case of every text that it occurs in itself, and of no other text is that
so: one letter before it, or one after it, turns a sigma of it.
-/

namespace Criteria.Text

open Unicode

variable {needle hay s before after u v : List Char}

/-- To occur is to stand in a text as neighbouring characters. -/
theorem occursIn_iff : occursIn needle hay = true ↔ needle <:+: hay := by
  induction hay with
  | nil => simp [occursIn]
  | cons c rest ih => simp [occursIn, ih, List.infix_cons_iff]

/-! ## Looking away from a place -/

/-- Walking away from a place, whether the first character that case does
not look past is a cased one, if there is such a character. -/
def meets? (away : List Char) : Option Bool := (away.find? (!isCaseIgnorable ·)).map isCased

theorem meetsCased_eq (away : List Char) : meetsCased away = (meets? away).getD false := by
  induction away with
  | nil => rfl
  | cons c away ih =>
      rw [meetsCased, meets?, List.dropWhile_cons, List.find?_cons] at *
      cases isCaseIgnorable c with
      | true => exact ih
      | false => rfl

/-- What stands further away is met only where nothing nearer is. -/
theorem meets?_append (near far : List Char) : meets? (near ++ far) = (meets? near).or (meets? far) := by
  rw [meets?, meets?, meets?, List.find?_append, Option.map_or]

/-- No text around the two sides of the place changes whether a capital
sigma there ends a word: what it asks for is met before it or after it and
says no, or is met on both sides. -/
def Settled (before after : List Char) : Prop :=
  meets? before = some false ∨ meets? after = some true ∨
    meets? before = some true ∧ meets? after = some false

instance : Decidable (Settled before after) :=
  inferInstanceAs (Decidable (_ ∨ _ ∨ _))

theorem Settled.endsWord_append (h : Settled before after) (u v : List Char) :
    endsWord (before ++ u) (after ++ v) = endsWord before after := by
  simp only [endsWord, meetsCased_eq, meets?_append]
  rcases h with h | h | ⟨h, h'⟩
  · simp [h]
  · simp [h]
  · simp [h, h']

/-- A place that is not settled lacks what could be met before it, or has a
cased character there and lacks what could be met after it. -/
theorem not_settled_cases (h : ¬ Settled before after) :
    (meets? before = none ∧ meets? after ≠ some true) ∨
      meets? before = some true ∧ meets? after = none := by
  unfold Settled at h
  generalize meets? before = first at h ⊢
  generalize meets? after = next at h ⊢
  rcases first with - | (- | -) <;> rcases next with - | (- | -) <;> simp at h ⊢

/-! ## Texts in context -/

/-- The lower case of a capital sigma in a place. -/
def sigma (before after : List Char) : Char := if endsWord before after then 'ς' else 'σ'

/-- It ends a word where a cased character is met before it and none after. -/
theorem sigma_eq_final_iff :
    sigma before after = 'ς' ↔ meets? before = some true ∧ meets? after ≠ some true := by
  rw [sigma, endsWord, meetsCased_eq, meetsCased_eq]
  rcases meets? before with - | (- | -) <;> rcases meets? after with - | (- | -) <;> simp

/-- Anywhere else it goes to its middle form. -/
theorem sigma_eq_middle_iff :
    sigma before after = 'σ' ↔ (meets? before = some true → meets? after = some true) := by
  rw [sigma, endsWord, meetsCased_eq, meetsCased_eq]
  rcases meets? before with - | (- | -) <;> rcases meets? after with - | (- | -) <;> simp

/-- The lower case of a text that stands between others, the one before it
read backwards. -/
def lowerBetween (before after : List Char) : List Char → List Char
  | [] => []
  | c :: rest =>
      (if c = 'Σ' then [sigma before (rest ++ after)] else lowercase c)
        ++ lowerBetween (c :: before) after rest

/-- At the end of a text nothing stands after it. -/
theorem lowerAfter_eq (before s : List Char) : lowerAfter before s = lowerBetween before [] s := by
  induction s generalizing before with
  | nil => rfl
  | cons c rest ih => rw [lowerAfter, lowerBetween, ih, List.append_nil]; rfl

theorem lower_eq (s : List Char) : lower s = lowerBetween [] [] s := lowerAfter_eq [] s

/-- **Of two texts in a row each goes to lower case beside the other.** -/
theorem lowerBetween_append (before after s t : List Char) :
    lowerBetween before after (s ++ t) =
      lowerBetween before (t ++ after) s ++ lowerBetween (s.reverse ++ before) after t := by
  induction s generalizing before with
  | nil => rfl
  | cons c rest ih =>
      simp only [List.cons_append, lowerBetween, ih, List.append_assoc, List.reverse_cons,
        List.nil_append]

/-- A capital sigma goes to its form there, between what the two parts of the
text go to. -/
theorem lowerBetween_sigma (before after first rest : List Char) :
    lowerBetween before after (first ++ 'Σ' :: rest) =
      lowerBetween before ('Σ' :: rest ++ after) first ++
        sigma (first.reverse ++ before) (rest ++ after) ::
          lowerBetween ('Σ' :: (first.reverse ++ before)) after rest := by
  rw [lowerBetween_append, lowerBetween, if_pos rfl]
  rfl

/-- What a text goes to where it stands in another is part of what that one
goes to. -/
theorem lowerBetween_infix (u s v : List Char) :
    lowerBetween u.reverse v s <:+: lower (u ++ s ++ v) := by
  refine ⟨lowerBetween [] (s ++ v) u, lowerBetween (s.reverse ++ u.reverse) [] v, ?_⟩
  simp only [lower_eq, lowerBetween_append, List.append_nil, List.reverse_append]

/-! ## Steady texts -/

/-- All capital sigmas of a text stand in settled places, if these characters
stand before it. -/
def SteadyAfter (before : List Char) : List Char → Prop
  | [] => True
  | c :: after => (c = 'Σ' → Settled before after) ∧ SteadyAfter (c :: before) after

/-- All capital sigmas of a text stand in settled places. -/
def Steady (s : List Char) : Prop := SteadyAfter [] s

instance decidableSteadyAfter : ∀ before s : List Char, Decidable (SteadyAfter before s)
  | _, [] => inferInstanceAs (Decidable True)
  | before, c :: after =>
      have : Decidable (SteadyAfter (c :: before) after) := decidableSteadyAfter (c :: before) after
      inferInstanceAs (Decidable ((c = 'Σ' → Settled before after) ∧ SteadyAfter (c :: before) after))

instance : Decidable (Steady s) := inferInstanceAs (Decidable (SteadyAfter [] s))

/-- **A steady text goes to the same wherever it stands.** -/
theorem lowerBetween_of_steadyAfter (h : SteadyAfter before s) (u v : List Char) :
    lowerBetween (before ++ u) v s = lowerBetween before [] s := by
  induction s generalizing before with
  | nil => rfl
  | cons c rest ih =>
      obtain ⟨hc, hrest⟩ := h
      have htail := ih hrest
      rw [List.cons_append] at htail
      rw [lowerBetween, lowerBetween, htail, List.append_nil]
      by_cases hsigma : c = 'Σ'
      · rw [if_pos hsigma, if_pos hsigma, sigma, sigma, (hc hsigma).endsWord_append]
      · rw [if_neg hsigma, if_neg hsigma]

/-- So its lower case occurs wherever it does itself. -/
theorem occursIn_lower_of_steady (h : Steady needle) (hoccurs : occursIn needle hay = true) :
    occursIn (lower needle) (lower hay) = true := by
  obtain ⟨u, v, rfl⟩ := occursIn_iff.mp hoccurs
  rw [occursIn_iff, lower_eq needle, ← lowerBetween_of_steadyAfter h u.reverse v]
  exact lowerBetween_infix u needle v

/-- A text without capital sigmas is steady. -/
theorem steadyAfter_of_not_mem (h : 'Σ' ∉ s) (before : List Char) : SteadyAfter before s := by
  induction s generalizing before with
  | nil => trivial
  | cons c rest ih =>
      rw [List.mem_cons, not_or] at h
      exact ⟨fun hc => absurd hc.symm h.1, ih h.2 (c :: before)⟩

/-! ## Texts that are not steady -/

/-- Such a text has a sigma in a place that is not settled. -/
theorem exists_of_not_steadyAfter (h : ¬ SteadyAfter before s) :
    ∃ first rest, s = first ++ 'Σ' :: rest ∧ ¬ Settled (first.reverse ++ before) rest := by
  induction s generalizing before with
  | nil => exact absurd trivial h
  | cons c after ih =>
      by_cases hplace : c = 'Σ' → Settled before after
      · have hrest : ¬ SteadyAfter (c :: before) after := fun hrest => h ⟨hplace, hrest⟩
        obtain ⟨first, rest, rfl, hnot⟩ := ih hrest
        exact ⟨c :: first, rest, rfl, by simpa using hnot⟩
      · obtain ⟨rfl, hnot⟩ := Classical.not_imp.mp hplace
        exact ⟨[], after, rfl, hnot⟩

/-- Where other text around turns no sigma to a form, it makes no more of
that form. -/
theorem count_lowerBetween_le {x : Char} {u v : List Char}
    (h : ∀ before after, sigma (before ++ u) (after ++ v) = x → sigma before after = x)
    (before after s : List Char) :
    (lowerBetween (before ++ u) (after ++ v) s).count x ≤ (lowerBetween before after s).count x := by
  induction s generalizing before with
  | nil => exact le_rfl
  | cons c rest ih =>
      have htail := ih (c :: before)
      rw [List.cons_append] at htail
      rw [lowerBetween, lowerBetween, List.count_append, List.count_append]
      refine Nat.add_le_add ?_ htail
      -- only a sigma goes to something else beside other text, and never newly to `x`
      by_cases hc : c = 'Σ'
      · have hform := h before (rest ++ after)
        rw [List.append_assoc] at hform
        rw [if_pos hc, if_pos hc, List.count_singleton, List.count_singleton]
        by_cases hx : sigma (before ++ u) (rest ++ (after ++ v)) = x
        · simp [hx, hform hx]
        · simp [hx]
      · rw [if_neg hc, if_neg hc]

/-- And fewer, if it turns one from that form. -/
theorem count_lowerBetween_lt {x : Char} {u v first rest : List Char}
    (h : ∀ before after, sigma (before ++ u) (after ++ v) = x → sigma before after = x)
    (hform : sigma first.reverse rest = x) (hturned : sigma (first.reverse ++ u) (rest ++ v) ≠ x) :
    (lowerBetween u v (first ++ 'Σ' :: rest)).count x < (lower (first ++ 'Σ' :: rest)).count x := by
  have hfirst := count_lowerBetween_le h [] ('Σ' :: rest) first
  have hrest := count_lowerBetween_le h ('Σ' :: first.reverse) [] rest
  rw [lower_eq, lowerBetween_sigma, lowerBetween_sigma, List.count_append, List.count_append,
    List.append_nil, List.append_nil, List.append_nil, hform, List.count_cons_self,
    List.count_cons_of_ne hturned]
  exact Nat.lt_succ_of_le (Nat.add_le_add hfirst hrest)

/-- A text that has fewer of a character than another does not have the
other in it. -/
theorem occursIn_eq_false_of_count_lt {x : Char} (h : hay.count x < needle.count x) :
    occursIn needle hay = false := by
  rw [← Bool.not_eq_true, occursIn_iff]
  exact fun hoccurs => (hoccurs.sublist.count_le x).not_gt h

/-- The letter `a` is cased, and case does not look past it. -/
theorem meets?_letter : meets? ['a'] = some true := by decide

theorem lowercase_letter : lowercase 'a' = ['a'] := by decide

/-- A letter far before a sigma only ever turns it to its final form. -/
theorem sigma_eq_middle_of_letter (before after : List Char)
    (h : sigma (before ++ ['a']) (after ++ []) = 'σ') : sigma before after = 'σ' := by
  rw [sigma_eq_middle_iff, meets?_append, List.append_nil] at h
  rw [sigma_eq_middle_iff]
  exact fun hbefore => h (by rw [hbefore]; rfl)

/-- And one far after it to its middle form. -/
theorem sigma_eq_final_of_letter (before after : List Char)
    (h : sigma (before ++ []) (after ++ ['a']) = 'ς') : sigma before after = 'ς' := by
  rw [sigma_eq_final_iff, meets?_append after, List.append_nil] at h
  rw [sigma_eq_final_iff]
  exact ⟨h.1, fun hafter => h.2 (by rw [hafter]; rfl)⟩

/-- **A text that is not steady occurs in one whose lower case its own does
not occur in**: the text with a letter before it, or with a letter after
it. Either way the larger text has fewer sigmas of one of the forms. -/
theorem exists_not_occursIn_lower (h : ¬ Steady needle) :
    ∃ hay, occursIn needle hay = true ∧ occursIn (lower needle) (lower hay) = false := by
  obtain ⟨first, rest, rfl, hnot⟩ := exists_of_not_steadyAfter h
  rw [List.append_nil] at hnot
  rcases not_settled_cases hnot with ⟨hbefore, hafter⟩ | ⟨hbefore, hafter⟩
  -- nothing is met before the sigma, so by itself it ends no word: a letter there makes it end one
  · refine ⟨'a' :: (first ++ 'Σ' :: rest), occursIn_iff.mpr (List.suffix_cons _ _).isInfix, ?_⟩
    have hlower : lower ('a' :: (first ++ 'Σ' :: rest)) =
        'a' :: lowerBetween ['a'] [] (first ++ 'Σ' :: rest) := by
      rw [lower_eq, lowerBetween, if_neg (by decide), lowercase_letter]
      rfl
    have hform : sigma first.reverse rest = 'σ' := by
      rw [sigma_eq_middle_iff, hbefore]
      simp
    have hturned : sigma (first.reverse ++ ['a']) (rest ++ []) ≠ 'σ' := by
      rw [Ne, sigma_eq_middle_iff, meets?_append, hbefore, meets?_letter, List.append_nil]
      exact fun h => hafter (h rfl)
    refine occursIn_eq_false_of_count_lt (x := 'σ') ?_
    rw [hlower, List.count_cons_of_ne (by decide)]
    exact count_lowerBetween_lt sigma_eq_middle_of_letter hform hturned
  -- only a letter before it is met, so by itself it ends a word: one after it keeps it from that
  · refine ⟨first ++ 'Σ' :: rest ++ ['a'], occursIn_iff.mpr (List.prefix_append _ _).isInfix, ?_⟩
    have hlower : lower (first ++ 'Σ' :: rest ++ ['a']) =
        lowerBetween [] ['a'] (first ++ 'Σ' :: rest) ++ ['a'] := by
      rw [lower_eq, lowerBetween_append, lowerBetween, if_neg (by decide), lowercase_letter]
      rfl
    have hform : sigma first.reverse rest = 'ς' := by
      rw [sigma_eq_final_iff, hbefore, hafter]
      simp
    have hturned : sigma (first.reverse ++ []) (rest ++ ['a']) ≠ 'ς' := by
      rw [Ne, sigma_eq_final_iff, meets?_append rest, hafter, meets?_letter]
      exact fun h => h.2 rfl
    refine occursIn_eq_false_of_count_lt (x := 'ς') ?_
    rw [hlower, List.count_append, List.count_singleton]
    exact count_lowerBetween_lt sigma_eq_final_of_letter hform hturned

/-- **The steady texts are those whose lower case occurs in the lower case of
whatever they occur in.** -/
theorem steady_iff : Steady needle ↔
    ∀ hay, occursIn needle hay = true → occursIn (lower needle) (lower hay) = true := by
  refine ⟨fun h hay => occursIn_lower_of_steady h, fun h => ?_⟩
  by_contra hnot
  obtain ⟨hay, hoccurs, hlost⟩ := exists_not_occursIn_lower hnot
  rw [h hay hoccurs] at hlost
  cases hlost

example : Steady "ΑΣΑ".toList ∧ Steady "-Σ".toList ∧ ¬ Steady "Σ".toList ∧
    ¬ Steady "ΑΣ".toList := by
  decide

end Criteria.Text
