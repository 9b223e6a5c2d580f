import Criteria.Format.Email
import Criteria.Proofs.Format.Whole
import Mathlib.Data.List.DropRight
/-!
# Formats — electronic mail addresses

The pattern of an address can be laid over a text in more than one way, as its
domain takes dots and letters both, and the test asks for any way at all. One
way decides: no part takes an at sign but the sign between the two, and no
letter is a dot, so the last label begins after the last dot. The test is thus
a test of what stands before and after those two places.
-/

namespace Criteria.Format

open Pattern

namespace Email

/-! ## The two places -/

/-- What stands before the first at sign. -/
def localPart (s : List Char) : List Char := s.takeWhile (· != '@')

/-- What stands after it. -/
def domain (s : List Char) : List Char := (s.dropWhile (· != '@')).tail

/-- What stands before the last dot. -/
def beforeDot (s : List Char) : List Char := (s.rdropWhile (· != '.')).dropLast

/-- What stands after it. -/
def lastLabel (s : List Char) : List Char := s.rtakeWhile (· != '.')

/-- What an address is, by the two places: a local part and a domain on the two
sides of the one at sign, and in the domain something on the two sides of the
last dot, with two letters or more after it. -/
structure IsAddress (s : List Char) : Prop where
  count_at : s.count '@' = 1
  local_ne_nil : localPart s ≠ []
  local_chars : ∀ c ∈ localPart s, IsLetter c ∨ IsDigit c ∨ c ∈ ['.', '_', '%', '+', '-']
  domain_chars : ∀ c ∈ domain s, IsLetter c ∨ IsDigit c ∨ c ∈ ['.', '-']
  dot_mem : '.' ∈ domain s
  before_ne_nil : beforeDot (domain s) ≠ []
  two_le_length : 2 ≤ (lastLabel (domain s)).length
  label_letters : ∀ c ∈ lastLabel (domain s), IsLetter c

variable {s l d t : List Char}

section Mark

variable {mark : Char} {r : List Char}

theorem takeWhile_mark (h : mark ∉ l) : (l ++ mark :: r).takeWhile (· != mark) = l := by
  have hne : ∀ c ∈ l, (c != mark) = true := fun c hc => bne_iff_ne.mpr (ne_of_mem_of_not_mem hc h)
  rw [List.takeWhile_append_of_pos hne, List.takeWhile_cons_of_neg (by simp), List.append_nil]

theorem dropWhile_mark (h : mark ∉ l) : (l ++ mark :: r).dropWhile (· != mark) = mark :: r := by
  have hne : ∀ c ∈ l, (c != mark) = true := fun c hc => bne_iff_ne.mpr (ne_of_mem_of_not_mem hc h)
  rw [List.dropWhile_append_of_pos hne, List.dropWhile_cons_of_neg (by simp)]

end Mark

/-- The first at sign is the one with none before it. -/
theorem split_at (h : '@' ∉ l) : localPart (l ++ '@' :: d) = l ∧ domain (l ++ '@' :: d) = d :=
  ⟨takeWhile_mark h, congrArg List.tail (dropWhile_mark h)⟩

/-- The last dot is the one with none after it. -/
theorem split_dot (h : '.' ∉ t) : beforeDot (d ++ '.' :: t) = d ∧ lastLabel (d ++ '.' :: t) = t := by
  have hreverse : (d ++ '.' :: t).reverse = t.reverse ++ '.' :: d.reverse := by simp
  have hnot : '.' ∉ t.reverse := mt List.mem_reverse.mp h
  constructor
  · rw [beforeDot, List.rdropWhile, hreverse, dropWhile_mark hnot, List.reverse_cons,
      List.reverse_reverse, List.dropLast_concat]
  · rw [lastLabel, List.rtakeWhile, hreverse, takeWhile_mark hnot, List.reverse_reverse]

/-- A text with an at sign has a first one. -/
theorem eq_localPart_append (h : '@' ∈ s) : s = localPart s ++ '@' :: domain s := by
  obtain ⟨l, d, rfl, hl⟩ := List.eq_append_cons_of_mem h
  obtain ⟨hlocal, hdomain⟩ := split_at (d := d) hl
  rw [hlocal, hdomain]

/-- A text with a dot has a last one. -/
theorem eq_beforeDot_append (h : '.' ∈ s) : s = beforeDot s ++ '.' :: lastLabel s := by
  obtain ⟨t, d, hs, ht⟩ := List.eq_append_cons_of_mem (List.mem_reverse.mpr h)
  obtain rfl : s = d.reverse ++ '.' :: t.reverse := by
    rw [← List.reverse_reverse s, hs]
    simp
  obtain ⟨hbefore, hlast⟩ := split_dot (d := d.reverse) (mt List.mem_reverse.mp ht)
  rw [hbefore, hlast]

/-! ## Ways to lay the pattern over a text -/

/-- The pattern lies over the text with its parts at these stretches. -/
structure Lies (l d t s : List Char) : Prop where
  local_ne_nil : l ≠ []
  local_chars : ∀ c ∈ l, IsLetter c ∨ IsDigit c ∨ c ∈ ['.', '_', '%', '+', '-']
  front_ne_nil : d ≠ []
  front_chars : ∀ c ∈ d, IsLetter c ∨ IsDigit c ∨ c ∈ ['.', '-']
  two_le_length : 2 ≤ t.length
  letters : ∀ c ∈ t, IsLetter c
  eq_append : s = l ++ '@' :: (d ++ '.' :: t)

theorem occursIn_pattern_iff : pattern.occursIn s = true ↔ ∃ l d t, Lies l d t s := by
  have hplain : ∀ p ∈ [run localChars, .one (· == '@'), run domainChars, .one (· == '.'),
      .loop 2 none (.one Char.isAlpha)], (p : Pattern CharSet Anchor).IsPlain := by
    simp [IsPlain, isPlain_run]
  rw [pattern, occursIn_whole_iff hplain]
  simp only [List.map_cons, List.map_nil, List.prod_cons, List.prod_nil, mul_one, Language.mem_mul,
    mem_language_run, mem_language_one, mem_language_loop_one, localChars, domainChars,
    alphanumericOr_iff, isAlpha_iff, beq_iff_eq]
  constructor
  · rintro ⟨l, ⟨hl, hlocal⟩, _, ⟨_, ⟨_, rfl, rfl⟩, _, ⟨d, ⟨hd, hfront⟩, _,
      ⟨_, ⟨_, rfl, rfl⟩, t, ⟨ht, -, hletters⟩, rfl⟩, rfl⟩, rfl⟩, rfl⟩
    exact ⟨l, d, t, hl, hlocal, hd, hfront, ht, hletters, by simp⟩
  · rintro ⟨l, d, t, hl, hlocal, hd, hfront, ht, hletters, rfl⟩
    exact ⟨l, ⟨hl, hlocal⟩, _, ⟨['@'], ⟨_, rfl, rfl⟩, _, ⟨d, ⟨hd, hfront⟩, _,
      ⟨['.'], ⟨_, rfl, rfl⟩, t, ⟨ht, nofun, hletters⟩, rfl⟩, rfl⟩, rfl⟩, by simp⟩

/-- **There is one way at most**: the parts lie before and after the one at sign
and the last dot. -/
theorem Lies.isAddress (h : Lies l d t s) : IsAddress s := by
  have hlocal : '@' ∉ l := fun hc => absurd (h.local_chars _ hc) (by decide)
  have hdomain : ∀ c ∈ d ++ '.' :: t, IsLetter c ∨ IsDigit c ∨ c ∈ ['.', '-'] := by
    intro c hc
    rw [List.mem_append, List.mem_cons] at hc
    rcases hc with hd | rfl | ht
    · exact h.front_chars c hd
    · decide
    · exact Or.inl (h.letters c ht)
  have hnone : '@' ∉ d ++ '.' :: t := fun hc => absurd (hdomain _ hc) (by decide)
  have hdot : '.' ∉ t := fun hc => absurd (h.letters _ hc) (by decide)
  obtain ⟨hl, hd⟩ := split_at (d := d ++ '.' :: t) hlocal
  obtain ⟨hbefore, hlast⟩ := split_dot (d := d) hdot
  rw [← h.eq_append] at hl hd
  constructor
  · rw [h.eq_append, List.count_append, List.count_cons_self, List.count_eq_zero_of_not_mem hlocal,
      List.count_eq_zero_of_not_mem hnone]
  · rw [hl]
    exact h.local_ne_nil
  · rw [hl]
    exact h.local_chars
  · rw [hd]
    exact hdomain
  · rw [hd]
    simp
  · rw [hd, hbefore]
    exact h.front_ne_nil
  · rw [hd, hlast]
    exact h.two_le_length
  · rw [hd, hlast]
    exact h.letters

/-- And there is one in an address. -/
theorem IsAddress.lies (h : IsAddress s) :
    Lies (localPart s) (beforeDot (domain s)) (lastLabel (domain s)) s := by
  have hdomain := eq_beforeDot_append h.dot_mem
  have hat : '@' ∈ s := List.count_pos_iff.mp (h.count_at ▸ Nat.one_pos)
  refine ⟨h.local_ne_nil, h.local_chars, h.before_ne_nil, fun c hc => h.domain_chars c ?_,
    h.two_le_length, h.label_letters, ?_⟩
  · rw [hdomain]
    exact List.mem_append_left _ hc
  · rw [← hdomain]
    exact eq_localPart_append hat

/-- **The test of addresses is decided by two places**, the at sign and the last
dot after it. -/
theorem isEmail_iff (s : String) : isEmail s = true ↔ IsAddress s.toList := by
  rw [isEmail, Bool.and_eq_true, occursIn_pattern_iff]
  constructor
  · rintro ⟨-, l, d, t, h⟩
    exact h.isAddress
  · intro h
    refine ⟨?_, _, _, _, h.lies⟩
    rw [Bool.not_eq_true', String.isEmpty_eq_false_iff]
    rintro rfl
    exact h.local_ne_nil rfl

end Email

end Criteria.Format
