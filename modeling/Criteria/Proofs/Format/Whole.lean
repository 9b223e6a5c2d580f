import Criteria.Format.Shape
import Criteria.Proofs.Pattern.Stretch
import Mathlib.Computability.Language
/-!
# Formats — texts that fit from start to end

Apart from its places a pattern is a regular expression, and has a language:
the stretches it can describe, wherever they stand. A pattern without places
describes the stretches of its language and no others, so a format, which is
such patterns in a row between the ends of the text, fits exactly the texts
that are put together from one stretch of each.
-/

namespace Criteria

/-! ## Stretches of a language -/

/-- From every position of every text, a step goes over the stretches of a
language that come next. -/
def Takes (step : List Char → Nat → Nat → Prop) (L : Language Char) : Prop :=
  ∀ before after j, step (before ++ after) before.length j ↔
    ∃ stretch ∈ L, ∃ rest, after = stretch ++ rest ∧ j = (before ++ stretch).length

namespace Takes

variable {step step' : List Char → Nat → Nat → Prop} {L M : Language Char}

theorem comp (h : Takes step L) (h' : Takes step' M) :
    Takes (fun text i j => ∃ m, step text i m ∧ step' text m j) (L * M) := by
  intro before after j
  constructor
  · rintro ⟨m, hm, hj⟩
    obtain ⟨s, hs, rest, rfl, rfl⟩ := (h _ _ _).mp hm
    rw [← List.append_assoc] at hj
    obtain ⟨t, ht, rest', rfl, rfl⟩ := (h' _ _ _).mp hj
    exact ⟨s ++ t, Language.append_mem_mul hs ht, rest', by simp, by simp⟩
  · rintro ⟨st, hst, rest, rfl, rfl⟩
    obtain ⟨s, hs, t, ht, rfl⟩ := Language.mem_mul.mp hst
    refine ⟨(before ++ s).length, (h _ _ _).mpr ⟨s, hs, t ++ rest, by simp, rfl⟩, ?_⟩
    have hnext := (h' (before ++ s) (t ++ rest) _).mpr ⟨t, ht, rest, rfl, rfl⟩
    simpa using hnext

theorem or (h : Takes step L) (h' : Takes step' M) :
    Takes (fun text i j => step text i j ∨ step' text i j) (L + M) := by
  intro before after j
  refine (or_congr (h before after j) (h' before after j)).trans ?_
  rw [← exists_or]
  exact exists_congr fun s => or_and_right.symm

theorem nothing : Takes (fun _ => Eq) 1 := by
  intro before after j
  simp [Language.mem_one, eq_comm]

theorem rounds (h : Takes step L) (k : Nat) : Takes (fun text => Rounds (step text) k) (L ^ k) := by
  induction k with
  | zero => exact nothing
  | succ k ih =>
    rw [pow_succ']
    exact h.comp ih

end Takes

namespace Pattern

variable {σ τ : Type}

/-- The pattern asks for characters only. -/
def IsPlain : Pattern σ τ → Prop
  | empty => True
  | one _ => True
  | look _ => False
  | seq first second => first.IsPlain ∧ second.IsPlain
  | either left right => left.IsPlain ∧ right.IsPlain
  | loop _ _ body => body.IsPlain

/-- The stretches that a pattern can describe; what it asks of a place is left
out. -/
def language : Pattern CharSet τ → Language Char
  | empty => 1
  | one set => {s | ∃ c, set c = true ∧ s = [c]}
  | look _ => 1
  | seq first second => first.language * second.language
  | either left right => left.language + right.language
  | loop least most body =>
      {s | ∃ more, (∀ n, most = some n → more ≤ n - least) ∧ s ∈ body.language ^ (least + more)}

theorem mem_language_one {set : CharSet} {s : List Char} :
    s ∈ (one set : Pattern CharSet τ).language ↔ ∃ c, set c = true ∧ s = [c] := Iff.rfl

/-- **A pattern without places describes the stretches of its language**, from
every position and whatever stands around them. -/
theorem takes_language {p : Pattern CharSet Anchor} (hp : p.IsPlain) :
    Takes (fun text => p.Spans text) p.language := by
  induction p with
  | empty => exact Takes.nothing
  | one set =>
    intro before after j
    cases after <;> simp [Spans, mem_language_one]
  | look anchor => exact hp.elim
  | seq first second ihfirst ihsecond => exact (ihfirst hp.1).comp (ihsecond hp.2)
  | either left right ihleft ihright => exact (ihleft hp.1).or (ihright hp.2)
  | loop least most body ih =>
    intro before after j
    constructor
    · rintro ⟨more, hmore, hrounds⟩
      obtain ⟨s, hs, hrest⟩ := ((ih hp).rounds _ _ _ _).mp hrounds
      exact ⟨s, ⟨more, hmore, hs⟩, hrest⟩
    · rintro ⟨s, ⟨more, hmore, hs⟩, hrest⟩
      exact ⟨more, hmore, ((ih hp).rounds _ _ _ _).mpr ⟨s, hs, hrest⟩⟩

/-! ## Characters of a set -/

theorem mem_language_one_pow {set : CharSet} {k : Nat} {s : List Char} :
    s ∈ (one set : Pattern CharSet τ).language ^ k ↔ s.length = k ∧ ∀ c ∈ s, set c = true := by
  induction k generalizing s with
  | zero => simp +contextual [Language.mem_one]
  | succ k ih =>
    rw [pow_succ', Language.mem_mul]
    constructor
    · rintro ⟨_, ⟨c, hc, rfl⟩, rest, hrest, rfl⟩
      obtain ⟨hlength, hall⟩ := ih.mp hrest
      exact ⟨by simp [hlength], List.forall_mem_cons.mpr ⟨hc, hall⟩⟩
    · rintro ⟨hlength, hall⟩
      obtain ⟨c, rest, rfl⟩ := List.exists_cons_of_length_eq_add_one hlength
      obtain ⟨hc, hrest⟩ := List.forall_mem_cons.mp hall
      exact ⟨[c], ⟨c, hc, rfl⟩, rest, ih.mpr ⟨Nat.succ.inj hlength, hrest⟩, rfl⟩

/-- Characters of a set, some number of times: as many as the repetition
allows. -/
theorem mem_language_loop_one {least : Nat} {most : Option Nat} {set : CharSet} {s : List Char} :
    s ∈ (loop least most (one set) : Pattern CharSet τ).language ↔
      least ≤ s.length ∧ (∀ n, most = some n → s.length ≤ max least n) ∧ ∀ c ∈ s, set c = true := by
  constructor
  · rintro ⟨more, hmore, hs⟩
    obtain ⟨hlength, hall⟩ := mem_language_one_pow.mp hs
    refine ⟨by omega, fun n hn => ?_, hall⟩
    have hbound := hmore n hn
    omega
  · rintro ⟨hleast, hmost, hall⟩
    refine ⟨s.length - least, fun n hn => ?_, mem_language_one_pow.mpr ⟨by omega, hall⟩⟩
    have hbound := hmost n hn
    omega

end Pattern

namespace Format

open Pattern

/-! ## Characters of formats -/

/-- An ASCII letter. -/
def IsLetter (c : Char) : Prop := ('A' ≤ c ∧ c ≤ 'Z') ∨ ('a' ≤ c ∧ c ≤ 'z')

/-- An ASCII digit. -/
def IsDigit (c : Char) : Prop := '0' ≤ c ∧ c ≤ '9'

theorem isAlpha_iff {c : Char} : c.isAlpha = true ↔ IsLetter c := by
  have hboth : c.isAlpha = true ↔ c.isUpper = true ∨ c.isLower = true := Bool.or_eq_true_iff
  have hupper : c.isUpper = true ↔ 'A' ≤ c ∧ c ≤ 'Z' := decide_eq_true_iff
  have hlower : c.isLower = true ↔ 'a' ≤ c ∧ c ≤ 'z' :=
    Bool.and_eq_true_iff.trans (and_congr decide_eq_true_iff decide_eq_true_iff)
  rw [hboth, hupper, hlower, IsLetter]

theorem isDigit_iff {c : Char} : c.isDigit = true ↔ IsDigit c := by
  simp [Char.isDigit, IsDigit, Char.le_def]

instance {c : Char} : Decidable (IsLetter c) := decidable_of_iff _ isAlpha_iff

instance {c : Char} : Decidable (IsDigit c) := decidable_of_iff _ isDigit_iff

theorem alphanumericOr_iff {others : List Char} {c : Char} :
    alphanumericOr others c = true ↔ IsLetter c ∨ IsDigit c ∨ c ∈ others := by
  rw [alphanumericOr, Char.isAlphanum, Bool.or_eq_true, Bool.or_eq_true, isAlpha_iff, isDigit_iff,
    List.contains_iff_mem, or_assoc]

/-! ## Parts of a whole -/

theorem isPlain_run (set : CharSet) : (run set).IsPlain := trivial

theorem mem_language_run {set : CharSet} {s : List Char} :
    s ∈ (run set).language ↔ s ≠ [] ∧ ∀ c ∈ s, set c = true := by
  simp [run, mem_language_loop_one, Nat.one_le_iff_ne_zero]

variable {parts : List (Pattern CharSet Anchor)} {text : List Char}

/-- Parts in a row up to the end of the text take all that comes next, in
stretches of each. -/
theorem spans_parts_iff (hplain : ∀ p ∈ parts, p.IsPlain) (before after : List Char) (j : Nat) :
    (parts.foldr seq (look .textEnd)).Spans (before ++ after) before.length j ↔
      j = (before ++ after).length ∧ after ∈ (parts.map language).prod := by
  induction parts generalizing before after j with
  | nil =>
    refine spans_textEnd.trans ?_
    simp [Language.mem_one, and_comm]
  | cons p rest ih =>
    obtain ⟨hp, hrest⟩ := List.forall_mem_cons.mp hplain
    rw [List.map_cons, List.prod_cons, Language.mem_mul]
    constructor
    · rintro ⟨m, hm, hj⟩
      obtain ⟨s, hs, after, rfl, rfl⟩ := (takes_language hp _ _ _).mp hm
      rw [← List.append_assoc] at hj
      obtain ⟨rfl, hafter⟩ := (ih hrest _ _ _).mp hj
      exact ⟨by simp, s, hs, after, hafter, rfl⟩
    · rintro ⟨rfl, s, hs, after, hafter, rfl⟩
      refine ⟨(before ++ s).length, (takes_language hp _ _ _).mpr ⟨s, hs, after, rfl, rfl⟩, ?_⟩
      rw [← List.append_assoc]
      exact (ih hrest (before ++ s) after _).mpr ⟨rfl, hafter⟩

/-- **A format fits a text that is one stretch of each part, one after the
other**, and nothing beside. -/
theorem occursIn_whole_iff (hplain : ∀ p ∈ parts, p.IsPlain) :
    (whole parts).occursIn text = true ↔ text ∈ (parts.map language).prod := by
  rw [occursIn_iff]
  constructor
  · rintro ⟨i, -, j, m, hm, hj⟩
    obtain ⟨rfl, rfl⟩ := spans_textStart.mp hm
    exact ((spans_parts_iff hplain [] text j).mp hj).2
  · intro h
    exact ⟨0, Nat.zero_le _, text.length, 0, spans_textStart.mpr ⟨rfl, rfl⟩,
      (spans_parts_iff hplain [] text _).mpr ⟨rfl, h⟩⟩

end Format

end Criteria
