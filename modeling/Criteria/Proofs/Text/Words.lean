import Criteria.Text.Blank
import Mathlib.Data.List.DropRight
/-!
# Text — words

White space parts a text: what stands before a white space character and
what stands after it have their words apart. So the words of a text are read
off how it is written, and however much white space stands between them, or
at the ends, they are the same. `Spaced` says how words are written, and
`words_eq_iff` that splitting a text reads it.
-/

namespace Criteria

namespace Text

open Unicode

variable {s t w : List Char} {ws : List (List Char)} {c : Char}

/-! ## Parting -/

theorem pieces_ne_nil (s : List Char) : pieces s ≠ [] := by
  cases s with
  | nil => exact List.cons_ne_nil _ _
  | cons c rest =>
    rw [pieces]
    split
    · exact List.cons_ne_nil _ _
    · split <;> exact List.cons_ne_nil _ _

theorem pieces_append_space (hc : isWhiteSpace c = true) (s t : List Char) :
    pieces (s ++ c :: t) = pieces s ++ pieces t := by
  induction s with
  | nil =>
    change pieces (c :: t) = [] :: pieces t
    rw [pieces, if_pos hc]
  | cons d rest ih =>
    rw [List.cons_append, pieces, pieces, ih]
    split
    · rw [List.cons_append]
    · -- there is a first piece, and the character goes to it on both sides
      cases h : pieces rest with
      | nil => exact absurd h (pieces_ne_nil rest)
      | cons piece more => rfl

/-- **White space parts words.** -/
theorem words_append_space (hc : isWhiteSpace c = true) (s t : List Char) :
    words (s ++ c :: t) = words s ++ words t := by
  rw [words, pieces_append_space hc, List.filter_append]
  rfl

theorem pieces_of_no_space (hw : ∀ c ∈ w, isWhiteSpace c = false) : pieces w = [w] := by
  induction w with
  | nil => rfl
  | cons c rest ih =>
    have hc : isWhiteSpace c = false := hw c List.mem_cons_self
    rw [pieces, if_neg (by simp [hc]), ih fun d hd => hw d (List.mem_cons_of_mem c hd)]

/-- What has no white space in it is one word. -/
theorem words_of_no_space (hne : w ≠ []) (hw : ∀ c ∈ w, isWhiteSpace c = false) :
    words w = [w] := by
  rw [words, pieces_of_no_space hw]
  simpa using hne

/-! ## How words are written -/

/-- A text with these words in it: none of them is empty or has white space
in it, and there is white space between any two. -/
inductive Spaced : List (List Char) → List Char → Prop
  | nil : Spaced [] []
  | space {ws : List (List Char)} {c : Char} {s : List Char} :
      isWhiteSpace c = true → Spaced ws s → Spaced ws (c :: s)
  /-- A word at the end. -/
  | last {w : List Char} :
      w ≠ [] → (∀ c ∈ w, isWhiteSpace c = false) → Spaced [w] w
  /-- A word, and the white space after it. -/
  | word {ws : List (List Char)} {w s : List Char} {c : Char} :
      w ≠ [] → (∀ c ∈ w, isWhiteSpace c = false) → isWhiteSpace c = true → Spaced ws s →
      Spaced (w :: ws) (w ++ c :: s)

theorem words_of_spaced (h : Spaced ws s) : words s = ws := by
  induction h with
  | nil => rfl
  | @space ws c s hc _ ih => exact (words_append_space hc [] s).trans ih
  | last hne hw => exact words_of_no_space hne hw
  | @word ws w s c hne hw hc _ ih =>
    rw [words_append_space hc, words_of_no_space hne hw, ih, List.singleton_append]

/-- A text that does not begin with white space begins with a word, and ends
with it or goes on with white space. -/
theorem exists_word (hc : isWhiteSpace c = false) (s : List Char) :
    ∃ w, w ≠ [] ∧ (∀ d ∈ w, isWhiteSpace d = false) ∧
      (c :: s = w ∨ ∃ d t, isWhiteSpace d = true ∧ c :: s = w ++ d :: t) := by
  induction s generalizing c with
  | nil => exact ⟨[c], List.cons_ne_nil _ _, by simpa using hc, Or.inl rfl⟩
  | cons e rest ih =>
    cases he : isWhiteSpace e with
    | true => exact ⟨[c], List.cons_ne_nil _ _, by simpa using hc, Or.inr ⟨e, rest, he, rfl⟩⟩
    | false =>
      obtain ⟨w, -, hw, hrest⟩ := ih he
      refine ⟨c :: w, List.cons_ne_nil _ _, List.forall_mem_cons.mpr ⟨hc, hw⟩, ?_⟩
      rcases hrest with hlast | ⟨d, t, hd, hmore⟩
      · exact Or.inl (congrArg (c :: ·) hlast)
      · exact Or.inr ⟨d, t, hd, congrArg (c :: ·) hmore⟩

/-- **Every text is written so, with its words.** By induction on its length:
a word at the front, with the white space after it, leaves a shorter text. -/
theorem spaced_words (s : List Char) : Spaced (words s) s := by
  match s with
  | [] => exact .nil
  | c :: rest =>
    cases hc : isWhiteSpace c with
    | true =>
      have hwords : words (c :: rest) = words rest := words_append_space hc [] rest
      rw [hwords]
      exact .space hc (spaced_words rest)
    | false =>
      obtain ⟨w, hne, hw, hlast | ⟨d, t, hd, hmore⟩⟩ := exists_word hc rest
      · rw [hlast, words_of_no_space hne hw]
        exact .last hne hw
      · have hshorter : t.length < rest.length + 1 := by
          have hlength := congrArg List.length hmore
          simp only [List.length_cons, List.length_append] at hlength
          omega
        rw [hmore, words_append_space hd, words_of_no_space hne hw]
        exact .word hne hw hd (spaced_words t)
termination_by s.length

/-- **A text has the words it is written with**, and no others. -/
theorem words_eq_iff : words s = ws ↔ Spaced ws s :=
  ⟨fun h => h ▸ spaced_words s, words_of_spaced⟩

/-- A word is not empty and has no white space in it. -/
theorem Spaced.of_mem (h : Spaced ws s) (hw : w ∈ ws) :
    w ≠ [] ∧ ∀ c ∈ w, isWhiteSpace c = false := by
  induction h with
  | nil => cases hw
  | space _ _ ih => exact ih hw
  | last hne hclear =>
    obtain rfl := List.mem_singleton.mp hw
    exact ⟨hne, hclear⟩
  | word hne hclear _ _ ih =>
    rcases List.mem_cons.mp hw with rfl | hmem
    · exact ⟨hne, hclear⟩
    · exact ih hmem

/-! ## Trimming -/

/-- Trimming leaves nothing of a text that has nothing but white space. -/
theorem trim_eq_nil_iff : trim s = [] ↔ isBlank s = true := by
  have htrim : trim s = (s.dropWhile isWhiteSpace).rdropWhile isWhiteSpace := rfl
  -- what is left of the front has white space alone, so dropping that again leaves nothing of it
  rw [htrim, List.rdropWhile_eq_nil_iff, ← List.dropWhile_eq_nil_iff, List.dropWhile_idempotent,
    List.dropWhile_eq_nil_iff, isBlank, List.all_eq_true]

end Text

end Criteria
