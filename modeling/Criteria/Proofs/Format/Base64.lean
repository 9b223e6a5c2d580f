import Criteria.Format.Base64
import Criteria.Proofs.Format.Whole
import Mathlib.Data.String.Basic
/-!
# Formats — Base64 with padding

The test of the format looks at three things apart from each other: that the
text is not empty, that its bytes come in fours, and that it is symbols with
at most two equal signs after them. Together they say that the text is quanta
of four symbols, of which the last alone may have one or two equal signs for
its last symbols: as the signs are few, the fours leave no other place for
them. Such texts are what bytes are written as, three to a quantum, and all of
them stand for bytes.
-/

namespace Criteria.Format

open Pattern

namespace Base64

/-! ## Padded texts -/

/-- One of the sixty-four symbols. -/
def IsSymbol (c : Char) : Prop := IsLetter c ∨ IsDigit c ∨ c = '+' ∨ c = '/'

/-- Quanta of four symbols, one or more, of which the last may end with one or
two equal signs. -/
inductive Padded : List Char → Prop
  | full {a b c d : Char} :
      IsSymbol a → IsSymbol b → IsSymbol c → IsSymbol d → Padded [a, b, c, d]
  | onePad {a b c : Char} : IsSymbol a → IsSymbol b → IsSymbol c → Padded [a, b, c, '=']
  | twoPads {a b : Char} : IsSymbol a → IsSymbol b → Padded [a, b, '=', '=']
  | cons {a b c d : Char} {rest : List Char} :
      IsSymbol a → IsSymbol b → IsSymbol c → IsSymbol d → Padded rest →
        Padded (a :: b :: c :: d :: rest)

/-- Symbols with some equal signs after them. -/
structure IsBody (body : List Char) (pads : Nat) (text : List Char) : Prop where
  symbols : ∀ c ∈ body, IsSymbol c
  few : pads ≤ 2
  eq_append : text = body ++ List.replicate pads '='

variable {text body : List Char} {pads : Nat}

theorem alphabet_iff {c : Char} : alphabet c = true ↔ IsSymbol c := by
  rw [alphabet, alphanumericOr_iff, List.mem_pair, IsSymbol]

/-- A text fits the pattern where it is symbols with at most two equal signs
after them. -/
theorem occursIn_pattern_iff : pattern.occursIn text = true ↔ ∃ body pads, IsBody body pads text := by
  have hplain : ∀ p ∈ [Pattern.loop 0 none (.one alphabet), .loop 0 (some 2) (.one (· == '='))],
      (p : Pattern CharSet Anchor).IsPlain := by
    simp [IsPlain]
  rw [pattern, occursIn_whole_iff hplain]
  simp only [List.map_cons, List.map_nil, List.prod_cons, List.prod_nil, mul_one, Language.mem_mul,
    mem_language_loop_one, alphabet_iff, beq_iff_eq]
  constructor
  · rintro ⟨body, ⟨-, -, hbody⟩, signs, ⟨-, hfew, hsigns⟩, rfl⟩
    exact ⟨body, signs.length, hbody, hfew 2 rfl, by rw [← List.eq_replicate_of_mem hsigns]⟩
  · rintro ⟨body, pads, hbody, hfew, rfl⟩
    exact ⟨body, ⟨Nat.zero_le _, nofun, hbody⟩, List.replicate pads '=',
      ⟨Nat.zero_le _, by simpa using hfew, fun c => List.eq_of_mem_replicate⟩, rfl⟩

/-! ## Padding goes with the length -/

/-- **In fours, symbols with at most two equal signs after them are padded
quanta**: the symbols of the last quantum and the signs make up four. -/
theorem padded_append (hfew : pads ≤ 2) : ∀ body : List Char, (∀ c ∈ body, IsSymbol c) →
    (body ++ List.replicate pads '=').length % 4 = 0 → body ++ List.replicate pads '=' ≠ [] →
      Padded (body ++ List.replicate pads '=')
  | [], _, hfours, hne => by
    rw [List.nil_append, List.length_replicate] at hfours
    obtain rfl : pads = 0 := by omega
    exact absurd rfl hne
  | [a], _, hfours, _ => by
    rw [List.length_append, List.length_replicate, List.length_singleton] at hfours
    omega
  | [a, b], hbody, hfours, _ => by
    rw [List.length_append, List.length_replicate, List.length_cons, List.length_singleton] at hfours
    obtain rfl : pads = 2 := by omega
    exact .twoPads (hbody a (by simp)) (hbody b (by simp))
  | [a, b, c], hbody, hfours, _ => by
    simp only [List.length_append, List.length_replicate, List.length_cons, List.length_nil] at hfours
    obtain rfl : pads = 1 := by omega
    exact .onePad (hbody a (by simp)) (hbody b (by simp)) (hbody c (by simp))
  | a :: b :: c :: d :: rest, hbody, hfours, _ => by
    simp only [List.forall_mem_cons] at hbody
    obtain ⟨ha, hb, hc, hd, hrest⟩ := hbody
    by_cases hlast : rest ++ List.replicate pads '=' = []
    · simp only [List.cons_append, hlast]
      exact .full ha hb hc hd
    · refine .cons ha hb hc hd (padded_append hfew rest hrest ?_ hlast)
      simpa only [List.cons_append, List.length_cons, Nat.add_mod_right, Nat.add_assoc] using hfours

/-- Padded quanta are symbols with at most two equal signs after them. -/
theorem Padded.exists_isBody (h : Padded text) : ∃ body pads, IsBody body pads text := by
  induction h with
  | @full a b c d ha hb hc hd => exact ⟨[a, b, c, d], 0, by simp [ha, hb, hc, hd], by decide, rfl⟩
  | @onePad a b c ha hb hc => exact ⟨[a, b, c], 1, by simp [ha, hb, hc], by decide, rfl⟩
  | @twoPads a b ha hb => exact ⟨[a, b], 2, by simp [ha, hb], by decide, rfl⟩
  | @cons a b c d rest ha hb hc hd _ ih =>
    obtain ⟨body, pads, hbody, hfew, rfl⟩ := ih
    exact ⟨a :: b :: c :: d :: body, pads, by simpa [ha, hb, hc, hd] using hbody, hfew, rfl⟩

/-- In fours, and at least one. -/
theorem Padded.length (h : Padded text) : text.length % 4 = 0 ∧ text ≠ [] := by
  induction h with
  | cons _ _ _ _ _ ih => simpa [Nat.add_assoc] using ih.1
  | _ => simp

theorem IsSymbol.utf8Size {c : Char} (h : IsSymbol c) : c.utf8Size = 1 := by
  rw [Char.utf8Size_eq_one_iff]
  simp only [IsSymbol, IsLetter, IsDigit, Char.le_def, UInt32.le_iff_toNat_le] at h ⊢
  rcases h with (h | h) | h | rfl | rfl
  · exact h.2.trans (by decide)
  · exact h.2.trans (by decide)
  · exact h.2.trans (by decide)
  · decide
  · decide

/-- A text of characters of one byte has as many bytes as characters. -/
theorem utf8Len_eq_length {s : List Char} (h : ∀ c ∈ s, c.utf8Size = 1) :
    String.utf8Len s = s.length := by
  induction s with
  | nil => rfl
  | cons c rest ih =>
    obtain ⟨hc, hrest⟩ := List.forall_mem_cons.mp h
    rw [String.utf8Len_cons, ih hrest, hc, List.length_cons]

theorem IsBody.utf8Len (h : IsBody body pads text) : String.utf8Len text = text.length := by
  refine utf8Len_eq_length fun c hc => ?_
  rw [h.eq_append, List.mem_append] at hc
  rcases hc with hbody | hpad
  · exact (h.symbols c hbody).utf8Size
  · rw [List.eq_of_mem_replicate hpad]
    rfl

/-- **The test accepts the padded texts and no others.** -/
theorem isBase64_iff {s : String} : isBase64 s = true ↔ Padded s.toList := by
  have hsize : s.utf8ByteSize = String.utf8Len s.toList := by
    rw [← String.utf8ByteSize_ofList, String.ofList_toList]
  rw [isBase64, Bool.and_eq_true, Bool.and_eq_true, Bool.not_eq_true', beq_iff_eq,
    occursIn_pattern_iff, hsize]
  constructor
  · rintro ⟨⟨hne, hfours⟩, body, pads, h⟩
    rw [h.utf8Len] at hfours
    rw [h.eq_append] at hfours ⊢
    refine padded_append h.few body h.symbols hfours ?_
    rw [← h.eq_append]
    simpa using hne
  · intro h
    obtain ⟨body, pads, hbody⟩ := h.exists_isBody
    obtain ⟨hfours, hne⟩ := h.length
    rw [hbody.utf8Len]
    exact ⟨⟨by simpa using hne, hfours⟩, body, pads, hbody⟩

/-! ## Symbols for bytes

A symbol stands for six bits, and a quantum for twenty-four: the bits of three
bytes in a row. -/

/-- The symbol of six bits. -/
def symbol (bits : Nat) : Char :=
  if bits < 26 then Char.ofNat (bits + 65)
  else if bits < 52 then Char.ofNat (bits + 71)
  else if bits < 62 then Char.ofNat (bits - 4)
  else if bits = 62 then '+' else '/'

/-- The six bits of a symbol. -/
def bits? (c : Char) : Option Nat :=
  if 'A' ≤ c ∧ c ≤ 'Z' then some (c.toNat - 65)
  else if 'a' ≤ c ∧ c ≤ 'z' then some (c.toNat - 71)
  else if '0' ≤ c ∧ c ≤ '9' then some (c.toNat + 4)
  else if c = '+' then some 62 else if c = '/' then some 63 else none

theorem bits?_symbol {n : Nat} (h : n < 64) : bits? (symbol n) = some n := by
  revert h
  revert n
  decide

/-- Symbols and no other characters have bits. -/
theorem isSymbol_iff {c : Char} : IsSymbol c ↔ ∃ n, bits? c = some n := by
  unfold IsSymbol IsLetter IsDigit bits?
  split_ifs <;> simp_all

/-- Bytes as padded text, three to a quantum. Of a quantum with one or two
bytes, zeros fill up the bits of the last symbol. -/
def encode : List UInt8 → List Char
  | [] => []
  | [a] => [symbol (a.toNat / 4), symbol (a.toNat % 4 * 16), '=', '=']
  | [a, b] =>
      [symbol (a.toNat / 4), symbol (a.toNat % 4 * 16 + b.toNat / 16), symbol (b.toNat % 16 * 4), '=']
  | a :: b :: c :: rest =>
      symbol (a.toNat / 4) :: symbol (a.toNat % 4 * 16 + b.toNat / 16) ::
        symbol (b.toNat % 16 * 4 + c.toNat / 64) :: symbol (c.toNat % 64) :: encode rest

/-- The three bytes of a quantum's bits. -/
def byte₁ (u v : Nat) : UInt8 := UInt8.ofNat (u * 4 + v / 16)

def byte₂ (v w : Nat) : UInt8 := UInt8.ofNat (v % 16 * 16 + w / 4)

def byte₃ (w x : Nat) : UInt8 := UInt8.ofNat (w % 4 * 64 + x)

/-- The bytes that a text stands for, if it is padded quanta. Bits that fill up
a last symbol stand for nothing. -/
def decode? : List Char → Option (List UInt8)
  | [] => some []
  | a :: b :: c :: d :: rest => do
      let u ← bits? a
      let v ← bits? b
      if c = '=' ∧ d = '=' ∧ rest = [] then return [byte₁ u v]
      let w ← bits? c
      if d = '=' ∧ rest = [] then return [byte₁ u v, byte₂ v w]
      let x ← bits? d
      (decode? rest).map fun bytes => byte₁ u v :: byte₂ v w :: byte₃ w x :: bytes
  | _ => none

/-! ## There and back -/

theorem ne_equals_of_bits? {c : Char} {n : Nat} (h : bits? c = some n) : c ≠ '=' := by
  rintro rfl
  have hnone : bits? '=' = none := by decide
  rw [hnone] at h
  cases h

section Quantum

variable {a b c d : Char} {u v w x : Nat} {rest : List Char}

theorem decode?_twoPads (ha : bits? a = some u) (hb : bits? b = some v) :
    decode? [a, b, '=', '='] = some [byte₁ u v] := by
  simp [decode?, ha, hb]

theorem decode?_onePad (ha : bits? a = some u) (hb : bits? b = some v) (hc : bits? c = some w) :
    decode? [a, b, c, '='] = some [byte₁ u v, byte₂ v w] := by
  simp [decode?, ha, hb, hc, ne_equals_of_bits? hc]

theorem decode?_full (ha : bits? a = some u) (hb : bits? b = some v) (hc : bits? c = some w)
    (hd : bits? d = some x) (rest : List Char) : decode? (a :: b :: c :: d :: rest) =
      (decode? rest).map fun bytes => byte₁ u v :: byte₂ v w :: byte₃ w x :: bytes := by
  simp [decode?, ha, hb, hc, hd, ne_equals_of_bits? hd]

end Quantum

section Bytes

variable (a b c : UInt8)

theorem byte₁_of_bytes : byte₁ (a.toNat / 4) (a.toNat % 4 * 16 + b.toNat / 16) = a := by
  have hb := b.toNat_lt
  rw [byte₁, show a.toNat / 4 * 4 + (a.toNat % 4 * 16 + b.toNat / 16) / 16 = a.toNat by omega,
    UInt8.ofNat_toNat]

theorem byte₂_of_bytes : byte₂ (a.toNat % 4 * 16 + b.toNat / 16) (b.toNat % 16 * 4 + c.toNat / 64) =
    b := by
  have hb := b.toNat_lt
  have hc := c.toNat_lt
  rw [byte₂, show (a.toNat % 4 * 16 + b.toNat / 16) % 16 * 16 +
    (b.toNat % 16 * 4 + c.toNat / 64) / 4 = b.toNat by omega, UInt8.ofNat_toNat]

theorem byte₃_of_bytes : byte₃ (b.toNat % 16 * 4 + c.toNat / 64) (c.toNat % 64) = c := by
  have hc := c.toNat_lt
  rw [byte₃, show (b.toNat % 16 * 4 + c.toNat / 64) % 4 * 64 + c.toNat % 64 = c.toNat by omega,
    UInt8.ofNat_toNat]

end Bytes

/-- **What bytes are written as stands for those bytes.** -/
theorem decode?_encode (bytes : List UInt8) : decode? (encode bytes) = some bytes := by
  fun_induction encode bytes with
  | case1 => rfl
  | case2 a =>
    have ha := a.toNat_lt
    rw [decode?_twoPads (bits?_symbol (by omega)) (bits?_symbol (by omega))]
    simpa using byte₁_of_bytes a 0
  | case3 a b =>
    have ha := a.toNat_lt
    have hb := b.toNat_lt
    rw [decode?_onePad (bits?_symbol (by omega)) (bits?_symbol (by omega))
      (bits?_symbol (by omega)), byte₁_of_bytes]
    simpa using byte₂_of_bytes a b 0
  | case4 a b c rest ih =>
    have ha := a.toNat_lt
    have hb := b.toNat_lt
    have hc := c.toNat_lt
    rw [decode?_full (bits?_symbol (by omega)) (bits?_symbol (by omega))
      (bits?_symbol (by omega)) (bits?_symbol (by omega)), ih, byte₁_of_bytes, byte₂_of_bytes,
      byte₃_of_bytes]
    rfl

/-- A padded text stands for a byte or more. -/
theorem Padded.exists_decode? (h : Padded text) : ∃ b bytes, decode? text = some (b :: bytes) := by
  induction h with
  | full ha hb hc hd =>
    obtain ⟨u, hu⟩ := isSymbol_iff.mp ha
    obtain ⟨v, hv⟩ := isSymbol_iff.mp hb
    obtain ⟨w, hw⟩ := isSymbol_iff.mp hc
    obtain ⟨x, hx⟩ := isSymbol_iff.mp hd
    exact ⟨_, _, decode?_full hu hv hw hx []⟩
  | onePad ha hb hc =>
    obtain ⟨u, hu⟩ := isSymbol_iff.mp ha
    obtain ⟨v, hv⟩ := isSymbol_iff.mp hb
    obtain ⟨w, hw⟩ := isSymbol_iff.mp hc
    exact ⟨_, _, decode?_onePad hu hv hw⟩
  | twoPads ha hb =>
    obtain ⟨u, hu⟩ := isSymbol_iff.mp ha
    obtain ⟨v, hv⟩ := isSymbol_iff.mp hb
    exact ⟨_, _, decode?_twoPads hu hv⟩
  | cons ha hb hc hd _ ih =>
    obtain ⟨u, hu⟩ := isSymbol_iff.mp ha
    obtain ⟨v, hv⟩ := isSymbol_iff.mp hb
    obtain ⟨w, hw⟩ := isSymbol_iff.mp hc
    obtain ⟨x, hx⟩ := isSymbol_iff.mp hd
    obtain ⟨_, _, hrest⟩ := ih
    exact ⟨_, _, by rw [decode?_full hu hv hw hx, hrest, Option.map_some]⟩

/-- And of all texts but the empty one only these stand for bytes. -/
theorem padded_of_decode? : ∀ {text : List Char} {bytes : List UInt8},
    decode? text = some bytes → text ≠ [] → Padded text
  | [], _, _, hne => absurd rfl hne
  | a :: b :: c :: d :: rest, bytes, h, _ => by
    rw [decode?] at h
    obtain ⟨u, hu, h⟩ := Option.bind_eq_some_iff.mp h
    obtain ⟨v, hv, h⟩ := Option.bind_eq_some_iff.mp h
    have ha : IsSymbol a := isSymbol_iff.mpr ⟨u, hu⟩
    have hb : IsSymbol b := isSymbol_iff.mpr ⟨v, hv⟩
    split at h
    · obtain ⟨rfl, rfl, rfl⟩ := ‹c = '=' ∧ d = '=' ∧ rest = []›
      exact .twoPads ha hb
    · obtain ⟨w, hw, h⟩ := Option.bind_eq_some_iff.mp h
      have hc : IsSymbol c := isSymbol_iff.mpr ⟨w, hw⟩
      split at h
      · obtain ⟨rfl, rfl⟩ := ‹d = '=' ∧ rest = []›
        exact .onePad ha hb hc
      · obtain ⟨x, hx, h⟩ := Option.bind_eq_some_iff.mp h
        have hd : IsSymbol d := isSymbol_iff.mpr ⟨x, hx⟩
        obtain ⟨more, hrest, -⟩ := Option.map_eq_some_iff.mp h
        by_cases hlast : rest = []
        · subst hlast
          exact .full ha hb hc hd
        · exact .cons ha hb hc hd (padded_of_decode? hrest hlast)

/-- **The test of Base64 is exact.** It accepts the texts that are quanta of four
symbols, one or more, of which the last may end with one or two equal signs
instead, and no others. What any bytes are written as, it accepts, and that
stands for those bytes; and it accepts all that stands for a byte or more, and
nothing else. -/
theorem isBase64_exact :
    (∀ s : String, isBase64 s = true ↔ Padded s.toList) ∧
      (∀ b bytes, isBase64 (String.ofList (encode (b :: bytes))) = true ∧
        decode? (encode (b :: bytes)) = some (b :: bytes)) ∧
      ∀ s : String, isBase64 s = true ↔ ∃ b bytes, decode? s.toList = some (b :: bytes) := by
  have hdecodes {text : List Char} : Padded text ↔ ∃ b bytes, decode? text = some (b :: bytes) := by
    refine ⟨Padded.exists_decode?, fun ⟨b, bytes, h⟩ => padded_of_decode? h ?_⟩
    rintro rfl
    cases h
  refine ⟨fun s => isBase64_iff, fun b bytes => ⟨?_, decode?_encode _⟩,
    fun s => isBase64_iff.trans hdecodes⟩
  rw [isBase64_iff, String.toList_ofList, hdecodes]
  exact ⟨b, bytes, decode?_encode _⟩

/-- One byte leaves two equal signs, two leave one, and three leave none. -/
example : encode [102] = ['Z', 'g', '=', '='] ∧ encode [102, 111] = ['Z', 'm', '8', '='] ∧
    encode [102, 111, 111] = ['Z', 'm', '9', 'v'] := by decide

end Base64

end Criteria.Format
