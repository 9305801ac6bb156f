import Mathlib.Data.Char
import ProseTree.Proofs.Text.Cutting
import ProseTree.Text.Hexadecimal
import ProseTree.Text.Quoted

/-!
# Quoted texts are read back

The quoted form of a text has no line feed in it, and it shows where it ends: whatever stands behind it, the
text is read back character by character up to the closing quote. So two texts whose quoted forms start the
same line are the same text.
-/

namespace ProseTree.Text

section Hexadecimal

/-- A number below the base is written as one hexadecimal digit of this value. -/
theorem hexDigit_digitChar : ∀ digit < 16,
    isHexDigit (Nat.digitChar digit) = true ∧ hexValue (Nat.digitChar digit) = digit := by
  decide

/-- A number is written with hexadecimal digits, which spell it. -/
theorem hexDigits_toDigits (number : Nat) :
    (∀ c ∈ Nat.toDigits 16 number, isHexDigit c = true) ∧ valueOf 16 (Nat.toDigits 16 number) = number := by
  induction number using Nat.strongRecOn with
  | ind number inductionHypothesis =>
    rw [Nat.toDigits_eq_if (by decide)]
    split
    · rename_i small
      obtain ⟨isDigit, value⟩ := hexDigit_digitChar number small
      exact ⟨by simpa using isDigit, by simpa [valueOf] using value⟩
    · rename_i large
      obtain ⟨areDigits, spelled⟩ := inductionHypothesis (number / 16) (by omega)
      obtain ⟨isDigit, value⟩ := hexDigit_digitChar (number % 16) (Nat.mod_lt number (by decide))
      constructor
      · intro c member
        obtain front | last := List.mem_append.1 member
        · exact areDigits c front
        · rw [List.mem_singleton.1 last]
          exact isDigit
      · rw [valueOf] at spelled ⊢
        rw [List.foldl_append, spelled, List.foldl_cons, List.foldl_nil, value]
        omega

/-- The code point of a character is no surrogate. -/
theorem scalar?_toNat (c : Char) : scalar? c.toNat = some c := by
  have valid : c.toNat < 0xD800 ∨ 0xDFFF < c.toNat ∧ c.toNat < 0x110000 := c.valid
  have inRange : (c.toNat < 0xD800 || (0xE000 ≤ c.toNat && c.toNat < 0x110000)) = true := by
    simp only [Bool.or_eq_true, Bool.and_eq_true, decide_eq_true_eq]
    omega
  rw [scalar?, if_pos inRange, Char.ofNat_toNat]

/-- The hexadecimal digits of a code point spell the character. -/
theorem scalarOfHex?_toDigits (c : Char) : scalarOfHex? (Nat.toDigits 16 c.toNat) = some c := by
  obtain ⟨areDigits, spelled⟩ := hexDigits_toDigits c.toNat
  rw [scalarOfHex?, if_pos (List.all_eq_true.2 areDigits), spelled, scalar?_toNat]

end Hexadecimal

namespace Quoted

/-- The character whose quoted form stands at the start of a text, and what follows it. At a closing quote
there is none. -/
def first? : Text → Option (Char × Text)
  | [] | '"' :: _ => none
  | '\\' :: 't' :: rest => some ('\t', rest)
  | '\\' :: 'r' :: rest => some ('\r', rest)
  | '\\' :: 'n' :: rest => some ('\n', rest)
  | '\\' :: '0' :: rest => some ('\x00', rest)
  | '\\' :: 'u' :: '\x7b' :: rest =>
    (scalarOfHex? (rest.takeWhile isHexDigit)).map (·, (rest.dropWhile isHexDigit).tail)
  | '\\' :: c :: rest => some (c, rest)
  | c :: rest => some (c, rest)

/-- A character is read back from its quoted form, whatever follows. -/
theorem first?_escape_append (c : Char) (rest : Text) : first? (escape c ++ rest) = some (c, rest) := by
  unfold escape
  split_ifs with marked tab carriage feed zero printable
  · obtain rfl | rfl : c = '"' ∨ c = '\\' := by simpa using marked
    · rfl
    · rfl
  · rw [eq_of_beq tab]
    rfl
  · rw [eq_of_beq carriage]
    rfl
  · rw [eq_of_beq feed]
    rfl
  · rw [eq_of_beq zero]
    rfl
  · obtain ⟨noQuote, noBackslash⟩ : c ≠ '"' ∧ c ≠ '\\' := by simpa using marked
    rw [List.singleton_append]
    unfold first?
    split <;> simp_all
  · obtain ⟨areDigits, -⟩ := hexDigits_toDigits c.toNat
    have ended : ∀ d ∈ ('\x7d' :: rest).head?, isHexDigit d = false := by
      rintro d ⟨⟩
      rfl
    have form : ['\\', 'u', '\x7b'] ++ Nat.toDigits 16 c.toNat ++ ['\x7d'] ++ rest =
        '\\' :: 'u' :: '\x7b' :: (Nat.toDigits 16 c.toNat ++ '\x7d' :: rest) := by simp
    rw [form, first?, takeWhile_append_of_ended areDigits ended, dropWhile_append_of_ended areDigits ended,
      scalarOfHex?_toDigits]
    rfl

/-- A quoted text shows where it ends: it and what follows it are known from both together. -/
theorem encode_append_inj {left right rest more : Text}
    (same : encode left ++ rest = encode right ++ more) : left = right ∧ rest = more := by
  have closed : ∀ text after : Text,
      encode text ++ after = '"' :: (text.flatMap escape ++ '"' :: after) := by simp [encode]
  rw [closed, closed, List.cons.injEq] at same
  replace same := same.2
  induction left generalizing right with
  | nil =>
    cases right with
    | nil => simpa using same
    | cons d right =>
      have heads := congrArg first? same
      rw [List.flatMap_cons, List.append_assoc, first?_escape_append] at heads
      cases heads
  | cons c left inductionHypothesis =>
    have heads := congrArg first? same
    rw [List.flatMap_cons, List.append_assoc, first?_escape_append] at heads
    cases right with
    | nil => cases heads
    | cons d right =>
      rw [List.flatMap_cons, List.append_assoc, first?_escape_append] at heads
      obtain ⟨rfl, others⟩ := Prod.mk.inj (Option.some.inj heads)
      obtain ⟨rfl, behind⟩ := inductionHypothesis others
      exact ⟨rfl, behind⟩

/-- No quoted character has a line feed in it. -/
theorem noFeed_escape (c : Char) : '\n' ∉ escape c := by
  unfold escape
  split_ifs with marked tab carriage feed zero printable
  · obtain rfl | rfl : c = '"' ∨ c = '\\' := by simpa using marked
    · decide
    · decide
  · decide
  · decide
  · decide
  · decide
  · rw [List.mem_singleton]
    exact fun same => feed (beq_of_eq same.symm)
  · obtain ⟨areDigits, -⟩ := hexDigits_toDigits c.toNat
    have noDigit : '\n' ∉ Nat.toDigits 16 c.toNat := by
      intro member
      exact absurd (areDigits '\n' member) (by decide)
    simp [noDigit]

/-- A quoted text stands on one line. -/
theorem noFeed_encode (text : Text) : '\n' ∉ encode text := by
  intro member
  obtain opening | member := List.mem_cons.1 member
  · exact absurd opening (by decide)
  · obtain inside | closing := List.mem_append.1 member
    · obtain ⟨c, -, here⟩ := List.mem_flatMap.1 inside
      exact noFeed_escape c here
    · exact absurd (List.mem_singleton.1 closing) (by decide)

end Quoted

end ProseTree.Text
