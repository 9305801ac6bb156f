import ProseTree.Proofs.Text.Cutting
import ProseTree.Toml.Strings

/-!
# Strings that stand for themselves

A string on one line has no more characters in its value than between its quotes, and just these only if all
of them stand for themselves. A string on several lines that starts on a line with a quote at its end takes
three closing quotes from this line, or else the line feed into its value. So a text that is put between
quotes is the value of the string that is read there exactly when its characters stand for themselves.
-/

namespace ProseTree.Toml

/-- A character that stands for itself in a basic string. -/
def IsPlain (c : Char) : Prop :=
  c ≠ '"' ∧ c ≠ '\\' ∧ isForbidden c = false

instance : DecidablePred IsPlain := fun c =>
  inferInstanceAs (Decidable (c ≠ '"' ∧ c ≠ '\\' ∧ isForbidden c = false))

/-- A reading puts a character in front exactly when the value is this character and what was read. -/
theorem map_withChar_eq_some_iff {c : Char} {read? : Option (Text × Text)} {value rest : Text} :
    read?.map (withChar c) = some (value, rest) ↔
      ∃ behind, value = c :: behind ∧ read? = some (behind, rest) := by
  simp only [Option.map_eq_some_iff, withChar, Prod.mk.injEq, Prod.exists]
  constructor
  · rintro ⟨behind, _, found, rfl, rfl⟩
    exact ⟨behind, rfl, found⟩
  · rintro ⟨behind, rfl, found⟩
    exact ⟨behind, rest, found, rfl, rfl⟩

/-- An escape stands for a character, which comes in front of what is read behind it. -/
theorem exists_of_bind_withChar {char? : Option Char} {read? : Option (Text × Text)} {value rest : Text}
    (found : (char?.bind fun c => read?.map (withChar c)) = some (value, rest)) :
    ∃ c behind, char? = some c ∧ value = c :: behind ∧ read? = some (behind, rest) := by
  obtain ⟨c, isChar, mapped⟩ := Option.bind_eq_some_iff.1 found
  obtain ⟨behind, whole, read⟩ := map_withChar_eq_some_iff.1 mapped
  exact ⟨c, behind, isChar, whole, read⟩

/-- The digits of an escape stand on one line. -/
theorem noFeed_of_scalarOfHex? {digits : Text} {c : Char}
    (isChar : Text.scalarOfHex? digits = some c) : '\n' ∉ digits := by
  intro member
  rw [Text.scalarOfHex?] at isChar
  split at isChar
  · rename_i areDigits
    exact absurd (List.all_eq_true.1 areDigits '\n' member) (by decide)
  · cases isChar

section OneLine

/-- Plain characters up to a quote are a string of these characters. -/
theorem basic?_of_plain {value : Text} (plain : ∀ c ∈ value, IsPlain c) (rest : Text) :
    basic? (value ++ '"' :: rest) = some (value, rest) := by
  induction value with
  | nil => rw [List.nil_append, basic?]
  | cons c value inductionHypothesis =>
    obtain ⟨⟨noQuote, noBackslash, allowed⟩, others⟩ := List.forall_mem_cons.1 plain
    rw [List.cons_append, basic?, inductionHypothesis others]
    · simp [allowed, noBackslash, withChar]
    all_goals simp [noQuote, noBackslash]

/-- The characters between the quotes of a string on one line: they are more than those of its value, or
they are its value and stand for themselves. -/
def IsSpelling (raw value : Text) : Prop :=
  '\n' ∉ raw ∧ (value.length < raw.length ∨ value = raw ∧ ∀ c ∈ raw, IsPlain c)

namespace IsSpelling

variable {raw value : Text}

/-- No value is longer than its spelling. -/
theorem length_le (spelling : IsSpelling raw value) : value.length ≤ raw.length := by
  obtain ⟨-, longer | ⟨rfl, -⟩⟩ := spelling
  · exact Nat.le_of_lt longer
  · exact Nat.le_refl _

/-- An escape is longer than the character that it stands for. -/
theorem escape_append (spelling : IsSpelling raw value) {escape : Text} (noFeed : '\n' ∉ escape)
    (several : 2 ≤ escape.length) (c : Char) : IsSpelling (escape ++ raw) (c :: value) := by
  have most := spelling.length_le
  refine ⟨by simp [noFeed, spelling.1], .inl ?_⟩
  rw [List.length_append, List.length_cons]
  omega

/-- A plain character is its own spelling. -/
theorem cons (spelling : IsSpelling raw value) {c : Char} (isPlain : IsPlain c) :
    IsSpelling (c :: raw) (c :: value) := by
  obtain ⟨noFeed, same⟩ := spelling
  constructor
  · have other : '\n' ≠ c := by
      rintro rfl
      exact absurd isPlain (by decide)
    simp [noFeed, other]
  · obtain longer | ⟨rfl, others⟩ := same
    · exact .inl (by simpa using longer)
    · exact .inr ⟨rfl, List.forall_mem_cons.2 ⟨isPlain, others⟩⟩

end IsSpelling

/-- A string on one line is read from a spelling of its value and the closing quote. -/
theorem exists_spelling {text value rest : Text} (found : basic? text = some (value, rest)) :
    ∃ raw, text = raw ++ '"' :: rest ∧ IsSpelling raw value := by
  -- Every escape puts its character in front of the value in the same way.
  have escaped : ∀ {char? : Option Char} {text value : Text} (escape : Text),
      2 ≤ escape.length → (∀ c, char? = some c → '\n' ∉ escape) →
      (∀ {value}, basic? text = some (value, rest) →
        ∃ raw, text = raw ++ '"' :: rest ∧ IsSpelling raw value) →
      (char?.bind fun c => (basic? text).map (withChar c)) = some (value, rest) →
      ∃ raw, escape ++ text = raw ++ '"' :: rest ∧ IsSpelling raw value := by
    intro char? text value escape several noFeed inductionHypothesis found
    obtain ⟨c, behind, isChar, rfl, read⟩ := exists_of_bind_withChar found
    obtain ⟨raw, rfl, spelling⟩ := inductionHypothesis read
    exact ⟨escape ++ raw, by simp, spelling.escape_append (noFeed c isChar) several c⟩
  fun_induction basic? text generalizing value with
  | case1 => cases found
  | case2 =>
    obtain ⟨rfl, rfl⟩ := Prod.mk.inj (Option.some.inj found)
    exact ⟨[], rfl, by simp [IsSpelling]⟩
  | case3 a b text inductionHypothesis =>
    refine escaped ['\\', 'x', a, b] (by simp) (fun c isChar => ?_) inductionHypothesis found
    simpa using noFeed_of_scalarOfHex? isChar
  | case4 a b c d text inductionHypothesis =>
    refine escaped ['\\', 'u', a, b, c, d] (by simp) (fun c isChar => ?_) inductionHypothesis found
    simpa using noFeed_of_scalarOfHex? isChar
  | case5 a b c d e f g h text inductionHypothesis =>
    refine escaped ['\\', 'U', a, b, c, d, e, f, g, h] (by simp) (fun c isChar => ?_) inductionHypothesis
      found
    simpa using noFeed_of_scalarOfHex? isChar
  | case6 letter text _ _ _ inductionHypothesis =>
    refine escaped ['\\', letter] (by simp) (fun c isChar => ?_) inductionHypothesis found
    have other : '\n' ≠ letter := by
      rintro rfl
      cases isChar
    simpa using other
  | case7 => cases found
  | case8 c text noQuote _ _ _ _ allowed inductionHypothesis =>
    obtain ⟨behind, rfl, read⟩ := map_withChar_eq_some_iff.1 found
    obtain ⟨raw, rfl, spelling⟩ := inductionHypothesis read
    obtain ⟨notForbidden, noBackslash⟩ : isForbidden c = false ∧ c ≠ '\\' := by simpa using allowed
    exact ⟨c :: raw, rfl, spelling.cons ⟨noQuote, noBackslash, notForbidden⟩⟩

end OneLine

section SeveralLines

/-- Characters other than a line feed at the start of a text are those of its first line. -/
theorem exists_of_append_eq_line (front : Text) {text line more : Text} (noFeed : '\n' ∉ front)
    (same : front ++ text = line ++ '\n' :: more) :
    ∃ others, line = front ++ others ∧ others ++ '\n' :: more = text := by
  obtain ⟨others, whole, behind⟩ | ⟨others, whole, behind⟩ := List.append_eq_append_iff.1 same
  · exact ⟨others, whole, behind.symm⟩
  · cases others with
    | nil => exact ⟨[], by simpa using whole.symm, by simpa using behind⟩
    | cons c others =>
      obtain ⟨rfl, -⟩ := List.cons.inj behind
      simp [whole] at noFeed

/-- A line that ends with a quote, or an empty one. -/
def IsQuoted (line : Text) : Prop :=
  '\n' ∉ line ∧ ∀ c ∈ line.getLast?, c = '"'

namespace IsQuoted

variable {line : Text}

/-- What is left of such a line is such a line. -/
theorem of_append (front : Text) (quoted : IsQuoted (front ++ line)) : IsQuoted line := by
  obtain ⟨noFeed, last⟩ := quoted
  refine ⟨fun member => noFeed (List.mem_append_right front member), fun c isLast => last c ?_⟩
  rw [List.getLast?_append, Option.mem_def.1 isLast]
  rfl

/-- Such a line ends no sooner than at its line feed. -/
theorem afterLineEnd?_append (quoted : IsQuoted line) (nonempty : line ≠ []) (more : Text) :
    afterLineEnd? (line ++ '\n' :: more) = none := by
  obtain ⟨noFeed, last⟩ := quoted
  obtain ⟨c, line, rfl⟩ := List.exists_cons_of_ne_nil nonempty
  rw [List.cons_append]
  unfold afterLineEnd?
  split
  · rename_i text same
    obtain ⟨rfl, -⟩ := List.cons.inj same
    simp at noFeed
  · rename_i text same
    obtain ⟨rfl, behind⟩ := List.cons.inj same
    cases line with
    | nil => exact absurd (last '\r' rfl) (by decide)
    | cons d line =>
      obtain ⟨rfl, -⟩ := List.cons.inj behind
      simp at noFeed
  · rfl

/-- No backslash in front of such a line stands at the end of its own line. -/
theorem endsLine_append (quoted : IsQuoted line) (nonempty : line ≠ []) (more : Text) :
    endsLine (line ++ '\n' :: more) = false := by
  induction line with
  | nil => exact absurd rfl nonempty
  | cons c line inductionHypothesis =>
    by_cases space : isSpace c = true
    · have others : line ≠ [] := by
        rintro rfl
        rw [quoted.2 c rfl] at space
        exact absurd space (by decide)
      rw [← inductionHypothesis (of_append [c] quoted) others, endsLine, endsLine, List.cons_append,
        List.dropWhile_cons_of_pos space]
    · rw [endsLine, List.cons_append, List.dropWhile_cons_of_neg space, ← List.cons_append,
        afterLineEnd?_append quoted nonempty]
      rfl

end IsQuoted

/-- The quotes that close a string stand on its last line. -/
theorem length_of_closing? {line more value rest : Text}
    (found : closing? '"' (line ++ '\n' :: more) = some (value, rest)) : value.length + 3 ≤ line.length := by
  rw [closing?] at found
  split at found
  · rename_i enough
    obtain ⟨rfl, -⟩ := Prod.mk.inj (Option.some.inj found)
    have most : ((line ++ '\n' :: more).takeWhile (· == '"')).length ≤ line.length := by
      rw [List.takeWhile_append, List.takeWhile_cons_of_neg (by decide)]
      split
      · simp
      · exact (List.takeWhile_prefix _).length_le
    rw [List.length_replicate]
    omega
  · cases found

/-- What puts a character in front of the value takes no fewer characters from the line. -/
theorem feed_mem_or_length_le_append {front line value : Text} (nonempty : front ≠ []) (c : Char)
    (behind : '\n' ∈ value ∨ value.length + 3 ≤ line.length) :
    '\n' ∈ c :: value ∨ (c :: value).length + 3 ≤ (front ++ line).length := by
  have positive := List.length_pos_iff.2 nonempty
  obtain feed | enough := behind
  · exact .inl (List.mem_cons_of_mem c feed)
  · refine .inr ?_
    rw [List.length_cons, List.length_append]
    omega

/-- A string on several lines that starts on a quoted line has a line feed in its value, or it takes its
closing quotes from this line. -/
theorem feed_mem_or_length_le {line more value rest : Text} (quoted : IsQuoted line)
    (found : multilineBasic? false (line ++ '\n' :: more) = some (value, rest)) :
    '\n' ∈ value ∨ value.length + 3 ≤ line.length := by
  -- Every escape puts its character in front of the value in the same way.
  have escaped : ∀ {char? : Option Char} {text value line : Text} (escape : Text), escape ≠ [] →
      (∀ c, char? = some c → '\n' ∉ escape) → IsQuoted line → line ++ '\n' :: more = escape ++ text →
      (∀ {line value : Text}, IsQuoted line → line ++ '\n' :: more = text → false = false →
        multilineBasic? false text = some (value, rest) → '\n' ∈ value ∨ value.length + 3 ≤ line.length) →
      (char?.bind fun c => (multilineBasic? false text).map (withChar c)) = some (value, rest) →
      '\n' ∈ value ∨ value.length + 3 ≤ line.length := by
    intro char? text value line escape nonempty noFeed quoted whole inductionHypothesis found
    obtain ⟨c, behind, isChar, rfl, read⟩ := exists_of_bind_withChar found
    obtain ⟨others, rfl, same⟩ := exists_of_append_eq_line escape (noFeed c isChar) whole.symm
    exact feed_mem_or_length_le_append nonempty c
      (inductionHypothesis (quoted.of_append escape) same rfl read)
  generalize whole : line ++ '\n' :: more = text at found
  generalize start : false = isJoining at found
  fun_induction multilineBasic? isJoining text generalizing line value with
  | case1 => cases found
  | case2 _ a b text inductionHypothesis =>
    refine escaped ['\\', 'x', a, b] (by simp) (fun c isChar => ?_) quoted whole inductionHypothesis found
    simpa using noFeed_of_scalarOfHex? isChar
  | case3 _ a b c d text inductionHypothesis =>
    refine escaped ['\\', 'u', a, b, c, d] (by simp) (fun c isChar => ?_) quoted whole inductionHypothesis
      found
    simpa using noFeed_of_scalarOfHex? isChar
  | case4 _ a b c d e f g h text inductionHypothesis =>
    refine escaped ['\\', 'U', a, b, c, d, e, f, g, h] (by simp) (fun c isChar => ?_) quoted whole
      inductionHypothesis found
    simpa using noFeed_of_scalarOfHex? isChar
  | case5 _ letter text _ _ _ ended =>
    obtain ⟨others, rfl, same⟩ := exists_of_append_eq_line ['\\'] (by decide) whole.symm
    have nonempty : others ≠ [] := by
      rintro rfl
      exact absurd (quoted.2 '\\' rfl) (by decide)
    rw [← same, (quoted.of_append ['\\']).endsLine_append nonempty more] at ended
    cases ended
  | case6 _ letter text _ _ _ _ inductionHypothesis =>
    refine escaped ['\\', letter] (by simp) (fun c isChar => ?_) quoted whole inductionHypothesis found
    have other : '\n' ≠ letter := by
      rintro rfl
      cases isChar
    simpa using other
  | case7 => cases start
  | case8 =>
    obtain ⟨behind, -, same⟩ := Option.map_eq_some_iff.1 found
    obtain rfl := (Prod.mk.inj same).1
    exact .inl (by simp [withChar])
  | case9 _ c text _ _ _ _ _ result closed =>
    rw [← whole, Option.some.inj found] at closed
    exact .inr (length_of_closing? closed)
  | case10 _ c text _ _ _ _ _ _ joined =>
    rw [← start] at joined
    cases joined
  | case11 => cases found
  | case12 _ c text _ _ _ _ _ _ _ _ inductionHypothesis =>
    obtain ⟨behind, rfl, read⟩ := map_withChar_eq_some_iff.1 found
    by_cases isFeed : c = '\n'
    · exact .inl (isFeed ▸ List.mem_cons_self)
    · have other : '\n' ∉ [c] := by simpa using Ne.symm isFeed
      obtain ⟨others, rfl, same⟩ := exists_of_append_eq_line [c] other whole.symm
      exact feed_mem_or_length_le_append (List.cons_ne_nil c []) c
        (inductionHypothesis (quoted.of_append [c]) same rfl read)

/-- A plain character at the start of a string on several lines is the first one of its value. -/
theorem head?_of_multilineBasic? {c : Char} {text value rest : Text} (isPlain : IsPlain c)
    (found : multilineBasic? false (c :: text) = some (value, rest)) : value.head? = some c := by
  obtain ⟨noQuote, noBackslash, allowed⟩ := isPlain
  have unclosed : closing? '"' (c :: text) = none := by
    rw [closing?, List.takeWhile_cons_of_neg (by simpa using noQuote)]
    rfl
  have noReturn : c ≠ '\r' := by
    rintro rfl
    cases allowed
  have read : multilineBasic? false (c :: text) = (multilineBasic? false text).map (withChar c) := by
    rw [multilineBasic?, unclosed]
    · simp [allowed, noBackslash]
    all_goals simp [noBackslash, noReturn]
  obtain ⟨behind, rfl, -⟩ := map_withChar_eq_some_iff.1 (read ▸ found)
  rfl

end SeveralLines

variable {value : Text}

/-- A quote inside a line that ends with a quote comes no later than this one. -/
theorem length_le_of_append_eq {line more raw rest : Text} (noFeed : '\n' ∉ raw)
    (same : line ++ '"' :: '\n' :: more = raw ++ '"' :: rest) : raw.length ≤ line.length := by
  have lineEnd : raw ++ '"' :: rest = line ++ ['"'] ++ '\n' :: more := by simp [← same]
  obtain ⟨others, whole, behind⟩ := exists_of_append_eq_line raw noFeed lineEnd
  have nonempty : others ≠ [] := by
    rintro rfl
    cases behind
  have positive := List.length_pos_iff.2 nonempty
  have lengths := congrArg List.length whole
  rw [List.length_append, List.length_append, List.length_singleton] at lengths
  omega

/-- A text on one line that is read as it is from between its quotes is plain. -/
theorem plain_of_string? {more rest : Text} (noFeed : '\n' ∉ value) (plain : ∀ c ∈ more.head?, IsPlain c)
    (found : string? ('"' :: (value ++ '"' :: '\n' :: more)) = some (value, rest)) :
    ∀ c ∈ value, IsPlain c := by
  generalize whole : value ++ '"' :: '\n' :: more = text at found
  unfold string? at found
  split at found
  · rename_i line same
    rw [(List.cons.inj same).2] at whole
    match value, whole with
    | ['"'], whole =>
      -- The three quotes in front of the line feed start a string that holds the next line.
      obtain rfl : '\n' :: more = line := by simpa using whole
      cases more with
      | nil => cases found
      | cons c more =>
        have isPlain := plain c rfl
        obtain rfl : '"' = c := Option.some.inj (head?_of_multilineBasic? isPlain found)
        exact absurd isPlain (by decide)
    | d :: e :: others, whole =>
      obtain ⟨rfl, rfl, rfl⟩ : d = '"' ∧ e = '"' ∧ others ++ '"' :: '\n' :: more = line := by
        simpa using whole
      have quoted : IsQuoted (others ++ ['"']) := ⟨by simpa using noFeed, by simp⟩
      have start : others ++ '"' :: '\n' :: more = others ++ ['"'] ++ '\n' :: more := by simp
      rw [dropLineEnd, start, quoted.afterLineEnd?_append (by simp)] at found
      obtain feed | enough := feed_mem_or_length_le quoted found
      · exact absurd feed noFeed
      · simp only [List.length_cons, List.length_append, List.length_nil] at enough
        omega
  · rename_i same
    cases (List.cons.inj same).1
  · rename_i inside _ same
    obtain rfl : text = inside := (List.cons.inj same).2
    obtain ⟨raw, spelled, onOneLine, longer | ⟨rfl, allPlain⟩⟩ := exists_spelling found
    · exact absurd (length_le_of_append_eq onOneLine (whole.trans spelled)) (Nat.not_le_of_lt longer)
    · exact allPlain
  · rename_i same
    cases (List.cons.inj same).1
  · cases found

/-- Plain characters between quotes on a line of their own are a string of these characters. -/
theorem string?_of_plain (plain : ∀ c ∈ value, IsPlain c) (more : Text) :
    string? ('"' :: (value ++ '"' :: '\n' :: more)) = some (value, '\n' :: more) := by
  rw [← basic?_of_plain plain]
  cases value with
  | nil => rfl
  | cons c value =>
    obtain ⟨noQuote, -⟩ := plain c List.mem_cons_self
    rw [List.cons_append, string?]
    simp [noQuote]

end ProseTree.Toml
