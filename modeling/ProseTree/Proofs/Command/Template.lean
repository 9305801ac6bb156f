import Mathlib
import ProseTree.Command.Template
import ProseTree.Language.Grammar
import ProseTree.Proofs.Text.Blank
import ProseTree.Proofs.Toml.Lines
import ProseTree.Proofs.Toml.Strings

/-!
# Templates and the definitions they hold

A template has the language code on its first line, in a comment, and between quotes in its metadata; all
else is the same for every code. Reading it is a matter of the string that starts at these quotes. If this is
the code itself then the template is a definition of it, which is accepted; and it is the code itself exactly
when its characters stand for themselves, as far as it has no line feed.
-/

namespace ProseTree.Command

open ProseTree.Language (Configuration Grammar)
open ProseTree.Toml

/-- The lines of the template behind the language code. -/
def templateEnd : Text :=
  (["name = \"Custom Language\"".toList, []] ++ templateSettings.map String.toList).flatMap Text.line

/-- What the comment on the first line says. -/
def templateTitle (code : Text) : Text :=
  " Language configuration for " ++ code

/-- A template is its comment, the header of its metadata, the code in quotes and the rest. -/
theorem languageTemplate_eq (code : Text) :
    languageTemplate code = '#' :: (templateTitle code ++ '\n' ::
      ("\n[metadata]\n" ++ ("code = \"" ++ (code ++ '"' :: '\n' :: templateEnd)))) := by
  unfold languageTemplate templateHead templateEnd templateTitle
  rw [List.flatMap_append]
  simp only [Text.line, List.cons_append, List.nil_append, List.flatMap_cons, List.append_assoc,
    List.flatMap_nil]
  simp

/-- The definition of the template, with the code that its string holds. -/
def templateConfiguration (code : Text) : Configuration where
  metadata := ⟨code, "Custom Language"⟩
  scripts := [⟨"latin", "a-zA-Z", "aeiouAEIOU"⟩]
  paragraph := ⟨["\t".toList, "    "], true⟩
  sentence := ⟨['.', '!', '?'], "..."⟩
  lexicon := ⟨['-', '\''], ['.', ',', '!', '?', ';', ':', '-'], ['"', '\''], [⟨'(', ')'⟩, ⟨'[', ']'⟩], false⟩
  expression := ⟨['+', '-', '*', '/']⟩

/-- Whatever its code is, the definition of the template is accepted. -/
theorem exists_ofConfiguration_template (code : Text) :
    ∃ grammar, Grammar.ofConfiguration (templateConfiguration code) = .ok grammar :=
  ⟨_, rfl⟩

section Lines

variable (bound : Nat) (rest : Text)

/-- The metadata as far as the line of the code. -/
def codeEntries (code : Text) : Entries :=
  [("metadata", .table false false [("code", .value (.text code))])]

/-- The lines in front of the code open the metadata. -/
theorem lines?_metadata :
    lines? (bound + 2) [] [] ("\n[metadata]\n" ++ rest) =
      lines? bound ["metadata"] [("metadata", .table false false [])] rest := by
  cbv

/-- The line of the code assigns the string that starts at its quote. -/
theorem lines?_code :
    lines? (bound + 1) ["metadata"] [("metadata", .table false false [])] ("code = \"" ++ rest) =
      (string? ('"' :: rest)).bind fun read =>
        (afterLine? read.2).bind (lines? bound ["metadata"] (codeEntries read.1)) := by
  have key : assignment? ("code = \"" ++ rest) = some (["code".toList], '"' :: rest) := by cbv
  have value : value? (bound + 1) nestingLimit ('"' :: rest) =
      (string? ('"' :: rest)).map fun read => (.text read.1, read.2) := rfl
  rw [lines?_assignment rfl, key, Option.bind_some, value]
  cases string? ('"' :: rest) with
  | none => rfl
  | some read => rfl

set_option maxRecDepth 20000 in
/-- The lines behind the code make the definition of the template. -/
theorem lines?_templateEnd (code : Text) :
    (lines? (bound + 48) ["metadata"] (codeEntries code) templateEnd).bind (fun entries =>
      Configuration.ofSetting? .ignored (.table (entriesToSettings entries))) =
        some (templateConfiguration code) := by
  unfold templateEnd templateSettings
  simp only [List.map, List.cons_append, List.nil_append, List.flatMap_cons, List.flatMap_nil, Text.line]
  -- as lists of characters the lines are read without decoding a string at each step
  repeat rw [String.toList_ofList]
  cbv

end Lines

/-- The lines in front of the code alone have more characters than a template has lines. -/
theorem exists_bound_eq (code : Text) : ∃ bound, (languageTemplate code).length + 2 = bound + 52 := by
  have long : ∀ rest : Text, 50 ≤ ('#' :: (templateTitle code ++ '\n' ::
      ("\n[metadata]\n" ++ ("code = \"" ++ (code ++ '"' :: '\n' :: rest))))).length := by
    intro rest
    have title : " Language configuration for ".toList.length = 28 := by cbv
    have header : "\n[metadata]\n".toList.length = 12 := by cbv
    have start : "code = \"".toList.length = 8 := by cbv
    unfold templateTitle
    simp only [List.length_cons, List.length_append, title, header, start]
    omega
  obtain ⟨bound, enough⟩ := Nat.exists_eq_add_of_le' (long templateEnd)
  rw [languageTemplate_eq]
  exact ⟨bound, congrArg (· + 2) enough⟩

/-- A template is read up to its code as the string that starts at the quote in front of this. -/
theorem lines?_languageTemplate {code : Text} (oneLine : '\n' ∉ code) (bound : Nat) :
    lines? (bound + 52) [] [] (languageTemplate code) =
      if (Text.dropReturn (templateTitle code)).any isForbidden then none
      else (string? ('"' :: (code ++ '"' :: '\n' :: templateEnd))).bind fun read =>
        (afterLine? read.2).bind (lines? (bound + 48) ["metadata"] (codeEntries read.1)) := by
  have noFeed : '\n' ∉ templateTitle code := by
    have front : '\n' ∉ " Language configuration for ".toList := by decide +kernel
    intro member
    exact (List.mem_append.1 member).elim front oneLine
  have read := afterLine?_comment noFeed
    ("\n[metadata]\n" ++ ("code = \"" ++ (code ++ '"' :: '\n' :: templateEnd)))
  have comment : lines? (bound + 52) [] [] (languageTemplate code) =
      (afterLine? (languageTemplate code)).bind (lines? (bound + 51) [] []) := by
    rw [languageTemplate_eq]
    rfl
  rw [comment, languageTemplate_eq, read]
  split
  · rfl
  · rw [Option.bind_some, lines?_metadata (bound + 49), lines?_code (bound + 48)]

/-- Reading a template comes down to the string that starts at the quote in front of its code. -/
theorem configuration?_languageTemplate {code : Text} (oneLine : '\n' ∉ code) :
    ∃ bound, configuration? (languageTemplate code) =
      if (Text.dropReturn (templateTitle code)).any isForbidden then none
      else (string? ('"' :: (code ++ '"' :: '\n' :: templateEnd))).bind fun read =>
        (afterLine? read.2).bind fun next =>
          (lines? (bound + 48) ["metadata"] (codeEntries read.1) next).bind fun entries =>
            Configuration.ofSetting? .ignored (.table (entriesToSettings entries)) := by
  obtain ⟨bound, enough⟩ := exists_bound_eq code
  have noMark : dropByteOrderMark (languageTemplate code) = languageTemplate code := by
    rw [languageTemplate_eq]
    rfl
  refine ⟨bound, ?_⟩
  rw [configuration?, document?, noMark, enough, lines?_languageTemplate oneLine]
  split
  · rfl
  · cases string? ('"' :: (code ++ '"' :: '\n' :: templateEnd)) with
    | none => rfl
    | some read =>
      rw [Option.bind_some, Option.bind_some]
      cases afterLine? read.2 with
      | none => rfl
      | some next => exact Option.bind_map

/-- The template of a code without control characters is the definition of the code that its string holds,
if this string goes up to the end of its line. -/
theorem configuration?_of_string {code value : Text} (allowed : ∀ c ∈ code, isForbidden c = false)
    (isString : string? ('"' :: (code ++ '"' :: '\n' :: templateEnd)) = some (value, '\n' :: templateEnd)) :
    configuration? (languageTemplate code) = some (templateConfiguration value) := by
  have oneLine : '\n' ∉ code := by
    intro member
    exact absurd (allowed '\n' member) (by decide)
  have noControl : (Text.dropReturn (templateTitle code)).any isForbidden = false := by
    have title : ∀ c ∈ " Language configuration for ".toList, isForbidden c = false :=
      Text.forall_eq_false_of_any (by cbv)
    apply List.any_eq_false.2
    intro c member
    obtain inTitle | inCode := List.mem_append.1 (mem_of_mem_dropReturn member)
    · simp [title c inTitle]
    · simp [allowed c inCode]
  obtain ⟨bound, read⟩ := configuration?_languageTemplate oneLine
  have next : afterLine? ('\n' :: templateEnd) = some templateEnd := rfl
  rw [read, noControl, if_neg Bool.false_ne_true, isString, Option.bind_some, next, Option.bind_some,
    lines?_templateEnd]

/-- A template holds the code that it was made for exactly when the characters of this code stand for
themselves; the definition is accepted then. A line feed never stands for itself, but a code with one is left
out here: its later lines are settings of the file, twice, and a string over several lines may start in one of
the two places and end in the other. What such a file holds is not decided by the string that is meant to hold
the code. -/
theorem languageTemplate_holds_code_iff {code : Text} (oneLine : '\n' ∉ code) :
    (∃ configuration grammar, configuration? (languageTemplate code) = some configuration ∧
      configuration.metadata.code = code ∧ Grammar.ofConfiguration configuration = .ok grammar) ↔
        ∀ c ∈ code, IsPlain c := by
  constructor
  · rintro ⟨configuration, grammar, found, isCode, -⟩
    obtain ⟨bound, read⟩ := configuration?_languageTemplate oneLine
    rw [read] at found
    split at found
    · cases found
    · obtain ⟨⟨value, rest⟩, isString, found⟩ := Option.bind_eq_some_iff.1 found
      obtain ⟨next, -, found⟩ := Option.bind_eq_some_iff.1 found
      obtain ⟨entries, areEntries, found⟩ := Option.bind_eq_some_iff.1 found
      have there : Entries.HasValue (.text value) ["metadata", "code"] (codeEntries value) :=
        .cons rfl (.last rfl)
      have isValue := code_of_hasValue found (keep_lines? areEntries _ _ there)
      obtain rfl : value = code := isValue.symm.trans isCode
      have first : templateEnd.head? = some 'n' := rfl
      apply plain_of_string? oneLine _ isString
      rw [first]
      rintro c ⟨⟩
      decide
  · intro plain
    have allowed : ∀ c ∈ code, isForbidden c = false := fun c member => (plain c member).2.2
    obtain ⟨grammar, accepted⟩ := exists_ofConfiguration_template code
    exact ⟨templateConfiguration code, grammar,
      configuration?_of_string allowed (string?_of_plain plain templateEnd), rfl, accepted⟩

/-- A code of several letters is plain, and its template holds it. -/
theorem languageTemplate_holds_code_esperanto :
    '\n' ∉ "eo".toList ∧ ∃ configuration grammar,
      configuration? (languageTemplate "eo") = some configuration ∧
        configuration.metadata.code = "eo" ∧ Grammar.ofConfiguration configuration = .ok grammar :=
  ⟨by simp, (languageTemplate_holds_code_iff (by simp)).2 (by simp [IsPlain]; decide)⟩

/-- A quote in the code ends its string, so that the template is no definition; an escape in the code is
read as its character, so that the template is a definition of another code. -/
theorem languageTemplate_loses_code :
    configuration? (languageTemplate "a\"b") = none ∧
      configuration? (languageTemplate "\\u0041") = some (templateConfiguration "A") := by
  constructor
  · obtain ⟨bound, read⟩ := configuration?_languageTemplate (show '\n' ∉ "a\"b".toList by simp)
    rw [read]
    split
    · rfl
    · rfl
  · exact configuration?_of_string (Text.forall_eq_false_of_any (by cbv)) rfl

end ProseTree.Command
