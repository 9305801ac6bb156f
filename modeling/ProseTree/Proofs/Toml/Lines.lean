import ProseTree.Proofs.Text.Cutting
import ProseTree.Proofs.Toml.Tables
import ProseTree.Toml.Document

/-!
# Lines of a document

What single lines of a document do: a comment goes up to its line feed, and a line that starts with a bare
key is an assignment. A line keeps the values of the lines before it, so what a document assigns once is what
its reader finds in the end.
-/

namespace ProseTree.Toml

open Entries (HasValue Keep)
open ProseTree.Language (Configuration Metadata Setting Surplus)

/-- Behind a line without its carriage return comes this one, if there is one. -/
theorem drop_dropReturn (line rest : Text) :
    (line ++ rest).drop (Text.dropReturn line).length = rest ∨
      (line ++ rest).drop (Text.dropReturn line).length = '\r' :: rest := by
  unfold Text.dropReturn
  split
  · rename_i last
    obtain ⟨front, rfl⟩ := List.getLast?_eq_some_iff.1 last
    exact .inr (by simp)
  · exact .inl List.drop_left

/-- A line without its carriage return has no other characters than the line. -/
theorem mem_of_mem_dropReturn {line : Text} {c : Char} (member : c ∈ Text.dropReturn line) : c ∈ line := by
  unfold Text.dropReturn at member
  split at member
  · exact List.dropLast_subset line member
  · exact member

/-- A comment goes up to its line feed, and holds no control characters but a carriage return there. -/
theorem afterLine?_comment {comment : Text} (noFeed : '\n' ∉ comment) (more : Text) :
    afterLine? ('#' :: (comment ++ '\n' :: more)) =
      if (Text.dropReturn comment).any isForbidden then none else some more := by
  have front : (comment ++ '\n' :: more).takeWhile (· != '\n') = comment := by
    apply Text.takeWhile_append_of_ended
    · intro c member
      simpa using ne_of_mem_of_not_mem member noFeed
    · rintro c ⟨⟩
      rfl
  have read : afterComment? ('#' :: (comment ++ '\n' :: more)) =
      if (Text.dropReturn comment).any isForbidden then none
      else some ((comment ++ '\n' :: more).drop (Text.dropReturn comment).length) := by
    rw [afterComment?, front, List.drop_left]
    rfl
  have solid : dropSpaces ('#' :: (comment ++ '\n' :: more)) = '#' :: (comment ++ '\n' :: more) := rfl
  rw [afterLine?, solid, read]
  split
  · rfl
  · rw [Option.bind_eq_bind, Option.bind_some]
    obtain behind | behind := drop_dropReturn comment ('\n' :: more)
    all_goals
    · rw [behind]
      rfl

/-- A line that starts with a bare key is an assignment. -/
theorem lines?_assignment {text : Text} (bare : text.head?.any isBareKeyChar = true) (bound : Nat)
    (header : List Text) (entries : Entries) :
    lines? (bound + 1) header entries text =
      (assignment? text).bind fun assignment =>
        (value? (bound + 1) nestingLimit assignment.2).bind fun value =>
          (Entries.assignBelow? header assignment.1 value.1 entries).bind fun assigned =>
            (afterLine? value.2).bind (lines? bound header assigned) := by
  cases text with
  | nil => cases bare
  | cons start rest =>
    have other : ∀ {c}, isBareKeyChar c = false → start ≠ c := by
      rintro c special rfl
      rw [show isBareKeyChar start = true from bare] at special
      cases special
    have noBracket : start ≠ '[' := other (by decide)
    have solid : dropSpaces (start :: rest) = start :: rest := by
      have noSpace : start ≠ ' ' := other (by decide)
      have noTab : start ≠ '\t' := other (by decide)
      simp [dropSpaces, isSpace, noSpace, noTab]
    have noMark : (start == '#' || start == '\n' || start == '\r') = false := by
      have noComment : start ≠ '#' := other (by decide)
      have noFeed : start ≠ '\n' := other (by decide)
      have noReturn : start ≠ '\r' := other (by decide)
      simp [noComment, noFeed, noReturn]
    rw [lines?, solid]
    split
    · rename_i same
      cases same
    · rename_i same
      exact absurd (List.cons.inj same).1 noBracket
    · rename_i same
      exact absurd (List.cons.inj same).1 noBracket
    · rename_i same
      obtain ⟨rfl, rfl⟩ := List.cons.inj same
      rw [if_neg (Bool.eq_false_iff.1 noMark)]
      rfl

/-- All lines of a document keep the values that are there before them. -/
theorem keep_lines? {bound : Nat} {header : List Text} {entries final : Entries} {text : Text}
    (read : lines? bound header entries text = some final) : Keep entries final := by
  induction bound generalizing header entries text with
  | zero => cases read
  | succ bound inductionHypothesis =>
    rw [lines?] at read
    split at read
    · obtain rfl := Option.some.inj read
      exact fun _ _ => id
    · obtain ⟨⟨keys, after⟩, -, read⟩ := Option.bind_eq_some_iff.1 read
      obtain ⟨opened, isOpened, read⟩ := Option.bind_eq_some_iff.1 read
      obtain ⟨next, -, read⟩ := Option.bind_eq_some_iff.1 read
      exact (Entries.keep_openArray? isOpened).trans (inductionHypothesis read)
    · obtain ⟨⟨keys, after⟩, -, read⟩ := Option.bind_eq_some_iff.1 read
      obtain ⟨opened, isOpened, read⟩ := Option.bind_eq_some_iff.1 read
      obtain ⟨next, -, read⟩ := Option.bind_eq_some_iff.1 read
      exact (Entries.keep_openTable? isOpened).trans (inductionHypothesis read)
    · split at read
      · obtain ⟨next, -, read⟩ := Option.bind_eq_some_iff.1 read
        exact inductionHypothesis read
      · obtain ⟨⟨keys, afterKey⟩, -, read⟩ := Option.bind_eq_some_iff.1 read
        obtain ⟨⟨setting, after⟩, -, read⟩ := Option.bind_eq_some_iff.1 read
        obtain ⟨assigned, isAssigned, read⟩ := Option.bind_eq_some_iff.1 read
        obtain ⟨next, -, read⟩ := Option.bind_eq_some_iff.1 read
        exact (Entries.keep_assignBelow? isAssigned).trans (inductionHypothesis read)

section Configuration

variable {surplus : Surplus} {entries : List (Text × Setting)}

/-- The fields of a table are what its entries hold under their names. -/
theorem fields?_table {names : List Text} {fields : List (Option Setting)}
    (found : Setting.fields? surplus names (.table entries) = some fields) :
    names.map (Setting.lookup? · entries) = fields := by
  rw [Setting.fields?] at found
  split at found
  · exact Option.some.inj found
  · cases found

/-- The code of a language is the text under its name. -/
theorem code_of_ofSetting? {metadata : Metadata} {code : Text}
    (found : Metadata.ofSetting? surplus (.table entries) = some metadata)
    (isThere : Setting.lookup? "code" entries = some (.text code)) : metadata.code = code := by
  obtain ⟨fields, areFields, read⟩ := Option.bind_eq_some_iff.1 found
  obtain rfl := fields?_table areFields
  rw [List.map_cons, isThere] at read
  obtain ⟨_, isCode, read⟩ := Option.bind_eq_some_iff.1 read
  obtain ⟨name, -, isWhole⟩ := Option.bind_eq_some_iff.1 read
  obtain rfl := Option.some.inj isCode
  obtain rfl := Option.some.inj isWhole
  rfl

/-- The metadata of a definition is what its name leads to. -/
theorem metadata_of_ofSetting? {configuration : Configuration} {setting : Setting}
    (found : Configuration.ofSetting? surplus (.table entries) = some configuration)
    (isThere : Setting.lookup? "metadata" entries = some setting) :
    Metadata.ofSetting? surplus setting = some configuration.metadata := by
  obtain ⟨fields, areFields, read⟩ := Option.bind_eq_some_iff.1 found
  obtain rfl := fields?_table areFields
  rw [List.map_cons, isThere] at read
  obtain ⟨metadata, isMetadata, read⟩ := Option.bind_eq_some_iff.1 read
  obtain ⟨scripts, -, read⟩ := Option.bind_eq_some_iff.1 read
  obtain ⟨paragraph, -, read⟩ := Option.bind_eq_some_iff.1 read
  obtain ⟨sentence, -, read⟩ := Option.bind_eq_some_iff.1 read
  obtain ⟨lexicon, -, read⟩ := Option.bind_eq_some_iff.1 read
  obtain ⟨expression, -, isWhole⟩ := Option.bind_eq_some_iff.1 read
  obtain rfl := Option.some.inj isWhole
  exact isMetadata

/-- A definition has the code that its metadata hold. -/
theorem code_of_hasValue {configuration : Configuration} {code : Text} {entries : Entries}
    (found : Configuration.ofSetting? surplus (.table (entriesToSettings entries)) = some configuration)
    (has : HasValue (.text code) ["metadata", "code"] entries) : configuration.metadata.code = code := by
  obtain _ | ⟨isTable, inside⟩ := has
  obtain isCode | ⟨_, nowhere⟩ := inside
  · have isMetadata := metadata_of_ofSetting? found ((Entries.lookup?_entriesToSettings _ _).trans
      (congrArg (Option.map Entry.toSetting) isTable))
    exact code_of_ofSetting? isMetadata ((Entries.lookup?_entriesToSettings _ _).trans
      (congrArg (Option.map Entry.toSetting) isCode))
  · cases nowhere

end Configuration

end ProseTree.Toml
