import ProseTree.Language.Configuration

/-!
# Settings

The values that a definition file can hold, and the reading of a language definition from them. A
group of fields is a table by name, or a list of its fields in their order. A field that is left out
has its default, or is missing; a table may hold names that no field has, as long as what is under
them can be passed over.
-/

namespace ProseTree.Language

/-- A value of a definition file. No field of a definition takes a value of another sort, and a number
that is out of range cannot even be passed over. -/
inductive Setting where
  | text (value : Text)
  | flag (value : Bool)
  | list (items : List Setting)
  | table (entries : List (Text × Setting))
  | other
  | outOfRange
  deriving Inhabited

/-- What becomes of the items of a list beyond the last field of a group. -/
inductive Surplus where
  | ignored
  | refused
  deriving DecidableEq, Repr

namespace Setting

/-- The text that a setting is. -/
def text? : Setting → Option Text
  | text value => some value
  | _ => none

/-- The flag that a setting is. -/
def flag? : Setting → Option Bool
  | flag value => some value
  | _ => none

/-- The character that a setting is: a text of one character. -/
def char? : Setting → Option Char
  | text [c] => some c
  | _ => none

/-- The list that a setting is, with every item read by `item?`. -/
def list? {α : Type} (item? : Setting → Option α) : Setting → Option (List α)
  | list items => items.mapM item?
  | _ => none

mutual

/-- Whether a setting can be passed over: nothing in it is out of range. -/
def isInRange : Setting → Bool
  | text _ | flag _ | other => true
  | outOfRange => false
  | list items => areInRange items
  | table entries => entriesAreInRange entries

/-- Whether all settings of a list can be passed over. -/
def areInRange : List Setting → Bool
  | [] => true
  | item :: items => item.isInRange && areInRange items

/-- Whether all settings of a table can be passed over. -/
def entriesAreInRange : List (Text × Setting) → Bool
  | [] => true
  | (_, setting) :: entries => setting.isInRange && entriesAreInRange entries

end

/-- The value under a name. -/
def lookup? (name : Text) (entries : List (Text × Setting)) : Option Setting :=
  (entries.find? fun entry => entry.1 == name).map (·.2)

/-- The settings of the named fields of a group, in the order of the names. -/
def fields? (surplus : Surplus) (names : List Text) : Setting → Option (List (Option Setting))
  | table entries =>
    if entriesAreInRange (entries.filter fun entry => !names.contains entry.1) then
      some (names.map (lookup? · entries))
    else none
  | list items =>
    if surplus = .refused && names.length < items.length then none
    else some ((items.take names.length).map some ++
      List.replicate (names.length - items.length) none)
  | _ => none

/-- A field that must be there. -/
def required? {α : Type} (value? : Setting → Option α) (field : Option Setting) : Option α :=
  field.bind value?

/-- A field that has a default. -/
def optional? {α : Type} (value? : Setting → Option α) (default : α) : Option Setting → Option α
  | none => some default
  | some setting => value? setting

end Setting

open Setting

/-- The metadata that a setting is. -/
def Metadata.ofSetting? (surplus : Surplus) (setting : Setting) : Option Metadata := do
  match ← fields? surplus ["code", "name"] setting with
  | [code, name] => return ⟨← required? text? code, ← required? text? name⟩
  | _ => none

/-- The script that a setting is. -/
def Script.ofSetting? (surplus : Surplus) (setting : Setting) : Option Script := do
  match ← fields? surplus ["name", "letters", "vowels"] setting with
  | [name, letters, vowels] =>
    return ⟨← required? text? name, ← required? text? letters, ← optional? text? [] vowels⟩
  | _ => none

/-- The paragraph rules that a setting is. -/
def ParagraphRules.ofSetting? (surplus : Surplus) (setting : Setting) : Option ParagraphRules := do
  match ← fields? surplus ["indent_markers", "require_indent"] setting with
  | [markers, require] =>
    return ⟨← required? (list? text?) markers, ← optional? flag? true require⟩
  | _ => none

/-- The sentence rules that a setting is. -/
def SentenceRules.ofSetting? (surplus : Surplus) (setting : Setting) : Option SentenceRules := do
  match ← fields? surplus ["terminators", "ellipsis"] setting with
  | [terminators, ellipsis] =>
    return ⟨← required? (list? char?) terminators, ← optional? text? "..." ellipsis⟩
  | _ => none

/-- The bracket pair that a setting is. -/
def BracketPair.ofSetting? (surplus : Surplus) (setting : Setting) : Option BracketPair := do
  match ← fields? surplus ["open", "close"] setting with
  | [opening, closing] => return ⟨← required? char? opening, ← required? char? closing⟩
  | _ => none

/-- The lexicon that a setting is. -/
def Lexicon.ofSetting? (surplus : Surplus) (setting : Setting) : Option Lexicon := do
  match ← fields? surplus
      ["word_joiners", "punctuation", "quotes", "brackets", "word_allows_digits"] setting with
  | [joiners, punctuation, quotes, brackets, digits] =>
    return ⟨← optional? (list? char?) [] joiners, ← required? (list? char?) punctuation,
      ← optional? (list? char?) [] quotes,
      ← optional? (list? (BracketPair.ofSetting? surplus)) [] brackets,
      ← optional? flag? false digits⟩
  | _ => none

/-- The expression rules that a setting is. -/
def ExpressionRules.ofSetting? (surplus : Surplus) (setting : Setting) :
    Option ExpressionRules := do
  match ← fields? surplus ["operators"] setting with
  | [operators] => return ⟨← optional? (list? char?) ['+', '-', '*', '/'] operators⟩
  | _ => none

/-- The language definition that a setting is. -/
def Configuration.ofSetting? (surplus : Surplus) (setting : Setting) : Option Configuration := do
  match ← fields? surplus
      ["metadata", "scripts", "paragraph", "sentence", "lexicon", "expression"] setting with
  | [metadata, scripts, paragraph, sentence, lexicon, expression] =>
    return {
      metadata := ← required? (Metadata.ofSetting? surplus) metadata
      scripts := ← required? (list? (Script.ofSetting? surplus)) scripts
      paragraph := ← required? (ParagraphRules.ofSetting? surplus) paragraph
      sentence := ← required? (SentenceRules.ofSetting? surplus) sentence
      lexicon := ← required? (Lexicon.ofSetting? surplus) lexicon
      expression := ← optional? (ExpressionRules.ofSetting? surplus) {} expression }
  | _ => none

end ProseTree.Language
