import ProseTree.Proofs.Language.BuiltIn
import ProseTree.Proofs.Language.ListedLetters

/-!
# The letters of several scripts

The letters of a definition are those of its scripts, whose bodies are joined as texts. Where the
bodies are lists that are set apart, the grammar of all scripts has the letters of the grammars that each
script has alone.
-/

namespace ProseTree.Language

/-- The definition with one script only. -/
def Configuration.withScript (configuration : Configuration) (script : Script) : Configuration :=
  { configuration with scripts := [script] }

/-- What stands behind the letters in the class body of the characters that make words. -/
def Configuration.digitBody (configuration : Configuration) : Text :=
  if configuration.lexicon.wordAllowsDigits then "0-9_".toList else []

/-- The letters of a definition with one script are those of the script. -/
@[simp] theorem Configuration.letterBody_withScript (configuration : Configuration)
    (script : Script) : (configuration.withScript script).letterBody = script.letters := by
  simp [withScript, letterBody]

/-- The words of a definition with one script are made of the letters of the script. -/
@[simp] theorem Configuration.wordLetterBody_withScript (configuration : Configuration)
    (script : Script) :
    (configuration.withScript script).wordLetterBody = script.letters ++ configuration.digitBody := by
  rw [wordLetterBody, letterBody_withScript]
  rfl

namespace Grammar

variable {configuration : Configuration} {grammar : Grammar}

/-- Settings that are valid with every script alone are valid with all of them. -/
theorem invalidSetting?_eq_none_of_withScript (scripts : configuration.scripts ≠ [])
    (valid : ∀ script ∈ configuration.scripts,
      invalidSetting? (configuration.withScript script) = none) :
    invalidSetting? configuration = none := by
  obtain ⟨first, others, same⟩ := List.exists_cons_of_ne_nil scripts
  have someLetters : configuration.scripts.any (·.letters.isEmpty) = false := by
    rw [List.any_eq_false]
    intro script member missing
    have refused := valid script member
    simp [invalidSetting?, Configuration.withScript, missing] at refused
  have firstValid := valid first (by simp [same])
  have notEmpty : configuration.scripts.isEmpty = false := by simp [scripts]
  have firstLetters : first.letters.isEmpty = false := by
    rw [same] at someLetters
    simpa using (List.any_eq_false.1 someLetters) first
  simp only [invalidSetting?, Configuration.withScript, List.isEmpty_cons, List.any_cons, List.any_nil,
    firstLetters, Bool.or_false] at firstValid
  rw [invalidSetting?, notEmpty, someLetters]
  exact firstValid

/-- The letters of all scripts are listed where those of every script alone are. -/
theorem exists_listsLetters_of_withScript [ClassTables] (scripts : configuration.scripts ≠ []) {levels : Nat}
    (lists : ∀ script ∈ configuration.scripts, ∃ letters wordLetters,
      (configuration.withScript script).ListsLetters levels letters wordLetters)
    (apart : (configuration.scripts.map (·.letters)).IsChain CharSet.BodiesApart) :
    ∃ letters wordLetters, configuration.ListsLetters (levels + 1) letters wordLetters ∧
      ∀ c, (CharSet.ofList letters).contains c = true ↔
        ∃ script ∈ configuration.scripts, ∃ listed, CharSet.ListsUpTo levels script.letters listed ∧
          (CharSet.ofList listed).contains c = true := by
  have bodies : ∀ body ∈ configuration.scripts.map (·.letters), ∃ sets,
      CharSet.ListsUpTo levels body sets := by
    intro body member
    obtain ⟨script, inside, rfl⟩ := List.mem_map.1 member
    obtain ⟨letters, wordLetters, scriptLists⟩ := lists script inside
    exact ⟨letters, Configuration.letterBody_withScript configuration script ▸ scriptLists.letters⟩
  obtain ⟨letters, letterLists, union⟩ :=
    CharSet.exists_listsUpTo_flatten (by simpa using scripts) bodies apart
  obtain ⟨before, last, same⟩ := (List.eq_nil_or_concat configuration.scripts).resolve_left scripts
  rw [List.concat_eq_append] at same
  have lastMember : last ∈ configuration.scripts := by simp [same]
  -- The digits stand behind the last script.
  have joined : (before.map (·.letters) ++ [last.letters ++ configuration.digitBody]).flatten =
      configuration.wordLetterBody := by
    simp [Configuration.wordLetterBody, Configuration.letterBody, Configuration.digitBody, same,
      List.flatMap_def]
  have wordBodies : ∀ body ∈ before.map (·.letters) ++ [last.letters ++ configuration.digitBody],
      ∃ sets, CharSet.ListsUpTo levels body sets := by
    intro body member
    rw [List.mem_append, List.mem_singleton] at member
    obtain inside | rfl := member
    · exact bodies body (by simp [same, List.mem_map.1 inside])
    · obtain ⟨_, wordLetters, scriptLists⟩ := lists last lastMember
      exact ⟨wordLetters,
        Configuration.wordLetterBody_withScript configuration last ▸ scriptLists.wordLetters⟩
  obtain ⟨lastSets, lastList⟩ := bodies last.letters (List.mem_map_of_mem lastMember)
  rw [same, List.map_append, List.map_singleton] at apart
  obtain ⟨wordLetters, wordLists, -⟩ := CharSet.exists_listsUpTo_flatten (by simp) wordBodies
    (CharSet.isChain_append_last lastList.ne_nil configuration.digitBody apart)
  refine ⟨letters, wordLetters, ⟨?_, joined ▸ wordLists⟩, fun c => (union c).trans (by simp)⟩
  rwa [← List.flatMap_def] at letterLists

/-- The grammar of several scripts has the letters of each of them: when the letters of every script are a
list, set apart from that of the next script, and every script alone makes an accepted definition, then
the definition of all scripts is accepted too, and its letters are those that one of the scripts has
alone. -/
theorem isLetter_iff_exists_script [ClassTables] (scripts : configuration.scripts ≠ [])
    (lists : ∀ script ∈ configuration.scripts, ∃ letters wordLetters,
      (configuration.withScript script).ListsLetters (listLevels - 1) letters wordLetters)
    (apart : (configuration.scripts.map (·.letters)).IsChain CharSet.BodiesApart)
    (accepted : ∀ script ∈ configuration.scripts,
      ∃ alone, ofConfiguration (configuration.withScript script) = .ok alone) :
    ∃ grammar, ofConfiguration configuration = .ok grammar ∧
      ∀ c, grammar.isLetter c = true ↔
        ∃ script ∈ configuration.scripts, ∃ alone,
          ofConfiguration (configuration.withScript script) = .ok alone ∧
            alone.isLetter c = true := by
  obtain ⟨letters, wordLetters, allLists, union⟩ := exists_listsLetters_of_withScript scripts lists apart
  have allAccepted : ∃ grammar, ofConfiguration configuration = .ok grammar := by
    refine (exists_ofConfiguration_iff_of_lists allLists).2 ⟨?settings, ?operators⟩
    case settings =>
      exact invalidSetting?_eq_none_of_withScript scripts fun script member =>
        (exists_ofConfiguration_iff.1 (accepted script member)).1
    case operators =>
      obtain ⟨script, others, same⟩ := List.exists_cons_of_ne_nil scripts
      exact (exists_ofConfiguration_iff.1 (accepted script (by simp [same]))).2.2
  obtain ⟨grammar, made⟩ := allAccepted
  refine ⟨grammar, made, fun c => ?_⟩
  rw [isLetter_eq_contains_ofList made allLists, union]
  have alone : ∀ script ∈ configuration.scripts,
      ((∃ listed, CharSet.ListsUpTo (listLevels - 1) script.letters listed ∧
        (CharSet.ofList listed).contains c = true) ↔
      ∃ alone, ofConfiguration (configuration.withScript script) = .ok alone ∧
        alone.isLetter c = true) := by
    intro script member
    obtain ⟨alone, aloneMade⟩ := accepted script member
    obtain ⟨listed, wordListed, scriptLists⟩ := lists script member
    have letter := isLetter_eq_contains_ofList aloneMade (scriptLists.mono (Nat.sub_le _ 1)) c
    have scriptList := Configuration.letterBody_withScript configuration script ▸ scriptLists.letters
    rw [scriptList.contains_iff, ← letter]
    constructor
    · exact fun isLetter => ⟨alone, aloneMade, isLetter⟩
    · rintro ⟨again, againMade, isLetter⟩
      rwa [Except.ok.inj (aloneMade.symm.trans againMade)]
  exact exists_congr fun script => and_congr_right fun member => alone script member

/-- The Latin letters are a list of two ranges. -/
theorem extensible_latin : CharSet.Extensible Script.latin.letters
    [.ranges [⟨'a', 'z'⟩], .ranges [⟨'A', 'Z'⟩]] where
  nonempty := by decide
  noCircumflex := by decide
  lists := by
    refine (CharSet.bodyLists_iff (by decide) (by decide)).2 ?_
    exact .item rfl rfl (.item rfl rfl (.nil []))

/-- The Cyrillic letters are a list of two ranges and two letters. -/
theorem extensible_cyrillic : CharSet.Extensible Script.cyrillic.letters
    [.ranges [⟨'а', 'я'⟩], .ranges [⟨'А', 'Я'⟩], .single 'ё', .single 'Ё'] where
  nonempty := by decide
  noCircumflex := by decide
  lists := by
    refine (CharSet.bodyLists_iff (by decide) (by decide)).2 ?_
    exact .item rfl rfl (.item rfl rfl (.item rfl rfl (.item rfl rfl (.nil []))))

/-- Russian texts have the letters of the Cyrillic and of the Latin script. -/
theorem isLetter_iff_exists_script_russian :
    Configuration.russian.scripts = [.cyrillic, .latin] ∧
      (∀ script ∈ Configuration.russian.scripts, ∃ letters wordLetters,
        (Configuration.russian.withScript script).ListsLetters (listLevels - 1) letters wordLetters) ∧
      (Configuration.russian.scripts.map (·.letters)).IsChain CharSet.BodiesApart ∧
      (∀ script ∈ Configuration.russian.scripts,
        ∃ alone, ofConfiguration (Configuration.russian.withScript script) = .ok alone) ∧
      ∃ grammar, ofConfiguration .russian = .ok grammar ∧
        ∀ c, grammar.isLetter c = true ↔
          ∃ script ∈ Configuration.russian.scripts, ∃ alone,
            ofConfiguration (Configuration.russian.withScript script) = .ok alone ∧
              alone.isLetter c = true := by
  have cases : ∀ script ∈ Configuration.russian.scripts, script = .cyrillic ∨ script = .latin := by
    intro script member
    simpa [Configuration.russian, Configuration.european] using member
  have lists : ∀ script ∈ Configuration.russian.scripts, ∃ letters wordLetters,
      (Configuration.russian.withScript script).ListsLetters (listLevels - 1) letters wordLetters := by
    have alone : ∀ {script : Script} {letters : List CharSet},
        CharSet.ListsUpTo (listLevels - 1) script.letters letters → ∃ letters wordLetters,
          (Configuration.russian.withScript script).ListsLetters (listLevels - 1) letters wordLetters :=
      fun scriptLists => ⟨_, _, .of_letters (by rwa [Configuration.letterBody_withScript]) rfl⟩
    intro script member
    obtain rfl | rfl := cases script member
    · exact alone ⟨extensible_cyrillic.isListOf, by decide⟩
    · exact alone ⟨extensible_latin.isListOf, by decide⟩
  have apart : (Configuration.russian.scripts.map (·.letters)).IsChain CharSet.BodiesApart := by
    refine List.isChain_pair.2 ⟨.of_noMark ?_, ⟨_, extensible_cyrillic⟩, by decide⟩
    rintro first ⟨⟩
    decide
  have accepted : ∀ script ∈ Configuration.russian.scripts,
      ∃ alone, ofConfiguration (Configuration.russian.withScript script) = .ok alone := by
    intro script member
    obtain rfl | rfl := cases script member <;> exact ⟨_, rfl⟩
  exact ⟨rfl, lists, apart, accepted, isLetter_iff_exists_script (by decide) lists apart accepted⟩

end Grammar

/-- English with two scripts, of which the first one lists a minus as its last letter. -/
def Configuration.minusAtSeam : Configuration :=
  { Configuration.english with
    scripts := [{ name := "first", letters := "abc-" }, { name := "second", letters := "xyz" }] }

namespace Grammar

/-- A minus at the end of the first script makes a range with the second one: of a minus, which is a
letter of the first script alone, and of an `m`, which is a letter of neither, only the `m` is a letter
of both together. -/
theorem isLetter_between_scripts :
    (∀ script ∈ Configuration.minusAtSeam.scripts, (CharClass.ofBody? script.letters).isSome) ∧
      (∀ script ∈ Configuration.minusAtSeam.scripts, ∃ alone,
        ofConfiguration (Configuration.minusAtSeam.withScript script) = .ok alone) ∧
      ∃ grammar, ofConfiguration .minusAtSeam = .ok grammar ∧
        (grammar.isLetter 'm' = true ∧ ¬ ∃ script ∈ Configuration.minusAtSeam.scripts, ∃ alone,
          ofConfiguration (Configuration.minusAtSeam.withScript script) = .ok alone ∧
            alone.isLetter 'm' = true) ∧
        grammar.isLetter '-' = false ∧ ∃ script ∈ Configuration.minusAtSeam.scripts, ∃ alone,
          ofConfiguration (Configuration.minusAtSeam.withScript script) = .ok alone ∧
            alone.isLetter '-' = true := by
  have plain : ∀ script ∈ Configuration.minusAtSeam.scripts,
      (CharClass.ofBody? script.letters).isSome := by decide
  have accepted : ∀ script ∈ Configuration.minusAtSeam.scripts, ∃ alone,
      ofConfiguration (Configuration.minusAtSeam.withScript script) = .ok alone := by
    intro script member
    have cases : script = ⟨"first", "abc-", []⟩ ∨ script = ⟨"second", "xyz", []⟩ := by
      simpa [Configuration.minusAtSeam] using member
    obtain rfl | rfl := cases <;> exact ⟨_, rfl⟩
  refine ⟨plain, accepted, _, rfl, ⟨by decide, ?_⟩, by decide, _, List.mem_cons_self, _, rfl, by decide⟩
  rintro ⟨script, member, alone, made, letter⟩
  have cases : script = ⟨"first", "abc-", []⟩ ∨ script = ⟨"second", "xyz", []⟩ := by
    simpa [Configuration.minusAtSeam] using member
  obtain rfl | rfl := cases
  · have noLetter : alone.isLetter 'm' = false := eq_of_computed made (·.isLetter 'm') (by decide)
    rw [noLetter] at letter
    cases letter
  · have noLetter : alone.isLetter 'm' = false := eq_of_computed made (·.isLetter 'm') (by decide)
    rw [noLetter] at letter
    cases letter

end Grammar

end ProseTree.Language
