import ProseTree.Toml.Table

/-!
# Values stay where they are

Tables are only added to. Whatever is assigned or opened, each value that a path of tables leads to is still
there afterwards.
-/

namespace ProseTree.Toml

open ProseTree.Language (Setting)

namespace Entries

section Lookup

variable {entries : Entries} {key : Text} {found : Entry}

/-- New entries hide no old one. -/
theorem get?_append_of_some (isThere : get? entries key = some found) (more : Entries) :
    get? (entries ++ more) key = some found := by
  obtain ⟨entry, isFirst, isFound⟩ := Option.map_eq_some_iff.1 isThere
  rw [get?, List.find?_append, isFirst]
  exact congrArg some isFound

/-- A replaced entry is found under its key. -/
theorem get?_replace_self (isThere : get? entries key = some found) (entry : Entry) :
    get? (replace entries key entry) key = some entry := by
  induction entries with
  | nil => cases isThere
  | cons first entries inductionHypothesis =>
    by_cases same : first.1 = key
    · simp [replace, get?, same]
    · have behind : get? entries key = some found := by simpa [get?, same] using isThere
      simpa [replace, get?, same] using inductionHypothesis behind

/-- The entries under other keys are not replaced. -/
theorem get?_replace_of_ne {other : Text} (isOther : other ≠ key) (entry : Entry) :
    get? (replace entries key entry) other = get? entries other := by
  induction entries with
  | nil => rfl
  | cons first entries inductionHypothesis =>
    rw [replace, get?, get?] at inductionHypothesis
    by_cases same : first.1 = key
    · simpa [replace, get?, same, Ne.symm isOther] using inductionHypothesis
    · by_cases here : first.1 = other
      · simp [replace, get?, here, isOther]
      · simpa [replace, get?, same, here] using inductionHypothesis

end Lookup

/-- A path of tables leads to a value. -/
inductive HasValue (setting : Setting) : List Text → Entries → Prop
  | last {key : Text} {entries : Entries} (isThere : get? entries key = some (.value setting)) :
      HasValue setting [key] entries
  | cons {key : Text} {path : List Text} {isImplicit isDotted : Bool} {inner entries : Entries}
      (isThere : get? entries key = some (.table isImplicit isDotted inner))
      (inside : HasValue setting path inner) : HasValue setting (key :: path) entries

/-- Every value of some entries is at its place in others. -/
def Keep (entries changed : Entries) : Prop :=
  ∀ setting path, HasValue setting path entries → HasValue setting path changed

namespace Keep

variable {entries : Entries} {key : Text}

/-- What is kept twice is kept. -/
theorem trans {changed final : Entries} (first : Keep entries changed) (second : Keep changed final) :
    Keep entries final :=
  fun setting path has => second setting path (first setting path has)

/-- New entries keep the values of the old ones. -/
theorem append (entries more : Entries) : Keep entries (entries ++ more) := by
  intro setting path has
  cases has with
  | last isThere => exact .last (get?_append_of_some isThere more)
  | cons isThere inside => exact .cons (get?_append_of_some isThere more) inside

/-- A table that keeps its own values may be replaced. -/
theorem replace_table {isImplicit isDotted : Bool} {inner changed : Entries}
    (isThere : get? entries key = some (.table isImplicit isDotted inner)) (keep : Keep inner changed)
    (nowImplicit nowDotted : Bool) :
    Keep entries (replace entries key (.table nowImplicit nowDotted changed)) := by
  intro setting place has
  cases has with
  | @last other _ elsewhere =>
    have isOther : other ≠ key := by
      rintro rfl
      rw [isThere] at elsewhere
      cases elsewhere
    exact .last ((get?_replace_of_ne isOther _).trans elsewhere)
  | @cons other path _ _ _ _ elsewhere inside =>
    by_cases same : other = key
    · subst same
      rw [isThere] at elsewhere
      cases elsewhere
      exact .cons (get?_replace_self isThere _) (keep setting path inside)
    · exact .cons ((get?_replace_of_ne same _).trans elsewhere) inside

/-- The tables of an array may be replaced, since no path leads into them. -/
theorem replace_tables {elements : List Entries} (isThere : get? entries key = some (.tables elements))
    (changed : List Entries) : Keep entries (replace entries key (.tables changed)) := by
  have isOther : ∀ {other : Text} {found : Entry}, get? entries other = some found →
      (∀ elements, found ≠ .tables elements) → other ≠ key := by
    rintro other found elsewhere noArray rfl
    rw [isThere] at elsewhere
    exact noArray elements (Option.some.inj elsewhere).symm
  intro setting path has
  cases has with
  | last elsewhere =>
    exact .last ((get?_replace_of_ne (isOther elsewhere (by simp)) _).trans elsewhere)
  | cons elsewhere inside =>
    exact .cons ((get?_replace_of_ne (isOther elsewhere (by simp)) _).trans elsewhere) inside

end Keep

/-- A change of a table deep down keeps all values, if it keeps those of this table. -/
theorem keep_changeAt {isDottedPath : Bool} {change : Bool → Entries → Option Entries}
    (keep : ∀ {isDotted inner changed}, change isDotted inner = some changed → Keep inner changed)
    {isDotted : Bool} {path : List Text} {entries changed : Entries}
    (isChanged : changeAt isDottedPath change isDotted path entries = some changed) :
    Keep entries changed := by
  fun_induction changeAt isDottedPath change isDotted path entries generalizing changed with
  | case1 => exact keep isChanged
  | case2 _ key path entries _ inductionHypothesis =>
    obtain ⟨inner, -, isWhole⟩ := Option.bind_eq_some_iff.1 isChanged
    obtain rfl := Option.some.inj isWhole
    exact .append entries _
  | case3 => cases isChanged
  | case4 isDotted key path entries isImplicit isDottedTable inner isThere _ inductionHypothesis =>
    obtain ⟨new, isNew, isWhole⟩ := Option.bind_eq_some_iff.1 isChanged
    obtain rfl := Option.some.inj isWhole
    exact .replace_table isThere (inductionHypothesis isNew) _ _
  | case5 _ key path entries last earlier isThere inductionHypothesis =>
    obtain ⟨new, -, isWhole⟩ := Option.bind_eq_some_iff.1 isChanged
    obtain rfl := Option.some.inj isWhole
    exact .replace_tables isThere _
  | case6 => cases isChanged
  | case7 => cases isChanged

/-- A line in a table keeps the values of all tables. -/
theorem keep_assign? {keys : List Text} {setting : Setting} {entries changed : Entries}
    (assigned : assign? keys setting entries = some changed) : Keep entries changed := by
  obtain ⟨⟨path, key⟩, -, isChanged⟩ := Option.bind_eq_some_iff.1 assigned
  refine keep_changeAt ?_ isChanged
  intro isDotted inner changed isChanged
  split at isChanged
  · cases isChanged
  · obtain rfl := Option.some.inj isChanged
    exact .append inner _

/-- A header of a table keeps all values. -/
theorem keep_openTable? {keys : List Text} {entries changed : Entries}
    (opened : openTable? keys entries = some changed) : Keep entries changed := by
  obtain ⟨⟨path, key⟩, -, isChanged⟩ := Option.bind_eq_some_iff.1 opened
  refine keep_changeAt ?_ isChanged
  intro _ inner changed isChanged
  split at isChanged
  · obtain rfl := Option.some.inj isChanged
    exact .append inner _
  · rename_i below isThere
    obtain rfl := Option.some.inj isChanged
    exact .replace_table isThere (fun _ _ => id) false false
  · cases isChanged

/-- A header of an array keeps all values. -/
theorem keep_openArray? {keys : List Text} {entries changed : Entries}
    (opened : openArray? keys entries = some changed) : Keep entries changed := by
  obtain ⟨⟨path, key⟩, -, isChanged⟩ := Option.bind_eq_some_iff.1 opened
  refine keep_changeAt ?_ isChanged
  intro _ inner changed isChanged
  split at isChanged
  · obtain rfl := Option.some.inj isChanged
    exact .append inner _
  · rename_i elements isThere
    obtain rfl := Option.some.inj isChanged
    exact .replace_tables isThere _
  · cases isChanged

/-- A line below a header keeps all values. -/
theorem keep_assignBelow? {header keys : List Text} {setting : Setting} {entries changed : Entries}
    (assigned : assignBelow? header keys setting entries = some changed) : Keep entries changed :=
  keep_changeAt keep_assign? assigned

/-- The setting under a key is what the key holds. -/
theorem lookup?_entriesToSettings (key : Text) (entries : Entries) :
    Setting.lookup? key (entriesToSettings entries) = (get? entries key).map Entry.toSetting := by
  induction entries with
  | nil => rfl
  | cons first entries inductionHypothesis =>
    obtain ⟨name, entry⟩ := first
    rw [Setting.lookup?, get?] at inductionHypothesis
    by_cases same : name = key
    · simp [entriesToSettings, Setting.lookup?, get?, same]
    · simpa [entriesToSettings, Setting.lookup?, get?, same] using inductionHypothesis

end Entries

end ProseTree.Toml
