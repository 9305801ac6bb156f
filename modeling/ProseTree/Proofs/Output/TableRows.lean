import ProseTree.Proofs.Output.Wording
import ProseTree.Proofs.Text.Blank

/-!
# Table rows are read back

The cells of a table row stand between its bare pipes, which are those without a backslash in front of them;
any other pipe belongs to a cell and loses its backslash. In a written cell a backslash stands in front of
every pipe, also where one stood there before, and a space stands behind the cell. So a row of three cells has
four bare pipes, and between them the trimmed texts of its cells, whatever pipes and backslashes these have.
-/

namespace ProseTree.Output.Markdown

section Cells

/-- How many pipes of a text have no backslash in front of them. -/
def barePipes (behindBackslash : Bool) : Text → Nat
  | [] => 0
  | c :: rest => (if c = '|' ∧ behindBackslash = false then 1 else 0) + barePipes (c == '\\') rest

/-- The parts of a row between its bare pipes, of which every other pipe loses its backslash. -/
def cells : Text → List Text
  | [] => [[]]
  | '\\' :: '|' :: rest => (cells rest).modifyHead ('|' :: ·)
  | '|' :: rest => [] :: cells rest
  | c :: rest => (cells rest).modifyHead (c :: ·)

/-- A pipe at the start of a text is bare, and cuts it there. -/
theorem cells_pipe_cons (rest : Text) : cells ('|' :: rest) = [] :: cells rest := by
  rw [cells]

/-- A bare pipe stands between two parts, and nowhere else. -/
theorem length_cells (row : Text) : (cells row).length = barePipes false row + 1 := by
  fun_induction cells row with
  | case1 => rfl
  | case2 rest inductionHypothesis => simp [barePipes, inductionHypothesis]
  | case3 rest inductionHypothesis => simp [barePipes, inductionHypothesis, Nat.add_comm]
  | case4 c rest notEscaped noPipe inductionHypothesis =>
    have other : c ≠ '|' := noPipe
    -- Behind a backslash that escapes nothing, it makes no difference that it stood there.
    have forgotten : barePipes (c == '\\') rest = barePipes false rest := by
      cases rest with
      | nil => rfl
      | cons d rest =>
        by_cases isBackslash : c = '\\'
        · have noPipe : d ≠ '|' := fun isPipe => notEscaped rest isBackslash (by rw [isPipe])
          simp [barePipes, noPipe]
        · simp [barePipes, isBackslash]
    simp [barePipes, other, forgotten, inductionHypothesis]

/-- A character with a backslash in front of it if it is a pipe. -/
def escapePipe (c : Char) : Text :=
  if c == '|' then ['\\', '|'] else [c]

/-- No text starts with a pipe once its pipes are escaped. -/
theorem head?_flatMap_escapePipe {text rest : Text} (noPipe : rest.head? ≠ some '|') :
    (text.flatMap escapePipe ++ rest).head? ≠ some '|' := by
  cases text with
  | nil => exact noPipe
  | cons c text =>
    by_cases isPipe : c = '|'
    · simp [escapePipe, isPipe]
    · simp [escapePipe, isPipe]

/-- A character in front of a text that starts with no pipe is one of the first cell. -/
theorem cells_escapePipe_append (c : Char) {rest : Text} (noPipe : rest.head? ≠ some '|') :
    cells (escapePipe c ++ rest) = (cells rest).modifyHead (c :: ·) := by
  by_cases isPipe : c = '|'
  · rw [isPipe]
    exact cells.eq_2 rest
  · have single : escapePipe c ++ rest = c :: rest := by simp [escapePipe, isPipe]
    rw [single]
    refine cells.eq_4 c rest ?_ isPipe
    rintro more - rfl
    exact noPipe rfl

/-- The first cell of a row starts with the characters that were escaped in front of it. -/
theorem cells_flatMap_escapePipe_append (text : Text) {rest : Text} (noPipe : rest.head? ≠ some '|') :
    cells (text.flatMap escapePipe ++ rest) = (cells rest).modifyHead (text ++ ·) := by
  induction text with
  | nil => cases found : cells rest <;> simp [found]
  | cons c text inductionHypothesis =>
    rw [List.flatMap_cons, List.append_assoc, cells_escapePipe_append c (head?_flatMap_escapePipe noPipe),
      inductionHypothesis, List.modifyHead_modifyHead]
    rfl

/-- A cell as it is written: trimmed, and with its pipes escaped. -/
def cellText (text : Text) : Text :=
  (Text.trim text).flatMap escapePipe

/-- A written cell between spaces, with a bare pipe behind it, is read back. -/
theorem cells_cellText_append (text rest : Text) :
    cells (' ' :: (cellText text ++ ' ' :: '|' :: rest)) = (' ' :: Text.trim text ++ [' ']) :: cells rest := by
  have space : ∀ more : Text, cells (' ' :: more) = (cells more).modifyHead (' ' :: ·) := fun more =>
    cells.eq_4 ' ' more (by simp) (by decide)
  rw [space, cellText, cells_flatMap_escapePipe_append _ (by simp), space, cells_pipe_cons]
  rfl

/-- A text without white space and pipes is written as it is. -/
theorem cellText_eq_self {text : Text} (noBlank : ∀ c ∈ text, Text.isBlank c = false) (noPipe : '|' ∉ text) :
    cellText text = text := by
  have trimmed : Text.trim text = text := by
    rw [Text.trim, Text.trimStart_eq_self fun c first => noBlank c (List.mem_of_mem_head? first),
      Text.trimEnd_eq_self fun c last => noBlank c (List.mem_of_mem_getLast? last)]
  rw [cellText, trimmed]
  clear trimmed noBlank
  induction text with
  | nil => rfl
  | cons c text inductionHypothesis =>
    rw [List.mem_cons, not_or] at noPipe
    rw [List.flatMap_cons, inductionHypothesis noPipe.2, escapePipe, if_neg (by simpa using Ne.symm noPipe.1),
      List.singleton_append]

/-- A number is written as it is. -/
theorem cellText_ofNat (number : Nat) : cellText (Text.ofNat number) = Text.ofNat number := by
  have solid : ∀ c ∈ "0123456789".toList, Text.isBlank c = false := Text.forall_eq_false_of_any (by decide)
  have isDigit : ∀ c ∈ Text.ofNat number, c ∈ "0123456789".toList := fun c member =>
    Text.mem_of_isDigit (Decimal.isDigit_of_mem_ofNat member)
  exact cellText_eq_self (fun c member => solid c (isDigit c member))
    fun member => absurd (isDigit '|' member) (by decide)

/-- A written cell has no line feed, if its text has none. -/
theorem noFeed_cellText {text : Text} (noFeed : '\n' ∉ text) : '\n' ∉ cellText text := by
  intro member
  obtain ⟨c, inText, escaped⟩ := List.mem_flatMap.1 member
  unfold escapePipe at escaped
  split at escaped
  · exact absurd escaped (by decide)
  · rw [← List.mem_singleton.1 escaped] at inText
    exact noFeed_trim noFeed inText

end Cells

section Rows

/-- A row as it is written: a pipe, and behind it every cell between spaces and one more pipe. -/
def rowText (texts : List Text) : Text :=
  '|' :: texts.flatMap fun text => ' ' :: (cellText text ++ [' ', '|'])

/-- The line between the titles of a table and its rows, with as many dashes as a title and the spaces around
it are long. -/
def rulesText (titles : List Text) : Text :=
  '|' :: titles.flatMap fun title => List.replicate (title.length + 2) '-' ++ ['|']

/-- A table as it is written: its titles, the line below them, and its rows. -/
def tableTexts (titles : List Text) (rows : List (List Text)) : List Text :=
  rowText titles :: rulesText titles :: rows.map rowText

/-- Between the bare pipes of a row are the trimmed texts of its cells, each between spaces. -/
theorem cells_rowText (texts : List Text) :
    cells (rowText texts) = [] :: texts.map (fun text => ' ' :: Text.trim text ++ [' ']) ++ [[]] := by
  rw [rowText, cells_pipe_cons, List.cons_append]
  congr 1
  induction texts with
  | nil => rfl
  | cons text texts inductionHypothesis =>
    rw [List.flatMap_cons, List.cons_append, List.append_assoc, List.cons_append, List.singleton_append,
      cells_cellText_append, inductionHypothesis]
    rfl

/-- A row has one bare pipe more than it has cells. -/
theorem barePipes_rowText (texts : List Text) : barePipes false (rowText texts) = texts.length + 1 := by
  have parts := length_cells (rowText texts)
  rw [cells_rowText] at parts
  simpa using parts.symm

/-- A row has no line feed, if its cells have none. -/
theorem noFeed_rowText {texts : List Text} (noFeed : ∀ text ∈ texts, '\n' ∉ text) : '\n' ∉ rowText texts := by
  intro member
  obtain same | inCells := List.mem_cons.1 member
  · exact absurd same (by decide)
  · obtain ⟨text, isCell, inside⟩ := List.mem_flatMap.1 inCells
    simp [noFeed_cellText (noFeed text isCell)] at inside

/-- A row with four bare pipes, and between these the trimmed texts of its cells, each between spaces. -/
structure HasCells (row : Text) (texts : List Text) : Prop where
  bare : barePipes false row = 4
  read : cells row = [] :: texts.map (fun text => ' ' :: Text.trim text ++ [' ']) ++ [[]]

/-- A written row of three cells has these cells. -/
theorem hasCells_rowText (first second third : Text) :
    HasCells (rowText [first, second, third]) [first, second, third] :=
  ⟨barePipes_rowText _, cells_rowText _⟩

end Rows

end ProseTree.Output.Markdown
