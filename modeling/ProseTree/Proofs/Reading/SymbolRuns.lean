import ProseTree.Proofs.Language.BuiltIn
import ProseTree.Proofs.Reading.Forwarding

/-!
# Runs of symbols

The scan of a token is given here step by step. `ScanStep` says what one step takes from the start of a
text, and `Scans` what several steps take one after another, whether or not they come to the end of the
text. An ellipsis is never empty, so every step leaves less of the text than there was.

Where an ellipsis is taken, its characters are gone. An ellipsis that overlaps itself may therefore
start at places where none is taken, and it may hold characters that could not be kept one by one; but
where it starts, one that is taken covers the place.
-/

namespace ProseTree.Reading

open ProseTree.Language (Configuration Grammar)
open ProseTree.Tree (Symbol)

variable {grammar : Grammar} {text rest : Text} {piece : RunPiece} {pieces : List RunPiece}

/-- One step of the scan takes a piece from the start of a text and leaves the rest: the ellipsis if the
text starts with it, else one character. -/
inductive ScanStep (grammar : Grammar) : Text → RunPiece → Text → Prop
  | ellipsis (rest : Text) :
      ScanStep grammar (grammar.ellipsis ++ rest) (.kept (.ellipsis grammar.ellipsis)) rest
  | kept {c : Char} {rest : Text} (startsElse : ¬ grammar.ellipsis <+: c :: rest)
      (symbolChar : grammar.isSymbolChar c = true) : ScanStep grammar (c :: rest) (.kept (.char c)) rest
  | dropped {c : Char} {rest : Text} (startsElse : ¬ grammar.ellipsis <+: c :: rest)
      (noSymbol : grammar.isSymbolChar c = false) : ScanStep grammar (c :: rest) (.dropped c) rest

/-- Steps of the scan one after another, with the pieces that they take from a text and the rest that
they leave. -/
inductive Scans (grammar : Grammar) : Text → List RunPiece → Text → Prop
  | refl {text : Text} : Scans grammar text [] text
  | step {text middle rest : Text} {piece : RunPiece} {pieces : List RunPiece}
      (first : ScanStep grammar text piece middle) (others : Scans grammar middle pieces rest) :
      Scans grammar text (piece :: pieces) rest

/-- An ellipsis that was kept covers a place of the text that the pieces spell. -/
def EllipsisCovers (grammar : Grammar) (pieces : List RunPiece) (place : Nat) : Prop :=
  ∃ before after, pieces = before ++ .kept (.ellipsis grammar.ellipsis) :: after ∧
    (before.flatMap RunPiece.text).length ≤ place ∧
      place < (before.flatMap RunPiece.text).length + grammar.ellipsis.length

section Steps

/-- A step takes the first of the pieces of a text. -/
theorem ScanStep.runPieces_eq (step : ScanStep grammar text piece rest) :
    runPieces grammar text = piece :: runPieces grammar rest := by
  cases step with
  | ellipsis => exact runPieces_ellipsis_append grammar rest
  | kept startsElse symbolChar => rw [runPieces_cons startsElse, if_pos symbolChar]
  | dropped startsElse noSymbol => rw [runPieces_cons startsElse, noSymbol, if_neg Bool.false_ne_true]

/-- A step leaves a shorter text. -/
theorem ScanStep.length_lt (step : ScanStep grammar text piece rest) : rest.length < text.length := by
  cases step with
  | ellipsis =>
    have positive := List.length_pos_iff.2 grammar.ellipsis_ne_nil
    rw [List.length_append]
    omega
  | kept | dropped => exact Nat.lt_succ_self _

/-- Steps take the first pieces of a text. -/
theorem Scans.runPieces_eq (scans : Scans grammar text pieces rest) :
    runPieces grammar text = pieces ++ runPieces grammar rest := by
  induction scans with
  | refl => rfl
  | step first others inductionHypothesis =>
    rw [first.runPieces_eq, inductionHypothesis, List.cons_append]

/-- There are no more steps than characters that they take. -/
theorem Scans.length_add_le (scans : Scans grammar text pieces rest) :
    pieces.length + rest.length ≤ text.length := by
  induction scans with
  | refl => simp
  | step first others inductionHypothesis =>
    have shorter := first.length_lt
    rw [List.length_cons]
    omega

/-- Steps that come to the end of a text take its pieces. -/
theorem Scans.eq_runPieces (scans : Scans grammar text pieces []) : pieces = runPieces grammar text := by
  rw [scans.runPieces_eq, runPieces, List.append_nil]

/-- The steps that take the pieces of a text come to its end. -/
theorem scans_runPieces (grammar : Grammar) (text : Text) :
    Scans grammar text (runPieces grammar text) [] := by
  fun_induction runPieces grammar text with
  | case1 => exact .refl
  | case2 c rest after found shorter inductionHypothesis =>
    rw [Text.dropBeginning?_eq_some_iff.1 found]
    exact .step (.ellipsis after) inductionHypothesis
  | case3 c rest missing inductionHypothesis =>
    have startsElse := Text.dropBeginning?_eq_none_iff.1 missing
    cases symbolChar : grammar.isSymbolChar c with
    | true => exact .step (.kept startsElse symbolChar) inductionHypothesis
    | false => exact .step (.dropped startsElse symbolChar) inductionHypothesis

end Steps

section Ellipses

variable {place : Nat}

/-- An ellipsis at the start covers the places of its characters. -/
theorem ellipsisCovers_cons (inside : place < grammar.ellipsis.length) :
    EllipsisCovers grammar (.kept (.ellipsis grammar.ellipsis) :: pieces) place :=
  ⟨[], pieces, rfl, Nat.zero_le _, by simpa using inside⟩

/-- Behind a piece, an ellipsis covers the places that are shifted by the length of the piece. -/
theorem EllipsisCovers.cons (covers : EllipsisCovers grammar pieces place) (piece : RunPiece) :
    EllipsisCovers grammar (piece :: pieces) (piece.text.length + place) := by
  obtain ⟨before, after, rfl, starts, ends⟩ := covers
  refine ⟨piece :: before, after, rfl, ?_, ?_⟩ <;>
  · rw [List.flatMap_cons, List.length_append]
    omega

/-- An ellipsis that stands in a text starts inside the one that a step takes, or it stands in what the
step leaves. -/
theorem ScanStep.ellipsis_or_rest (step : ScanStep grammar text piece rest) {before after : Text}
    (occurs : text = before ++ (grammar.ellipsis ++ after)) :
    (piece = .kept (.ellipsis grammar.ellipsis) ∧ before.length < grammar.ellipsis.length) ∨
      ∃ between, before = piece.text ++ between ∧ rest = between ++ (grammar.ellipsis ++ after) := by
  cases step with
  | ellipsis =>
    by_cases inside : before.length < grammar.ellipsis.length
    · exact .inl ⟨rfl, inside⟩
    · obtain ⟨between, rfl⟩ : grammar.ellipsis <+: before :=
        List.prefix_of_prefix_length_le (List.prefix_append _ rest) ⟨_, occurs.symm⟩ (Nat.not_lt.1 inside)
      rw [List.append_assoc] at occurs
      exact .inr ⟨between, rfl, List.append_cancel_left occurs⟩
  | kept startsElse | dropped startsElse =>
    cases before with
    | nil => exact absurd ⟨after, occurs.symm⟩ startsElse
    | cons d between =>
      obtain ⟨rfl, left⟩ := List.cons.inj occurs
      exact .inr ⟨between, rfl, left⟩

/-- Where an ellipsis stands in a scanned text, one that is kept covers the place. -/
theorem Scans.ellipsisCovers (scans : Scans grammar text pieces []) {before after : Text}
    (occurs : text = before ++ (grammar.ellipsis ++ after)) :
    EllipsisCovers grammar pieces before.length := by
  generalize ended : ([] : Text) = rest at scans
  induction scans generalizing before with
  | refl =>
    subst ended
    simp [grammar.ellipsis_ne_nil] at occurs
  | @step text middle rest piece pieces first others inductionHypothesis =>
    obtain ⟨rfl, inside⟩ | ⟨between, rfl, left⟩ := first.ellipsis_or_rest occurs
    · exact ellipsisCovers_cons inside
    · rw [List.length_append]
      exact (inductionHypothesis left ended).cons piece

end Ellipses

section Tokens

variable {token : Text}

/-- What is dropped of a text are characters that cannot be symbols. -/
theorem isSymbolChar_of_mem_droppedChars {c : Char}
    (member : c ∈ droppedChars (runPieces grammar text)) : grammar.isSymbolChar c = false := by
  obtain ⟨piece, inRun, dropped⟩ := List.mem_filterMap.1 member
  have classified := runPieces_classified text piece inRun
  cases piece with
  | kept symbol => cases dropped
  | dropped other =>
    cases dropped
    exact classified

/-- A token is taken apart into pieces by its scan: the scan ends with these pieces after at most one step
a character, and has taken the first of them wherever it stands before its end; the pieces spell the
token; what is dropped cannot be a symbol, and what is kept is the ellipsis or a character that can be
one; and where the ellipsis stands in the token, one that is kept whole covers the place. -/
structure TakenApart (grammar : Grammar) (token : Text) (pieces : List RunPiece) : Prop where
  ends : Scans grammar token pieces []
  underWay : ∀ taken rest, Scans grammar token taken rest → taken <+: pieces
  bounded : pieces.length ≤ token.length
  spelled : pieces.flatMap RunPiece.text = token
  dropped : ∀ c ∈ droppedChars pieces, grammar.isSymbolChar c = false
  kept : ∀ symbol ∈ keptSymbols pieces,
    symbol = .ellipsis grammar.ellipsis ∨ ∃ c, symbol = .char c ∧ grammar.isSymbolChar c = true
  covered : ∀ before after, token = before ++ (grammar.ellipsis ++ after) →
    EllipsisCovers grammar pieces before.length

/-- Every token is taken apart into its pieces. -/
theorem takenApart_runPieces (grammar : Grammar) (token : Text) :
    TakenApart grammar token (runPieces grammar token) where
  ends := scans_runPieces grammar token
  underWay := fun taken rest scans => ⟨runPieces grammar rest, scans.runPieces_eq.symm⟩
  bounded := (scans_runPieces grammar token).length_add_le
  spelled := flatMap_text_runPieces token
  dropped := fun c member => isSymbolChar_of_mem_droppedChars member
  kept := by
    intro symbol member
    have belongs := belongsTo_of_mem_keptSymbols member
    cases symbol with
    | ellipsis own =>
      cases belongs
      exact .inl rfl
    | char c => exact .inr ⟨c, rfl, belongs⟩
  covered := fun before after occurs => (scans_runPieces grammar token).ellipsisCovers occurs

/-- A token that is one symbol is the ellipsis or a single character. -/
theorem eq_ellipsis_or_length_of_runPieces {symbol : Symbol}
    (single : runPieces grammar token = [.kept symbol]) : token = grammar.ellipsis ∨ token.length = 1 := by
  have spelled : (runPieces grammar token).flatMap RunPiece.text = token := flatMap_text_runPieces token
  have isKept : symbol ∈ keptSymbols (runPieces grammar token) := by simp [single, keptSymbols]
  have belongs := belongsTo_of_mem_keptSymbols isKept
  rw [single, List.flatMap_singleton] at spelled
  cases symbol with
  | ellipsis own =>
    cases belongs
    exact .inl spelled.symm
  | char c => exact .inr (congrArg List.length spelled.symm)

/-- The symbol stage hands on a text of which nothing is kept. -/
theorem forwards_symbolStage_of_keptSymbols (nothing : keptSymbols (runPieces grammar token) = []) :
    (symbolStage grammar).Forwards token :=
  forwards_symbolStage fun recognized => keptSymbols_eq_nil_iff.1 nothing recognized.2

/-- The symbol stage makes a lexeme of what is kept of a token of several characters, and leaves a gap for
each character that is dropped. -/
theorem takes_symbolStage_of_keptSymbols (solid : token.IsSolid) (several : 2 ≤ token.length)
    (noEllipsis : token ≠ grammar.ellipsis) (something : keptSymbols (runPieces grammar token) ≠ []) :
    (symbolStage grammar).Takes token
      ⟨some (.lexeme token ((keptSymbols (runPieces grammar token)).map .symbol)),
        (droppedChars (runPieces grammar token)).map droppedGap⟩ := by
  intro next
  obtain ⟨outcome, found⟩ := Option.ne_none_iff_exists'.1 fun missing =>
    something (keptSymbols_of_symbolOutcome? missing)
  simp only [symbolStage, isToken_of_isSolid solid, if_true, found]
  obtain ⟨symbol, single, -⟩ | ⟨-, rfl⟩ := symbolOutcome?_eq_some found
  · obtain isEllipsis | isOne := eq_ellipsis_or_length_of_runPieces single
    · exact absurd isEllipsis noEllipsis
    · omega
  · rfl

/-- The symbol stage scans every token of at least two characters other than the ellipsis. The scan ends
after at most one step a character and takes the token apart into kept symbols and dropped characters;
the stage makes a lexeme of the symbols with a gap for each dropped character, or hands the token on
without any gap where no symbol is kept. -/
theorem symbolStage_scans_token (grammar : Grammar) {token : Text} (solid : token.IsSolid)
    (several : 2 ≤ token.length) (noEllipsis : token ≠ grammar.ellipsis) :
    ∃ pieces, TakenApart grammar token pieces ∧
      (keptSymbols pieces = [] → (symbolStage grammar).Forwards token) ∧
      (keptSymbols pieces ≠ [] → (symbolStage grammar).Takes token
        ⟨some (.lexeme token ((keptSymbols pieces).map .symbol)), (droppedChars pieces).map droppedGap⟩) :=
  ⟨runPieces grammar token, takenApart_runPieces grammar token, forwards_symbolStage_of_keptSymbols,
    takes_symbolStage_of_keptSymbols solid several noEllipsis⟩

/-- English with an ellipsis that overlaps itself and is not made of symbols only. -/
def overlappingEllipsis : Configuration :=
  { Configuration.english with
    sentence := { Configuration.english.sentence with ellipsis := "§.§" } }

/-- Two ellipses that overlap in a token: the first one is kept whole, and of the second one the character
that cannot be a symbol is dropped where it stands by itself. -/
theorem symbolStage_scans_token_overlapping :
    ∃ grammar pieces, Grammar.ofConfiguration overlappingEllipsis = .ok grammar ∧
      Text.IsSolid "a§.§.§b" ∧ 2 ≤ "a§.§.§b".toList.length ∧ "a§.§.§b".toList ≠ grammar.ellipsis ∧
      TakenApart grammar "a§.§.§b" pieces ∧
      pieces = [.kept (.char 'a'), .kept (.ellipsis "§.§"), .kept (.char '.'), .dropped '§',
        .kept (.char 'b')] ∧
      (symbolStage grammar).Takes "a§.§.§b"
        ⟨some (.lexeme "a§.§.§b" [.symbol (.char 'a'), .symbol (.ellipsis "§.§"), .symbol (.char '.'),
          .symbol (.char 'b')]), [droppedGap '§']⟩ := by
  obtain ⟨grammar, accepted⟩ : ∃ grammar, Grammar.ofConfiguration overlappingEllipsis = .ok grammar :=
    ⟨_, rfl⟩
  have computed : Grammar.ofConfiguration overlappingEllipsis = .ok _ := rfl
  have explicit := Except.ok.inj (accepted.symm.trans computed)
  have solid : Text.IsSolid "a§.§.§b" := ⟨by decide, Text.forall_eq_false_of_any rfl⟩
  have isEllipsis : grammar.ellipsis = "§.§" := (Grammar.follows_of_ofConfiguration accepted).ellipsis
  have noEllipsis : "a§.§.§b".toList ≠ grammar.ellipsis := by
    rw [isEllipsis]
    decide
  have symbols : ∀ c ∈ "a.b".toList, grammar.isSymbolChar c = true := by
    rw [explicit]
    exact List.all_eq_true.1 rfl
  have noSymbol : grammar.isSymbolChar '§' = false := by
    rw [explicit]
    rfl
  have whole : ScanStep grammar "§.§.§b" (.kept (.ellipsis "§.§")) ".§b" := by
    have step : ScanStep grammar (grammar.ellipsis ++ ".§b") _ _ := .ellipsis ".§b"
    rwa [isEllipsis] at step
  have startsElse : ∀ text ∈ ["a§.§.§b".toList, ".§b".toList, "§b".toList, "b".toList],
      ¬ grammar.ellipsis <+: text := by
    rw [isEllipsis]
    decide
  have scans : Scans grammar "a§.§.§b" [.kept (.char 'a'), .kept (.ellipsis "§.§"), .kept (.char '.'),
      .dropped '§', .kept (.char 'b')] [] :=
    .step (.kept (startsElse "a§.§.§b" (by decide)) (symbols 'a' (by decide))) <| .step whole <|
      .step (.kept (startsElse ".§b" (by decide)) (symbols '.' (by decide))) <|
      .step (.dropped (startsElse "§b" (by decide)) noSymbol) <|
      .step (.kept (startsElse "b" (by decide)) (symbols 'b' (by decide))) .refl
  obtain ⟨pieces, takenApart, -, takes⟩ :=
    symbolStage_scans_token grammar solid (by decide) noEllipsis
  have same := takenApart.ends.eq_runPieces.trans scans.eq_runPieces.symm
  subst same
  exact ⟨grammar, _, accepted, solid, by decide, noEllipsis, takenApart, rfl, takes (by simp [keptSymbols])⟩

end Tokens

end ProseTree.Reading
