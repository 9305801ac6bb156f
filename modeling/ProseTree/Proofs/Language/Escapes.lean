import ProseTree.Language.CharSetSyntax
import ProseTree.Proofs.Text.Cutting

/-!
# How much of a text an escape takes

A single character, an escape and a named class are read from the start of a text. What stands behind their
last character does not matter to any of them. An escape of a single character means the same in a plain body
as in any other.
-/

namespace ProseTree

/-- What a class takes from the start, the first character outside of the class, and the rest. -/
theorem Text.exists_of_drop_takeWhile {α : Type} {inClass : α → Bool} {text : List α} {d : α}
    {rest : List α} (stopped : text.drop (text.takeWhile inClass).length = d :: rest) :
    text = text.takeWhile inClass ++ d :: rest ∧
      ∀ more, (text.takeWhile inClass ++ d :: more).takeWhile inClass = text.takeWhile inClass := by
  have cut : text.drop (text.takeWhile inClass).length = text.dropWhile inClass := calc
    _ = (text.takeWhile inClass ++ text.dropWhile inClass).drop (text.takeWhile inClass).length := by
      rw [List.takeWhile_append_dropWhile]
    _ = _ := List.drop_left
  rw [cut] at stopped
  have outside := List.head?_dropWhile_not inClass text
  rw [stopped] at outside
  refine ⟨by rw [← stopped, List.takeWhile_append_dropWhile], fun more => ?_⟩
  refine takeWhile_append_of_ended (fun c member => List.all_eq_true.1 List.all_takeWhile c member) ?_
  rintro c ⟨⟩
  simpa using outside

namespace Language

/-- What is read from the start of a text takes some of its characters, and is read from these whatever stands
behind them. -/
def TakesStart {α : Type} (read : Text → Option (α × Text)) (text : Text) (result : α) (after : Text) : Prop :=
  ∃ taken, taken ≠ [] ∧ text = taken ++ after ∧ ∀ more, read (taken ++ more) = some (result, more)

namespace TakesStart

variable {α β : Type} {read whole : Text → Option (α × Text)} {text after : Text} {result : α} {first : Char}

/-- What one character means takes this character. -/
theorem single (means : ∀ rest, read (first :: rest) = some (result, rest)) :
    TakesStart read (first :: after) result after :=
  ⟨[first], List.cons_ne_nil _ _, rfl, means⟩

/-- A reading behind a character takes this character too. -/
theorem cons (takes : TakesStart read text result after)
    (same : ∀ rest, whole (first :: rest) = read rest) : TakesStart whole (first :: text) result after := by
  obtain ⟨taken, -, rfl, again⟩ := takes
  exact ⟨first :: taken, List.cons_ne_nil _ _, rfl, fun more => (same _).trans (again more)⟩

/-- A reading takes the same where its result is changed. -/
theorem map (takes : TakesStart read text result after) (change : α → β) :
    TakesStart (fun text => (read text).map fun (result, rest) => (change result, rest)) text
      (change result) after := by
  obtain ⟨taken, nonempty, rfl, again⟩ := takes
  refine ⟨taken, nonempty, rfl, fun more => ?_⟩
  dsimp only
  rw [again more, Option.map_some]

end TakesStart

namespace CharClass

/-- As many digits as there have to be are read by themselves. -/
theorem hexadecimal?_append {digits : Text} (nonempty : digits ≠ [])
    (noBrace : digits.head? ≠ some '\x7b') (more : Text) :
    hexadecimal? digits.length (digits ++ more) = (Text.scalarOfHex? digits).map (·, more) := by
  unfold hexadecimal?
  split
  · rename_i braced starts
    obtain ⟨d, digits, rfl⟩ := List.exists_cons_of_ne_nil nonempty
    obtain ⟨rfl, -⟩ := List.cons.inj starts
    exact absurd rfl noBrace
  · have enough : ¬ (digits ++ more).length < digits.length := by
      rw [List.length_append]
      omega
    rw [if_neg enough, List.take_left, List.drop_left]

/-- A character that is written with digits takes these only. -/
theorem takesStart_hexadecimal? {count : Nat} (positive : 0 < count) {text after : Text} {c : Char}
    (read : hexadecimal? count text = some (c, after)) : TakesStart (hexadecimal? count) text c after := by
  unfold hexadecimal? at read
  split at read
  · rename_i braced
    dsimp only at read
    split at read
    · rename_i closing rest stopped
      split at read
      · cases read
      · rename_i nonempty
        obtain ⟨c, value, whole⟩ := Option.map_eq_some_iff.1 read
        cases whole
        obtain ⟨cut, again⟩ := Text.exists_of_drop_takeWhile stopped
        generalize braced.takeWhile (· != '\x7d') = digits at *
        refine ⟨'\x7b' :: (digits ++ [closing]), by simp, by simp [cut], fun more => ?_⟩
        have same := again more
        simp [hexadecimal?, same, nonempty, value]
    · cases read
  · rename_i noBrace
    split at read
    · cases read
    · rename_i enough
      obtain ⟨c, value, whole⟩ := Option.map_eq_some_iff.1 read
      cases whole
      have length : (text.take count).length = count :=
        List.length_take_of_le (Nat.not_lt.1 enough)
      have cut := List.take_append_drop count text
      generalize text.take count = digits at *
      have nonempty : digits ≠ [] := List.ne_nil_of_length_pos (length ▸ positive)
      have startsElse : digits.head? ≠ some '\x7b' := by
        intro starts
        obtain ⟨braced, rfl⟩ := List.head?_eq_some_iff.1 starts
        exact (noBrace _ cut.symm).elim
      refine ⟨digits, nonempty, cut.symm, fun more => ?_⟩
      rw [← length, hexadecimal?_append nonempty startsElse, value, Option.map_some]

/-- An escape of a character takes the characters that spell it. -/
theorem takesStart_escape? {text after : Text} {c : Char} (read : escape? text = some (c, after)) :
    TakesStart escape? text c after := by
  unfold escape? at read
  split at read
  · cases read
  · exact (takesStart_hexadecimal? (by decide) read).cons fun _ => rfl
  · exact (takesStart_hexadecimal? (by decide) read).cons fun _ => rfl
  · exact (takesStart_hexadecimal? (by decide) read).cons fun _ => rfl
  · rename_i mark rest noX noSmall noLarge
    obtain ⟨char, means, whole⟩ := Option.map_eq_some_iff.1 read
    cases whole
    refine .single fun more => ?_
    rw [escape?, means, Option.map_some]
    · exact fun same => noX same
    · exact fun same => noSmall same
    · exact fun same => noLarge same

example : ofBody? "\\x41-\\u005a" = some ⟨false, [⟨'A', 'Z'⟩]⟩ := by decide

end CharClass

namespace Escape

variable {tables : ClassTables}

/-- The name of a property takes its characters and the braces around them. -/
theorem takesStart_property? {text after : Text} {list : List CharRange}
    (read : property? text = some (list, after)) : TakesStart property? text list after := by
  unfold property? at read
  split at read
  · rename_i braced
    dsimp only at read
    split at read
    · rename_i closing rest stopped
      obtain ⟨ranges, known, whole⟩ := Option.map_eq_some_iff.1 read
      cases whole
      obtain ⟨cut, again⟩ := Text.exists_of_drop_takeWhile stopped
      generalize braced.takeWhile (· != '\x7d') = name at *
      refine ⟨'\x7b' :: (name ++ [closing]), by simp, by simp [cut], fun more => ?_⟩
      have same := again more
      simp [property?, same, known]
    · cases read
  · cases read
  · cases read
  · rename_i c rest noBrace noBackslash
    obtain ⟨ranges, known, whole⟩ := Option.map_eq_some_iff.1 read
    cases whole
    refine .single fun more => ?_
    rw [property?, known, Option.map_some]
    · exact fun same => noBrace same
    · exact fun same => noBackslash same

/-- An escape of a single character is read as this character. -/
theorem read?_of_escape? {text rest : Text} {c : Char} (means : CharClass.escape? text = some (c, rest)) :
    read? text = some (.char c, rest) := by
  unfold read?
  split
  case h_11 => rw [means, Option.map_some]
  all_goals cases means

/-- An escape takes the characters that spell it. -/
theorem takesStart_read? {text after : Text} {escape : Escape} (read : read? text = some (escape, after)) :
    TakesStart read? text escape after := by
  unfold read? at read
  split at read
  case h_5 | h_6 =>
    obtain ⟨list, known, whole⟩ := Option.map_eq_some_iff.1 read
    cases whole
    exact .single fun more => by rw [read?, known, Option.map_some]
  case h_7 =>
    obtain ⟨⟨list, rest⟩, named, whole⟩ := Option.map_eq_some_iff.1 read
    cases whole
    exact ((takesStart_property? named).map fun list => set (.ranges list)).cons fun _ => rfl
  case h_8 =>
    obtain ⟨⟨list, rest⟩, named, whole⟩ := Option.map_eq_some_iff.1 read
    cases whole
    exact ((takesStart_property? named).map fun list => set (.negated (.ranges list))).cons fun _ => rfl
  case h_11 =>
    obtain ⟨⟨c, rest⟩, means, whole⟩ := Option.map_eq_some_iff.1 read
    cases whole
    obtain ⟨taken, nonempty, rfl, again⟩ := CharClass.takesStart_escape? means
    exact ⟨taken, nonempty, rfl, fun more => read?_of_escape? (again more)⟩
  all_goals
    cases read
    exact .single fun more => rfl

end Escape

end Language

end ProseTree
