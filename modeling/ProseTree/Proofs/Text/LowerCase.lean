import ProseTree.Text.Case

/-!
# Lower case keeps to the line

No character is lowered to a line feed, and so a text without line feeds has none in lower case.
-/

namespace ProseTree.Text

/-- No run of the lower case has an image among the control characters. -/
theorem lt_image_lowercaseRuns : ∀ run ∈ lowercaseRuns, 32 < run.image := by
  decide +kernel

/-- The code point of a character is the number that it was made from, or none was made from it. -/
theorem toNat_ofNat_or (point : Nat) :
    (Char.ofNat point).toNat = point ∨ (Char.ofNat point).toNat = 0 := by
  rw [Char.ofNat]
  by_cases valid : point.isValidChar
  · rw [dif_pos valid]
    exact .inl rfl
  · rw [dif_neg valid]
    exact .inr rfl

/-- No lower case of a character is a line feed, unless this is the character itself. -/
theorem noFeed_lowerChar {c : Char} (other : c ≠ '\n') : '\n' ∉ lowerChar c := by
  unfold lowerChar
  split
  · decide
  · split
    · rename_i image found
      obtain ⟨run, isRun, mapped⟩ := List.exists_of_findSome?_eq_some found
      have large : 32 < image := by
        have first := lt_image_lowercaseRuns run isRun
        unfold CaseRun.image? at mapped
        split at mapped
        · cases mapped
          omega
        · cases mapped
      intro member
      have point := toNat_ofNat_or image
      rw [← List.mem_singleton.1 member] at point
      have feed : '\n'.toNat = 10 := rfl
      omega
    · rw [List.mem_singleton]
      exact fun same => other same.symm

/-- The lower case of a text without line feeds has none. -/
theorem noFeed_toLower {text : Text} (noFeed : '\n' ∉ text) : '\n' ∉ toLower text := by
  have after : ∀ before, '\n' ∉ lowerAfter before text := by
    induction text with
    | nil => simp [lowerAfter]
    | cons c rest inductionHypothesis =>
      rw [List.mem_cons, not_or] at noFeed
      intro before
      rw [lowerAfter, List.mem_append, not_or]
      refine ⟨?_, inductionHypothesis noFeed.2 _⟩
      split
      · unfold lowerSigma
        split <;> decide
      · exact noFeed_lowerChar (Ne.symm noFeed.1)
  exact after []

end ProseTree.Text
