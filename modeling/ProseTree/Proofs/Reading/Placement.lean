import ProseTree.Reading.Standard

/-!
# Candidates and their places

All outer stages do the same with their candidates: each is read by the rest of the chain and placed,
which gives nodes and gaps, and these are listed in the order of the candidates. `Placed` says so
without running a chain. Whatever holds of every single placement is carried to all candidates by
one induction.
-/

namespace ProseTree.Reading

open ProseTree.Tree (Node)

/-- The nodes and gaps of candidates that are read and placed one by one. -/
inductive Placed (read : Text → Except ParseError Outcome)
    (place : Text → Outcome → List Node × List Gap) : List Text → List Node → List Gap → Prop
  | nil : Placed read place [] [] []
  | cons {candidate : Text} {candidates : List Text} {outcome : Outcome} {nodes : List Node}
      {gaps : List Gap} (known : read candidate = .ok outcome)
      (others : Placed read place candidates nodes gaps) :
      Placed read place (candidate :: candidates) ((place candidate outcome).1 ++ nodes)
        ((place candidate outcome).2 ++ gaps)

variable {read : Text → Except ParseError Outcome} {place : Text → Outcome → List Node × List Gap}
  {candidates : List Text} {nodes : List Node} {gaps : List Gap}

/-- Collecting the placements of candidates gives exactly what is placed. -/
theorem collect_eq_ok_iff :
    collect (fun candidate => (read candidate).map (place candidate)) candidates = .ok (nodes, gaps) ↔
      Placed read place candidates nodes gaps := by
  constructor
  · intro collected
    induction candidates generalizing nodes gaps with
    | nil =>
      cases collected
      exact .nil
    | cons candidate candidates inductionHypothesis =>
      rw [collect] at collected
      cases known : read candidate with
      | error cause =>
        rw [known] at collected
        cases collected
      | ok outcome =>
        simp only [known, Except.map] at collected
        cases rest : collect (fun candidate => (read candidate).map (place candidate)) candidates with
        | error cause =>
          simp only [Except.map] at rest
          rw [rest] at collected
          cases collected
        | ok others =>
          have placed := inductionHypothesis rest
          simp only [Except.map] at rest
          rw [rest] at collected
          cases collected
          exact .cons known placed
  · intro placed
    induction placed with
    | nil => rfl
    | cons known others inductionHypothesis =>
      simp only [collect, known, Except.map]
      simp only [Except.map] at inductionHypothesis
      rw [inductionHypothesis]

/-- What is placed for a sentence candidate is the sentence that came back. -/
theorem exists_of_mem_placeSentence {candidate : Text} {outcome : Outcome} {node : Node}
    (member : node ∈ (placeSentence candidate outcome).1) :
    ∃ children gaps, node = .sentence children ∧ outcome = ⟨some (.sentence children), gaps⟩ := by
  obtain ⟨back, gaps⟩ := outcome
  unfold placeSentence at member
  split at member
  · rename_i children found
    cases found
    exact ⟨children, gaps, List.mem_singleton.1 member, rfl⟩
  · cases member

/-- What is placed for a paragraph candidate is the paragraph that came back. -/
theorem exists_of_mem_placeParagraph {candidate : Text} {outcome : Outcome} {node : Node}
    (member : node ∈ (placeParagraph candidate outcome).1) :
    ∃ children gaps, node = .paragraph children ∧ outcome = ⟨some (.paragraph children), gaps⟩ := by
  obtain ⟨back, gaps⟩ := outcome
  unfold placeParagraph at member
  split at member
  · rename_i children found
    cases found
    exact ⟨children, gaps, List.mem_singleton.1 member, rfl⟩
  · split at member <;> cases member

namespace Placed

/-- Candidates that can all be read can be placed. -/
theorem exists_of_read (place : Text → Outcome → List Node × List Gap) (candidates : List Text)
    (readable : ∀ candidate ∈ candidates, ∃ outcome, read candidate = .ok outcome) :
    ∃ nodes gaps, Placed read place candidates nodes gaps := by
  induction candidates with
  | nil => exact ⟨[], [], .nil⟩
  | cons candidate candidates inductionHypothesis =>
    obtain ⟨⟨outcome, known⟩, others⟩ := List.forall_mem_cons.1 readable
    obtain ⟨nodes, gaps, placed⟩ := inductionHypothesis others
    exact ⟨_, _, .cons known placed⟩

/-- A gap that is left when a candidate is placed is left of all candidates. -/
theorem mem_gaps {candidate : Text} {outcome : Outcome} {gap : Gap}
    (placed : Placed read place candidates nodes gaps) (member : candidate ∈ candidates)
    (known : read candidate = .ok outcome) (left : gap ∈ (place candidate outcome).2) : gap ∈ gaps := by
  induction placed with
  | nil => cases member
  | cons first others inductionHypothesis =>
    rw [List.mem_append]
    obtain rfl | behind := List.mem_cons.1 member
    · rw [known] at first
      cases first
      exact .inl left
    · exact .inr (inductionHypothesis behind)

/-- What holds of the nodes of every placement holds of all nodes. -/
theorem forall_nodes {holds : Node → Prop}
    (single : ∀ candidate ∈ candidates, ∀ outcome, read candidate = .ok outcome →
      ∀ node ∈ (place candidate outcome).1, holds node)
    (placed : Placed read place candidates nodes gaps) : ∀ node ∈ nodes, holds node := by
  induction placed with
  | nil => simp
  | cons known others inductionHypothesis =>
    obtain ⟨first, rest⟩ := List.forall_mem_cons.1 single
    intro node member
    obtain here | there := List.mem_append.1 member
    · exact first _ known node here
    · exact inductionHypothesis rest node there

/-- Where no gap is left of all candidates, none is left of a single one. -/
theorem leaves_none {candidate : Text} {outcome : Outcome} (placed : Placed read place candidates nodes gaps)
    (clean : gaps = []) (member : candidate ∈ candidates) (known : read candidate = .ok outcome) :
    (place candidate outcome).2 = [] := by
  rw [List.eq_nil_iff_forall_not_mem]
  intro gap left
  have inGaps := placed.mem_gaps member known left
  rw [clean] at inGaps
  cases inGaps

/-- Without gaps, what holds of the nodes of every placement that leaves none holds of all nodes. -/
theorem forall_of_clean {holds : Node → Prop}
    (single : ∀ candidate ∈ candidates, ∀ outcome, read candidate = .ok outcome →
      (place candidate outcome).2 = [] → ∀ node ∈ (place candidate outcome).1, holds node)
    (placed : Placed read place candidates nodes gaps) (clean : gaps = []) :
    ∀ node ∈ nodes, holds node :=
  placed.forall_nodes fun candidate member outcome known =>
    single candidate member outcome known (placed.leaves_none clean member known)

/-- Without gaps, nodes that spell their candidates one by one spell all of them. -/
theorem map_of_clean {spell : Node → Text}
    (single : ∀ candidate ∈ candidates, ∀ outcome, read candidate = .ok outcome →
      (place candidate outcome).2 = [] → (place candidate outcome).1.map spell = [candidate])
    (placed : Placed read place candidates nodes gaps) (clean : gaps = []) :
    nodes.map spell = candidates := by
  induction placed with
  | nil => rfl
  | cons known others inductionHypothesis =>
    obtain ⟨here, behind⟩ := List.append_eq_nil_iff.1 clean
    obtain ⟨first, rest⟩ := List.forall_mem_cons.1 single
    rw [List.map_append, first _ known here, inductionHypothesis rest behind]
    rfl

/-- Nodes that stand for their candidates stand for candidates in order. -/
theorem map_sublist {spell : Node → Text}
    (single : ∀ candidate ∈ candidates, ∀ outcome, read candidate = .ok outcome →
      ((place candidate outcome).1.map spell).Sublist [candidate])
    (placed : Placed read place candidates nodes gaps) : (nodes.map spell).Sublist candidates := by
  induction placed with
  | nil => exact .slnil
  | cons known others inductionHypothesis =>
    obtain ⟨first, rest⟩ := List.forall_mem_cons.1 single
    rw [List.map_append]
    exact (first _ known).append (inductionHypothesis rest)

/-- What is read and placed from its text, item by item, is placed without gaps. -/
theorem of_map {α : Type} {items : List α} {text : α → Text} {node : α → Node}
    (each : ∀ item ∈ items, ∃ outcome, read (text item) = .ok outcome ∧
      place (text item) outcome = ([node item], [])) :
    Placed read place (items.map text) (items.map node) [] := by
  induction items with
  | nil => exact .nil
  | cons item items inductionHypothesis =>
    obtain ⟨⟨outcome, known, placed⟩, others⟩ := List.forall_mem_cons.1 each
    have both : Placed read place (text item :: items.map text) _ _ :=
      .cons known (inductionHypothesis others)
    rw [placed] at both
    exact both

/-- Nodes that are read and placed from their own texts are placed without gaps. -/
theorem of_forall (each : ∀ node ∈ nodes, ∃ outcome, read node.text = .ok outcome ∧
      place node.text outcome = ([node], [])) :
    Placed read place (nodes.map Node.text) nodes [] := by
  have placed := of_map each
  rwa [List.map_id'] at placed

end Placed

end ProseTree.Reading
