import ProseTree.Proofs.Arithmetic.Depth

/-!
# Which token lists have a value

Neither the conversion nor the evaluation knows whether an operand is due, and the depth of the stack
makes up for it only in part: a missing operand and an operand too many cancel out. A token list that
has a value is derived from the grammar of expressions exactly when no operand in it starts right
behind the end of another one. Between the two stands `Continues`, the alternation of operands and
operators together with the balance of parentheses, read from the left.
-/

namespace ProseTree.Arithmetic

/-- The three kinds of expression. -/
inductive Nonterminal where
  | sum
  | product
  | factor

/-- The token lists that the grammar derives: a sum is a product or adds a product to a sum, a product
is a factor or multiplies a product by a factor, and a factor is a number or a sum in parentheses. -/
inductive Derives : Nonterminal → List Token → Prop
  | product {tokens : List Token} (product : Derives .product tokens) : Derives .sum tokens
  | add {left right : List Token} {operator : Operator}
      (additive : operator = .add ∨ operator = .subtract) (sum : Derives .sum left)
      (product : Derives .product right) :
      Derives .sum (left ++ .operator [operator.symbol] :: right)
  | factor {tokens : List Token} (factor : Derives .factor tokens) : Derives .product tokens
  | multiply {left right : List Token} {operator : Operator}
      (multiplicative : operator = .multiply ∨ operator = .divide) (product : Derives .product left)
      (factor : Derives .factor right) :
      Derives .product (left ++ .operator [operator.symbol] :: right)
  | number (value : Float) : Derives .factor [.number value]
  | parenthesized {tokens : List Token} (sum : Derives .sum tokens) :
      Derives .factor (.opening :: (tokens ++ [.closing]))

namespace Token

/-- Whether an operand can start with the token. -/
def startsOperand : Token → Bool
  | number _ | opening => true
  | operator _ | closing => false

/-- Whether an operand can end with the token. -/
def endsOperand : Token → Bool
  | number _ | closing => true
  | operator _ | opening => false

/-- A token is followed by no operand that starts right behind an operand. -/
def Separates (left right : Token) : Prop :=
  left.endsOperand = true → right.startsOperand = false

end Token

/-- Token lists in which operands and operators alternate from a place where an operand is due or not,
and which close the given number of open parentheses. -/
inductive Continues : Bool → Nat → List Token → Prop
  | nil : Continues false 0 []
  | number {depth : Nat} {value : Float} {tokens : List Token}
      (others : Continues false depth tokens) : Continues true depth (.number value :: tokens)
  | operator {depth : Nat} {operator : Operator} {tokens : List Token}
      (others : Continues true depth tokens) :
      Continues false depth (.operator [operator.symbol] :: tokens)
  | opening {depth : Nat} {tokens : List Token} (others : Continues true (depth + 1) tokens) :
      Continues true depth (.opening :: tokens)
  | closing {depth : Nat} {tokens : List Token} (others : Continues false depth tokens) :
      Continues false (depth + 1) (.closing :: tokens)

/-- A derived token list continues where an operand is due, up to where none is. -/
theorem Derives.continues {kind : Nonterminal} {tokens : List Token} (derived : Derives kind tokens)
    {depth : Nat} {rest : List Token} (others : Continues false depth rest) :
    Continues true depth (tokens ++ rest) := by
  induction derived generalizing depth rest with
  | product _ inductionHypothesis => exact inductionHypothesis others
  | add _ _ _ sumHypothesis productHypothesis =>
    rw [List.append_assoc]
    exact sumHypothesis (.operator (productHypothesis others))
  | factor _ inductionHypothesis => exact inductionHypothesis others
  | multiply _ _ _ productHypothesis factorHypothesis =>
    rw [List.append_assoc]
    exact productHypothesis (.operator (factorHypothesis others))
  | number value => exact .number others
  | parenthesized _ inductionHypothesis =>
    have inside := inductionHypothesis (Continues.closing others)
    rw [List.cons_append, List.append_assoc]
    exact .opening inside

/-- Any operator and a factor behind a sum make a sum. -/
theorem Derives.append_factor {left right : List Token} (sum : Derives .sum left) (operator : Operator)
    (factor : Derives .factor right) :
    Derives .sum (left ++ .operator [operator.symbol] :: right) := by
  obtain additive | multiplicative :
      (operator = .add ∨ operator = .subtract) ∨ (operator = .multiply ∨ operator = .divide) := by
    cases operator <;> simp
  · exact .add additive sum (.factor factor)
  · cases sum with
    | product product => exact .product (.multiply multiplicative product factor)
    | add additive sum product =>
      -- The factor goes to the last product of the sum.
      rw [List.append_assoc, List.cons_append]
      exact .add additive sum (.multiply multiplicative product factor)

/-- The tokens read so far, where an operand is due or not: a factor makes them a sum, or they are one. -/
def ReadSoFar : Bool → List Token → Prop
  | true, tokens => ∀ {factor}, Derives .factor factor → Derives .sum (tokens ++ factor)
  | false, tokens => Derives .sum tokens

/-- The tokens read so far, those before each open parenthesis held apart, the innermost first. -/
def opened : List (List Token) → List Token → List Token
  | [], tokens => tokens
  | before :: outer, tokens => opened outer (before ++ .opening :: tokens)

/-- What is read so far and continues to the end is a sum. -/
theorem Continues.derives {due : Bool} {depth : Nat} {tokens : List Token}
    (continues : Continues due depth tokens) {outer : List (List Token)} (deep : outer.length = depth)
    (pending : ∀ before ∈ outer, ReadSoFar true before) {before : List Token}
    (read : ReadSoFar due before) : Derives .sum (opened outer (before ++ tokens)) := by
  induction continues generalizing outer before with
  | nil =>
    rw [List.length_eq_zero_iff.1 deep, List.append_nil]
    exact read
  | number others inductionHypothesis =>
    rw [List.append_cons]
    exact inductionHypothesis deep pending (read (.number _))
  | operator others inductionHypothesis =>
    rw [List.append_cons]
    refine inductionHypothesis deep pending ?_
    intro factor derived
    rw [List.append_assoc]
    exact Derives.append_factor read _ derived
  | opening others inductionHypothesis =>
    have inside : ReadSoFar true [] := fun factor => .product (.factor factor)
    exact inductionHypothesis (congrArg (· + 1) deep) (List.forall_mem_cons.2 ⟨read, pending⟩) inside
  | closing others inductionHypothesis =>
    cases outer with
    | nil => cases deep
    | cons around outer =>
      obtain ⟨enclosing, pending⟩ := List.forall_mem_cons.1 pending
      have closed := inductionHypothesis (Nat.succ_inj.1 deep) pending
        (enclosing (.parenthesized read))
      simpa [opened] using closed

/-- The grammar derives exactly the token lists in which operands and operators alternate, the first
token and the last one belong to operands, and the parentheses are balanced. -/
theorem derives_sum_iff_continues {tokens : List Token} :
    Derives .sum tokens ↔ Continues true 0 tokens := by
  constructor
  · intro derived
    have continued := derived.continues Continues.nil
    rwa [List.append_nil] at continued
  · intro continued
    have start : ReadSoFar true [] := fun factor => .product (.factor factor)
    exact continued.derives List.length_nil (by simp) start

/-- Where operands and operators alternate, no operand starts right behind an operand. -/
theorem Continues.isChain {due : Bool} {depth : Nat} {tokens : List Token}
    (continues : Continues due depth tokens) :
    tokens.IsChain Token.Separates ∧
      (due = false → ∀ first ∈ tokens.head?, first.startsOperand = false) := by
  induction continues with
  | nil => exact ⟨.nil, fun _ first member => by cases member⟩
  | number others inductionHypothesis =>
    obtain ⟨chain, apart⟩ := inductionHypothesis
    exact ⟨List.isChain_cons.2 ⟨fun next member _ => apart rfl next member, chain⟩,
      fun notDue => by cases notDue⟩
  | operator others inductionHypothesis =>
    refine ⟨List.isChain_cons.2 ⟨fun next member ends => (by cases ends), inductionHypothesis.1⟩, ?_⟩
    intro _ first member
    cases member
    rfl
  | opening others inductionHypothesis =>
    exact ⟨List.isChain_cons.2 ⟨fun next member ends => (by cases ends), inductionHypothesis.1⟩,
      fun notDue => by cases notDue⟩
  | closing others inductionHypothesis =>
    obtain ⟨chain, apart⟩ := inductionHypothesis
    refine ⟨List.isChain_cons.2 ⟨fun next member _ => apart rfl next member, chain⟩, ?_⟩
    intro _ first member
    cases member
    rfl

/-- Where no operand starts right behind an operand, every operand that is missing leaves the numbers
fewer than the operators need, and nothing makes up for it. -/
theorem Closes.continues {depth : Nat} {tokens : List Token} (closes : Closes depth tokens) (due : Bool)
    (chain : tokens.IsChain Token.Separates)
    (apart : due = false → ∀ first ∈ tokens.head?, first.startsOperand = false) :
    (tokens.filterMap Token.number?).length <
        (tokens.filterMap Token.operator?).length + due.toNat ∨
      (tokens.filterMap Token.number?).length =
          (tokens.filterMap Token.operator?).length + due.toNat ∧
        Continues due depth tokens := by
  -- The first alternative is final: only a number where none is due could make up for a missing one,
  -- and the chain rules it out.
  induction closes generalizing due with
  | nil =>
    cases due with
    | true => exact .inl Nat.zero_lt_one
    | false => exact .inr ⟨rfl, .nil⟩
  | number others inductionHypothesis =>
    obtain ⟨behind, chain⟩ := List.isChain_cons.1 chain
    cases due with
    | false => cases apart rfl _ rfl
    | true =>
      simp only [List.filterMap_cons, Token.number?, Token.operator?, List.length_cons]
      obtain fewer | ⟨equal, continued⟩ :=
        inductionHypothesis false chain fun _ next member => behind next member rfl
      · exact .inl (Nat.succ_lt_succ fewer)
      · exact .inr ⟨congrArg (· + 1) equal, .number continued⟩
  | @operator depth operator tokens others inductionHypothesis =>
    have chain := (List.isChain_cons.1 chain).2
    have counted := inductionHypothesis true chain fun due => by cases due
    have isOperator : Token.operator? (.operator [operator.symbol]) = some operator := by
      rw [Token.operator?, Operator.ofRun_eq_ok_iff.2 rfl]
      rfl
    simp only [List.filterMap_cons, Token.number?, isOperator, List.length_cons]
    cases due with
    | false =>
      obtain fewer | ⟨equal, continued⟩ := counted
      · exact .inl fewer
      · exact .inr ⟨equal, .operator continued⟩
    | true =>
      left
      obtain fewer | ⟨equal, -⟩ := counted
      · exact Nat.lt_succ_of_lt fewer
      · exact Nat.lt_succ_of_le equal.le
  | opening others inductionHypothesis =>
    have chain := (List.isChain_cons.1 chain).2
    cases due with
    | false => cases apart rfl _ rfl
    | true =>
      obtain fewer | ⟨equal, continued⟩ := inductionHypothesis true chain fun due => by cases due
      · exact .inl fewer
      · exact .inr ⟨equal, .opening continued⟩
  | closing others inductionHypothesis =>
    obtain ⟨behind, chain⟩ := List.isChain_cons.1 chain
    have counted := inductionHypothesis false chain fun _ next member => behind next member rfl
    cases due with
    | false =>
      obtain fewer | ⟨equal, continued⟩ := counted
      · exact .inl fewer
      · exact .inr ⟨equal, .closing continued⟩
    | true =>
      left
      obtain fewer | ⟨equal, -⟩ := counted
      · exact Nat.lt_succ_of_lt fewer
      · exact Nat.lt_succ_of_le equal.le

/-- A token list that has a value is derived from the grammar exactly when no operand in it starts right
behind the end of another one. So of the token lists in which no number and no closing parenthesis is
directly followed by a number or an opening parenthesis, only those that the grammar derives have a
value. -/
theorem derives_iff_isChain {tokens : List Token} {steps : List Step} {value : Float}
    (ordered : evaluationOrder tokens = .ok steps) (evaluated : evaluateSteps steps = .ok value) :
    Derives .sum tokens ↔ tokens.IsChain Token.Separates := by
  constructor
  · intro derived
    exact (derives_sum_iff_continues.1 derived).isChain.1
  · intro chain
    obtain ⟨closes, numbers, operators⟩ := keeps_of_convert ordered
    have enough := (suffices_of_runSteps evaluated).length_numbers
    rw [numbers, operators.length_eq, List.filterMap_nil, List.nil_append, List.length_nil,
      Nat.zero_add] at enough
    obtain fewer | ⟨-, continued⟩ := closes.continues true chain fun due => by cases due
    · exact absurd enough (Nat.ne_of_lt fewer)
    · exact derives_sum_iff_continues.2 continued

/-- A sum in parentheses is multiplied. -/
theorem derives_iff_isChain_parenthesized :
    evaluationOrder [.opening, .number 1, .operator ['+'], .number 2, .closing, .operator ['*'],
        .number 3] =
      .ok [.number 1, .number 2, .operator .add, .number 3, .operator .multiply] ∧
    evaluateSteps [.number 1, .number 2, .operator .add, .number 3, .operator .multiply] =
      .ok ((1 + 2) * 3) ∧
    (Derives .sum [.opening, .number 1, .operator ['+'], .number 2, .closing, .operator ['*'],
        .number 3] ↔
      [Token.opening, .number 1, .operator ['+'], .number 2, .closing, .operator ['*'],
        .number 3].IsChain Token.Separates) :=
  ⟨rfl, rfl, derives_iff_isChain rfl rfl⟩

/-- An operator at the end takes its operands from two numbers in a row. -/
theorem juxtaposed_numbers_have_value :
    evaluationOrder [.number 1, .number 2, .operator ['+']] =
      .ok [.number 1, .number 2, .operator .add] ∧
    evaluateSteps [.number 1, .number 2, .operator .add] = .ok (1 + 2) ∧
    ¬ Derives .sum [.number 1, .number 2, .operator ['+']] := by
  refine ⟨rfl, rfl, ?_⟩
  intro derived
  cases derives_sum_iff_continues.1 derived with
  | number others => cases others

end ProseTree.Arithmetic
