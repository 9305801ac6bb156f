import ProseTree.Language.CharSet

/-!
# Shapes of texts

A shape says what a text looks like: characters of given sets one after the other, alternatives,
repetitions, and groups whose text can be asked for afterwards. It is looked for from left to right.
At one place the first alternative that lets the rest of the shape succeed is taken, and a repetition
prefers to go on unless it is a reluctant one. A repetition ends with the first round that takes no
character.
-/

namespace ProseTree.Language

/-- A shape of texts. -/
inductive Shape where
  | empty
  | oneOf (set : CharSet)
  | textStart
  | textEnd
  | sequence (first second : Shape)
  | choice (first second : Shape)
  | repeated (least : Nat) (most : Option Nat) (isReluctant : Bool) (inner : Shape)
  | group (index : Option Nat) (inner : Shape)
  deriving DecidableEq, Repr

namespace Shape

/-- The shape of one character. -/
def char (c : Char) : Shape :=
  oneOf (.single c)

/-- Some shapes one after the other. -/
def ofSequence : List Shape → Shape
  | [] => empty
  | [only] => only
  | first :: others => sequence first (ofSequence others)

/-- What a shape that is written among others is nested in. -/
inductive Context where
  | alone
  | sequence
  | choice
  deriving DecidableEq, Repr

/-- The levels on which parts of a shape stand in each other. A part that follows another of the same
sequence or choice adds no level of its own. -/
def depth (context : Context) : Shape → Nat
  | empty | textStart | textEnd => 0
  | oneOf set => set.depth false
  | sequence first second =>
    max (first.depth .alone) (second.depth .sequence) + (if context = .sequence then 0 else 1)
  | choice first second =>
    max (first.depth .alone) (second.depth .choice) + (if context = .choice then 0 else 1)
  | repeated _ _ _ inner | group _ inner => inner.depth .alone + 1

/-- A place in a text, and the texts of the groups so far, the last one first. -/
structure Place where
  position : Nat
  rest : Text
  groups : List (Nat × Text) := []
  deriving DecidableEq, Repr

/-- The place after the next character, with the text of a group added. -/
def Place.close (index : Option Nat) (opened closed : Place) : Place :=
  match index with
  | none => closed
  | some number =>
    { closed with
      groups := (number, opened.rest.take (closed.position - opened.position)) :: closed.groups }

/-- What is left to do from a place on: it fails, or ends at a place. -/
abbrev Continuation := Place → Option Place

/-- One part exactly so many times. -/
def times (part : Continuation → Continuation) : Nat → Continuation → Continuation
  | 0, next => next
  | count + 1, next => part (times part count next)

/-- One part up to so many times. -/
def upTo (part : Continuation → Continuation) (isReluctant : Bool) :
    Nat → Continuation → Continuation
  | 0, next, place => next place
  | count + 1, next, place =>
    let more : Unit → Option Place := fun _ =>
      part (fun reached =>
        if reached.position = place.position then next reached
        else upTo part isReluctant count next reached) place
    if isReluctant then next place <|> more () else more () <|> next place

/-- The number of rounds that a repetition may go on for. No more than one round for every character
can take one, and a last one that takes none. -/
def roundsLeft (least : Nat) (most : Option Nat) (place : Place) : Nat :=
  match most with
  | none => place.rest.length + 1
  | some limit => min (limit - least) (place.rest.length + 1)

/-- Goes through a shape and on to what is left to do. -/
def run : Shape → Continuation → Continuation
  | empty => fun next place => next place
  | oneOf set => fun next place =>
    match place.rest with
    | [] => none
    | c :: rest =>
      if set.contains c then next { place with position := place.position + 1, rest := rest }
      else none
  | textStart => fun next place => if place.position = 0 then next place else none
  | textEnd => fun next place => if place.rest.isEmpty then next place else none
  | sequence first second => fun next => first.run (second.run next)
  | choice first second => fun next place => first.run next place <|> second.run next place
  | repeated least most isReluctant inner => fun next =>
    times inner.run least fun place =>
      upTo inner.run isReluctant (roundsLeft least most place) next place
  | group index inner => fun next place =>
    inner.run (fun reached => next (Place.close index place reached)) place

/-- Looks for a shape at a position of a text and after it. -/
def findFrom (shape : Shape) (position : Nat) (text : Text) : Option Place :=
  shape.run some ⟨position, text, []⟩ <|>
    match text with
    | [] => none
    | _ :: rest => shape.findFrom (position + 1) rest

/-- The groups of the first place at which a text has a shape. -/
def find? (shape : Shape) (text : Text) : Option (List (Nat × Text)) :=
  (shape.findFrom 0 text).map (·.groups)

/-- Whether a text has a shape somewhere. -/
def occursIn (shape : Shape) (text : Text) : Bool :=
  (shape.find? text).isSome

end Shape

end ProseTree.Language
