import PolicyServer.Source.Tree

/-! The rules of a grammar, and the reading of a source by them. -/

namespace PolicyServer.Source

/-- What may stand at a place, over the names that a grammar gives to its phrases. Of two rules that
both fit, the first one counts. -/
inductive Rule (phrases : Type) where
  | nothing
  | lexeme (lexeme : Lexeme)
  /-- Blanks and comments before an operand or a statement. -/
  | margin
  /-- A place where a statement may end without a mark. -/
  | ends (inType : Bool)
  | both (first second : Rule phrases)
  | either (first second : Rule phrases)
  | many (item : Rule phrases)
  /-- Reads nothing, but only where the rule would fit. -/
  | ahead (rule : Rule phrases)
  /-- Reads nothing, but only where the rule would not fit. -/
  | absent (rule : Rule phrases)
  | group (shape : Shape) (rule : Rule phrases)
  | phrase (name : phrases)

namespace Rule

variable {phrases : Type}

def seq : List (Rule phrases) → Rule phrases
  | [] => .nothing
  | [rule] => rule
  | rule :: rest => .both rule (seq rest)

def choice : List (Rule phrases) → Rule phrases
  | [] => .absent .nothing
  | [rule] => rule
  | rule :: rest => .either rule (choice rest)

/-- A rule, or nothing where it does not fit. -/
def opt (rule : Rule phrases) : Rule phrases := .either rule .nothing

def word (text : String) : Rule phrases := .lexeme (.word text)

def words (texts : List String) : Rule phrases := choice (texts.map word)

def name : Rule phrases := .lexeme .anyWord

def markBut (text : String) (others : List String) : Rule phrases := .lexeme (.mark text others)

def mark (text : String) : Rule phrases := markBut text []

def marks (texts : List String) : Rule phrases := choice (texts.map mark)

/-- Items with commas between them, any of which may be left out. -/
def list (item : Rule phrases) : Rule phrases :=
  seq [.margin, opt item, .many (seq [mark ",", .margin, opt item])]

/-- Items with commas between them. -/
def list1 (item : Rule phrases) : Rule phrases := .both item (.many (.both (mark ",") item))

end Rule

/-- A place in a source: how many bytes stand before it, and the bytes after it. -/
structure Place where
  offset : Nat
  rest : Bytes

namespace Place

def advance (place : Place) (length : Nat) : Place :=
  ⟨place.offset + length, place.rest.drop length⟩

/-- The token asked for, if it comes next, and the place after it. -/
def token? (place : Place) (lexeme : Lexeme) : Option (Token × Place) :=
  let start := place.advance (spaceLength place.rest)
  (lexeme.read start.offset start.rest).map fun (kind, length) =>
    (⟨kind, start.offset, start.offset + length⟩, start.advance length)

end Place

/-- Reads a rule at a place, no deeper than `fuel`, and puts the nodes before those already `done`,
last first. -/
def Rule.read {phrases : Type} (grammar : phrases → Rule phrases) :
    Nat → Rule phrases → List Node → Place → Option (List Node × Place)
  | 0, _, _, _ => none
  | fuel + 1, rule, done, place =>
    match rule with
    | .nothing => some (done, place)
    | .lexeme wanted =>
      match place.token? wanted with
      | some (token, next) => some (.leaf token :: done, next)
      | none => none
    | .margin => some (done, place.advance (marginLength place.rest))
    | .ends inType => if endsAt inType 0 place.rest then some (done, place) else none
    | .both first second =>
      match first.read grammar fuel done place with
      | some (done', next) => second.read grammar fuel done' next
      | none => none
    | .either first second =>
      match first.read grammar fuel done place with
      | some result => some result
      | none => second.read grammar fuel done place
    | .many item =>
      match item.read grammar fuel done place with
      | some (done', next) =>
        -- An item that took no bytes would come again for ever.
        if place.offset < next.offset then (Rule.many item).read grammar fuel done' next
        else some (done, place)
      | none => some (done, place)
    | .ahead inner =>
      if (inner.read grammar fuel [] place).isSome then some (done, place) else none
    | .absent inner =>
      if (inner.read grammar fuel [] place).isSome then none else some (done, place)
    | .group shape inner =>
      match inner.read grammar fuel [] place with
      | some (parts, next) => some (.branch shape parts.reverse :: done, next)
      | none => none
    | .phrase called => (grammar called).read grammar fuel done place

end PolicyServer.Source
