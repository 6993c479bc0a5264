import PolicyServer.Source.Rule

/-! The phrases of TypeScript, and the small rules that many of them share. -/

namespace PolicyServer.Source.Grammar

/-- What may end an expression or a type: only a mark that must follow it, or also the end of its
line. Where the line ends a type, a bracket on the next line begins something new. -/
inductive Ending where
  | mark
  | line
  | typeLine
  deriving DecidableEq, Repr

/-- The phrases that contain one another. `choosing` tells that a colon after the expression belongs
to the choice around it, `conditional` that the type may be a choice between types. -/
inductive Phrase where
  | statement
  | block
  | expressions (ending : Ending)
  | expression (ending : Ending) (choosing : Bool)
  | unit (ending : Ending) (choosing : Bool)
  | creation (ending : Ending)
  | object
  | array
  | template
  | arguments
  | propertyName
  | classBody
  | pattern
  | parameters
  | type (ending : Ending) (conditional : Bool)
  | typeOperand (ending : Ending) (conditional : Bool)
  | typeParameters
  | typeArguments
  | objectType
  deriving DecidableEq, Repr

abbrev Form := Rule Phrase

open Rule

def block : Form := .phrase .block

def expression (ending : Ending) : Form := .phrase (.expression ending false)

def expressions (ending : Ending) : Form := .phrase (.expressions ending)

def type (ending : Ending) : Form := .phrase (.type ending true)

def arguments : Form := .phrase .arguments

def typeArguments : Form := .phrase .typeArguments

/-- What comes next still belongs to what stands before it. -/
def stay : Ending → Form
  | .mark => .nothing
  | .line => .absent (.ends false)
  | .typeLine => .absent (.ends true)

/-- The end of a statement, with or without its mark. -/
def finish : Form := choice [mark ";", .ends true]

def between (opening : String) (rule : Form) (closing : String) : Form :=
  seq [mark opening, .margin, rule, .margin, mark closing]

def dot : Form := markBut "." ["..."]

def ofType (ending : Ending) : Form := seq [mark ":", type ending]

def initializer (ending : Ending) : Form := seq [markBut "=" ["==", "=>"], expression ending]

/-- A remark on a class, a member or a parameter. -/
def decorator : Form :=
  seq [mark "@",
    choice [between "(" (expressions .mark) ")",
      seq [name, .many (seq [dot, name]), opt typeArguments, opt arguments]]]

/-- What the name of a member begins with. -/
def memberStart : Form :=
  choice [name, .lexeme .hidden, .lexeme .string, .lexeme .number, marks ["[", "*"]]

/-- A word or a star that tells something about the member whose name follows. -/
def modifier : Form :=
  choice [
    seq [words ["public", "private", "protected", "static", "abstract", "override", "readonly",
      "declare", "accessor", "async", "get", "set"], .ahead memberStart],
    mark "*"]

/-- What a function gives: a type, or what it tells about one of its parameters. -/
def result (ending : Ending) (conditional : Bool) : Form :=
  let type : Form := .phrase (.type ending conditional)
  choice [
    seq [name, word "is", type],
    seq [word "asserts", name, opt (seq [word "is", type])],
    type]

/-- The parameters of a function, and the type it gives. -/
def signature (ending : Ending) : Form :=
  seq [opt (.phrase .typeParameters), .phrase .parameters,
    opt (seq [mark ":", result ending true])]

end PolicyServer.Source.Grammar
