import PolicyServer.Source.Grammar.Phrase

/-! The types of TypeScript. -/

namespace PolicyServer.Source.Grammar

open Rule

def typeArgumentsForm : Form := between "<" (list1 (type .mark)) ">"

/-- The names that stand for types, what each must be, and what it is when it is not given. -/
def typeParametersForm : Form :=
  let parameter : Form :=
    seq [.many (seq [words ["const", "in", "out"], .ahead name]), name,
      opt (seq [word "extends", type .mark]), opt (seq [mark "=", type .mark])]
  between "<" (list parameter) ">"

def templateType : Form :=
  choice [.lexeme (.template .whole),
    seq [.lexeme (.template .head), type .mark,
      .many (seq [.lexeme (.template .middle), type .mark]), .lexeme (.template .tail)]]

/-- The types of a list of fixed length, with or without names. -/
def tupleType : Form :=
  let named : Form := seq [name, opt (mark "?"), mark ":"]
  between "[" (list (seq [opt (mark "..."), opt named, type .mark, opt (mark "?")])) "]"

def typeQuery (ending : Ending) : Form :=
  let index : Form := choice [name, .lexeme .string, .lexeme .number]
  seq [word "typeof", choice [seq [word "import", arguments], name],
    .many (seq [stay ending,
      choice [
        seq [choice [dot, .lexeme .optionalDot], choice [name, .lexeme .hidden]],
        between "[" index "]",
        typeArguments,
        arguments]])]

def functionType (ending : Ending) (conditional : Bool) : Form :=
  let head : Form := seq [opt (.phrase .typeParameters), .phrase .parameters, mark "=>"]
  choice [
    seq [head, result ending conditional],
    seq [opt (word "abstract"), word "new", head, .phrase (.type ending conditional)]]

/-- A type that nothing needs to be put around. -/
def typeAtom (ending : Ending) : Form :=
  choice [
    between "(" (type .mark) ")",
    .phrase .objectType,
    tupleType,
    templateType,
    .lexeme .string,
    seq [opt (marks ["-", "+"]), .lexeme .number],
    typeQuery ending,
    mark "*",
    seq [word "import", arguments, .many (seq [dot, name]), opt typeArguments],
    seq [.absent (words ["typeof", "new", "import"]), name, .many (seq [dot, name]),
      opt typeArguments]]

/-- A part of a union or an intersection. -/
def typeOperandForm (ending : Ending) (conditional : Bool) : Form :=
  let operand : Form := .phrase (.typeOperand ending conditional)
  choice [
    functionType ending conditional,
    seq [words ["keyof", "readonly"], operand],
    seq [markBut "?" ["??", "?."], operand],
    seq [word "unique", word "symbol"],
    seq [word "infer", name, opt (seq [word "extends", .phrase (.type ending false)])],
    seq [typeAtom ending,
      .many (seq [stay ending, between "[" (opt (type .mark)) "]"])]]

/-- A type: alternatives, parts that all hold, or a choice by what a type extends. -/
def typeForm (ending : Ending) (conditional : Bool) : Form :=
  let joint : Form := choice [markBut "|" ["||", "|=", "|\x7d"], markBut "&" ["&&", "&="]]
  let operand : Form := .phrase (.typeOperand ending conditional)
  let chosen : Form :=
    seq [stay ending, word "extends", .phrase (.type .mark false), mark "?", type .mark, mark ":",
      .phrase (.type ending true)]
  seq [.margin, opt joint, operand, .many (seq [joint, operand]),
    if conditional then opt chosen else .nothing]

/-- The members that a name in square brackets stands for. -/
def indexSignature : Form :=
  let key : Form :=
    choice [ofType .mark, seq [word "in", type .mark, opt (seq [word "as", type .mark])]]
  seq [.many (choice [marks ["-", "+"], seq [word "readonly", .ahead (mark "[")]]),
    between "[" (seq [name, key]) "]", .many (marks ["-", "+", "?"]), opt (ofType .typeLine)]

def typeMember : Form :=
  choice [
    indexSignature,
    seq [opt (word "abstract"), word "new", signature .typeLine],
    signature .typeLine,
    seq [.many modifier, .phrase .propertyName, opt (mark "?"),
      choice [signature .typeLine, opt (ofType .typeLine)]]]

def objectTypeForm : Form :=
  let divider : Form := choice [marks [",", ";"], .ends true, .ahead (mark "|\x7d")]
  let members : Form := seq [opt (marks [",", ";"]), .many (seq [.margin, typeMember, divider])]
  choice [between "\x7b|" members "|\x7d", between "\x7b" members "\x7d"]

end PolicyServer.Source.Grammar
