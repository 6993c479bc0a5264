import PolicyServer.Source.Grammar.Expression

/-! The statements of TypeScript. -/

namespace PolicyServer.Source.Grammar

open Rule

def statement : Form := .phrase .statement

def condition : Form := between "(" (expressions .mark) ")"

def dotted : Form := seq [name, .many (seq [dot, name])]

def expressionStatement : Form :=
  seq [.absent (words ["else", "case", "default", "catch", "finally"]), expressions .line, finish]

def blockForm : Form := between "\x7b" (.many statement) "\x7d"

def variableWord : Form :=
  choice [words ["var", "let", "const"], seq [opt (word "await"), word "using", stay .line]]

def variableStatement : Form :=
  let declared : Form :=
    seq [.phrase .pattern, opt (mark "!"), opt (ofType .typeLine), opt (initializer .line)]
  seq [variableWord, list1 declared, finish]

/-- A statement done for each of many values or as long as a condition holds. -/
def forStatement : Form :=
  let each : Form :=
    seq [choice [seq [variableWord, .phrase .pattern], .phrase (.unit .mark false)],
      words ["of", "in"], expressions .mark]
  let first : Form := choice [variableStatement, seq [opt (expressions .mark), mark ";"]]
  let counted : Form :=
    seq [first, opt (expressions .mark), mark ";", opt (expressions .mark)]
  seq [word "for", opt (word "await"), between "(" (choice [each, counted]) ")", statement]

def switchStatement : Form :=
  let label : Form :=
    choice [
      seq [word "case", list1 (.phrase (.expression .mark true)), mark ":"],
      seq [word "default", mark ":"]]
  seq [word "switch", condition,
    between "\x7b" (.many (seq [.margin, label, .many statement])) "\x7d"]

/-- A block with what to do when it fails and when it is over. -/
def tryStatement : Form :=
  let caught : Form := between "(" (seq [.phrase .pattern, opt (ofType .mark)]) ")"
  seq [word "try", block, opt (seq [word "catch", opt caught, block]),
    opt (seq [word "finally", block])]

/-- The statements that steer what is done next. -/
def controlStatements : List Form :=
  [seq [word "if", condition, statement, opt (seq [word "else", statement])],
    forStatement,
    seq [word "while", condition, statement],
    seq [word "do", statement, word "while", condition, opt finish],
    switchStatement,
    tryStatement,
    seq [word "with", condition, statement],
    seq [words ["break", "continue"], opt (seq [stay .line, name]), finish],
    seq [word "return", opt (seq [stay .typeLine, expressions .line]), finish],
    seq [word "throw", expressions .line, finish],
    seq [word "debugger", finish]]

def functionStatement : Form :=
  seq [opt (seq [word "async", stay .line]), word "function", opt (mark "*"), name,
    signature .typeLine, choice [block, finish]]

def classStatement : Form := seq [.many decorator, opt (word "abstract"), classTail name]

/-- The declarations of types and of the names that hold other names. -/
def typeStatements : List Form :=
  let value : Form := seq [.phrase .propertyName, opt (initializer .mark)]
  [seq [word "interface", name, opt (.phrase .typeParameters),
      opt (seq [word "extends", list1 (type .mark)]), .phrase .objectType],
    seq [word "type", stay .line, name, opt (.phrase .typeParameters), mark "=", type .typeLine,
      finish],
    seq [opt (word "const"), word "enum", name, between "\x7b" (list value) "\x7d"],
    seq [words ["namespace", "module"], stay .line, choice [.lexeme .string, dotted],
      choice [block, finish]]]

def declarations : List Form :=
  [functionStatement, classStatement] ++ typeStatements ++ [variableStatement]

/-- Where the names of another source come from. -/
def origin : Form :=
  seq [word "from", .lexeme .string, opt (seq [words ["with", "assert"], .phrase .object])]

/-- Names between braces, each with another name or without. -/
def specifiers : Form :=
  let single : Form := choice [name, .lexeme .string]
  let specifier : Form :=
    choice [
      seq [words ["type", "typeof"], single, word "as", single],
      seq [single, word "as", single],
      seq [words ["type", "typeof"], single],
      single]
  between "\x7b" (list specifier) "\x7d"

/-- Another name for something in another source or namespace. -/
def importAlias : Form :=
  seq [word "import", opt (seq [word "type", .ahead name]), name, mark "=",
    choice [seq [word "require", between "(" (.lexeme .string) ")"], dotted], finish]

def importStatement : Form :=
  let clause : Form := choice [specifiers, seq [mark "*", word "as", name], name]
  let typed : Form :=
    seq [words ["type", "typeof"],
      .ahead (choice [marks ["\x7b", "*"],
        seq [.absent (seq [word "from", .lexeme .string]), name]])]
  choice [
    importAlias,
    seq [word "import", .lexeme .string, opt (seq [words ["with", "assert"], .phrase .object]),
      finish],
    seq [word "import", opt typed, list1 clause, origin, finish]]

/-- What a source offers to others. -/
def exportStatement : Form :=
  let single : Form := choice [name, .lexeme .string]
  seq [.many decorator, word "export", stay .line,
    choice ([
      seq [opt (word "type"), mark "*", opt (seq [word "as", single]), origin, finish],
      seq [opt (word "type"), specifiers, opt origin, finish],
      seq [mark "=", expressions .line, finish],
      seq [word "as", word "namespace", name, finish],
      importAlias,
      seq [word "default", choice (declarations ++ [seq [expression .line, finish]])],
      seq [word "declare", choice declarations]] ++ declarations)]

/-- What is declared but given elsewhere. -/
def declareStatement : Form :=
  seq [word "declare", stay .line,
    choice ([
      seq [word "global", block],
      seq [word "module", dot, name, ofType .typeLine, finish],
      importAlias,
      exportStatement] ++ declarations)]

def labelledStatement : Form :=
  seq [.absent (words ["case", "default"]), name, mark ":", statement]

def statementForm : Form :=
  seq [.margin,
    choice ([mark ";", seq [labelledBraces, expressionStatement], block] ++ controlStatements ++
      [importStatement, exportStatement, declareStatement] ++ declarations ++
      [labelledStatement, expressionStatement])]

end PolicyServer.Source.Grammar
