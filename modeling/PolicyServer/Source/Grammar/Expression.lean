import PolicyServer.Source.Grammar.Phrase

/-! The expressions of TypeScript. Operators make no parts of their own: only constructor calls,
what they construct and their arguments are kept together. -/

namespace PolicyServer.Source.Grammar

open Rule

def argumentsForm : Form :=
  let argument : Form := seq [opt (mark "..."), expression .mark]
  .group .arguments (between "(" (list (.group .argument argument)) ")")

def templateForm : Form :=
  choice [.lexeme (.template .whole),
    seq [.lexeme (.template .head), expressions .mark,
      .many (seq [.lexeme (.template .middle), expressions .mark]), .lexeme (.template .tail)]]

/-- The name of a member: a word, a string, a number, or what an expression gives. -/
def propertyNameForm : Form :=
  choice [name, .lexeme .hidden, .lexeme .string, .lexeme .number,
    between "[" (expression .mark) "]"]

/-- The names that parts of a value are given. -/
def patternForm : Form :=
  let whole : Form := seq [.phrase .pattern, opt (initializer .mark)]
  let rest : Form := seq [mark "...", .phrase .pattern]
  let member : Form :=
    choice [rest,
      seq [.phrase .propertyName, choice [seq [mark ":", whole], opt (initializer .mark)]]]
  choice [name, between "\x7b" (list member) "\x7d", between "[" (list (choice [rest, whole])) "]"]

def parametersForm : Form :=
  let start : Form := choice [name, marks ["\x7b", "[", "..."]]
  let parameter : Form :=
    seq [.many decorator,
      .many (seq [words ["public", "private", "protected", "override", "readonly"], .ahead start]),
      opt (mark "..."), .phrase .pattern, opt (mark "?"), opt (ofType .mark),
      opt (initializer .mark)]
  between "(" (list parameter) ")"

def objectForm : Form :=
  let member : Form :=
    choice [
      seq [mark "...", expression .mark],
      seq [.many modifier, .phrase .propertyName,
        choice [
          seq [signature .mark, block],
          seq [mark ":", expression .mark],
          opt (initializer .mark)]]]
  between "\x7b" (list member) "\x7d"

def arrayForm : Form := between "[" (list (seq [opt (mark "..."), expression .mark])) "]"

/-- Braces that begin with a name and a colon, which tell members of an object rather than
statements. -/
def labelledBraces : Form := .ahead (seq [mark "\x7b", name, mark ":"])

def functionValue (ending : Ending) : Form :=
  seq [opt (seq [word "async", stay ending]), word "function", opt (mark "*"), opt name,
    signature .mark, block]

/-- A function given by an arrow. Where a choice waits for its colon, no colon gives a type. -/
def arrow (ending : Ending) (choosing : Bool) : Form :=
  let async : Form := seq [word "async", stay ending]
  let parameters : Form :=
    if choosing then seq [opt (.phrase .typeParameters), .phrase .parameters] else signature .mark
  let body : Form := .phrase (.expression ending choosing)
  seq [
    choice [
      seq [name, mark "=>"],
      seq [parameters, mark "=>"],
      seq [async, choice [name, parameters], mark "=>"]],
    .margin,
    choice [seq [labelledBraces, body], block, body]]

/-- What may follow an operand and joins it with another one. -/
def joint (ending : Ending) (choosing : Bool) : Form :=
  let middle (choosing : Bool) : Form := seq [.phrase (.expression .mark choosing), mark ":"]
  let unit : Form := .phrase (.unit ending choosing)
  choice [
    seq [.lexeme .question, choice [middle false, middle true],
      .phrase (.expression ending choosing)],
    seq [words ["as", "satisfies"], type ending],
    seq [words ["in", "instanceof"], unit],
    seq [.lexeme .operator, unit]]

def heritage : Form :=
  let follow : Form := choice [marks ["\x7b", ","], word "implements"]
  let parent : Form :=
    seq [.phrase (.unit .mark false),
      choice [seq [typeArguments, .ahead follow], .many (joint .mark false)]]
  seq [opt (seq [word "extends", list1 parent]),
    opt (seq [word "implements", list1 (type .mark)])]

/-- A class from its keyword on, with a name or without. -/
def classTail (className : Form) : Form :=
  seq [word "class", className, opt (.phrase .typeParameters), heritage, .phrase .classBody]

def classValue : Form :=
  let className : Form := seq [.absent (words ["extends", "implements"]), name]
  seq [.many decorator, classTail (opt className)]

def classBodyForm : Form :=
  let divider : Form := choice [marks [";", ","], .ends true]
  let field : Form := seq [opt (ofType .typeLine), opt (initializer .line), divider]
  let method : Form := seq [signature .typeLine, choice [block, divider]]
  let indexed : Form := seq [between "[" (seq [name, ofType .mark]) "]", ofType .typeLine]
  let member : Form :=
    seq [.margin, .many decorator,
      choice [
        mark ";",
        seq [word "static", block],
        seq [.many modifier,
          choice [
            seq [indexed, divider],
            seq [.phrase .propertyName, opt (choice [mark "?", markBut "!" ["!="]]),
              choice [method, field]]]]]]
  between "\x7b" (.many member) "\x7d"

def member : Form :=
  .group .member (seq [choice [dot, .lexeme .optionalDot], choice [name, .lexeme .hidden]])

/-- What may follow an operand so that it can still be what a constructor call constructs. -/
def chainPart : Form :=
  let index : Form := between "[" (expressions .mark) "]"
  choice [
    seq [.lexeme .optionalDot, choice [index, seq [opt typeArguments, arguments]]],
    member,
    index,
    .phrase .template]

/-- What begins an operand and cannot go on with one, so that the angle bracket before it is no end
of types. -/
def operandStart : Form :=
  choice [
    seq [.absent (words ["as", "satisfies", "in", "instanceof", "of"]), name],
    .lexeme .hidden, .lexeme .string, .lexeme .number,
    seq [.ahead (mark "["), .absent (between "[" (expressions .mark) "]")],
    markBut "!" ["!="], marks ["(", "\x7b", "`", "~", "++", "--", ">"]]

/-- What may follow an operand and makes another one of it. -/
def suffix (ending : Ending) : Form :=
  seq [stay ending,
    choice [
      chainPart,
      arguments,
      seq [typeArguments,
        choice [arguments, .phrase .template, .absent (seq [stay ending, operandStart])]],
      markBut "!" ["!="],
      marks ["++", "--"]]]

def intrinsic (first second : String) : Form :=
  .group .intrinsic (seq [word first, dot, word second])

/-- The operands that begin with no operator. -/
def operands (ending : Ending) : List Form :=
  [functionValue ending, classValue, intrinsic "import" "meta",
    between "(" (seq [expressions .mark, opt (ofType .mark)]) ")",
    .phrase .array, .phrase .object, .phrase .template, .lexeme .string, .lexeme .number,
    .lexeme .regex, .lexeme .hidden, name]

/-- A constructor call. What follows the keyword on the next line is none of it where the line may
end the statement; the keyword is a plain name then. -/
def creationForm (ending : Ending) : Form :=
  let inner : Form :=
    seq [.phrase (.creation ending), stay ending, choice [chainPart, arguments]]
  let imported : Form := seq [word "import", opt typeArguments, arguments]
  let constructed : Form :=
    seq [choice (intrinsic "new" "target" :: inner :: imported :: operands ending),
      .many (seq [stay ending, chainPart])]
  .group .creation (seq [
    word "new", stay ending, .absent (words ["in", "instanceof", "as", "satisfies"]),
    .group .constructed constructed,
    choice [
      seq [stay ending, opt typeArguments, stay ending, arguments],
      seq [stay ending, typeArguments, .absent (seq [stay ending, operandStart])],
      .nothing]])

/-- An operand with the operators before it and what follows it closely. -/
def unitForm (ending : Ending) (choosing : Bool) : Form :=
  let suffixes : Form := .many (suffix ending)
  let unit : Form := .phrase (.unit ending choosing)
  let whole : Form := .phrase (.expression ending choosing)
  seq [.margin,
    choice [
      seq [arrow ending choosing, suffixes],
      seq [marks ["++", "--", "+", "-", "!", "~"], unit],
      seq [between "<" (type .mark) ">", unit],
      seq [words ["typeof", "void", "delete", "await"], unit],
      seq [word "yield",
        choice [seq [mark "*", whole], seq [stay ending, whole], .nothing]],
      seq [
        choice (intrinsic "new" "target" :: .phrase (.creation ending) :: operands ending),
        suffixes]]]

def expressionForm (ending : Ending) (choosing : Bool) : Form :=
  seq [.phrase (.unit ending choosing), .many (seq [stay ending, joint ending choosing])]

def expressionsForm (ending : Ending) : Form := list1 (expression ending)

end PolicyServer.Source.Grammar
