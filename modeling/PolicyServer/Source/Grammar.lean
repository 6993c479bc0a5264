import PolicyServer.Source.Grammar.Statement
import PolicyServer.Source.Grammar.Type

/-! The grammar of TypeScript as a whole, and the tree of a source. -/

namespace PolicyServer.Source.Grammar

open Rule

def rules : Phrase → Form
  | .statement => statementForm
  | .block => blockForm
  | .expressions ending => expressionsForm ending
  | .expression ending choosing => expressionForm ending choosing
  | .unit ending choosing => unitForm ending choosing
  | .creation ending => creationForm ending
  | .object => objectForm
  | .array => arrayForm
  | .template => templateForm
  | .arguments => argumentsForm
  | .propertyName => propertyNameForm
  | .classBody => classBodyForm
  | .pattern => patternForm
  | .parameters => parametersForm
  | .type ending conditional => typeForm ending conditional
  | .typeOperand ending conditional => typeOperandForm ending conditional
  | .typeParameters => typeParametersForm
  | .typeArguments => typeArgumentsForm
  | .objectType => objectTypeForm

/-- A whole source: statements, and between them operands and tokens that fit nowhere. -/
def source : Form :=
  seq [opt (.lexeme .interpreter),
    .many (choice [statement, .phrase (.unit .mark false), seq [.margin, .lexeme .any]])]

end PolicyServer.Source.Grammar

namespace PolicyServer.Source

/-- How deep rules may stand in one another in a source of so many bytes. -/
def depthFor (length : Nat) : Nat := 300 * (length + 2)

def tree (source : Bytes) : List Node :=
  match Grammar.source.read Grammar.rules (depthFor source.length) [] ⟨0, source⟩ with
  | some (nodes, _) => nodes.reverse
  | none => []

end PolicyServer.Source
