import PolicyServer.Source.Lexeme

/-! The tree of a source: tokens, and the branches that hold together what belongs together. -/

namespace PolicyServer.Source

/-- What the parts of a branch are together. -/
inductive Shape where
  /-- A constructor call, from its keyword on. -/
  | creation
  /-- What a constructor call makes something of. -/
  | constructed
  /-- A dot and the name of a member. -/
  | member
  /-- A value that the language itself names by two words and a dot. -/
  | intrinsic
  /-- Arguments and the brackets around them. -/
  | arguments
  | argument
  deriving DecidableEq, Repr

/-- A token, or several nodes that belong together. -/
inductive Node where
  | leaf (token : Token)
  | branch (shape : Shape) (parts : List Node)
  deriving Repr

end PolicyServer.Source
