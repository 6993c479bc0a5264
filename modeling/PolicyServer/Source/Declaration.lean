import PolicyServer.Document.Position
import PolicyServer.Source.Grammar

/-! The resource declarations of a source: constructor calls whose first string argument gives the
resource its name. -/

namespace PolicyServer.Source

inductive ExtractError where
  | noDeclarations
  | noTree
  deriving DecidableEq, Repr

def ExtractError.message : ExtractError → String
  | .noDeclarations => "no resource declarations found"
  | .noTree => "parser produced no tree"

/-- A count of 32 bits; what is beyond stays at the largest. -/
def capped (count : Nat) : UInt32 := UInt32.ofNat (min count 0xFFFFFFFF)

/-- The place of a byte: rows end with a line feed, columns count bytes. -/
def pointAt (source : Bytes) (offset : Nat) : Point :=
  let before := source.take offset
  let column := (before.reverse.takeWhile (· ≠ 0x0A)).length
  ⟨capped (before.count 0x0A), capped column⟩

def textOf (source : Bytes) (start stop : Nat) : String :=
  Utf8.decodeLossy ((source.drop start).take (stop - start))

/-- The words that name no type although they may stand alone. -/
def nonNames : List String :=
  ["this", "super", "null", "true", "false", "undefined", "import", "function", "class", "new"]

/-- The name of the type that is constructed: a plain name, or the last member of a chain. -/
def typeName? (constructed : List Node) : Option Token :=
  match constructed, constructed.getLast? with
  | [.leaf token], _ =>
    match token.kind with
    | .word name => if name ∈ nonNames.map Bytes.ofText then none else some token
    | _ => none
  | _, some (.branch .member [_, .leaf token]) =>
    match token.kind with
    | .word _ => some token
    | _ => none
  | _, _ => none

/-- The first argument that is a string and nothing else: where its first plain characters lie. -/
def firstString? (arguments : List Node) : Option (Option (Nat × Nat)) :=
  arguments.findSome? fun
    | .branch .argument [.leaf ⟨.string run, _, _⟩] => some run
    | _ => none

/-- A constructor call with arguments: its first and its last token, what is constructed, and the
arguments with their brackets. -/
structure Creation where
  keyword : Token
  constructed : List Node
  arguments : List Node
  closing : Token

/-- The constructor call that parts make, if it has arguments. -/
def Creation.ofParts? : List Node → Option Creation
  | .leaf keyword :: .branch .constructed constructed :: rest =>
    match rest.getLast? with
    | some (.branch .arguments arguments) =>
      match arguments.getLast? with
      | some (.leaf closing) =>
        if keyword.kind = .word (Bytes.ofText "new") ∧ closing.kind = .mark ")" then
          some { keyword, constructed, arguments, closing }
        else none
      | _ => none
    | _ => none
  | _ => none

def declaration? (source : Bytes) (parts : List Node) : Option Capture := do
  let creation ← Creation.ofParts? parts
  let name ← typeName? creation.constructed
  let run ← firstString? creation.arguments
  let (runStart, runStop) ← run
  some {
    typeName := textOf source name.start name.stop
    identifier := textOf source runStart runStop
    text := textOf source creation.keyword.start creation.closing.stop
    start := pointAt source creation.keyword.start
    stop := pointAt source creation.closing.stop }

mutual

/-- The declarations in a node, outer ones first. -/
def capturesIn (source : Bytes) : Node → List Capture
  | .leaf _ => []
  | .branch shape parts =>
    let own := if shape = .creation then (declaration? source parts).toList else []
    own ++ capturesOf source parts

/-- The declarations in several nodes, in the order of the source. -/
def capturesOf (source : Bytes) : List Node → List Capture
  | [] => []
  | node :: rest => capturesIn source node ++ capturesOf source rest

end

/-- The declarations of a source, in its order. -/
def extract (source : Bytes) : Except ExtractError (List Capture) :=
  match capturesOf source (tree source) with
  | [] => .error .noDeclarations
  | captures => .ok captures

end PolicyServer.Source
