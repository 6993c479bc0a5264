import PolicyServer.Table

/-! JSON values: whole numbers apart from floating-point ones, members of an object by key. -/

namespace PolicyServer

/-- A JSON value. A floating-point number is kept by the bits of its double. -/
inductive Json where
  | null
  | bool (value : Bool)
  | int (value : Int)
  | float (bits : UInt64)
  | str (text : String)
  | arr (items : List Json)
  | obj (members : List (String × Json))
  deriving Inhabited, Repr

namespace Json

/-- An object of the members given, sorted by key; of two with one key the later stays. -/
def ofMembers (members : List (String × Json)) : Json := .obj (Table.ofList members)

/-- An object of the members that are present, sorted by key. -/
def ofPresent (members : List (String × Option Json)) : Json :=
  ofMembers (members.filterMap fun (key, value) => value.map (key, ·))

def member? (key : String) : Json → Option Json
  | .obj members => members.lookup key
  | _ => none

/-- The member of an object under a key, null if there is none. -/
def member (key : String) (value : Json) : Json := (value.member? key).getD .null

instance : GetElem Json String Json fun _ _ => True := ⟨fun value key _ => value.member key⟩

def text? : Json → Option String
  | .str text => some text
  | _ => none

def items : Json → List Json
  | .arr items => items
  | _ => []

def members : Json → List (String × Json)
  | .obj members => members
  | _ => []

def isNull : Json → Bool
  | .null => true
  | _ => false

/-- Null stands for absence. -/
def toOption : Json → Option Json
  | .null => none
  | value => some value

mutual

def beq : Json → Json → Bool
  | .null, .null => true
  | .bool a, .bool b => a == b
  | .int a, .int b => a == b
  | .float a, .float b => a == b
  | .str a, .str b => a == b
  | .arr a, .arr b => beqItems a b
  | .obj a, .obj b => beqMembers a b
  | _, _ => false

def beqItems : List Json → List Json → Bool
  | [], [] => true
  | a :: as, b :: bs => beq a b && beqItems as bs
  | _, _ => false

def beqMembers : List (String × Json) → List (String × Json) → Bool
  | [], [] => true
  | (k, a) :: as, (l, b) :: bs => k == l && beq a b && beqMembers as bs
  | _, _ => false

end

instance : BEq Json := ⟨beq⟩

mutual

/-- Whether a value holds what a pattern asks for: of an object all the pattern's members, of any
other value the pattern itself. -/
def holds (value : Json) : Json → Bool
  | .obj members => holdsAll value members
  | pattern => value == pattern

/-- Whether an object has members that hold what each of the patterns asks for. -/
def holdsAll (value : Json) : List (String × Json) → Bool
  | [] => true
  | (key, pattern) :: rest =>
    (match value.member? key with
      | some found => holds found pattern
      | none => false) && holdsAll value rest

end

mutual

/-- How many arrays and objects lie inside one another, the value itself included. -/
def depth : Json → Nat
  | .arr items => depthItems items + 1
  | .obj members => depthMembers members + 1
  | _ => 0

def depthItems : List Json → Nat
  | [] => 0
  | item :: rest => max item.depth (depthItems rest)

def depthMembers : List (String × Json) → Nat
  | [] => 0
  | (_, value) :: rest => max value.depth (depthMembers rest)

end

end Json

end PolicyServer
