import PolicyServer.Json.Ignored

/-! Reading records straight from a text: a record is an object with known members, in any order
and among unknown ones, or an array of its fields in their order. -/

namespace PolicyServer.Json

/-- The error for a value of the wrong kind, or the fault in its text that comes to light first. -/
def unsuitableAt : Bytes → ReadError
  | [] => .truncated
  | b :: rest =>
    let found : Except ReadError Unit :=
      if b = 0x6E then (readWord [0x75, 0x6C, 0x6C] rest).map fun _ => ()
      else if b = 0x74 then (readWord [0x72, 0x75, 0x65] rest).map fun _ => ()
      else if b = 0x66 then (readWord [0x61, 0x6C, 0x73, 0x65] rest).map fun _ => ()
      else if b = 0x22 then (readText rest).map fun _ => ()
      else if b = 0x2D then (readNumber true rest).map fun _ => ()
      else if (digit? b).isSome then (readNumber false (b :: rest)).map fun _ => ()
      else if b = 0x5B ∨ b = 0x7B then .ok ()
      else .error .malformed
    match found with
    | .ok () => .unsuitable
    | .error error => error

def readString (bytes : Bytes) : Except ReadError (String × Bytes) :=
  match skipBlanks bytes with
  | 0x22 :: rest => readText rest
  | other => .error (unsuitableAt other)

def readInt64 (bytes : Bytes) : Except ReadError (Int64 × Bytes) := do
  let (value, rest) ← match skipBlanks bytes with
    | [] => .error .truncated
    | b :: rest =>
      if b = 0x2D then readNumber true rest
      else if (digit? b).isSome then readNumber false (b :: rest)
      else .error (unsuitableAt (b :: rest))
  match value with
  | .int n => if n < 0x8000000000000000 then .ok (Int64.ofInt n, rest) else .error .unsuitable
  | _ => .error .unsuitable

def readNullable (reader : Reader α) (bytes : Bytes) : Except ReadError (Option α × Bytes) :=
  match skipBlanks bytes with
  | 0x6E :: rest => (readWord [0x75, 0x6C, 0x6C] rest).map fun (_, rest) => (none, rest)
  | other => (reader other).map fun (value, rest) => (some value, rest)

/-- An array, whose items may go one level less deep than the array itself. -/
def readArray (depth : Nat) (item : Nat → Reader α) (bytes : Bytes) :
    Except ReadError (List α × Bytes) :=
  match skipBlanks bytes with
  | 0x5B :: rest =>
    match depth with
    | 0 => .error .malformed
    | depth + 1 =>
      (readItems (fun items bytes =>
        (item depth bytes).map fun (value, rest) => (value :: items, rest))
        (rest.length + 1) true [] rest).map fun (items, rest) => (items.reverse, rest)
  | other => .error (unsuitableAt other)

/-- One field of a record in the making: whether an object needs it, whether an array needs it, and
how its value is taken into the record. -/
structure RecordField (σ : Type) where
  name : String
  named : Bool
  placed : Bool
  read : σ → Reader σ

/-- One member of a record's object from its colon on. A known one may come once, and a second one is
refused at its key. -/
def readField (fields : List (RecordField σ)) (state : List String × σ) (key : String) :
    Reader (List String × σ) := fun bytes =>
  match fields.find? (·.name = key) with
  | none => readAfterColon (fun bytes => (skipValue bytes).map (state, ·)) bytes
  | some field =>
    if key ∈ state.1 then .error .unsuitable
    else (readAfterColon (field.read state.2) bytes).map fun (record, rest) =>
      ((key :: state.1, record), rest)

/-- The fields of a record given as an array, and its end. -/
def readPositional : List (RecordField σ) → Bool → σ → Reader σ
  | [], _, record, bytes =>
    match skipBlanks bytes with
    | [] => .error .truncated
    | b :: rest => if b = 0x5D then .ok (record, rest) else .error .malformed
  | field :: fields, first, record, bytes => do
    let (ended, rest) ← readSeparator 0x5D first bytes
    if ended then
      if (field :: fields).all (!·.placed) then .ok (record, rest) else .error .unsuitable
    else
      let (record, rest) ← field.read record rest
      readPositional fields false record rest

/-- A record, starting from the given values of its fields. The fields' readers may go one level
less deep than the record itself. -/
def readRecord (depth : Nat) (fields : Nat → List (RecordField σ)) (record : σ) (bytes : Bytes) :
    Except ReadError (σ × Bytes) :=
  match skipBlanks bytes with
  | [] => .error .truncated
  | b :: rest =>
    if b = 0x5B ∨ b = 0x7B then
      match depth with
      | 0 => .error .malformed
      | depth + 1 =>
        if b = 0x5B then readPositional (fields depth) true record rest
        else do
          let ((seen, record), rest) ←
            readMembers (readField (fields depth)) (rest.length + 1) true ([], record) rest
          if (fields depth).all fun field => !field.named || field.name ∈ seen then
            .ok (record, rest)
          else .error .unsuitable
    else .error (unsuitableAt (b :: rest))

end PolicyServer.Json
