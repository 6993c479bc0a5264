import PolicyServer.Json.Number

/-! Reading JSON texts from left to right. Every reader reports the first thing that is wrong. -/

namespace PolicyServer.Json

def skipBlanks : Bytes → Bytes
  | [] => []
  | b :: rest => if b = 0x20 ∨ b = 0x0A ∨ b = 0x0D ∨ b = 0x09 then skipBlanks rest else b :: rest

/-- The rest of a word whose first letter has been read. -/
def readWord : List UInt8 → Reader Unit
  | [], rest => .ok ((), rest)
  | _ :: _, [] => .error .truncated
  | w :: word, b :: rest => if b = w then readWord word rest else .error .malformed

def hexDigit? (b : UInt8) : Option Nat :=
  if 0x30 ≤ b ∧ b ≤ 0x39 then some (b.toNat - 0x30)
  else if 0x61 ≤ b ∧ b ≤ 0x66 then some (b.toNat - 0x57)
  else if 0x41 ≤ b ∧ b ≤ 0x46 then some (b.toNat - 0x37)
  else none

/-- The four hexadecimal digits of an escape. -/
def readHex : Reader Nat
  | a :: b :: c :: d :: rest =>
    match hexDigit? a, hexDigit? b, hexDigit? c, hexDigit? d with
    | some a, some b, some c, some d => .ok (((a * 16 + b) * 16 + c) * 16 + d, rest)
    | _, _, _, _ => .error .malformed
  | _ => .error .truncated

/-- The character of an escape by number: a code unit, or a high unit and the low one after it. -/
def readUnit (bytes : Bytes) : Except ReadError (Char × Bytes) := do
  let (unit, rest) ← readHex bytes
  if 0xDC00 ≤ unit ∧ unit ≤ 0xDFFF then .error .malformed
  else if 0xD800 ≤ unit ∧ unit ≤ 0xDBFF then
    match rest with
    | [] => .error .truncated
    | [b] => if b = 0x5C then .error .truncated else .error .malformed
    | b :: c :: rest =>
      if b ≠ 0x5C ∨ c ≠ 0x75 then .error .malformed
      else
        let (low, rest) ← readHex rest
        if low < 0xDC00 ∨ 0xDFFF < low then .error .malformed
        else .ok (Char.ofNat (0x10000 + (unit - 0xD800) * 0x400 + (low - 0xDC00)), rest)
  else .ok (Char.ofNat unit, rest)

/-- The character of an escape, after its backslash. -/
def readEscape : Reader Char
  | [] => .error .truncated
  | b :: rest =>
    if b = 0x22 then .ok ('"', rest)
    else if b = 0x5C then .ok ('\\', rest)
    else if b = 0x2F then .ok ('/', rest)
    else if b = 0x62 then .ok (Char.ofNat 0x8, rest)
    else if b = 0x66 then .ok (Char.ofNat 0xC, rest)
    else if b = 0x6E then .ok ('\n', rest)
    else if b = 0x72 then .ok ('\r', rest)
    else if b = 0x74 then .ok ('\t', rest)
    else if b = 0x75 then readUnit rest
    else .error .malformed

/-- The bytes of a string up to its closing quotation mark; `done` holds them last first. -/
def readTextBytes : Nat → Bytes → Reader Bytes
  | 0, _, _ => .error .truncated
  | _ + 1, _, [] => .error .truncated
  | fuel + 1, done, b :: rest =>
    if b = 0x22 then .ok (done.reverse, rest)
    else if b = 0x5C then
      match readEscape rest with
      | .error e => .error e
      | .ok (c, rest) => readTextBytes fuel ((String.utf8EncodeChar c).reverse ++ done) rest
    else if b < 0x20 then .error .malformed
    else readTextBytes fuel (b :: done) rest

/-- A string, after its opening quotation mark. -/
def readText (bytes : Bytes) : Except ReadError (String × Bytes) := do
  let (content, rest) ← readTextBytes (bytes.length + 1) [] bytes
  match content.toText? with
  | some text => .ok (text, rest)
  | none => .error .malformed

/-- What stands before the next part of an array or object: nothing for the first part, a comma for
a later one, or the closing mark. The flag tells that the closing mark was met. -/
def readSeparator (close : UInt8) (first : Bool) (bytes : Bytes) :
    Except ReadError (Bool × Bytes) :=
  match skipBlanks bytes with
  | [] => .error .truncated
  | b :: rest =>
    if b = close then .ok (true, rest)
    else if first then .ok (false, b :: rest)
    else if b = 0x2C then
      match skipBlanks rest with
      | [] => .error .truncated
      | c :: rest => if c = close then .error .malformed else .ok (false, c :: rest)
    else .error .malformed

/-- The items of an array up to its closing bracket, each taken into a state. -/
def readItems (item : σ → Reader σ) : Nat → Bool → σ → Reader σ
  | 0, _, _, _ => .error .truncated
  | fuel + 1, first, state, bytes => do
    let (ended, rest) ← readSeparator 0x5D first bytes
    if ended then .ok (state, rest)
    else
      let (state, rest) ← item state rest
      readItems item fuel false state rest

def readKey : Reader String
  | [] => .error .truncated
  | b :: rest => if b = 0x22 then readText rest else .error .malformed

/-- What follows the colon after a key. -/
def readAfterColon (reader : Reader α) (bytes : Bytes) : Except ReadError (α × Bytes) :=
  match skipBlanks bytes with
  | [] => .error .truncated
  | b :: rest => if b = 0x3A then reader rest else .error .malformed

/-- The members of an object up to its closing brace, each taken into a state: `member` gets the
key and reads from the colon on. -/
def readMembers (member : σ → String → Reader σ) : Nat → Bool → σ → Reader σ
  | 0, _, _, _ => .error .truncated
  | fuel + 1, first, state, bytes => do
    let (ended, rest) ← readSeparator 0x7D first bytes
    if ended then .ok (state, rest)
    else
      let (key, rest) ← readKey rest
      let (state, rest) ← member state key rest
      readMembers member fuel false state rest

/-- A value with at most `depth` arrays and objects inside one another. Of members with one key the
last one counts. -/
def readValue : Nat → Reader Json
  | depth, bytes =>
    match skipBlanks bytes with
    | [] => .error .truncated
    | b :: rest =>
      if b = 0x6E then (readWord [0x75, 0x6C, 0x6C] rest).map fun (_, rest) => (.null, rest)
      else if b = 0x74 then
        (readWord [0x72, 0x75, 0x65] rest).map fun (_, rest) => (.bool true, rest)
      else if b = 0x66 then
        (readWord [0x61, 0x6C, 0x73, 0x65] rest).map fun (_, rest) => (.bool false, rest)
      else if b = 0x22 then (readText rest).map fun (text, rest) => (.str text, rest)
      else if b = 0x2D then readNumber true rest
      else if (digit? b).isSome then readNumber false (b :: rest)
      else if b = 0x5B then
        match depth with
        | 0 => .error .malformed
        | depth + 1 =>
          (readItems (fun items bytes =>
            (readValue depth bytes).map fun (item, rest) => (item :: items, rest))
            (rest.length + 1) true [] rest).map fun (items, rest) => (.arr items.reverse, rest)
      else if b = 0x7B then
        match depth with
        | 0 => .error .malformed
        | depth + 1 =>
          (readMembers (fun members key bytes =>
            (readAfterColon (readValue depth) bytes).map fun (value, rest) =>
              (Table.put key value members, rest))
            (rest.length + 1) true [] rest).map fun (members, rest) => (.obj members, rest)
      else .error .malformed

/-- How deep arrays and objects may lie inside one another in a text. -/
def depthLimit : Nat := 127

/-- Reads a whole text: one thing with nothing but blanks after it. -/
def readWhole (reader : Reader α) (bytes : Bytes) : Except ReadError α := do
  let (value, rest) ← reader bytes
  match skipBlanks rest with
  | [] => .ok value
  | _ :: _ => .error .malformed

def parse (bytes : Bytes) : Except ReadError Json := readWhole (readValue depthLimit) bytes

end PolicyServer.Json
