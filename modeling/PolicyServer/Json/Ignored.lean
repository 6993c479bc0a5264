import PolicyServer.Json.Reader

/-! Passing over a value nobody asked for: only its form is checked, and it may be arbitrarily deep. -/

namespace PolicyServer.Json

/-- Passes over a string, after its opening quotation mark. -/
def skipText : Nat → Bytes → Except ReadError Bytes
  | 0, _ => .error .truncated
  | _ + 1, [] => .error .truncated
  | fuel + 1, b :: rest =>
    if b = 0x22 then .ok rest
    else if b = 0x5C then
      match rest with
      | [] => .error .truncated
      | e :: rest =>
        if e = 0x75 then
          match readHex rest with
          | .error error => .error error
          | .ok (_, rest) => skipText fuel rest
        else if e ∈ [0x22, 0x5C, 0x2F, 0x62, 0x66, 0x6E, 0x72, 0x74] then skipText fuel rest
        else .error .malformed
    else if b < 0x20 then .error .malformed
    else skipText fuel rest

def skipDigits : Bytes → Bytes
  | [] => []
  | b :: rest => if (digit? b).isSome then skipDigits rest else b :: rest

/-- Passes over digits of which there must be one. -/
def skipSomeDigits : Bytes → Except ReadError Bytes
  | [] => .error .malformed
  | b :: rest => if (digit? b).isSome then .ok (skipDigits rest) else .error .malformed

def skipExponent : Bytes → Except ReadError Bytes
  | [] => .ok []
  | b :: rest =>
    if isExponentMark b then
      match rest with
      | s :: more => if s = 0x2B ∨ s = 0x2D then skipSomeDigits more else skipSomeDigits rest
      | [] => .error .malformed
    else .ok (b :: rest)

/-- Passes over a number, after its sign. -/
def skipNumber (bytes : Bytes) : Except ReadError Bytes := do
  let rest ← match bytes with
    | 0x30 :: rest =>
      match rest with
      | c :: _ => if (digit? c).isSome then .error .malformed else .ok rest
      | [] => .ok rest
    | other => skipSomeDigits other
  match rest with
  | 0x2E :: rest => skipSomeDigits rest >>= skipExponent
  | rest => skipExponent rest

def skipKey (bytes : Bytes) : Except ReadError Bytes :=
  match skipBlanks bytes with
  | [] => .error .truncated
  | b :: rest =>
    if b ≠ 0x22 then .error .malformed
    else do
      let rest ← skipText (rest.length + 1) rest
      match skipBlanks rest with
      | [] => .error .truncated
      | c :: rest => if c = 0x3A then .ok rest else .error .malformed

/-- Where a value that is passed over stands: before a value, after one, or after an opening mark. -/
inductive Passing where
  | value
  | after
  | opened
  deriving DecidableEq

/-- Passes over a value inside the arrays and objects whose closing marks are still owed. -/
def skipInside : Nat → Passing → List UInt8 → Bytes → Except ReadError Bytes
  | 0, _, _, _ => .error .truncated
  | _ + 1, .after, [], bytes => .ok bytes
  | _ + 1, .opened, [], _ => .error .malformed
  | fuel + 1, .value, owed, bytes =>
    match skipBlanks bytes with
    | [] => .error .truncated
    | b :: rest =>
      if b = 0x5B then skipInside fuel .opened (0x5D :: owed) rest
      else if b = 0x7B then skipInside fuel .opened (0x7D :: owed) rest
      else
        let scalar :=
          if b = 0x6E then (readWord [0x75, 0x6C, 0x6C] rest).map Prod.snd
          else if b = 0x74 then (readWord [0x72, 0x75, 0x65] rest).map Prod.snd
          else if b = 0x66 then (readWord [0x61, 0x6C, 0x73, 0x65] rest).map Prod.snd
          else if b = 0x22 then skipText (rest.length + 1) rest
          else if b = 0x2D then skipNumber rest
          else if (digit? b).isSome then skipNumber (b :: rest)
          else .error .malformed
        match scalar with
        | .error error => .error error
        | .ok rest => skipInside fuel .after owed rest
  | fuel + 1, passing, close :: owed, bytes =>
    match skipBlanks bytes with
    | [] => .error .truncated
    | b :: rest =>
      if b = close then skipInside fuel .after owed rest
      else
        let start : Except ReadError Bytes := if passing = .opened then .ok (b :: rest)
          else if b = 0x2C then .ok rest
          else .error .malformed
        match start.bind fun rest => if close = 0x7D then skipKey rest else .ok rest with
        | .error error => .error error
        | .ok rest => skipInside fuel .value (close :: owed) rest

def skipValue (bytes : Bytes) : Except ReadError Bytes :=
  skipInside (2 * bytes.length + 2) .value [] bytes

end PolicyServer.Json
