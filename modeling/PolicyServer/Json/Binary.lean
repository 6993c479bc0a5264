import PolicyServer.Json.Value
import PolicyServer.Text.Utf8

/-! Bytes as JSON: a string where they are text, and hexadecimal digits where they are not. -/

namespace PolicyServer.Json

def hexValue (c : Char) : Nat := if c.isDigit then c.toNat - 48 else c.toNat - 87

def ofHex : List Char → Bytes
  | high :: low :: rest => UInt8.ofNat (16 * hexValue high + hexValue low) :: ofHex rest
  | _ => []

def toHex (bytes : Bytes) : String :=
  String.ofList (bytes.flatMap fun b =>
    [Nat.digitChar (b.toNat / 16), Nat.digitChar (b.toNat % 16)])

/-- Bytes as a string if they are text, else as an object with their digits. -/
def ofBytes (bytes : Bytes) : Json :=
  match Bytes.toText? bytes with
  | some text => .str text
  | none => .ofMembers [("hex", .str (toHex bytes))]

end PolicyServer.Json
