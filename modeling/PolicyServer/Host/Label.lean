import PolicyServer.Host.Address
import PolicyServer.Host.Folding
import PolicyServer.Host.Joining
import PolicyServer.Host.Mark
import PolicyServer.Host.Punycode

/-! The labels of a host's name, in the one form that all ways of writing it share. -/

namespace PolicyServer.Host

def isForbidden (c : Char) : Bool :=
  c.toNat ≤ 0x20 || c.toNat = 0x7F || "%#/:<>?@[\\]^|".toList.contains c

def isPlainText (text : List Char) : Bool := text.all (·.toNat < 0x80)

/-- What a label begins with that stands for characters beyond ASCII. -/
def codedHead : List Char := "xn--".toList

/-- How many characters a coded label may have after its head. -/
def maxCoded : Nat := 2000

/-- How many characters a label beyond ASCII may have. -/
def maxLabel : Nat := 1000

/-- Whether the characters of a label may stand together. -/
def isSound (label : List Char) : Bool :=
  !label.any isForbidden && !label.head?.any isMark && joinersFit [] label &&
    (isPlainText label || label.length ≤ maxLabel)

/-- A label by its code. The code is that of the one form that the label has. -/
def decodeLabel? (code : List Char) : Option (List Char) := do
  if maxCoded < code.length ∨ code.getLast? = some '-' then none
  let label ← Punycode.decode? code
  let isSettled := label.all fun c => fold? c = some [c]
  if isPlainText label ∨ codedHead.isPrefixOf label ∨ !isSettled ∨ compose label ≠ label then none
  else some label

/-- A label with its code read, if it is written in code. -/
def readLabel? (label : List Char) : Option (List Char) := do
  let label ← if codedHead.isPrefixOf label then decodeLabel? (label.drop codedHead.length)
    else some label
  if isSound label then some label else none

def labels? (name : List Char) : Option (List (List Char)) := do
  let folded ← name.mapM fold?
  let labels ← (splitAt '.' (compose folded.flatten)).mapM readLabel?
  if labels.any (·.any turns) ∧ !labels.all keepsDirection then none else some labels

end PolicyServer.Host
