import PolicyServer.Text.Shapeless

/-! The direction of characters, and labels that can be told apart in either direction. -/

namespace PolicyServer.Host

open Text

/-- Letters that are written from right to left. -/
def rightward : List Stretch := Stretch.ofTable [
  "5BE 5C0 5C3 5C6 5D0-F4 608 60B 60D 61B-4A 66D-F 671-D5 6E5-6 6EE-F 6FA-710 712-2F 74D-A5",
  "7B1-EA 7F4-5 7FA 7FE-815 81A 824 828 830-58 85E-8F 8A0-C9 FBB2-C2 FE73 10800-91B 10920-A00",
  "10A10-35 10A40-E4 10AEB-B35 10B40-D23 10D40-F 10D6F-8F 10E80-A9 10EAD-D8 10F00-45 10F51-81",
  "10F86-F6 1E800-CF 1E922-43 1E94B-D3D"]

/-- Digits that are written from left to right in a text of either direction. -/
def europeanNumbers : List Stretch := Stretch.ofTable [
  "30-9 6F0-9 102E1-FB"]

/-- Digits that belong to a text from right to left. -/
def arabicNumbers : List Stretch := Stretch.ofTable [
  "660-9 66B-C 10D30-9 10E60-7E"]

/-- Marks that take the direction of what is around them. -/
def neutrals : List Stretch := Stretch.ofTable [
  "0-2F 3A-60 7B-D7 F7 2B9-A 2C2-F 2D2-ED 2EF-FF 375 3F6 58A-F 606-7 609-A 60C 60E-F 66A 6DE 6E9",
  "7F6-9 9F2-3 9FB AF1 BF3-A C78-E E3F F3A-D 1390-9 1400 169B-C 17DB 17F0-80A 1940-5 19DE-FF",
  "200C-C1 2104-4D 218A-335 237B-94 2396-6AB 26AD-7FF 2900-BFF 2CE5-A 2CF9-F 2E00-3004 3008-20",
  "3030 3037 303D-F 30A0 30FB 31C0-E5 4DC0-FF A490-C6 A60D-F A673 A67E-F A700-21 A788 A828-B",
  "A838-9 A874-7 AB6A-B FBC3-DFF FE45-6 10101 10140-8C 10190-A0 1091F 10B39-F 10D6E 11052-65",
  "11660-C 11FD5-F1 16FE2 1CC00-EF0 1D1E9-241 1D245 1D300-56 1E2FF 1EEF0-F12F 1F16D-F 1F1AD",
  "1F260-BFA"]

/-- Marks that take no direction of their own; raised letters that folding replaces count as such. -/
def nonspacing : List Stretch := marks ++ Stretch.ofTable ["1E030-6D"]

inductive Direction where
  | left
  | right
  | european
  | arabic
  | neutral
  | nonspacing
  deriving DecidableEq, Repr

def directionOf (c : Char) : Direction :=
  if isIn nonspacing c then .nonspacing
  else if isIn rightward c then .right
  else if isIn europeanNumbers c then .european
  else if isIn arabicNumbers c then .arabic
  else if isIn neutrals c then .neutral
  else .left

/-- Whether a character turns the direction of a name into a matter of concern. -/
def turns (c : Char) : Bool := directionOf c = .right || directionOf c = .arabic

/-- Whether a label keeps to one direction: it begins with a letter, ends in a letter or digit of
the same direction, and has nothing of the other one between them. A label from right to left has
digits of one kind. -/
def keepsDirection : List Char → Bool
  | [] => true
  | c :: rest =>
    match directionOf c, (rest.map directionOf).reverse.dropWhile (· = .nonspacing) with
    | .left, [] | .right, [] => true
    | .left, last :: middle =>
      (last = .left || last = .european) && middle.all fun d => d ≠ .right && d ≠ .arabic
    | .right, last :: middle =>
      (last = .right || last = .european || last = .arabic) && middle.all (· ≠ .left) &&
        !((last :: middle).contains .european && (last :: middle).contains .arabic)
    | _, _ => false

end PolicyServer.Host
