import PolicyServer.Host.Composition
import PolicyServer.Host.Direction

/-! Joiners: characters without a shape that tell how their neighbours are written. -/

namespace PolicyServer.Host

open Text

/-- Letters that join the letters on either side. -/
def joinBoth : List Stretch := Stretch.ofTable [
  "620 626 628 62A-E 633-F 641-7 649-A 66E-F 679-87 69A-BF 6C1-2 6CC 6CE 6D0-1 6FA-C 6FF 712-4",
  "71A-D 71F-27 729 72B 72D-E 74E-58 75C-6A 76D-70 772 775-7 77A-F 7CA-EA 841-5 848 84A-53 855",
  "860 862-5 868 886 889-D 88F 8A0-9 8AF-B0 8B3-8 8BA-C8 1807 1820-78 1887-A8 18AA A840-71",
  "10AC0-4 10AD3-6 10AD8-C 10ADE-E0 10AEB-E 10B80 10B82 10B86-8 10B8A-B 10B8D 10B90 10BAD-E",
  "10D01-21 10D23 10EC3-4 10EC6-7 10F30-2 10F34-44 10F51-3 10F70-3 10F76-81 10FB0 10FB2-3 10FB8",
  "10FBB-C 10FBE-F 10FC1 10FC4 10FCA 1E922-43"]

/-- Letters that join only the letter before them. -/
def joinBefore : List Stretch := Stretch.ofTable [
  "622-5 627 629 62F-32 648 671-3 688-99 6C0 6C3-B 6CD 6CF 6D2-3 6D5 6EE-F 710 715-9 71E 728 72A",
  "72C 72F 74D 759-B 76B-C 771 773-4 778-9 840 846-7 849 854 856-8 867 869-82 88E 8AA-C 8AE 8B1-2",
  "8B9 10AC5 10AC7 10AC9-A 10ACE-D2 10ADD 10AE1 10AE4 10AEF 10B81 10B83-5 10B89 10B8C 10B8E-F",
  "10B91 10BA9-C 10D22 10EC2 10F33 10F54 10F74-5 10FB4-6 10FB9-A 10FBD 10FC2-3 10FC9"]

/-- Letters that join only the letter after them. -/
def joinAfter : List Stretch := Stretch.ofTable [
  "A872 10ACD 10AD7 10D00 10FCB"]

/-- Marks without direction of their own that joining passes over too. -/
def passedOver : List Stretch := Stretch.ofTable [
  "CBF CC6 11A07-8 11C3F 1E94B"]

/-- The character that joins what is around it. -/
def joiner : Char := Char.ofNat 0x200D

/-- The character that keeps what is around it apart. -/
def nonJoiner : Char := Char.ofNat 0x200C

def isTransparent (c : Char) : Bool := isIn nonspacing c || isIn passedOver c

/-- Whether a joiner has its place between the characters before it, which are given last first,
and those after it: after a mark that takes a vowel away, or, if it keeps apart, between letters
that would join. -/
def hasPlace (before : List Char) (c : Char) (after : List Char) : Bool :=
  if before.head?.any (combiningClass · = 9) then true
  else
    c = nonJoiner &&
      (before.dropWhile isTransparent).head?.any (fun d => isIn joinBoth d || isIn joinAfter d) &&
      (after.dropWhile isTransparent).head?.any (fun d => isIn joinBoth d || isIn joinBefore d)

/-- Whether all joiners have their places; `before` are the characters passed, last first. -/
def joinersFit (before : List Char) : List Char → Bool
  | [] => true
  | c :: rest =>
    ((c ≠ joiner && c ≠ nonJoiner) || hasPlace before c rest) && joinersFit (c :: before) rest

end PolicyServer.Host
