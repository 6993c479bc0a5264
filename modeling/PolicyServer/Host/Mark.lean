import PolicyServer.Host.Direction

/-! Marks, which cannot stand at the head of a label. -/

namespace PolicyServer.Host

open Text

/-- Marks that take up room beside the character before them. -/
def spacingMarks : List Stretch := Stretch.ofTable [
  "903 93B 93E-40 949-C 94E-F 982-3 9BE-C0 9C7-C 9D7 A03 A3E-40 A83 ABE-C0 AC9-C B02-3 B3E B40",
  "B47-C B57 BBE-F BC1-C BD7 C01-3 C41-4 C82-3 CBE-CB CD5-6 CF3 D02-3 D3E-40 D46-C D57 D82-3",
  "DCF-D1 DD8-F DF2-3 F3E-F F7F 102B-C 1031 1038 103B-C 1056-7 1062-4 1067-D 1083-4 1087-C 108F",
  "109A-C 1715 1734 17B6 17BE-C5 17C7-8 1923-6 1929-31 1933-8 1A19-A 1A55 1A57 1A61 1A63-4",
  "1A6D-72 1B04 1B35 1B3B 1B3D-41 1B43-4 1B82 1BA1 1BA6-7 1BAA 1BE7 1BEA-C 1BEE 1BF2-3 1C24-B",
  "1C34-5 1CE1 1CF7 302E-F A823-4 A827 A880-1 A8B4-C3 A952-3 A983 A9B4-5 A9BA-B A9BE-C0 AA2F-30",
  "AA33-4 AA4D AA7B AA7D AAEB AAEE-F AAF5 ABE3-4 ABE6-7 ABE9-A ABEC 11000 11002 11082 110B0-2",
  "110B7-8 1112C 11145-6 11182 111B3-5 111BF-C0 111CE 1122C-E 11232-3 11235 112E0-2 11302-3",
  "1133E-F 11341-D 11357 11362-3 113B8-A 113C2-D 113CF 11435-7 11440-1 11445 114B0-2 114B9",
  "114BB-E 114C1 115AF-B1 115B8-B 115BE 11630-2 1163B-C 1163E 116AC 116AE-F 116B6 1171E 11720-1",
  "11726 1182C-E 11838 11930-8 1193D 11940 11942 119D1-3 119DC-F 119E4 11A07-8 11A39 11A57-8",
  "11A97 11B61 11B65 11B67 11C2F 11C3E-F 11CA9 11CB1 11CB4 11D8A-E 11D93-4 11D96 11EF5-6 11F03",
  "11F34-5 11F3E-F 11F41 1612A-C 16F51-87 16FF0-1 1D165-6 1D16D-72"]

def isMark (c : Char) : Bool := isIn nonspacing c || isIn spacingMarks c

end PolicyServer.Host
