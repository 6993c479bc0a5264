import PolicyServer.Text.Stretch

/-! The composed form of a text: characters and the marks on them put together where there is one
character for both. -/

namespace PolicyServer.Host

open Text

/-- The stretches of marks that have a place in an order, each with its class. -/
def classTable : List (Stretch × Nat) := [
  (1, [
    "334-8 1CD4 1CE2-8 20D2-3 20D8-A 20E5-6 20EA-B 10A39 16AF0-4 1BC9E 1D167-9"]),
  (6, ["16FF0-1"]),
  (7, [
    "93C 9BC A3C ABC B3C C3C CBC 1037 1B34 1BE6 1C37 A9B3 110BA 11173 111CA 11236 112E9 1133B-C",
    "11446 114C3 115C0 116B7 1183A 11943 11D42 11F5A 1E94A"]),
  (8, ["3099-A"]),
  (9, [
    "94D 9CD A4D ACD B4D BCD C4D CCD D3B-C D4D DCA E3A EBA F84 1039-A 1714-5 1734 17D2 1A60 1B44",
    "1BAA-B 1BF2-3 2D7F A806 A82C A8C4 A953 A9C0 AAF6 ABED 10A3F 11046 11070 1107F 110B9 11133-4",
    "111C0 11235 112EA 1134D 113CE-D0 11442 114C2 115BF 1163F 116B6 1172B 11839 1193D-E 119E0",
    "11A34 11A47 11A99 11C3F 11D44-5 11D97 11F41-2 1612F"]),
  (10, ["5B0"]), (11, ["5B1"]), (12, ["5B2"]), (13, ["5B3"]), (14, ["5B4"]), (15, ["5B5"]),
  (16, ["5B6"]), (17, ["5B7"]), (18, ["5B8 5C7"]), (19, ["5B9-A"]), (20, ["5BB"]), (21, ["5BC"]),
  (22, ["5BD"]), (23, ["5BF"]), (24, ["5C1"]), (25, ["5C2"]), (26, ["FB1E"]), (27, ["64B 8F0"]),
  (28, ["64C 8F1"]), (29, ["64D 8F2"]), (30, ["618 64E"]), (31, ["619 64F"]), (32, ["61A 650"]),
  (33, ["651"]), (34, ["652"]), (35, ["670"]), (36, ["711"]), (84, ["C55"]), (91, ["C56"]),
  (103, ["E38-9"]), (107, ["E48-B"]), (118, ["EB8-9"]), (122, ["EC8-B"]), (129, ["F71"]),
  (130, ["F72 F7A-D F80"]), (132, ["F74"]), (202, ["321-2 327-8 1DD0"]), (214, ["1DCE"]),
  (216, ["31B F39 1D165-6 1D16E-72"]), (218, ["1DFA 302A"]),
  (220, [
    "316-9 31C-20 323-6 329-33 339-C 347-9 34D-E 353-6 359-A 591 596 59B 5A2-7 5AA 5C5 655-6 65C",
    "65F 6E3 6EA 6ED 731 734 737-9 73B-C 73E 742 744 746 748 7F2 7FD 859-B 899-B 8CF-D3 8E3 8E6",
    "8E9 8ED-F 8F6 8F9-A 952 F18-9 F35 F37 FC6 108D 193B 1A18 1A7F 1AB5-A 1ABD 1ABF-C0 1AC3-4",
    "1ACA 1B6C 1CD5-9 1CDC-F 1CED 1DC2 1DCA 1DCF 1DF9 1DFD 1DFF 20E8 20EC-F A92B-D AAB4 FE27-D",
    "101FD 102E0 10A0D 10A3A 10AE6 10EFA-B 10EFD-F 10F46-7 10F4B 10F4D-50 10F83 10F85 1D17B-82",
    "1D18A-B 1E4EE 1E5EF 1E8D0-6"]),
  (222, ["59A 5AD 1939 302D"]), (224, ["302E-F"]), (226, ["1D16D"]),
  (228, ["5AE 18A9 1DF7-8 302B"]),
  (230, [
    "300-14 33D-46 34A-C 350-2 357 35B 363-F 483-7 592-5 597-9 59C-A1 5A8-9 5AB-C 5AF 5C4 610-7",
    "653-4 657-B 65D-E 6D6-C 6DF-E2 6E4 6E7-8 6EB-C 730 732-3 735-6 73A 73D 73F-41 743 745 747",
    "749-A 7EB-F1 7F3 816-9 81B-23 825-7 829-D 897-8 89C-F 8CA-E 8D4-E1 8E4-5 8E7-8 8EA-C 8F3-5",
    "8F7-8 8FB-F 951 953-4 9FE F82-3 F86-7 135D-F 17DD 193A 1A17 1A75-C 1AB0-4 1ABB-C 1AC1-2",
    "1AC5-9 1ACB-EB 1B6B 1B6D-73 1CD0-2 1CDA-B 1CE0 1CF4 1CF8-9 1DC0-1 1DC3-9 1DCB-C 1DD1-F5 1DFB",
    "1DFE 20D0-1 20D4-7 20DB-C 20E1 20E7 20E9 20F0 2CEF-F1 2DE0-FF A66F A674-D A69E-F A6F0-1",
    "A8E0-F1 AAB0 AAB2-3 AAB7-8 AABE-F AAC1 FE20-6 FE2E-F 10376-A 10A0F 10A38 10AE5 10D24-7",
    "10D69-D 10EAB-C 10F48-A 10F4C 10F82 10F84 11100-2 11366-74 113E1-2 1145E 16B30-6 1D185-9",
    "1D1AA-D 1D242-4 1E000-8F 1E130-6 1E2AE 1E2EC-F 1E4EF 1E5EE 1E6E3 1E6E6 1E6EE-F 1E6F5 1E944-9"]),
  (232, ["315 31A 358 1DF6 302C 1E4EC-D"]), (233, ["35C 35F 362 1DFC"]),
  (234, ["35D-E 360-1 1DCD"])].flatMap fun (number, table) =>
  (Stretch.ofTable table).map (·, number)

/-- The class of a mark, by which marks on one character are ordered; zero for all else. -/
def combiningClass (c : Char) : Nat :=
  ((classTable.find? fun (stretch, _) => stretch.holds c).map (·.2)).getD 0

def pairsOf {α : Type} : List α → List (α × α)
  | a :: b :: rest => (a, b) :: pairsOf rest
  | _ => []

/-- Characters that stand for a character and a mark on it. A word has a mark and pairs of characters, each
without it and with it, or `622=627.653` for a single one. -/
def composites : List (Nat × Nat × Nat) :=
  (wordsOf [
    "300:aàeèiìoòuùüǜnǹеѐиѝēḕōṑwẁâầăằêềôồơờưừyỳἀἂἁἃἐἒἑἓἠἢἡἣἰἲἱἳὀὂὁὃὐὒὑὓὠὢὡὣαὰεὲηὴιὶοὸυὺωὼϊῒϋῢ",
    "301:aáeéiíoóuúyýcćlĺnńrŕsśzźüǘgǵåǻæǽøǿϊΐαάεέηήιίϋΰοόυύωώгѓкќçḉēḗïḯkḱmḿõṍōṓpṕũṹwẃâấăắêếôố",
    "301:ơớưứἀἄἁἅἐἔἑἕἠἤἡἥἰἴἱἵὀὄὁὅὐὔὑὕὠὤὡὥ 302:aâeêiîoôuûcĉgĝhĥjĵsŝwŵyŷzẑạậẹệọộ",
    "303:aãnñoõiĩuũvṽâẫăẵeẽêễôỗơỡưữyỹ 304:aāeēiīoōuūüǖäǟȧǡæǣǫǭöȫõȭȯȱyȳиӣуӯgḡḷḹṛṝαᾱιῑυῡ",
    "306:aăeĕgğiĭoŏuŭийуўжӂаӑеӗȩḝạặαᾰιῐυῠ 307:cċeėgġzżaȧoȯbḃdḋfḟhḣmṁnṅpṗrṙsṡśṥšṧṣṩtṫwẇxẋyẏ",
    "308:aäeëiïoöuüyÿιϊυϋеёіїаӓәӛжӝзӟиӥоӧөӫэӭуӱчӵыӹhḧõṏūṻwẅxẍtẗ 309:aảâẩăẳeẻêểiỉoỏôổơởuủưửyỷ",
    "30A:aåuůwẘyẙ 30B:oőuűуӳ 30C:cčdďeělľnňrřsštťzžaǎiǐoǒuǔüǚgǧkǩʒǯjǰhȟ 30F:aȁeȅiȉoȍrȑuȕѵѷ",
    "311:aȃeȇiȋoȏrȓuȗ 313:αἀεἐηἠιἰοὀυὐωὠρῤ 314:αἁεἑηἡιἱοὁυὑωὡρῥ 31B:oơuư",
    "323:bḅdḍhḥkḳlḷmṃnṇrṛsṣtṭvṿwẉzẓaạeẹiịoọơợuụưựyỵ 324:uṳ 325:aḁ 326:sștț",
    "327:cçgģkķlļnņrŗsştţeȩdḑhḩ 328:aąeęiįuųoǫ 32D:dḓeḙlḽnṋtṱuṷ 32E:hḫ 330:eḛiḭuṵ",
    "331:bḇdḏkḵlḻnṉrṟtṯzẕhẖ",
    "338:←↚→↛↔↮⇐⇍⇔⇎⇒⇏∃∄∈∉∋∌∣∤∥∦∼≁≃≄≅≇≈≉≡≢≍≭<≮>≯≤≰≥≱≲≴≳≵≶≸≷≹≺⊀≻⊁⊂⊄⊃⊅⊆⊈⊇⊉⊢⊬⊨⊭⊩⊮⊫⊯≼⋠≽⋡⊑⋢⊒⋣⊲⋪⊳⋫⊴⋬",
    "338:⊵⋭ 342:ἀἆἁἇἠἦἡἧἰἶἱἷὐὖὑὗὠὦὡὧαᾶηῆιῖϊῗυῦϋῧωῶ 93C:नऩरऱळऴ BD7:ஒஔ 102E:ဥဦ 1B35:ᬅᬆᬇᬈᬉᬊᬋᬌᬍᬎᬑᬒ",
    "3099:かがきぎくぐけげこごさざしじすずせぜそぞただちぢつづてでとどはばひびふぶへべほぼ",
    "3099:うゔカガキギクグケゲコゴサザシジスズセゼソゾタダチヂツヅテデトドハバヒビフブヘベ",
    "3099:ホボウヴワヷヰヸヱヹヲヺ 309A:はぱひぴふぷへぺほぽハパヒピフプヘペホポ 110BA:𑂙𑂚𑂛𑂜𑂥𑂫",
    "622=627.653 623=627.654 624=648.654 625=627.655 626=64A.654 6C0=6D5.654 6C2=6C1.654",
    "6D3=6D2.654 9CB=9C7.9BE 9CC=9C7.9D7 B48=B47.B56 B4B=B47.B3E B4C=B47.B57 BCA=BC6.BBE",
    "BCB=BC7.BBE BCC=BC6.BD7 C48=C46.C56 CC0=CBF.CD5 CC7=CC6.CD5 CC8=CC6.CD6 CCA=CC6.CC2",
    "CCB=CCA.CD5 D4A=D46.D3E D4B=D47.D3E D4C=D46.D57 DDA=DD9.DCA DDC=DD9.DCF DDD=DDC.DCA",
    "DDE=DD9.DDF 1B3B=1B3A.1B35 1B3D=1B3C.1B35 1B40=1B3E.1B35 1B41=1B3F.1B35 1B43=1B42.1B35",
    "2260=3D.338 309E=309D.3099 30FE=30FD.3099 105C9=105D2.307 105E4=105DA.307 1112E=11131.11127",
    "1112F=11132.11127 1134B=11347.1133E 1134C=11347.11357 11383=11382.113C9 11385=11384.113BB",
    "1138E=1138B.113C2 11391=11390.113C9 113C5=113C2.113C2 113C7=113C2.113B8 113C8=113C2.113C9",
    "114BB=114B9.114BA 114BC=114B9.114B0 114BE=114B9.114BD 115BA=115B8.115AF 115BB=115B9.115AF",
    "11938=11935.11930 16121=1611E.1611E 16122=1611E.16129 16123=1611E.1611F 16124=16129.1611F",
    "16125=1611E.16120 16126=16121.1611F 16127=16122.1611F 16128=16121.16120 16D68=16D67.16D67",
    "16D69=16D63.16D67 16D6A=16D69.16D67"]).flatMap fun word =>
    match word.splitOn ":", word.splitOn "=" with
    | [mark, pairs], _ => pairsOf pairs.toList |>.map fun (base, whole) =>
      (whole.toNat, base.toNat, hexNumber mark)
    | _, [whole, parts] =>
      match parts.splitOn "." with
      | [base, mark] => [(hexNumber whole, hexNumber base, hexNumber mark)]
      | _ => []
    | _, _ => []

/-- The two parts of a character, if it has any. A syllable block has a final letter, or an initial
and a vowel. -/
def parts? (c : Char) : Option (Char × Char) :=
  let code := c.toNat
  if 0xAC00 ≤ code ∧ code ≤ 0xD7A3 then
    let index := code - 0xAC00
    if index % 28 = 0 then
      some (Char.ofNat (0x1100 + index / 588), Char.ofNat (0x1161 + index % 588 / 28))
    else some (Char.ofNat (code - index % 28), Char.ofNat (0x11A7 + index % 28))
  else
    (composites.find? (·.1 = code)).map fun (_, base, mark) => (Char.ofNat base, Char.ofNat mark)

def join? (a b : Char) : Option Char :=
  let x := a.toNat
  let y := b.toNat
  if 0x1100 ≤ x ∧ x < 0x1113 ∧ 0x1161 ≤ y ∧ y < 0x1176 then
    some (Char.ofNat (0xAC00 + ((x - 0x1100) * 21 + (y - 0x1161)) * 28))
  else if 0xAC00 ≤ x ∧ x ≤ 0xD7A3 ∧ (x - 0xAC00) % 28 = 0 ∧ 0x11A8 ≤ y ∧ y < 0x11C3 then
    some (Char.ofNat (x + (y - 0x11A7)))
  else (composites.find? fun (_, base, mark) => base = x && mark = y).map fun (whole, _) =>
    Char.ofNat whole

/-- A character taken apart, as far as `depth` goes. -/
def takeApart : Nat → Char → List Char
  | 0, c => [c]
  | depth + 1, c =>
    match parts? c with
    | some (base, mark) => takeApart depth base ++ [mark]
    | none => [c]

/-- Puts a character after others, which are given last first: a mark goes before those of a
higher class. -/
def putInOrder (c : Char) : List Char → List Char
  | [] => [c]
  | other :: rest =>
    if combiningClass c ≠ 0 ∧ combiningClass c < combiningClass other then
      other :: putInOrder c rest
    else c :: other :: rest

/-- Puts characters together. `base` is the last one that is no mark, and `marks` are the marks
after it that stay, last first: a mark joins its base unless one of the same or a higher class
comes between. -/
def joinFrom (base : Char) (marks : List Char) : List Char → List Char
  | [] => base :: marks.reverse
  | c :: rest =>
    let isFree := marks.head?.all fun mark => combiningClass mark < combiningClass c
    match if isFree then join? base c else none with
    | some whole => joinFrom whole marks rest
    | none =>
      if combiningClass c = 0 then base :: marks.reverse ++ joinFrom c [] rest
      else joinFrom base (c :: marks) rest

def compose (text : List Char) : List Char :=
  let apart := (text.flatMap (takeApart 4)).foldl (fun done c => putInOrder c done) []
  let marks := apart.reverse.takeWhile (combiningClass · ≠ 0)
  match apart.reverse.drop marks.length with
  | [] => marks
  | base :: rest => marks ++ joinFrom base [] rest

end PolicyServer.Host
