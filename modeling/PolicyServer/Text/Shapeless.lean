import PolicyServer.Text.Stretch

/-! Code points that have no shape of their own to show: unassigned, control, format and
private-use ones, separators other than the space, and marks that extend the character before. -/

namespace PolicyServer.Text

/-- Code points that stand for nothing that is written: unassigned, control, format and private-use
ones. -/
def vacant : List Stretch := Stretch.ofTable [
  "80-9F 378-9 380-3 38B 38D 3A2 530 557-8 58B-C 590 5C8-F 5EB-E 5F5-605 61C 6DD 70E-F 74B-C",
  "7B2-F 7FB-C 82E-F 83F 85C-D 85F 86B-F 890-6 8E2 984 98D-E 991-2 9A9 9B1 9B3-5 9BA-B 9C5-6",
  "9C9-A 9CF-D6 9D8-B 9DE 9E4-5 9FF-A00 A04 A0B-E A11-2 A29 A31 A34 A37 A3A-B A3D A43-6 A49-A",
  "A4E-50 A52-8 A5D A5F-65 A77-80 A84 A8E A92 AA9 AB1 AB4 ABA-B AC6 ACA ACE-F AD1-F AE4-5 AF2-8",
  "B00 B04 B0D-E B11-2 B29 B31 B34 B3A-B B45-6 B49-A B4E-54 B58-B B5E B64-5 B78-81 B84 B8B-D B91",
  "B96-8 B9B B9D BA0-2 BA5-7 BAB-D BBA-D BC3-5 BC9 BCE-F BD1-6 BD8-E5 BFB-F C0D C11 C29 C3A-B C45",
  "C49 C4E-54 C57 C5B C5E-F C64-5 C70-6 C8D C91 CA9 CB4 CBA-B CC5 CC9 CCE-D4 CD7-B CDF CE4-5 CF0",
  "CF4-F D0D D11 D45 D49 D50-3 D64-5 D80 D84 D97-9 DB2 DBC DBE-F DC7-9 DCB-E DD5 DD7 DE0-5 DF0-1",
  "DF5-E00 E3B-E E5C-80 E83 E85 E8B EA4 EA6 EBE-F EC5 EC7 ECF EDA-B EE0-FF F48 F6D-70 F98 FBD FCD",
  "FDB-FF 10C6 10C8-C 10CE-F 1249 124E-F 1257 1259 125E-F 1289 128E-F 12B1 12B6-7 12BF 12C1",
  "12C6-7 12D7 1311 1316-7 135B-C 137D-F 139A-F 13F6-7 13FE-F 1680 169D-F 16F9-F 1716-E 1737-F",
  "1754-F 176D 1771 1774-F 17DE-F 17EA-F 17FA-F 181A-F 1879-F 18AB-F 18F6-F 191F 192C-F 193C-F",
  "1941-3 196E-F 1975-F 19AC-F 19CA-F 19DB-D 1A1C-D 1A5F 1A7D-E 1A8A-F 1A9A-F 1AAE-F 1ADE-F",
  "1AEC-FF 1B4D 1BF4-B 1C38-A 1C4A-C 1C8B-F 1CBB-C 1CC8-F 1CFB-F 1F16-7 1F1E-F 1F46-7 1F4E-F 1F58",
  "1F5A 1F5C 1F5E 1F7E-F 1FB5 1FC5 1FD4-5 1FDC 1FF0-1 1FF5 1FFF 200E-F 2028-E 2065-9 2072-3 208F",
  "209D-F 20C2-F 20F1-F 218C-F 242A-3F 244B-5F 2B74-5 2CF4-8 2D26 2D28-C 2D2E-F 2D68-E 2D71-E",
  "2D97-F 2DA7 2DAF 2DB7 2DBF 2DC7 2DCF 2DD7 2DDF 2E5E-7F 2E9A 2EF4-F 2FD6-EF 3040 3097-8 3100-4",
  "3130 318F 31E6-E 321F A48D-F A4C7-F A62C-3F A6F8-F A7DD-F0 A82D-F A83A-F A878-F A8C6-D A8DA-F",
  "A954-E A97D-F A9CE A9DA-D A9FF AA37-F AA4E-F AA5A-B AAC3-DA AAF7-B00 AB07-8 AB0F-10 AB17-F",
  "AB27 AB2F AB6C-F ABEE-F ABFA-F D7A4-F D7C7-A D7FC-F8FF FA6E-F FADA-FF FB07-12 FB18-C FB37 FB3D",
  "FB3F FB42 FB45 FDD0-EF FE1A-F FE53 FE67 FE6C-F FE75 FEFD-E FF00 FFBF-C1 FFC8-9 FFD0-1 FFD8-9",
  "FFDD-F FFE7 FFEF-FB FFFE-F 1000C 10027 1003B 1003E 1004E-F 1005E-7F 100FB-F 10103-6 10134-6",
  "1018F 1019D-F 101A1-CF 101FE-27F 1029D-F 102D1-F 102FC-F 10324-C 1034B-F 1037B-F 1039E 103C4-7",
  "103D6-FF 1049E-F 104AA-F 104D4-7 104FC-F 10528-F 10564-E 1057B 1058B 10593 10596 105A2 105B2",
  "105BA 105BD-F 105F4-F 10737-F 10756-F 10768-7F 10786 107B1 107BB-FF 10806-7 10809 10836",
  "10839-B 1083D-E 10856 1089F-A6 108B0-DF 108F3 108F6-A 1091C-E 1093A-E 1095A-7F 109B8-B 109D0-1",
  "10A04 10A07-B 10A14 10A18 10A36-7 10A3B-E 10A49-F 10A59-F 10AA0-BF 10AE7-A 10AF7-F 10B36-8",
  "10B56-7 10B73-7 10B92-8 10B9D-A8 10BB0-FF 10C49-7F 10CB3-F 10CF3-9 10D28-F 10D3A-F 10D66-8",
  "10D86-D 10D90-E5F 10E7F 10EAA 10EAE-F 10EB2-C1 10EC8-F 10ED9-F9 10F28-F 10F5A-6F 10F8A-AF",
  "10FCC-DF 10FF7-F 1104E-51 11076-E 110BD 110C3-F 110E9-F 110FA-F 11135 11148-F 11177-F 111E0",
  "111F5-F 11212 11242-7F 11287 11289 1128E 1129E 112AA-F 112EB-F 112FA-F 11304 1130D-E 11311-2",
  "11329 11331 11334 1133A 11345-6 11349-A 1134E-F 11351-6 11358-C 11364-5 1136D-F 11375-F 1138A",
  "1138C-D 1138F 113B6 113C1 113C3-4 113C6 113CB 113D6 113D9-E0 113E3-FF 1145C 11462-7F 114C8-F",
  "114DA-57F 115B6-7 115DE-FF 11645-F 1165A-F 1166D-7F 116BA-F 116CA-F 116E4-FF 1171B-C 1172C-F",
  "11747-FF 1183C-9F 118F3-E 11907-8 1190A-B 11914 11917 11936 11939-A 11947-F 1195A-9F 119A8-9",
  "119D8-9 119E5-FF 11A48-F 11AA3-F 11AF9-F 11B0A-5F 11B68-BF 11BE2-F 11BFA-F 11C09 11C37 11C46-F",
  "11C6D-F 11C90-1 11CA8 11CB7-FF 11D07 11D0A 11D37-9 11D3B 11D3E 11D48-F 11D5A-F 11D66 11D69",
  "11D8F 11D92 11D99-F 11DAA-F 11DDC-F 11DEA-EDF 11EF9-F 11F11 11F3B-D 11F5B-AF 11FB1-F 11FF2-E",
  "1239A-FF 1246F 12475-F 12544-F8F 12FF3-F 13430-F 13456-F 143FB-F 14647-60FF 1613A-7FF 16A39-F",
  "16A5F 16A6A-D 16ABF 16ACA-F 16AEE-F 16AF6-F 16B46-F 16B5A 16B62 16B78-C 16B90-D3F 16D7A-E3F",
  "16E9B-F 16EB9-A 16ED4-FF 16F4B-E 16F88-E 16FA0-DF 16FE5-F 16FF7-F 18CD6-FE 18D1F-7F 18DF3-AFEF",
  "1AFF4 1AFFC 1AFFF 1B123-31 1B133-4F 1B153-4 1B156-63 1B168-F 1B2FC-BFF 1BC6B-F 1BC7D-F 1BC89-F",
  "1BC9A-B 1BCA4-CBFF 1CCFD-F 1CEB4-9 1CED1-F 1CEF1-F 1CF2E-F 1CF47-F 1CFC4-FF 1D0F6-F 1D127-8",
  "1D1EB-FF 1D246-BF 1D2D4-F 1D2F4-F 1D357-F 1D379-FF 1D455 1D49D 1D4A0-1 1D4A3-4 1D4A7-8 1D4AD",
  "1D4BA 1D4BC 1D4C4 1D506 1D50B-C 1D515 1D51D 1D53A 1D53F 1D545 1D547-9 1D551 1D6A6-7 1D7CC-D",
  "1DA8C-9A 1DAA0 1DAB0-EFF 1DF1F-24 1DF2B-FF 1E007 1E019-A 1E022 1E025 1E02B-F 1E06E-8E 1E090-FF",
  "1E12D-F 1E13E-F 1E14A-D 1E150-28F 1E2AF-BF 1E2FA-E 1E300-4CF 1E4FA-5CF 1E5FB-E 1E600-BF 1E6DF",
  "1E6F6-D 1E700-DF 1E7E7 1E7EC 1E7EF 1E7FF 1E8C5-6 1E8D7-FF 1E94C-F 1E95A-D 1E960-C70 1ECB5-D00",
  "1ED3E-FF 1EE04 1EE20 1EE23 1EE25-6 1EE28 1EE33 1EE38 1EE3A 1EE3C-41 1EE43-6 1EE48 1EE4A 1EE4C",
  "1EE50 1EE53 1EE55-6 1EE58 1EE5A 1EE5C 1EE5E 1EE60 1EE63 1EE65-6 1EE6B 1EE73 1EE78 1EE7D 1EE7F",
  "1EE8A 1EE9C-A0 1EEA4 1EEAA 1EEBC-EF 1EEF2-FFF 1F02C-F 1F094-F 1F0AF-B0 1F0C0 1F0D0 1F0F6-F",
  "1F1AE-E5 1F203-F 1F23C-F 1F249-F 1F252-F 1F266-FF 1F6D9-B 1F6ED-F 1F6FD-F 1F7DA-F 1F7EC-F",
  "1F7F1-F 1F80C-F 1F848-F 1F85A-F 1F888-F 1F8AE-F 1F8BC-F 1F8C2-F 1F8D9-FF 1FA58-F 1FA6E-F",
  "1FA7D-F 1FA8B-D 1FAC7 1FAC9-C 1FADD-E 1FAEB-E 1FAF9-F 1FB93 1FBFB-FFF 2A6E0-FF 2B81E-F 2CEAE-F",
  "2EBE1-F 2EE5E-F7FF 2FA1E-FFF 3134B-F 3347A-E00FF E01F0-10FFFF"]

/-- Marks that stand on the character before them. -/
def marks : List Stretch := Stretch.ofTable [
  "300-6F 483-9 591-BD 5BF 5C1-2 5C4-5 5C7 610-A 64B-5F 670 6D6-C 6DF-E4 6E7-8 6EA-D 711 730-4A",
  "7A6-B0 7EB-F3 7FD 816-9 81B-23 825-7 829-D 859-B 897-F 8CA-902 93A 93C 941-8 94D 951-7 962-3",
  "981 9BC 9C1-4 9CD 9E2-3 9FE-A02 A3C A41-51 A70-1 A75 A81-2 ABC AC1-8 ACD AE2-3 AFA-B01 B3C B3F",
  "B41-4 B4D-56 B62-3 B82 BC0 BCD C00 C04 C3C C3E-40 C46-56 C62-3 C81 CBC CCC-D CE2-3 D00-1 D3B-C",
  "D41-4 D4D D62-3 D81 DCA DD2-6 E31 E34-A E47-E EB1 EB4-C EC8-E F18-9 F35 F37 F39 F71-E F80-4",
  "F86-7 F8D-BC FC6 102D-30 1032-7 1039-A 103D-E 1058-9 105E-60 1071-4 1082 1085-6 108D 109D",
  "135D-F 1712-4 1732-3 1752-3 1772-3 17B7-D 17C6 17C9-D3 17DD 1885-6 18A9 1920-2 1927-8 1932",
  "1939-B 1A17-8 1A1B 1A56 1A58-60 1A62 1A65-C 1A73-F 1AB0-B03 1B34 1B36-A 1B3C 1B42 1B6B-73",
  "1B80-1 1BA2-5 1BA8-9 1BAB-D 1BE6 1BE8-9 1BED 1BEF-F1 1C2C-33 1C36-7 1CD0-2 1CD4-E0 1CE2-8 1CED",
  "1CF4 1CF8-9 1DC0-FF 20D0-F0 2CEF-F1 2D7F 2DE0-FF 302A-D 3099-A A66F-72 A674-D A69E-F A6F0-1",
  "A802 A806 A80B A825-6 A82C A8C4-5 A8E0-F1 A8FF A926-D A947-51 A980-2 A9B3 A9B6-9 A9BC-D A9E5",
  "AA29-E AA31-2 AA35-6 AA43 AA4C AA7C AAB0 AAB2-4 AAB7-8 AABE-F AAC1 AAEC-D AAF6 ABE5 ABE8 ABED",
  "FB1E FE20-F 101FD 102E0 10376-A 10A01-F 10A38-F 10AE5-6 10D24-7 10D69-D 10EAB-C 10EFA-F",
  "10F46-50 10F82-5 11001 11038-46 11070 11073-4 1107F-81 110B3-6 110B9-A 110C2 11100-2 11127-B",
  "1112D-34 11173 11180-1 111B6-E 111C9-C 111CF 1122F-31 11234 11236-7 1123E 11241 112DF 112E3-A",
  "11300-1 1133B-C 11340 11366-74 113BB-C0 113CE 113D0 113D2 113E1-2 11438-F 11442-4 11446 1145E",
  "114B3-8 114BA 114BF-C0 114C2-3 115B2-5 115BC-D 115BF-C0 115DC-D 11633-A 1163D 1163F-40 116AB",
  "116AD 116B0-5 116B7 1171D 1171F 11722-5 11727-B 1182F-37 11839-A 1193B-C 1193E 11943 119D4-B",
  "119E0 11A01-6 11A09-A 11A33-8 11A3B-E 11A47 11A51-6 11A59-B 11A8A-96 11A98-9 11B60 11B62-4",
  "11B66 11C30-D 11C92-A7 11CAA-B0 11CB2-3 11CB5-6 11D31-45 11D47 11D90-1 11D95 11D97 11EF3-4",
  "11F00-1 11F36-A 11F40 11F42 11F5A 13440 13447-55 1611E-29 1612D-F 16AF0-4 16B30-6 16F4F",
  "16F8F-92 16FE4 1BC9D-E 1CF00-46 1D167-9 1D17B-82 1D185-B 1D1AA-D 1D242-4 1DA00-36 1DA3B-6C",
  "1DA75 1DA84 1DA9B-AF 1E000-2F 1E06E-8F 1E130-6 1E2AE 1E2EC-F 1E4EC-F 1E5EE-F 1E6E3 1E6E6",
  "1E6EE-F 1E6F5 1E8D0-6 1E944-A"]

/-- Other marks that extend the character before, other separators, and what counts for nothing. -/
def faint : List Stretch := Stretch.ofTable [
  "A0 AD 9BE 9D7 B3E B57 BBE BD7 CBF-C0 CC2 CC6-8 CCA-B CD5-6 D3E D57 DCF DDF 115F-60 1715 1734",
  "17B4-5 180B-F 1B35 1B3B 1B3D 1B43-4 1BAA 1BF2-3 2000-D 202F 205F-64 206A-F 3000 302E-F 3164",
  "A953 A9C0 FE00-F FEFF FFA0 111C0 11235 1133E 1134D 11357 113B8 113C2 113C5 113C7-9 113CF 114B0",
  "114BD 115AF 116B6 11930 1193D 11A07-8 11C3F 11F41 16FF0-1 1BCA0-3 1D165-6 1D16D-7A E0100-EF"]

/-- Holds for a character above ASCII that has no shape of its own. -/
def isShapeless (c : Char) : Bool := isIn vacant c || isIn marks c || isIn faint c

end PolicyServer.Text
