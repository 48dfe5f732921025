import OverlayFabric.Text.CharTable

namespace OverlayFabric.Text

inductive Joining where
  | alone
  | left
  | right
  | dual
  | transparent
  deriving DecidableEq, Repr

def joinings : CharTable Joining := .ofTexts
  [(.dual, "0620 0626 0628 062A-062E 0633-063F 0641-0647 0649-064A 066E-066F 0678-0687 069A-06BF
     06C1-06C2 06CC 06CE 06D0-06D1 06FA-06FC 06FF 0712-0714 071A-071D 071F-0727 0729 072B
     072D-072E 074E-0758 075C-076A 076D-0770 0772 0775-0777 077A-077F 07CA-07EA 0841-0845 0848
     084A-0853 0855 0860 0862-0865 0868 0886 0889-088D 088F 08A0-08A9 08AF-08B0 08B3-08B8
     08BA-08C8 1807 1820-1878 1887-18A8 18AA A840-A871 10AC0-10AC4 10AD3-10AD6 10AD8-10ADC
     10ADE-10AE0 10AEB-10AEE 10B80 10B82 10B86-10B88 10B8A-10B8B 10B8D 10B90 10BAD-10BAE
     10D01-10D21 10D23 10EC3-10EC4 10EC6-10ECF 10F30-10F32 10F34-10F44 10F51-10F53 10F70-10F73
     10F76-10F81 10FB0 10FB2-10FB3 10FB8 10FBB-10FBC 10FBE-10FBF 10FC1 10FC4 10FCA 1E900-1E943"),
   (.left, "A872 10ACD 10AD7 10D00 10FCB"),
   (.right, "0622-0625 0627 0629 062F-0632 0648 0671-0673 0675-0677 0688-0699 06C0 06C3-06CB 06CD
     06CF 06D2-06D3 06D5 06EE-06EF 0710 0715-0719 071E 0728 072A 072C 072F 074D 0759-075B
     076B-076C 0771 0773-0774 0778-0779 0840 0846-0847 0849 0854 0856-0858 0867 0869-0882 088E
     08AA-08AC 08AE 08B1-08B2 08B9 10AC5 10AC7 10AC9-10ACA 10ACE-10AD2 10ADD 10AE1 10AE4 10AEF
     10B81 10B83-10B85 10B89 10B8C 10B8E-10B8F 10B91 10BA9-10BAC 10D22 10EC2 10F33 10F54
     10F74-10F75 10FB4-10FB6 10FB9-10FBA 10FBD 10FC2-10FC3 10FC9"),
   (.transparent, "00AD 0300-036F 0483-0489 0591-05BD 05BF 05C1-05C2 05C4-05C5 05C7-05C8 0610-061A
     061C 064B-065F 0670 06D6-06DC 06DF-06E4 06E7-06E8 06EA-06ED 070F 0711 0730-074A 07A6-07B0
     07EB-07F3 07FD 0816-0819 081B-0823 0825-0827 0829-082D 0859-085B 0897-089F 08CA-08E1
     08E3-0902 093A 093C 0941-0948 094D 0951-0957 0962-0963 0981 09BC 09C1-09C4 09CD 09E2-09E3
     09FE-0A02 0A3C 0A41-0A51 0A70-0A71 0A75 0A81-0A82 0ABC 0AC1-0AC8 0ACD 0AE2-0AE3 0AFA-0B01
     0B3C 0B3F 0B41-0B44 0B4D-0B56 0B62-0B63 0B82 0BC0 0BCD 0C00 0C04 0C3C 0C3E-0C40 0C46-0C56
     0C62-0C63 0C81 0CBC 0CBF 0CC6 0CCC-0CCD 0CE2-0CE3 0D00-0D01 0D3B-0D3C 0D41-0D44 0D4D
     0D62-0D63 0D81 0DCA 0DD2-0DD6 0E31 0E34-0E3A 0E47-0E4E 0EB1 0EB4-0EBC 0EC8-0ECE 0F18-0F19
     0F35 0F37 0F39 0F71-0F7E 0F80-0F84 0F86-0F87 0F8D-0FBC 0FC6 102D-1030 1032-1037 1039-103A
     103D-103E 1058-1059 105E-1060 1071-1074 1082 1085-1086 108D 109D 135D-135F 1712-1714
     1732-1733 1752-1753 1772-1773 17B4-17B5 17B7-17BD 17C6 17C9-17D3 17DD 180B-180D 180F
     1885-1886 18A9 1920-1922 1927-1928 1932 1939-193B 1A17-1A18 1A1B 1A56 1A58-1A60 1A62
     1A65-1A6C 1A73-1A7F 1AB0-1B03 1B34 1B36-1B39 1B3C 1B42 1B6B-1B73 1B80-1B81 1BA2-1BA5
     1BA8-1BA9 1BAB-1BAD 1BE6 1BE8-1BE9 1BED 1BEF-1BF1 1C2C-1C33 1C36-1C37 1CD0-1CD2 1CD4-1CE0
     1CE2-1CE8 1CED 1CF4 1CF8-1CF9 1DC0-1DFF 200B 200E-200F 202A-202E 2060-2064 206A-206F
     20D0-20F0 2CEF-2CF1 2D7F 2DE0-2DFF 302A-302D 3099-309A A66F-A672 A674-A67D A69E-A69F
     A6F0-A6F1 A802 A806 A80B A825-A826 A82C A8C4-A8C5 A8E0-A8F1 A8FF A926-A92D A947-A951
     A980-A982 A9B3 A9B6-A9B9 A9BC-A9BD A9E5 AA29-AA2E AA31-AA32 AA35-AA36 AA43 AA4C AA7C AAB0
     AAB2-AAB4 AAB7-AAB8 AABE-AABF AAC1 AAEC-AAED AAF6 ABE5 ABE8 ABED FB1E FE00-FE0F FE20-FE2F
     FEFF FFF9-FFFB 101FD 102E0 10376-1037A 10A01-10A0F 10A38-10A3F 10AE5-10AE6 10D24-10D27
     10D69-10D6D 10EAB-10EAC 10EFA-10EFF 10F46-10F50 10F82-10F85 11001 11038-11046 11070
     11073-11074 1107F-11081 110B3-110B6 110B9-110BA 110C2 11100-11102 11127-1112B 1112D-11134
     11173 11180-11181 111B6-111BE 111C9-111CC 111CF 1122F-11231 11234 11236-11237 1123E 11241
     112DF 112E3-112EA 11300-11301 1133B-1133C 11340 11366-11374 113BB-113C0 113CE 113D0 113D2
     113E1-113E2 11438-1143F 11442-11444 11446 1145E 114B3-114B8 114BA 114BF-114C0 114C2-114C3
     115B2-115B5 115BC-115BD 115BF-115C0 115DC-115DD 11633-1163A 1163D 1163F-11640 116AB 116AD
     116B0-116B5 116B7 1171D 1171F 11722-11725 11727-1172B 1182F-11837 11839-1183A 1193B-1193C
     1193E 11943 119D4-119DB 119E0 11A01-11A0A 11A33-11A38 11A3B-11A3E 11A47 11A51-11A56
     11A59-11A5B 11A8A-11A96 11A98-11A99 11B60 11B62-11B64 11B66 11C30-11C3D 11C3F 11C92-11CA7
     11CAA-11CB0 11CB2-11CB3 11CB5-11CB6 11D31-11D45 11D47 11D90-11D91 11D95 11D97 11EF3-11EF4
     11F00-11F01 11F36-11F3A 11F40 11F42 11F5A 13430-13440 13447-13455 1611E-16129 1612D-1612F
     16AF0-16AF4 16B30-16B36 16F4F 16F8F-16F92 16FE4 1BC9D-1BC9E 1BCA0-1BCA3 1CF00-1CF46
     1D167-1D169 1D173-1D182 1D185-1D18B 1D1AA-1D1AD 1D242-1D244 1DA00-1DA36 1DA3B-1DA6C 1DA75
     1DA84 1DA9B-1DAAF 1E000-1E02A 1E08F 1E130-1E136 1E2AE 1E2EC-1E2EF 1E4EC-1E4EF 1E5EE-1E5EF
     1E6E3 1E6E6 1E6EE-1E6EF 1E6F5 1E8D0-1E8D6 1E944-1E94B E0001-E01EF")]

def joining (c : Char) : Joining := ((joinings.find? c).map Run.value).getD .alone

def joinsAs (kinds : List Joining) (cs : List Char) : Bool :=
  ((cs.find? fun c => joining c != .transparent).map fun c => kinds.contains (joining c)).getD false

end OverlayFabric.Text
