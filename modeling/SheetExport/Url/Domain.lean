import SheetExport.Text.Bytes
import SheetExport.Text.Character
import SheetExport.Text.Composed
import SheetExport.Url.Domain.Mapping

/-!
# Domain names

A domain name is brought to its ASCII form label by label: the characters are mapped,
the rules for labels are checked, and what is not ASCII is written in Punycode.
-/

/-!
## Punycode

A label with characters beyond ASCII is written as its ASCII characters, a
hyphen if there are any, and the others as steps from one character and place
to the next. Steps are numbers in base 36 whose digits have thresholds that
follow the steps before.
-/

namespace SheetExport.Url.Punycode

def digit (d : Nat) : Char := Char.ofNat (if d < 26 then d + 97 else d + 22)

def value? (c : Char) : Option Nat :=
  if 'a' ≤ c && c ≤ 'z' then some (c.toNat - 97)
  else if 'A' ≤ c && c ≤ 'Z' then some (c.toNat - 65)
  else if '0' ≤ c && c ≤ '9' then some (c.toNat - 22)
  else none

/-- The threshold of the digit at a place, counted in steps of 36. -/
def threshold (bias k : Nat) : Nat :=
  if k ≤ bias then 1 else if bias + 26 ≤ k then 26 else k - bias

/-- Brings a step down to the size of a threshold; also the places this took. -/
def shrink : Nat → Nat → Nat → Nat × Nat
  | 0, delta, k => (delta, k)
  | fuel + 1, delta, k => if 455 < delta then shrink fuel (delta / 35) (k + 36) else (delta, k)

/-- The bias after a step, of which there have been some. -/
def adapt (delta count : Nat) (first : Bool) : Nat :=
  let d := if first then delta / 700 else delta / 2
  let (d, k) := shrink d (d + d / count) 0
  k + 36 * d / (d + 38)

def stepDigits (bias : Nat) : Nat → Nat → Nat → List Char
  | 0, _, _ => []
  | fuel + 1, k, q =>
    let t := threshold bias k
    if q < t then [digit q]
    else digit (t + (q - t) % (36 - t)) :: stepDigits bias fuel (k + 36) ((q - t) / (36 - t))

/-- What has been written, the step so far, the bias, and how many characters
are done. -/
structure Writer where
  out : List Char
  delta : Nat
  bias : Nat
  done : Nat

/-- Goes over one character of the label while the code points `n` are written;
`basic` is the number of ASCII characters. -/
def Writer.pass (basic n : Nat) (w : Writer) (c : Char) : Writer :=
  if c.toNat < n then { w with delta := w.delta + 1 }
  else if c.toNat = n then
    ⟨w.out ++ stepDigits w.bias (w.delta + 1) 36 w.delta, 0,
      adapt w.delta (w.done + 1) (w.done == basic), w.done + 1⟩
  else w

/-- Writes the code points of a sorted list, `n` being the least not yet seen. -/
def Writer.run (label : List Char) (basic : Nat) : List Nat → Nat → Writer → Writer
  | [], _, w => w
  | m :: ms, n, w =>
    let w := { w with delta := w.delta + (m - n) * (w.done + 1) }
    let w := label.foldl (Writer.pass basic m) w
    Writer.run label basic ms (m + 1) { w with delta := w.delta + 1 }

def insert (n : Nat) : List Nat → List Nat
  | [] => [n]
  | m :: ms => if n < m then n :: m :: ms else if n = m then m :: ms else m :: insert n ms

def encode (label : List Char) : List Char :=
  let basic := label.filter (·.toNat < 0x80)
  let points := (label.filter (0x80 ≤ ·.toNat)).foldr (fun c ms => insert c.toNat ms) []
  let start := if basic = [] then [] else basic ++ ['-']
  (Writer.run label basic.length points 0x80 ⟨start, 0, 72, basic.length⟩).out

/-- Reads the digits of a step from place `k` of weight `w` on. -/
def readStep (bias : Nat) : Nat → Nat → Nat → List Char → Option (Nat × List Char)
  | _, _, _, [] => none
  | k, w, i, c :: cs => do
    let d ← value? c
    let t := threshold bias k
    if d < t then some (i + d * w, cs) else readStep bias (k + 36) (w * (36 - t)) (i + d * w) cs

/-- Reads the steps that are left; every one puts a character into the label. -/
def readSteps : Nat → Nat → Nat → Nat → List Char → List Char → Option (List Char)
  | 0, _, _, _, _, _ => none
  | _, _, _, _, out, [] => some out
  | fuel + 1, bias, n, i, out, cs => do
    let (i', cs) ← readStep bias 36 1 i cs
    let count := out.length + 1
    let n := n + i' / count
    let place := i' % count
    if n.isValidChar then
      readSteps fuel (adapt (i' - i) count (i == 0)) n (place + 1)
        (out.insertIdx place (Char.ofNat n)) cs
    else none

def decode? (cs : List Char) : Option (List Char) :=
  let (basic, steps) := match cs.reverse.span (· ≠ '-') with
    | (after, []) => ([], after.reverse)
    | (after, _ :: before) => (before.reverse, after.reverse)
  if basic.all (·.toNat < 0x80) then readSteps (steps.length + 1) 72 0x80 0 basic steps else none

end SheetExport.Url.Punycode

/-!
## Directions of writing

In a domain name with characters that are written from the right, every label
must be written in one direction. `runsOneWay` states the rule for a label.
-/

namespace SheetExport.Url.Domain

open Text (Table.rows Table.contains)

/-- What a character has to do with the direction of writing. -/
inductive Direction where
  | left
  | right
  | arabicDigit
  | digit
  | mark
  | neutral
  deriving DecidableEq, Repr

def rightTable : List (List Nat) :=
  Table.rows
    ["5BE 5C0 5C3 5C6 5D0:5F4 608 60B 60D 61B:64A 66D:66F 671:6D5 6E5:6E6 6EE:6EF 6FA:710",
    "712:72F 74D:7A5 7B1:7EA 7F4:7F5 7FA 7FE:815 81A 824 828 830:858 85E:88E 8A0:8C9 FBB2:FBC2",
    "FE73 10800:1091B 10920:1093F 10980:10A00 10A10:10A35 10A40:10AE4 10AEB:10B35 10B40:10D23",
    "10E80:10EA9 10EAD:10EB1 10F00:10F45 10F51:10F81 10F86:10FF6 1E800:1E8CF 1E922:1E943",
    "1E94B:1ED3D"]

def arabicDigitTable : List (List Nat) :=
  Table.rows
    ["660:669 66B:66C 10D30:10D39 10E60:10E7E"]

def digitTable : List (List Nat) :=
  Table.rows
    ["6F0:6F9 102E1:102FB"]

/-- Marks that take no room of their own. -/
def markTable : List (List Nat) :=
  Table.rows
    ["300:36F 483:489 591:5BD 5BF 5C1:5C2 5C4:5C5 5C7 610:61A 64B:65F 670 6D6:6DC 6DF:6E4",
    "6E7:6E8 6EA:6ED 711 730:74A 7A6:7B0 7EB:7F3 7FD 816:819 81B:823 825:827 829:82D 859:85B",
    "898:89F 8CA:902 93A 93C 941:948 94D 951:957 962:963 981 9BC 9C1:9C4 9CD 9E2:9E3 9FE:A02",
    "A3C A41:A51 A70:A71 A75 A81:A82 ABC AC1:AC8 ACD AE2:AE3 AFA:B01 B3C B3F B41:B44 B4D:B56",
    "B62:B63 B82 BC0 BCD C00 C04 C3C C3E:C40 C46:C56 C62:C63 C81 CBC CCC:CCD CE2:CE3 D00:D01",
    "D3B:D3C D41:D44 D4D D62:D63 D81 DCA DD2:DD6 E31 E34:E3A E47:E4E EB1 EB4:EBC EC8:ECD",
    "F18:F19 F35 F37 F39 F71:F7E F80:F84 F86:F87 F8D:FBC FC6 102D:1030 1032:1037 1039:103A",
    "103D:103E 1058:1059 105E:1060 1071:1074 1082 1085:1086 108D 109D 135D:135F 1712:1714",
    "1732:1733 1752:1753 1772:1773 17B7:17BD 17C6 17C9:17D3 17DD 1885:1886 18A9 1920:1922",
    "1927:1928 1932 1939:193B 1A17:1A18 1A1B 1A56 1A58:1A60 1A62 1A65:1A6C 1A73:1A7F 1AB0:1ACE",
    "1B00:1B03 1B34 1B36:1B3A 1B3C 1B42 1B6B:1B73 1B80:1B81 1BA2:1BA5 1BA8:1BA9 1BAB:1BAD 1BE6",
    "1BE8:1BE9 1BED 1BEF:1BF1 1C2C:1C33 1C36:1C37 1CD0:1CD2 1CD4:1CE0 1CE2:1CE8 1CED 1CF4",
    "1CF8:1CF9 1DC0:1DFF 20D0:20F0 2CEF:2CF1 2D7F 2DE0:2DFF 302A:302D 3099:309A A66F:A672",
    "A674:A67D A69E:A69F A6F0:A6F1 A802 A806 A80B A825:A826 A82C A8C4:A8C5 A8E0:A8F1 A8FF",
    "A926:A92D A947:A951 A980:A982 A9B3 A9B6:A9B9 A9BC:A9BD A9E5 AA29:AA2E AA31:AA32 AA35:AA36",
    "AA43 AA4C AA7C AAB0 AAB2:AAB4 AAB7:AAB8 AABE:AABF AAC1 AAEC:AAED AAF6 ABE5 ABE8 ABED FB1E",
    "FE20:FE2F 101FD 102E0 10376:1037A 10A01:10A0F 10A38:10A3F 10AE5:10AE6 10D24:10D27",
    "10EAB:10EAC 10F46:10F50 10F82:10F85 11001 11038:11046 11070 11073:11074 1107F:11081",
    "110B3:110B6 110B9:110BA 110C2 11100:11102 11127:1112B 1112D:11134 11173 11180:11181",
    "111B6:111BE 111C9:111CC 111CF 1122F:11231 11234 11236:11237 1123E 112DF 112E3:112EA",
    "11300:11301 1133B:1133C 11340 11366:11374 11438:1143F 11442:11444 11446 1145E 114B3:114B8",
    "114BA 114BF:114C0 114C2:114C3 115B2:115B5 115BC:115BD 115BF:115C0 115DC:115DD 11633:1163A",
    "1163D 1163F:11640 116AB 116AD 116B0:116B5 116B7 1171D:1171F 11722:11725 11727:1172B",
    "1182F:11837 11839:1183A 1193B:1193C 1193E 11943 119D4:119DB 119E0 11A01:11A06 11A09:11A0A",
    "11A33:11A38 11A3B:11A3E 11A47 11A51:11A56 11A59:11A5B 11A8A:11A96 11A98:11A99 11C30:11C3D",
    "11C92:11CA7 11CAA:11CB0 11CB2:11CB3 11CB5:11CB6 11D31:11D45 11D47 11D90:11D91 11D95 11D97",
    "11EF3:11EF4 16AF0:16AF4 16B30:16B36 16F4F 16F8F:16F92 16FE4 1BC9D:1BC9E 1CF00:1CF46",
    "1D167:1D169 1D17B:1D182 1D185:1D18B 1D1AA:1D1AD 1D242:1D244 1DA00:1DA36 1DA3B:1DA6C 1DA75",
    "1DA84 1DA9B:1DAAF 1E000:1E02A 1E130:1E136 1E2AE 1E2EC:1E2EF 1E8D0:1E8D6 1E944:1E94A"]

/-- Marks that take room. -/
def roomyMarkTable : List (List Nat) :=
  Table.rows
    ["903 93B 93E:940 949:94C 94E:94F 982:983 9BE:9C0 9C7:9CC 9D7 A03 A3E:A40 A83 ABE:AC0",
    "AC9:ACC B02:B03 B3E B40 B47:B4C B57 BBE:BBF BC1:BCC BD7 C01:C03 C41:C44 C82:C83 CBE:CCB",
    "CD5:CD6 D02:D03 D3E:D40 D46:D4C D57 D82:D83 DCF:DD1 DD8:DDF DF2:DF3 F3E:F3F F7F 102B:102C",
    "1031 1038 103B:103C 1056:1057 1062:1064 1067:106D 1083:1084 1087:108C 108F 109A:109C 1715",
    "1734 17B6 17BE:17C5 17C7:17C8 1923:1926 1929:1931 1933:1938 1A19:1A1A 1A55 1A57 1A61",
    "1A63:1A64 1A6D:1A72 1B04 1B35 1B3B 1B3D:1B41 1B43:1B44 1B82 1BA1 1BA6:1BA7 1BAA 1BE7",
    "1BEA:1BEC 1BEE 1BF2:1BF3 1C24:1C2B 1C34:1C35 1CE1 1CF7 302E:302F A823:A824 A827 A880:A881",
    "A8B4:A8C3 A952:A953 A983 A9B4:A9B5 A9BA:A9BB A9BE:A9C0 AA2F:AA30 AA33:AA34 AA4D AA7B AA7D",
    "AAEB AAEE:AAEF AAF5 ABE3:ABE4 ABE6:ABE7 ABE9:ABEA ABEC 11000 11002 11082 110B0:110B2",
    "110B7:110B8 1112C 11145:11146 11182 111B3:111B5 111BF:111C0 111CE 1122C:1122E 11232:11233",
    "11235 112E0:112E2 11302:11303 1133E:1133F 11341:1134D 11357 11362:11363 11435:11437",
    "11440:11441 11445 114B0:114B2 114B9 114BB:114BE 114C1 115AF:115B1 115B8:115BB 115BE",
    "11630:11632 1163B:1163C 1163E 116AC 116AE:116AF 116B6 11720:11721 11726 1182C:1182E 11838",
    "11930:11938 1193D 11940 11942 119D1:119D3 119DC:119DF 119E4 11A07:11A08 11A39 11A57:11A58",
    "11A97 11C2F 11C3E:11C3F 11CA9 11CB1 11CB4 11D8A:11D8E 11D93:11D94 11D96 11EF5:11EF6",
    "16F51:16F87 16FF0:16FF1 1D165:1D166 1D16D:1D172"]

/-- Other characters without a direction. -/
def neutralTable : List (List Nat) :=
  Table.rows
    ["A1:D7 F7 2B9:2BA 2C2:2CF 2D2:2ED 2EF:2FF 375 3F6 58A:58F 606:607 609:60A 60C 60E:60F 66A",
    "6DE 6E9 7F6:7F9 9F2:9F3 9FB AF1 BF3:BFA C78:C7E E3F F3A:F3D 1390:1399 1400 169B:169C 17DB",
    "17F0:180A 1940:1945 19DE:19FF 200C:20C0 2104:214D 218A:2335 237B:2394 2396:2426 2440:26AB",
    "26AD:27FF 2900:2B95 2B97:2BFF 2CE5:2CEA 2CF9:2CFF 2E00:3004 3008:3020 3030 3037 303D:303F",
    "30A0 30FB 31C0:31E3 4DC0:4DFF A490:A4C6 A60D:A60F A673 A67E:A67F A700:A721 A788 A828:A82B",
    "A838:A839 A874:A877 AB6A:AB6B FD3E:FD4F FDCF:FDFF FE45:FE46 10101 10140:1018C 10190:101A0",
    "1091F 10B39:10B3F 11052:11065 11660:1166C 11FD5:11FF1 16FE2 1D1E9:1D241 1D245 1D300:1D356",
    "1E2FF 1EEF0:1F12F 1F16D:1F16F 1F1AD 1F260:1F6D7 1F6DD:1F773 1F780:1F7D8 1F7E0:1F8B1",
    "1F900:1FA53 1FA60:1FA74 1FA78:1FA86 1FA90:1FAAC 1FAB0:1FABA 1FAC0:1FAC5 1FAD0:1FAD9",
    "1FAE0:1FAE7 1FAF0:1FAF6 1FB00:1FBCA"]

/-- A mark that takes no room of its own. -/
def isThinMark (c : Char) : Bool := Table.contains markTable c

def isMark (c : Char) : Bool := isThinMark c || Table.contains roomyMarkTable c

def directionOf (c : Char) : Direction :=
  if c.toNat < 0x80 then
    if c.isDigit then .digit else if c.isAlpha then .left else .neutral
  else if Table.contains rightTable c then .right
  else if Table.contains arabicDigitTable c then .arabicDigit
  else if Table.contains digitTable c then .digit
  else if isThinMark c then .mark
  else if Table.contains neutralTable c then .neutral
  else .left

/-- Of a character that is written from the right. -/
def Direction.isFromRight (d : Direction) : Bool := d == .right || d == .arabicDigit

/-- The direction at the end of a label, its marks aside. -/
def lastDirection? (ds : List Direction) : Option Direction :=
  (ds.reverse.dropWhile (· == .mark)).head?

/-- The rule for a label that begins with a letter written from the right. -/
def runsLeftward (ds : List Direction) : Bool :=
  !ds.contains .left && lastDirection? ds != some .neutral &&
    !(ds.contains .digit && ds.contains .arabicDigit)

/-- The rule for a label that begins with a letter written from the left. -/
def runsRightward (ds : List Direction) : Bool :=
  !ds.any Direction.isFromRight && lastDirection? ds != some .neutral

def runsOneWay (label : List Char) : Bool :=
  let ds := label.map directionOf
  match ds with
  | [] => true
  | .right :: _ => runsLeftward ds
  | .left :: _ => runsRightward ds
  | _ => false

end SheetExport.Url.Domain

/-!
## Joiners

Two characters without a shape say whether the letters beside them join. They
stand only where that matters: after a mark that suppresses a vowel, and the one
that keeps letters apart also between letters that would join.
-/

namespace SheetExport.Url.Domain

open Text (Table.rows Table.contains)

def joinsBeforeTable : List (List Nat) :=
  Table.rows
    ["622:625 627 629 62F:632 648 671:673 688:699 6C0 6C3:6CB 6CD 6CF 6D2:6D3 6D5 6EE:6EF 710",
    "715:719 71E 728 72A 72C 72F 74D 759:75B 76B:76C 771 773:774 778:779 840 846:847 849 854",
    "856:858 867 869:882 88E 8AA:8AC 8AE 8B1:8B2 8B9 10AC5 10AC7 10AC9:10ACA 10ACE:10AD2 10ADD",
    "10AE1 10AE4 10AEF 10B81 10B83:10B85 10B89 10B8C 10B8E:10B8F 10B91 10BA9:10BAC 10D22 10EC2",
    "10F33 10F54 10F74:10F75 10FB4:10FB6 10FB9:10FBA 10FBD 10FC2:10FC3 10FC9"]

def joinsAfterTable : List (List Nat) :=
  Table.rows
    ["A872 10ACD 10AD7 10D00 10FCB"]

def joinsBothTable : List (List Nat) :=
  Table.rows
    ["620 626 628 62A:62E 633:63F 641:647 649:64A 66E:66F 679:687 69A:6BF 6C1:6C2 6CC 6CE",
    "6D0:6D1 6FA:6FC 6FF 712:714 71A:71D 71F:727 729 72B 72D:72E 74E:758 75C:76A 76D:770 772",
    "775:777 77A:77F 7CA:7EA 841:845 848 84A:853 855 860 862:865 868 886 889:88D 88F 8A0:8A9",
    "8AF:8B0 8B3:8B8 8BA:8C8 1807 1820:1878 1887:18A8 18AA A840:A871 10AC0:10AC4 10AD3:10AD6",
    "10AD8:10ADC 10ADE:10AE0 10AEB:10AEE 10B80 10B82 10B86:10B88 10B8A:10B8B 10B8D 10B90",
    "10BAD:10BAE 10D01:10D21 10D23 10EC3:10EC4 10EC6:10EC7 10F30:10F32 10F34:10F44 10F51:10F53",
    "10F70:10F73 10F76:10F81 10FB0 10FB2:10FB3 10FB8 10FBB:10FBC 10FBE:10FBF 10FC1 10FC4 10FCA",
    "1E922:1E943"]

def nonJoiner : Char := Char.ofNat 0x200C

def joiner : Char := Char.ofNat 0x200D

/-- The class of marks that suppress a vowel. -/
def viramaClass : Nat := 9

def joinsAfter (c : Char) : Bool :=
  Table.contains joinsAfterTable c || Table.contains joinsBothTable c

def joinsBefore (c : Char) : Bool :=
  Table.contains joinsBeforeTable c || Table.contains joinsBothTable c

/-- The first character that is no mark satisfies a condition. -/
def firstLetter (p : Char → Bool) (cs : List Char) : Bool :=
  ((cs.dropWhile isThinMark).head?.map p).getD false

/-- A joiner stands where it matters, between what is before it, the last
character first, and what is after it. -/
def joinerSound (before : List Char) (c : Char) (after : List Char) : Bool :=
  let afterVirama := (before.head?.map fun d => decide (Text.markClass d = viramaClass)).getD false
  if c = joiner then afterVirama
  else if c = nonJoiner then
    afterVirama || (firstLetter joinsAfter before && firstLetter joinsBefore after)
  else true

/-- All joiners stand where they matter; `before` is what stands before the
text, the last character first. -/
def joinersSound (before : List Char) : List Char → Bool
  | [] => true
  | c :: cs => joinerSound before c cs && joinersSound (c :: before) cs

end SheetExport.Url.Domain

/-!
## ASCII forms

`Domain.toAscii?` gives the ASCII form of a domain name: characters in the form
in which they are written, and labels with others than ASCII characters in
Punycode after a mark. Some ASCII characters never stand in a domain name of an
address.
-/

namespace SheetExport.Url.Domain

def punycodeMark : List Char := ['x', 'n', '-', '-']

def isForbidden (c : Char) : Bool :=
  c.toNat ≤ 0x20 || c.toNat == 0x7F ||
    ['#', '%', '/', ':', '<', '>', '?', '@', '[', '\\', ']', '^', '|'].contains c

def isAscii (c : Char) : Bool := c.toNat < 0x80

/-- The form in which a text is written in a domain name. -/
def written (cs : List Char) : List Char := Text.composed (cs.flatMap mapChar)

/-- A character that may stand in a label. -/
def isUsable (c : Char) : Bool := if isAscii c then !isForbidden c else !isBarred c

/-- A label of usable characters that begins with no mark. -/
def isSound (label : List Char) : Bool :=
  label.all isUsable && !(label.head?.any isMark) && joinersSound [] label

/-- A label that is in Punycode stands for another. It must be the one that is
written in this way. -/
def unfolded? (label : List Char) : Option (List Char) :=
  if punycodeMark.isPrefixOf label then do
    let digits := label.drop punycodeMark.length
    let plain ← Punycode.decode? digits
    if !plain.all isAscii && written plain == plain && Punycode.encode plain == digits then
      some plain
    else none
  else some label

def folded (label : List Char) : List Char :=
  if label.all isAscii then label else punycodeMark ++ Punycode.encode label

/-- The labels agree on the direction of writing. -/
def directionsSound (labels : List (List Char)) : Bool :=
  !labels.any (·.any fun c => (directionOf c).isFromRight) || labels.all runsOneWay

/-- The ASCII form of a domain name, given as bytes. -/
def toAscii? (bs : List UInt8) : Option (List Char) := do
  let cs := Text.Utf8.decodeLossy bs
  if Text.Utf8.encode cs != bs then none
  else
    let labels ← (Text.pieces (· == '.') (written cs)).mapM unfolded?
    if labels.all isSound && directionsSound labels then
      return ['.'].intercalate (labels.map folded)
    else none

end SheetExport.Url.Domain
