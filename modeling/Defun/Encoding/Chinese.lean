import Defun.Encoding.Big5Table
import Defun.Encoding.GuobiaoTable
import Defun.Unicode.CharSet

/-!
# Chinese encodings

GBK and GB 18030 share their characters of two octets; GB 18030 writes all other
characters with four.  Big5 has characters of two octets, four of which stand
for a letter with a combining mark.
-/

namespace Defun

namespace Encoding

/-- The numbers of the first characters of four octets in each run of
consecutive characters, and the characters in hexadecimal. -/
def fourOctetTable : List String :=
  ["0:80 36:A5 38:A9 45:B2 50:B8 81:D8 89:E2 95:EB 96:EE 100:F4 103:F8",
   "104:FB 105:FD 109:102 126:114 133:11C 148:12C 172:145 175:149",
   "179:14E 208:16C 306:1CF 307:1D1 308:1D3 309:1D5 310:1D7 311:1D9",
   "312:1DB 313:1DD 341:1FA 428:252 443:262 544:2C8 545:2CC 558:2DA",
   "741:3A2 742:3AA 749:3C2 750:3CA 805:402 819:450 820:452 7922:2011",
   "7924:2017 7925:201A 7927:201E 7934:2027 7943:2031 7944:2034",
   "7945:2036 7950:203C 8062:20AD 8148:2104 8149:2106 8152:210A",
   "8164:2117 8174:2122 8236:216C 8240:217A 8262:2194 8264:219A",
   "8374:2209 8380:2210 8381:2212 8384:2216 8388:221B 8390:2221",
   "8392:2224 8393:2226 8394:222C 8396:222F 8401:2238 8406:223E",
   "8416:2249 8419:224D 8424:2253 8437:2262 8439:2268 8445:2270",
   "8482:2296 8485:229A 8496:22A6 8521:22C0 8603:2313 8936:246A",
   "8946:249C 9046:254C 9050:2574 9063:2590 9066:2596 9076:25A2",
   "9092:25B4 9100:25BE 9108:25C8 9111:25CC 9113:25D0 9131:25E6",
   "9162:2607 9164:260A 9218:2641 9219:2643 11329:2E82 11331:2E85",
   "11334:2E89 11336:2E8D 11346:2E98 11361:2EA8 11363:2EAB 11366:2EAF",
   "11370:2EB4 11372:2EB8 11375:2EBC 11389:2ECB 11682:2FFC 11686:3004",
   "11687:3018 11692:301F 11694:302A 11714:303F 11716:3094 11723:309F",
   "11725:30F7 11730:30FF 11736:312A 11982:322A 11989:3232 12102:32A4",
   "12336:3390 12348:339F 12350:33A2 12384:33C5 12393:33CF 12395:33D3",
   "12397:33D6 12510:3448 12553:3474 12851:359F 12962:360F 12973:361B",
   "13738:3919 13823:396F 13919:39D1 13933:39E0 14080:3A74 14298:3B4F",
   "14585:3C6F 14698:3CE1 15583:4057 15847:4160 16318:4338 16434:43AD",
   "16438:43B2 16481:43DE 16729:44D7 17102:464D 17122:4662 17315:4724",
   "17320:472A 17402:477D 17418:478E 17859:4948 17909:497B 17911:497E",
   "17915:4984 17916:4987 17936:499C 17939:49A0 17961:49B8 18664:4C78",
   "18703:4CA4 18814:4D1A 18962:4DAF 19043:9FA6 33469:E76C 33470:E7C8",
   "33471:E7E7 33484:E815 33485:E819 33490:E81F 33497:E827 33501:E82D",
   "33505:E833 33513:E83C 33520:E844 33536:E856 33550:E865 37845:F92D",
   "37921:F97A 37948:F996 38029:F9E8 38038:F9F2 38064:FA10 38065:FA12",
   "38066:FA15 38069:FA19 38075:FA22 38076:FA25 38078:FA2A 39108:FE32",
   "39109:FE45 39113:FE53 39114:FE58 39115:FE67 39116:FE6C 39265:FF5F",
   "39394:FFE6"]

def hexNumber (digits : List Char) : Nat :=
  digits.foldl (fun value digit => value * 16 + (CharSet.hexDigit? digit).getD 0) 0

/-- The runs of consecutive characters of four octets: the number of the first
one and its code point. -/
def fourOctetRuns : List (Nat × Nat) :=
  (fourOctetTable.flatMap fun line => line.splitOn " ").filterMap fun entry =>
    match entry.splitOn ":" with
    | [number, code] =>
        some (number.toNat?.getD 0, hexNumber code.toList)
    | _ => none

/-- The code point of a numbered character of four octets below U+10000. -/
def fourOctetCode (number : Nat) : Nat :=
  match fourOctetRuns.findRev? fun (first, _) => first ≤ number with
  | some (first, code) => code + (number - first)
  | none => number

def fourOctets (first second third fourth : UInt8) : Decoded :=
  if third < 0x81 || third = 0xFF || fourth < 0x30 || fourth > 0x39 then .malformed
  else
    let number := (((first.toNat - 0x81) * 10 + (second.toNat - 0x30)) * 126 +
      (third.toNat - 0x81)) * 10 + (fourth.toNat - 0x30)
    if number < 39420 then .one (Char.ofNat (fourOctetCode number)) 3
    else if 189000 ≤ number && number < 189000 + 0x100000 then
      .one (Char.ofNat (number - 189000 + 0x10000)) 3
    else .malformed

/-- Decodes a piece of GBK, or of GB 18030 if characters may have four
octets. -/
def guobiaoPiece (hasFour : Bool) (octet : UInt8) (rest : Bytes) : Decoded :=
  if octet < 0x80 then .one (ascii octet) 0
  else if octet = 0x80 then .one '\u20ac' 0
  else if octet = 0xFF then .malformed
  else
    let row := (octet.toNat - 0x81) * 190
    match rest with
    | [] => .malformed
    | second :: rest =>
        if 0x40 ≤ second && second ≤ 0x7E then
          .one (guobiao.find (row + (second.toNat - 0x40))) 1
        else if 0x80 ≤ second && second ≤ 0xFE then
          .one (guobiao.find (row + (second.toNat - 0x41))) 1
        else if hasFour && 0x30 ≤ second && second < 0x40 then
          match rest with
          | third :: fourth :: _ => fourOctets octet second third fourth
          | _ => .malformed
        else .malformed

def gbkChars (text : Bytes) : List Char := decodeWith (guobiaoPiece false) text

def gb18030Chars (text : Bytes) : List Char := decodeWith (guobiaoPiece true) text

/-- The places of Big5 that stand for two characters. -/
def big5Combined : List (Nat × List Char) :=
  [(1133, ['\u00ca', '\u0304']), (1135, ['\u00ca', '\u030c']),
   (1164, ['\u00ea', '\u0304']), (1166, ['\u00ea', '\u030c'])]

def big5Place (index : Nat) : List Char :=
  (big5Combined.lookup index).getD [big5Table.find index]

def big5Piece (octet : UInt8) (rest : Bytes) : Decoded :=
  if octet < 0x80 then .one (ascii octet) 0
  else if octet = 0x80 || octet = 0xFF then .malformed
  else
    let row := (octet.toNat - 0x81) * 157
    match rest with
    | [] => .malformed
    | second :: _ =>
        if second < 0x40 then .malformed
        else if second ≤ 0x7E then ⟨big5Place (row + (second.toNat - 0x40)), 1⟩
        else if 0xA1 ≤ second && second ≤ 0xFE then
          ⟨big5Place (row + (second.toNat - 0x62)), 1⟩
        else .malformedPair

def big5Chars (text : Bytes) : List Char := decodeWith big5Piece text

end Encoding

end Defun
