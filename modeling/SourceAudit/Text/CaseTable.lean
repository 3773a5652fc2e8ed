/-
The letter case data beyond ASCII. Most letters change case by a constant shift
over a run of code points, every one or every second of which takes part; the
few letters that become several characters are listed apart.
-/
import SourceAudit.Text.Ranges

namespace SourceAudit.Text

/-- A run of letters `first`, `first + step`, … up to `last` that change case by adding `shift`. -/
structure CaseRun where
  first : Nat
  last : Nat
  step : Nat
  shift : Int

/-- The letter a code point becomes under a list of runs, if one of them holds it. -/
def CaseRun.apply? (n : Nat) : List CaseRun → Option Nat
  | [] => none
  | r :: rest =>
    if r.first ≤ n && n ≤ r.last && (n - r.first) % r.step == 0 then some (n + r.shift).toNat
    else CaseRun.apply? n rest

def CaseRun.inverse (r : CaseRun) : CaseRun :=
  ⟨(r.first + r.shift).toNat, (r.last + r.shift).toNat, r.step, -r.shift⟩

/-- The letters of a table with what they become: `A:B+C,D` says it of `A` and of the
one after it. -/
def caseForms (table : String) : List (Nat × List Nat) :=
  (tableEntries table).flatMap fun (key, images) =>
    (tableImages images).mapIdx fun i image => (tableNumber key + i, image)

/-- Runs in which every second letter is a capital, and its small counterpart follows. -/
def followedRuns : List (Nat × Nat) :=
  [(0x100, 0x12E), (0x132, 0x136), (0x139, 0x147), (0x14A, 0x176), (0x179, 0x17D), (0x182, 0x184),
   (0x187, 0x187), (0x18B, 0x18B), (0x191, 0x191), (0x198, 0x198), (0x1A0, 0x1A4), (0x1A7, 0x1A7),
   (0x1AC, 0x1AC), (0x1AF, 0x1AF), (0x1B3, 0x1B5), (0x1B8, 0x1B8), (0x1BC, 0x1BC), (0x1CD, 0x1DB),
   (0x1DE, 0x1EE), (0x1F4, 0x1F4), (0x1F8, 0x21E), (0x222, 0x232), (0x23B, 0x23B), (0x241, 0x241),
   (0x246, 0x24E), (0x370, 0x372), (0x376, 0x376), (0x3D8, 0x3EE), (0x3F7, 0x3F7), (0x3FA, 0x3FA),
   (0x460, 0x480), (0x48A, 0x4BE), (0x4C1, 0x4CD), (0x4D0, 0x52E), (0x1E00, 0x1E94),
   (0x1EA0, 0x1EFE), (0x2183, 0x2183), (0x2C60, 0x2C60), (0x2C67, 0x2C6B), (0x2C72, 0x2C72),
   (0x2C75, 0x2C75), (0x2C80, 0x2CE2), (0x2CEB, 0x2CED), (0x2CF2, 0x2CF2), (0xA640, 0xA66C),
   (0xA680, 0xA69A), (0xA722, 0xA72E), (0xA732, 0xA76E), (0xA779, 0xA77B), (0xA77E, 0xA786),
   (0xA78B, 0xA78B), (0xA790, 0xA792), (0xA796, 0xA7A8), (0xA7B4, 0xA7C2), (0xA7C7, 0xA7C9),
   (0xA7D0, 0xA7D0), (0xA7D6, 0xA7D8), (0xA7F5, 0xA7F5)]

/-- Runs of capitals with their small counterparts elsewhere. -/
def shiftedRuns : List CaseRun :=
  [⟨0xC0, 0xD6, 1, 32⟩, ⟨0xD8, 0xDE, 1, 32⟩, ⟨0x178, 0x178, 1, -121⟩, ⟨0x181, 0x181, 1, 210⟩,
   ⟨0x186, 0x186, 1, 206⟩, ⟨0x189, 0x18A, 1, 205⟩, ⟨0x18E, 0x18E, 1, 79⟩, ⟨0x18F, 0x18F, 1, 202⟩,
   ⟨0x190, 0x190, 1, 203⟩, ⟨0x193, 0x193, 1, 205⟩, ⟨0x194, 0x194, 1, 207⟩, ⟨0x196, 0x196, 1, 211⟩,
   ⟨0x197, 0x197, 1, 209⟩, ⟨0x19C, 0x19C, 1, 211⟩, ⟨0x19D, 0x19D, 1, 213⟩, ⟨0x19F, 0x19F, 1, 214⟩,
   ⟨0x1A6, 0x1A6, 1, 218⟩, ⟨0x1A9, 0x1A9, 1, 218⟩, ⟨0x1AE, 0x1AE, 1, 218⟩, ⟨0x1B1, 0x1B2, 1, 217⟩,
   ⟨0x1B7, 0x1B7, 1, 219⟩, ⟨0x1C4, 0x1C4, 1, 2⟩, ⟨0x1C7, 0x1C7, 1, 2⟩, ⟨0x1CA, 0x1CA, 1, 2⟩,
   ⟨0x1F1, 0x1F1, 1, 2⟩, ⟨0x1F6, 0x1F6, 1, -97⟩, ⟨0x1F7, 0x1F7, 1, -56⟩, ⟨0x220, 0x220, 1, -130⟩,
   ⟨0x23A, 0x23A, 1, 10795⟩, ⟨0x23D, 0x23D, 1, -163⟩, ⟨0x23E, 0x23E, 1, 10792⟩,
   ⟨0x243, 0x243, 1, -195⟩, ⟨0x244, 0x244, 1, 69⟩, ⟨0x245, 0x245, 1, 71⟩, ⟨0x37F, 0x37F, 1, 116⟩,
   ⟨0x386, 0x386, 1, 38⟩, ⟨0x388, 0x38A, 1, 37⟩, ⟨0x38C, 0x38C, 1, 64⟩, ⟨0x38E, 0x38F, 1, 63⟩,
   ⟨0x391, 0x3A1, 1, 32⟩, ⟨0x3A3, 0x3AB, 1, 32⟩, ⟨0x3CF, 0x3CF, 1, 8⟩, ⟨0x3F9, 0x3F9, 1, -7⟩,
   ⟨0x3FD, 0x3FF, 1, -130⟩, ⟨0x400, 0x40F, 1, 80⟩, ⟨0x410, 0x42F, 1, 32⟩, ⟨0x4C0, 0x4C0, 1, 15⟩,
   ⟨0x531, 0x556, 1, 48⟩, ⟨0x10A0, 0x10C5, 1, 7264⟩, ⟨0x10C7, 0x10C7, 1, 7264⟩,
   ⟨0x10CD, 0x10CD, 1, 7264⟩, ⟨0x13A0, 0x13EF, 1, 38864⟩, ⟨0x13F0, 0x13F5, 1, 8⟩,
   ⟨0x1C90, 0x1CBA, 1, -3008⟩, ⟨0x1CBD, 0x1CBF, 1, -3008⟩, ⟨0x1F08, 0x1F0F, 1, -8⟩,
   ⟨0x1F18, 0x1F1D, 1, -8⟩, ⟨0x1F28, 0x1F2F, 1, -8⟩, ⟨0x1F38, 0x1F3F, 1, -8⟩,
   ⟨0x1F48, 0x1F4D, 1, -8⟩, ⟨0x1F59, 0x1F5F, 2, -8⟩, ⟨0x1F68, 0x1F6F, 1, -8⟩,
   ⟨0x1FB8, 0x1FB9, 1, -8⟩, ⟨0x1FBA, 0x1FBB, 1, -74⟩, ⟨0x1FC8, 0x1FCB, 1, -86⟩,
   ⟨0x1FD8, 0x1FD9, 1, -8⟩, ⟨0x1FDA, 0x1FDB, 1, -100⟩, ⟨0x1FE8, 0x1FE9, 1, -8⟩,
   ⟨0x1FEA, 0x1FEB, 1, -112⟩, ⟨0x1FEC, 0x1FEC, 1, -7⟩, ⟨0x1FF8, 0x1FF9, 1, -128⟩,
   ⟨0x1FFA, 0x1FFB, 1, -126⟩, ⟨0x2132, 0x2132, 1, 28⟩, ⟨0x2160, 0x216F, 1, 16⟩,
   ⟨0x24B6, 0x24CF, 1, 26⟩, ⟨0x2C00, 0x2C2F, 1, 48⟩, ⟨0x2C62, 0x2C62, 1, -10743⟩,
   ⟨0x2C63, 0x2C63, 1, -3814⟩, ⟨0x2C64, 0x2C64, 1, -10727⟩, ⟨0x2C6D, 0x2C6D, 1, -10780⟩,
   ⟨0x2C6E, 0x2C6E, 1, -10749⟩, ⟨0x2C6F, 0x2C6F, 1, -10783⟩, ⟨0x2C70, 0x2C70, 1, -10782⟩,
   ⟨0x2C7E, 0x2C7F, 1, -10815⟩, ⟨0xA77D, 0xA77D, 1, -35332⟩, ⟨0xA78D, 0xA78D, 1, -42280⟩,
   ⟨0xA7AA, 0xA7AA, 1, -42308⟩, ⟨0xA7AB, 0xA7AB, 1, -42319⟩, ⟨0xA7AC, 0xA7AC, 1, -42315⟩,
   ⟨0xA7AD, 0xA7AD, 1, -42305⟩, ⟨0xA7AE, 0xA7AE, 1, -42308⟩, ⟨0xA7B0, 0xA7B0, 1, -42258⟩,
   ⟨0xA7B1, 0xA7B1, 1, -42282⟩, ⟨0xA7B2, 0xA7B2, 1, -42261⟩, ⟨0xA7B3, 0xA7B3, 1, 928⟩,
   ⟨0xA7C4, 0xA7C4, 1, -48⟩, ⟨0xA7C5, 0xA7C5, 1, -42307⟩, ⟨0xA7C6, 0xA7C6, 1, -35384⟩,
   ⟨0xFF21, 0xFF3A, 1, 32⟩, ⟨0x10400, 0x10427, 1, 40⟩, ⟨0x104B0, 0x104D3, 1, 40⟩,
   ⟨0x10570, 0x10594, 2, 39⟩, ⟨0x10571, 0x10579, 2, 39⟩, ⟨0x1057D, 0x10589, 2, 39⟩,
   ⟨0x1058D, 0x10591, 2, 39⟩, ⟨0x10595, 0x10595, 1, 39⟩, ⟨0x10C80, 0x10CB2, 1, 64⟩,
   ⟨0x118A0, 0x118BF, 1, 32⟩, ⟨0x16E40, 0x16E5F, 1, 32⟩, ⟨0x1E900, 0x1E921, 1, 34⟩]

/-- Runs of letters that are each the counterpart of their counterpart. -/
def pairedRuns : List CaseRun :=
  followedRuns.map (fun (first, last) => ⟨first, last, 2, 1⟩) ++ shiftedRuns

def lowerRuns : List CaseRun :=
  pairedRuns ++
  [⟨0x1C5, 0x1C5, 1, 1⟩, ⟨0x1C8, 0x1C8, 1, 1⟩, ⟨0x1CB, 0x1CB, 1, 1⟩, ⟨0x1F2, 0x1F2, 1, 1⟩,
   ⟨0x3F4, 0x3F4, 1, -60⟩, ⟨0x1E9E, 0x1E9E, 1, -7615⟩, ⟨0x1F88, 0x1F8F, 1, -8⟩,
   ⟨0x1F98, 0x1F9F, 1, -8⟩, ⟨0x1FA8, 0x1FAF, 1, -8⟩, ⟨0x1FBC, 0x1FBC, 1, -9⟩,
   ⟨0x1FCC, 0x1FCC, 1, -9⟩, ⟨0x1FFC, 0x1FFC, 1, -9⟩, ⟨0x2126, 0x2126, 1, -7517⟩,
   ⟨0x212A, 0x212A, 1, -8383⟩, ⟨0x212B, 0x212B, 1, -8262⟩]

/-- Letters whose small counterpart is several characters. -/
def lowerSpecial : List (Nat × List Nat) :=
  [(0x130, [0x69, 0x307])]

def upperRuns : List CaseRun :=
  pairedRuns.map CaseRun.inverse ++
  [⟨0xB5, 0xB5, 1, 743⟩, ⟨0x131, 0x131, 1, -232⟩, ⟨0x17F, 0x17F, 1, -300⟩, ⟨0x1C5, 0x1C5, 1, -1⟩,
   ⟨0x1C8, 0x1C8, 1, -1⟩, ⟨0x1CB, 0x1CB, 1, -1⟩, ⟨0x1F2, 0x1F2, 1, -1⟩, ⟨0x345, 0x345, 1, 84⟩,
   ⟨0x3C2, 0x3C2, 1, -31⟩, ⟨0x3D0, 0x3D0, 1, -62⟩, ⟨0x3D1, 0x3D1, 1, -57⟩, ⟨0x3D5, 0x3D5, 1, -47⟩,
   ⟨0x3D6, 0x3D6, 1, -54⟩, ⟨0x3F0, 0x3F0, 1, -86⟩, ⟨0x3F1, 0x3F1, 1, -80⟩, ⟨0x3F5, 0x3F5, 1, -96⟩,
   ⟨0x1C80, 0x1C80, 1, -6254⟩, ⟨0x1C81, 0x1C81, 1, -6253⟩, ⟨0x1C82, 0x1C82, 1, -6244⟩,
   ⟨0x1C83, 0x1C84, 1, -6242⟩, ⟨0x1C85, 0x1C85, 1, -6243⟩, ⟨0x1C86, 0x1C86, 1, -6236⟩,
   ⟨0x1C87, 0x1C87, 1, -6181⟩, ⟨0x1C88, 0x1C88, 1, 35266⟩, ⟨0x1E9B, 0x1E9B, 1, -59⟩,
   ⟨0x1FBE, 0x1FBE, 1, -7205⟩]

/-- Letters whose capital counterpart is several characters. -/
def upperSpecial : List (Nat × List Nat) := caseForms "
  DF:53+53 149:2BC+4E 1F0:4A+30C 390:399+308+301 3B0:3A5+308+301 587:535+552
  1E96:48+331,54+308,57+30A,59+30A,41+2BE 1F50:3A5+313 1F52:3A5+313+300 1F54:3A5+313+301
  1F56:3A5+313+342
  1F80:1F08+399,1F09+399,1F0A+399,1F0B+399,1F0C+399,1F0D+399,1F0E+399,1F0F+399,1F08+399
  1F89:1F09+399,1F0A+399,1F0B+399,1F0C+399,1F0D+399,1F0E+399,1F0F+399,1F28+399,1F29+399
  1F92:1F2A+399,1F2B+399,1F2C+399,1F2D+399,1F2E+399,1F2F+399,1F28+399,1F29+399,1F2A+399
  1F9B:1F2B+399,1F2C+399,1F2D+399,1F2E+399,1F2F+399,1F68+399,1F69+399,1F6A+399,1F6B+399
  1FA4:1F6C+399,1F6D+399,1F6E+399,1F6F+399,1F68+399,1F69+399,1F6A+399,1F6B+399,1F6C+399
  1FAD:1F6D+399,1F6E+399,1F6F+399 1FB2:1FBA+399,391+399,386+399 1FB6:391+342,391+342+399
  1FBC:391+399 1FC2:1FCA+399,397+399,389+399 1FC6:397+342,397+342+399 1FCC:397+399
  1FD2:399+308+300,399+308+301 1FD6:399+342,399+308+342 1FE2:3A5+308+300,3A5+308+301,3A1+313
  1FE6:3A5+342,3A5+308+342 1FF2:1FFA+399,3A9+399,38F+399 1FF6:3A9+342,3A9+342+399 1FFC:3A9+399
  FB00:46+46,46+49,46+4C,46+46+49,46+46+4C,53+54,53+54 FB13:544+546,544+535,544+53B,54E+546,544+53D"

/-- Letters whose form at the start of a titled word is not their capital. -/
def titleSpecial : List (Nat × List Nat) := caseForms "
  DF:53+73 1C4:1C5,1C5,1C5,1C8,1C8,1C8,1CB,1CB,1CB 1F1:1F2,1F2,1F2 587:535+582
  10D0:10D0,10D1,10D2,10D3,10D4,10D5,10D6,10D7,10D8,10D9,10DA,10DB,10DC,10DD,10DE,10DF,10E0
  10E1:10E1,10E2,10E3,10E4,10E5,10E6,10E7,10E8,10E9,10EA,10EB,10EC,10ED,10EE,10EF,10F0,10F1
  10F2:10F2,10F3,10F4,10F5,10F6,10F7,10F8,10F9,10FA 10FD:10FD,10FE,10FF
  1F80:1F88,1F89,1F8A,1F8B,1F8C,1F8D,1F8E,1F8F,1F88,1F89,1F8A,1F8B,1F8C,1F8D,1F8E,1F8F,1F98
  1F91:1F99,1F9A,1F9B,1F9C,1F9D,1F9E,1F9F,1F98,1F99,1F9A,1F9B,1F9C,1F9D,1F9E,1F9F,1FA8,1FA9
  1FA2:1FAA,1FAB,1FAC,1FAD,1FAE,1FAF,1FA8,1FA9,1FAA,1FAB,1FAC,1FAD,1FAE,1FAF
  1FB2:1FBA+345,1FBC,386+345 1FB7:391+342+345 1FBC:1FBC 1FC2:1FCA+345,1FCC,389+345 1FC7:397+342+345
  1FCC:1FCC 1FF2:1FFA+345,1FFC,38F+345 1FF7:3A9+342+345 1FFC:1FFC
  FB00:46+66,46+69,46+6C,46+66+69,46+66+6C,53+74,53+74 FB13:544+576,544+565,544+56B,54E+576,544+56D"

/-- Letters beyond ASCII that take part in case. -/
def casedRanges : List (Nat × Nat) := rangesIn "
  AA B 5 6-16 2-1E 2-C2 2-3 5-CF 2-23 8-1 1F-4 61 2B-3 3-1 3-3 2 7 2-2 2 2-13 2-52 2-8A 9-A5 2-25
  A-28 B18-25 2 6 3-2A 3-2 2A1-55 3-5 883-8 8-2A 3-2 41-BF 41-115 3-5 3-25 3-5 3-7 2 2 2 2-1E 3-34
  2-6 2 4-2 2-6 4-3 3-5 5-C 6-2 2-6 75 E 11-C 66 5 3-9 2 4-4 7 2 2 2-3 2-5 5 3-3 6-4 5 12-1F 4-1
  332-33 717-E4 7-3 4-1 D-25 2 6 7913-2D 13-1D 85-65 4-3 2-3A 6-1 2 2-4 1C-1 2-2 336-2A 2-C 8-4F
  4F41-6 D-4 40A-19 7-19 4A6-4F 61-23 5-23 75-A 2-E 2-6 2-1 2-A 2-E 2-6 2-1 1C4 3-2 2-29 2-8 4C6-32
  E-32 BAE-3F 5561-3F 6581-54 2-46 2-1 3 3-1 3-3 2-B 2 2-6 2-40 2-3 3-7 2-6 2-1B 2-3 2-4 2 4-6 2-153
  3-18 2-18 2-1E 2-18 2-1E 2-18 2-1E 2-18 2-1E 2-18 2-7 735-9 2-13 9E2-43 7ED-19 7-19 7-19"

/-- Marks beyond ASCII that stand inside a word without case of their own. -/
def caseIgnorableRanges : List (Nat × Nat) := rangesIn "
  A8 5 2 5 3-1 1F8-BF 5-1 5 A-1 2 FC-6 D0 6 32-2C 2 2-1 2-1 2 2D C-5 B-A 2 24 B-14 11 66-7 2-9 2-3
  22 2 1F-1A 5C-A 3B-A 5 3 19-17 2C-2 2D 8-1 7-7 2A-39 38 2 5-7 5 4-6 B-1 E 10 3B 5-3 9 15-1 1B 3-1
  3A 5-1 5-1 3-2 4 1F-1 4 C-1 3A 5-4 2-1 5 15-1 17-5 2 3B 3 2-3 9 8-1 C-1 1F 3E D 33 4 38 2-2 6-2
  2-3 8-1 C-1 1E 3B 3 7 6-1 15-1 1D-1 3A-1 5-3 9 15-1 1E 49 8-2 2 5B 3-6 C-8 63 3-8 A 2-5 4B-1 1C 2
  2 38-D 2-4 2-1 6-A 2-23 A 67-3 2-5 2-1 3-1 1A-1 5-2 11-3 E 3-1 7 10 5F 261-2 3B3-2 1E-1 1F-1 1F-1
  41-1 2-6 9 3-A 4 6 2E-4 34 42-1 23 77-2 5-1 A 7-2 DC-1 3 3B 2-6 2 2 3-7 7-9 3 28 9-1E 32-3 31 2-4
  2 6 29-8 D-1 21-3 3-1 2-2 39 2-1 4 2-2 3B-7 3-1 41-5 53-2 2-C 2-6 5 7 4-1 33-3E E 23-64 1BE 2-2
  C-2 E-2 E-2 E-1 D-4 9-1 B 3 3-4 32-4 2-9 2 E 11-C 34-20 B8C-1 72-2 7E 10 61-1F 30 1D6 25-3 4-4 6
  5E-5 5E-2 6F17 4E3-5 10F 63-3 2-9 2 1D-3 51-1 F-21 4F 18-2 68-2 4-1 9 4 5 1A-1 6 98-1 1B-11 E 27-7
  1A-A 2F-2 31 3-3 3-1 12 16-1 43-5 3-1 3-1 D 9 24 C 34 2-2 3-1 6-1 2 1C F-1 6-1 2 65-4 A-2 7A 3 5
  4F31 94-10 23E-F 4 D-F 23 3 AA 8 7 C 24 2 30 2E-1 44 16-2 202 E3 96-4 406-5 2-29 2-8 247-2 2-1 6-3
  29-2 5 A6-1 23E-3 184-1 9A-A 32-3 7C 37-E 2A 3-1 B-2 32-3 3-1 3 5 B 33-2 25-4 2-7 3F D-1 35-8 B-3
  3 60-2 3 2-1 7 A1 4-7 16-1 3A-1 4 26-6 4-4 C4-7 3-2 2 18 55-5 2 5-1 2-1 EF-3 7-1 2-1 1C-1 56-7 3
  2-1 6B 2 3-5 2 66-2 3-3 2-4 104-8 2-1 101-1 2 5 91-3 3-1 5 21-9 29-5 3-3 9 A-5 3-2 2F-C 2-1 197-6
  2-5 2 53-15 3-6 2-1 2-1 7B-5 4 2-1 2-6 2 49-1 4 2 15C-1 153C-8 36B8-4 3C-6 A-3 40C 40-10 41-1 2-1
  400C-3 2-6 2-1 C9F-1 2-3 125D-2D 3-16 221-2 A-F 3-6 1F-3 95-2 7BC-36 5-31 9 F 17-4 2-E 551-6 2-10
  3-6 2-1 2-4 106-D 171 3E-3 5E1-6 6E-7 AB0-4 C0C02 1F-5F 81-EF"

end SourceAudit.Text
