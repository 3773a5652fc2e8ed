/-
Characters of program identifiers: those that can begin one and those that can
continue one. The tables give the ranges beyond ASCII.
-/
import SourceAudit.Text.Word

namespace SourceAudit.Text

/-- What can begin an identifier beyond ASCII apart from letters. -/
def nameStartRanges : List (Nat × Nat) :=
  [(0x1885, 0x1886), (0x2118, 0x2118), (0x212E, 0x212E)]

/-- Characters beyond ASCII that can continue an identifier but not begin one. -/
def nameRestRanges : List (Nat × Nat) := rangesIn "
  B7 249-6F 18 FC-4 10A-2C 2 2-1 2-1 2 49-A 31-1E 7 66-6 3-5 3-1 2-3 3-9 18 1F-1A 5C-A 10-9 22-8 A
  19-3 2-8 2-2 2-4 2C-2 3D-7 2B-17 2-20 37-2 2-11 2-6 B-1 3-9 12-2 39 2-6 3-1 3-2 A B-1 3-9 F 3-2 39
  2-4 5-1 3-2 4 15-B 4 C-2 39 2-7 2-2 2-2 15-1 3-9 B-5 2-2 39 2-6 3-1 3-2 8-2 B-1 3-9 13 3C-4 4-2
  2-3 A F-9 11-4 38 2-6 2-2 2-3 8-1 C-1 3-9 12-2 39 2-6 2-2 2-3 8-1 C-1 3-9 11-3 38-1 2-6 2-2 2-3 A
  B-1 3-9 12-2 47 5-5 2 2-7 7-9 3-1 3E 2-7 D-7 2-9 58 2-9 C-5 3-9 3F-1 7-9 C 2 2 5-1 32-13 2-1 6-A
  2-23 A 65-13 2-9 D-3 5-2 2-2 3-6 4-3 E-B 2-E 2C0-2 A-8 3A1-3 1D-2 1E-1 1F-1 41-1F A 3-9 22-2 2-A
  90 77-B 5-B B-9 81-A 3D-4 3A-9 2-1C 3-A 7-9 17-D 2-F 32-4 30-10 C-9 12-8 D-2 1F-C 3-9 2D-D 31-13
  9-9 7-9 77-2 2-14 5 7 3-2 C7-3F 240-1 14 7C-C 5 4-B BFF-2 8E 61-1F 22B-5 6A-1 7586-9 46 5-9 21-1
  51-1 111 4 5 18-4 5 54-1 33-11 B-9 7-11 E-A 1D-7 1A-C 2D-3 30-D 10-9 C B-9 30-D D 9-1 3-9 22-2 33
  2-2 3-1 6-1 2 2A-4 6-1 ED-7 2-1 3-9 4F25 2E2-F 11-F 4-1 19-2 C1-9 26 5F-1 25E E3 96-4 126-9 558-2
  2-1 6-3 29-2 5 A6-1 23E-3 9-9 172-1 9A-A 32-3 7B-2 36-E 20-A 3-1 B-3 2E-A 8 2E-9 7-2 25-D 2-9 6-1
  2D D-2 31-D 9-3 2-B 53-B 7 A1-B 6-9 7-3 38-1 2-6 3-1 3-2 A B-1 3-6 4-4 C1-11 A-9 5 52-13 D-9 D6-6
  3-8 1C-1 53-10 10-9 52-C 9-9 54-E 5-9 F3-E A6-9 47-5 2-1 3-3 2 2-1 D-9 78-6 3-6 4 1D-9 29-6 2-3 9
  A-A 2F-F 196-7 2-7 11-9 39-15 2-D 7B-5 4 2-1 2-6 2 9-9 31-4 2-1 2-4 9-9 14A-3 4B6A-9 57-9 27-4
  3C-6 1A-9 3F6 2-36 8-3 52 C-1 4CAC-1 1262-2D 3-16 21F-4 4-5 9-7 3-6 1F-3 95-2 58A-31 201-36 5-31 9
  F 17-4 2-E 551-6 2-10 3-6 2-1 2-4 106-6 A-9 165 3E-D 5D7-6 6E-6 6-9 1297-9 C0507-EF"

def isNameStart (c : Char) : Bool :=
  if c.toNat < 0x80 then c.isAlpha || c == '_'
  else inRanges c.toNat letterRanges || inRanges c.toNat nameStartRanges

/-- Whether the character can continue an identifier: one that can begin it, or a
digit or mark. -/
def isNameRest (c : Char) : Bool :=
  isNameStart c || (if c.toNat < 0x80 then c.isDigit else inRanges c.toNat nameRestRanges)

end SourceAudit.Text
