/-
Characters that can stand inside a word: letters, digits and other numerals of
every script, and the low line. The tables give the ranges beyond ASCII.
-/
import SourceAudit.Text.Ranges

namespace SourceAudit.Text

/-- Letters beyond ASCII, and the numerals that are written with letters, as closed ranges
of code points. Identifiers can begin with them. -/
def letterRanges : List (Nat × Nat) := rangesIn "
  AA B 5 6-16 2-1E 2-1C9 5-B F-4 8 2 82-4 2-1 4-2 2 7 2-2 2 2-13 2-52 2-8A 9-A5 2-25 3 7-28 48-1A
  5-3 2E-2A 24-1 2-62 2 10-1 8-1 B-2 3 11 2-1D 1E-58 C 19-20 A-1 5 6-15 5 A 4 18-18 8-A 6-17 2-5
  12-29 3B-35 4 13 8-9 10-F 5-7 3-1 3-15 2-6 2 4-3 4 11 E-1 2-2 F-1 B 9-5 5-1 3-15 2-6 2-1 2-1 2-1
  20-3 2 14-2 11-8 2-2 2-15 2-6 2-1 2-4 4 13 10-1 18 C-7 3-1 3-15 2-6 2-1 2-4 4 1F-1 2-2 10 12 2-5
  4-2 2-3 4-1 2 2-1 4-1 4-2 4-B 17 35-7 2-2 2-16 2-F 4 1B-2 3 3-1 1F 5-7 2-2 2-16 2-9 2-4 4 20-1 2-1
  10-1 12-8 2-2 2-28 3 11 6-2 9-2 19-5 6-11 4-17 2-8 2 3-6 3B-2F 2 E-6 3B-1 2 2-4 2-17 2 2-9 2 B 3-4
  2 16-3 21 40-7 2-23 1C-4 74-2A 15 11-5 5-3 4 4-1 8-2 5-C D 12-25 2 6 3-2A 2-14C 2-3 3-6 2 2-3 3-28
  2-3 3-20 2-3 3-6 2 2-3 3-E 2-38 2-3 3-42 26-F 11-55 3-5 4-26B 3-10 2-19 6-4A 4-A 8-11 E-12 F-11
  F-C 2-2 10-33 24 5 44-58 8-4 3-21 2 6-45 B-1E 32-1D 3-4 C-2B 5-19 37-16 A-34 53 5E-2E 12-7 37-1D
  E-1 B-2B 1B-23 2A-2 B-23 3-8 8-2A 3-2 2A-3 2-5 2-1 4 6-BF 41-115 3-5 3-25 3-5 3-7 2 2 2 2-1E 3-34
  2-6 2 4-2 2-6 4-3 3-5 5-C 6-2 2-6 75 E 11-C 66 5 3-9 2 4-4 7 2 2 2-3 2-A 3-3 6-4 5 12-28 A78-E4
  7-3 4-1 D-25 2 6 3-37 8 11-16 A-6 2-6 2-6 2-6 2-6 2-6 2-6 2-6 227-2 1A-8 8-4 3-4 5-55 7-2 2-59 2-3
  6-2A 2-5D 12-1F 31-F 201-19BF 41-568C 44-2D 3-10C 4-F B-1 15-2E 11-1E 3-4F 28-8 3-66 3-3F 6-1 2
  2-4 19-F 2-2 2-3 2-16 1E-33 F-31 3F-5 4 2-1 C-1B B-16 1A-1C 8-2E 1D 11-4 2-9 B-4 2-28 18-2 2-7
  15-16 4 4-31 2 4-1 3-4 3 2 19-2 3-A 8-2 D-5 3-5 3-5 A-6 2-6 2-2A 2-D 7-72 1E-2BA3 D-16 5-30
  2105-16D 3-69 27-6 D-4 6 2-9 2-C 2-4 2 2-1 2-1 2-6B 22-8A 7-D9 13-3F 3-35 29-9 78 2 4 2 2 2 2-7D
  25-19 7-19 C-37 3-1E 4-5 3-5 3-5 3-2 24-B 2-19 2-12 2-1 2-E 3-D 23-7A 46-34 10C-1C 4-30 30-1F E-1D
  6-25 B-1D 3-23 5-7 2-4 2B-9D 13-23 5-23 5-27 9-33 D-A 2-E 2-6 2-1 2-A 2-E 2-6 2-1 44-136 A-15 B-7
  19-5 2-29 2-8 46-5 3 2-2B 2-1 4 3-16 B-16 A-1E 42-12 2-1 B-15 B-19 47-37 7-1 41 10-3 2-2 2-1C
  2B-1C 4-1C 24-7 2-1B 1C-35 B-15 B-12 E-11 6F-48 38-32 E-32 E-23 15D-29 7-1 4F-1C B 9-15 2B-11
  2F-14 1C-16 D-34 3A-1 3 E-2C 21-18 1B-23 1E 3 9-22 4 D-2F F-3 16 2 24-11 2-18 55-6 2 2-3 2-E 2-9
  8-2E 27-7 3-1 3-15 2-6 2-1 2-4 4 13 D-4 9F-34 13-3 15-2 1F-2F 15-1 2 B9-2E 2A-3 25-2F 15 3C-2A E
  48-1A 26-6 BA-2B 75-3F 20-7 3 3-7 2-1 2-17 10 2 5F-7 3-26 11 2 1D B-27 8 16 C-2D 14 13-48 108-8
  2-24 12 32-1D 71-6 2-1 2-25 16 1A-5 2-1 2-1F F 148-12 BE 50-399 67-6E 12-C3 A4D-60 10-42E FD2-246
  21BA-238 8-1E 12-4E 12-1D 13-2F 11-3 20-14 6-12 2B1-3F 81-4A 6 43-C 41-1 2 1D-17F7 9-4D5 2B-8
  22E8-3 2-6 2-1 2-122 2E-2 12-3 9-18B 905-6A 6-C 4-8 8-9 1767-54 2-46 2-1 3 3-1 3-3 2-B 2 2-6 2-40
  2-3 3-7 2-6 2-1B 2-3 2-4 2 4-6 2-153 3-18 2-18 2-1E 2-18 2-1E 2-18 2-1E 2-18 2-1E 2-18 2-7 735-1E
  1E2-2C B-6 11 142-1D 13-2B 4F5-6 2-3 2-1 2-E 2-C4 3C-43 8 4B5-3 2-1A 2-1 2 3 2-9 2-3 2 2 7 5 2 2
  2-2 2-1 2 3 2 2 2 2 2-1 2 3-3 2-6 2-3 2-3 2 2-9 2-10 6-2 2-4 2-10 1145-A6DF 21-1038 8-DD 3-1681
  F-1D30 C20-21D 5E3-134A"

/-- Digits and other numerals beyond ASCII, and the few letters that no identifier begins
with. -/
def numeralRanges : List (Nat × Nat) := rangesIn "
  B2-1 6 3-2 2BC 2E6-9 87-9 C7-9 19D-9 77-9 5-5 6D-9 77-9 77-9 3-5 6F-C 74-9 9-6 68-9 69-6 8-12 6E-9
  44 1D-9 5A 1D-9 47-13 10D-9 47-9 2D0-13 464-9 7-9 17-9 12D-9 81-A A6-9 7-9 B7-9 57-9 87-9 7-9 417
  4-5 7-9 C7-F 2A 2D7-3B 4F-15 277-1D 56A 132 363-3 8B-9 1F-7 2-E 21-9 28-E 7361-9 207-5 9B-9 27-9
  C7-9 17-9 57-9 197-9 5065-5 197-1 75 2 2 2 2 2 2 2 92-9 85-1 168-2C 42-3 12-1 156-1A 25-3 17D-9
  3AF-7 1A-6 28-8 4C-4 17-5 A1-1 3-F 3-2D 41-8 35-1 1F-2 4C-4 69-7 19-7 2A-6 14B-5 31-9 127-1E 9F-9
  2B-3 71-6 87-1D 81-9 3D-9 91-9 8-13 FC-9 157-9 77-9 177-9 67-9 67-B 1A5-12 5E-9 2F7-1C E4-9 47-9
  217-14 4A8C-9 57-9 87-9 2-6 31F-16 644A-13 6D-18 456-31 941-9 1A7-9 5CE-8 81-9 318-3A 2-2 2-3
  4D-2C 2-E 3C3-C AE4-9"

def isAlnum (c : Char) : Bool :=
  if c.toNat < 0x80 then c.isAlphanum
  else inRanges c.toNat letterRanges || inRanges c.toNat numeralRanges

/-- A word character: a letter, a numeral or the low line. -/
def isWord (c : Char) : Bool :=
  c == '_' || isAlnum c

end SourceAudit.Text
