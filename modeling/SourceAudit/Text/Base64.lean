/-
Bytes written with 64 letters: three bytes become four letters, and a rest of one
or two bytes is filled up with `=`.
-/

namespace SourceAudit.Text.Base64

def letter (n : Nat) : Char :=
  if n < 26 then Char.ofNat (65 + n)
  else if n < 52 then Char.ofNat (71 + n)
  else if n < 62 then Char.ofNat (n - 4)
  else if n == 62 then '+' else '/'

def value (c : Char) : Nat :=
  if 'A' ≤ c && c ≤ 'Z' then c.toNat - 65
  else if 'a' ≤ c && c ≤ 'z' then c.toNat - 71
  else if c.isDigit then c.toNat + 4
  else if c == '+' then 62 else 63

def letters : List UInt8 → List Char
  | [] => []
  | [a] =>
    let n := a.toNat * 16
    [letter (n / 64), letter (n % 64), '=', '=']
  | [a, b] =>
    let n := (a.toNat * 256 + b.toNat) * 4
    [letter (n / 4096), letter (n / 64 % 64), letter (n % 64), '=']
  | a :: b :: c :: rest =>
    let n := (a.toNat * 256 + b.toNat) * 256 + c.toNat
    letter (n / 262144) :: letter (n / 4096 % 64) :: letter (n / 64 % 64) :: letter (n % 64) ::
      letters rest

def encode (bytes : List UInt8) : String :=
  String.ofList (letters bytes)

/-- The bits that are left over from the letters so far: their number and value. -/
structure Rest where
  count : Nat
  bits : Nat

/-- The bytes of letters, after the bits that are left over. -/
def bytesFrom (rest : Rest) (done : List UInt8) : List Char → List UInt8
  | [] => done.reverse
  | c :: cs =>
    if c == '=' then bytesFrom rest done cs
    else
      let bits := rest.bits * 64 + value c
      if rest.count < 2 then bytesFrom ⟨rest.count + 6, bits⟩ done cs
      else
        let left := rest.count - 2
        bytesFrom ⟨left, bits % Nat.pow 2 left⟩ (UInt8.ofNat (bits / Nat.pow 2 left) :: done) cs

def decode (s : String) : List UInt8 :=
  bytesFrom ⟨0, 0⟩ [] s.toList

end SourceAudit.Text.Base64
