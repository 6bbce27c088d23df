/-!
# Numbers of a fixed width

Parts of dates, powers of ten, code points and the bytes of a unique identifier are written with a
least number of digits, filled up with zeros on the left.
-/

namespace SqlTemplate.Text

/-- The digits of a number in the given base, filled up with zeros to the given width. -/
def padded (base width n : Nat) : List Char :=
  let digits := Nat.toDigits base n
  List.replicate (width - digits.length) '0' ++ digits

/-! ## Hexadecimal digits -/

/-- The value of a hexadecimal digit of either case. -/
def hexValue? (c : Char) : Option Nat :=
  if '0' ≤ c ∧ c ≤ '9' then some (c.toNat - '0'.toNat)
  else if 'a' ≤ c ∧ c ≤ 'f' then some (c.toNat - 'a'.toNat + 10)
  else if 'A' ≤ c ∧ c ≤ 'F' then some (c.toNat - 'A'.toNat + 10)
  else none

/-- The number that hexadecimal digits write, if all characters are such digits. -/
def ofHex? (digits : List Char) : Option Nat :=
  digits.foldlM (fun value c => (hexValue? c).map (16 * value + ·)) 0

/-- The bytes that pairs of hexadecimal digits write. -/
def bytesOfHex? : List Char → Option (List UInt8)
  | [] => some []
  | high :: low :: rest => do
      let value ← ofHex? [high, low]
      let others ← bytesOfHex? rest
      return UInt8.ofNat value :: others
  | [_] => none

/-- Two hexadecimal digits for each byte. -/
def hexOfBytes (bytes : List UInt8) : List Char :=
  bytes.flatMap fun byte => padded 16 2 byte.toNat

end SqlTemplate.Text
