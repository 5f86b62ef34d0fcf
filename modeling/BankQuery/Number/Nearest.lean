/-!
# Nearest binary number to a decimal text

`readFloat32?` reads a decimal text with an optional sign, point and exponent, or one of the names
of the special values, as the nearest single-precision number; a value halfway between two goes to
the even one. The rounding is done on exact fractions.
-/

namespace BankQuery.Number

/-- `numerator / denominator` to the nearest whole number, halves to the even one. -/
def roundHalfEven (numerator denominator : Nat) : Nat :=
  let q := numerator / denominator
  let r := numerator % denominator
  if 2 * r < denominator then q
  else if denominator < 2 * r then q + 1
  else if q % 2 = 0 then q else q + 1

def leadingBit (numerator denominator : Nat) : Int :=
  let estimate : Int := (Nat.log2 numerator : Int) - Nat.log2 denominator
  if numerator * Nat.pow 2 (-estimate).toNat < denominator * Nat.pow 2 estimate.toNat then
    estimate - 1
  else estimate

def infinity32 : Nat := 0x7F800000

/-- Bits of the single-precision number nearest to a positive fraction. -/
def bits32 (numerator denominator : Nat) : Nat :=
  let unit : Int := max (leadingBit numerator denominator - 23) (-149)
  let significand :=
    roundHalfEven (numerator * Nat.pow 2 (-unit).toNat) (denominator * Nat.pow 2 unit.toNat)
  -- a significand of `2^24` carries into the exponent by itself
  min (significand + (unit + 149).toNat * Nat.pow 2 23) infinity32

def nearest32 (negative : Bool) (digits : Nat) (exponent : Int) : Float32 :=
  let magnitude : Int := (Nat.repr digits).length + exponent
  let bits :=
    if digits = 0 ∨ magnitude < -60 then 0
    else if 60 < magnitude then infinity32
    else bits32 (digits * Nat.pow 10 exponent.toNat) (Nat.pow 10 (-exponent).toNat)
  Float32.ofBits (UInt32.ofNat (if negative then bits + Nat.pow 2 31 else bits))

def digitsValue (cs : List Char) : Nat := cs.foldl (fun n c => n * 10 + (c.toNat - 48)) 0

/-- An exponent after its mark: an optional sign and at least one digit up to the end. -/
def readExponent? (cs : List Char) : Option Int :=
  let (negative, cs) := match cs with
    | '-' :: rest => (true, rest)
    | '+' :: rest => (false, rest)
    | _ => (false, cs)
  if cs.isEmpty || !cs.all Char.isDigit then none
  else some (if negative then -(digitsValue cs : Int) else digitsValue cs)

/-- Digits with a point among or around them, and an exponent. -/
def readDigits? (negative : Bool) (cs : List Char) : Option Float32 := do
  let whole := cs.takeWhile Char.isDigit
  let rest := cs.dropWhile Char.isDigit
  let (fraction, rest) := match rest with
    | '.' :: rest => (rest.takeWhile Char.isDigit, rest.dropWhile Char.isDigit)
    | _ => ([], rest)
  if whole.isEmpty && fraction.isEmpty then none
  else
    let exponent ← match rest with
      | [] => some 0
      | c :: rest => if c = 'e' ∨ c = 'E' then readExponent? rest else none
    return nearest32 negative (digitsValue (whole ++ fraction)) (exponent - fraction.length)

def readUnsigned? (negative : Bool) (cs : List Char) : Option Float32 :=
  let name := String.ofList (cs.map Char.toLower)
  if name = "inf" ∨ name = "infinity" then
    some (Float32.ofBits (if negative then 0xFF800000 else 0x7F800000))
  else if name = "nan" then some (Float32.ofBits 0x7FC00000)
  else readDigits? negative cs

def readFloat32? (s : String) : Option Float32 :=
  match s.toList with
  | '-' :: rest => readUnsigned? true rest
  | '+' :: rest => readUnsigned? false rest
  | cs => readUnsigned? false cs

/-- A natural number up to `high` in ASCII digits; a plus sign may stand before it. -/
def readNat? (high : Nat) (s : String) : Option Nat :=
  let digits := match s.toList with
    | '+' :: rest => rest
    | cs => cs
  if digits.isEmpty || !digits.all Char.isDigit then none
  else if digitsValue digits ≤ high then some (digitsValue digits) else none

end BankQuery.Number
