import BankQuery.Number.Shortest

/-!
# Decimal text of binary numbers

`Shown` is what a floating-point number shows: no number at all, infinity, or a sign with digits and
a power of ten. It is written positionally, or as a JSON number with an exponent outside the range
`10^-5` to `10^16`.

The reader of JSON numbers keeps at most 64 bits of the digits and scales them by powers of ten in
double precision; the last place of a number with very many digits may differ from the nearest
double.
-/

namespace BankQuery.Number

inductive Shown where
  | notANumber
  | infinite (negative : Bool)
  | finite (negative : Bool) (digits : Nat) (exponent : Int)

def binary (fraction exponent : Nat) (width bias : Nat) : Binary :=
  if exponent = 0 then ⟨fraction, 1 - (bias + width : Int), false⟩
  else ⟨Nat.pow 2 width + fraction, exponent - (bias + width : Int), fraction = 0 ∧ 1 < exponent⟩

def shown (negative : Bool) (fraction exponent width bias top : Nat) : Shown :=
  if exponent = top then if fraction = 0 then .infinite negative else .notANumber
  else if exponent = 0 ∧ fraction = 0 then .finite negative 0 0
  else
    let (digits, e) := (binary fraction exponent width bias).shortest
    .finite negative digits e

def Shown.ofFloat (x : Float) : Shown :=
  let bits := x.toBits.toNat
  shown (bits >>> 63 == 1) (bits % Nat.pow 2 52) ((bits >>> 52) % 2048) 52 1023 2047

def Shown.ofFloat32 (x : Float32) : Shown :=
  let bits := x.toBits.toNat
  shown (bits >>> 31 == 1) (bits % Nat.pow 2 23) ((bits >>> 23) % 256) 23 127 255

def zeros (n : Nat) : String := String.ofList (List.replicate n '0')

def sign (negative : Bool) : String := if negative then "-" else ""

/-- `digits · 10^e` without an exponent; `whole` follows a number that has no fraction. -/
def positionalDigits (digits : Nat) (e : Int) (whole : String) : String :=
  let text := Nat.repr digits
  let point : Int := text.length + e
  if 0 ≤ e then text ++ zeros e.toNat ++ whole
  else if 0 < point then
    String.ofList (text.toList.take point.toNat) ++ "." ++
      String.ofList (text.toList.drop point.toNat)
  else "0." ++ zeros (-point).toNat ++ text

/-- All digits, and no point in whole numbers. -/
def Shown.positional : Shown → String
  | .notANumber => "NaN"
  | .infinite negative => sign negative ++ "inf"
  | .finite negative digits e => sign negative ++ positionalDigits digits e ""

/-- A JSON number; infinities and what is no number are written as null. -/
def Shown.json : Shown → String
  | .notANumber => "null"
  | .infinite _ => "null"
  | .finite negative digits e =>
    let text := Nat.repr digits
    let point : Int := text.length + e
    sign negative ++
      if digits = 0 then "0.0"
      else if -5 < point ∧ point ≤ 16 then positionalDigits digits e ".0"
      else
        let tail := String.ofList (text.toList.drop 1)
        String.ofList (text.toList.take 1) ++ (if tail.isEmpty then "" else "." ++ tail) ++ "e" ++
          (if point - 1 < 0 then "-" else "") ++ Nat.repr (point - 1).natAbs

/-- `significand · 10^exponent`, scaled in double precision; none beyond the largest double. -/
def scale : Nat → Float → Int → Option Float
  | 0, x, _ => some x
  | n + 1, x, e =>
    if e.natAbs ≤ 308 then
      let power := Float.ofScientific 1 false e.natAbs
      if 0 ≤ e then
        let y := x * power
        if y.isInf then none else some y
      else some (x / power)
    else if x == 0 then some x
    else if 0 ≤ e then none
    else scale n (x / Float.ofScientific 1 false 308) (e + 308)

def word : Nat := UInt64.size

/-- Digits that fit a 64-bit word after `n`, with the digits that no longer do. -/
def takeDigits (n : Nat) : List Nat → Nat × List Nat
  | [] => (n, [])
  | d :: ds => if n * 10 + d < word then takeDigits (n * 10 + d) ds else (n, d :: ds)

def clampExponent (e : Int) : Int := min (max e (-2147483648)) 2147483647

inductive Literal where
  | int (value : Int)
  | float (value : Float)

/-- The number with these digits before the point, after the point if there is one, and with this
exponent if there is one. None is a number beyond the largest double. -/
def ofDigits? (negative : Bool) (whole : List Nat) (fraction : Option (List Nat))
    (exponent : Option Int) : Option Literal :=
  let (head, dropped) := takeDigits 0 whole
  match dropped, fraction, exponent with
  | [], none, none =>
    if !negative then some (.int head)
    else if 0 < head ∧ 2 * head ≤ word then some (.int (-head))
    else some (.float (-(Float.ofNat head)))
  | _, _, _ =>
    let tail := fraction.getD []
    let (significand, unread) := takeDigits head tail
    let base : Int := dropped.length - (tail.length - unread.length : Nat)
    let signed (x : Float) : Float := if negative then -x else x
    match exponent with
    | none => (scale 5 (Float.ofNat significand) base).map fun x => .float (signed x)
    | some e =>
      if 2147483647 < e.natAbs then
        if significand ≠ 0 ∧ 0 < e then none else some (.float (signed 0))
      else
        (scale 5 (Float.ofNat significand) (clampExponent (base + e))).map fun x =>
          .float (signed x)

end BankQuery.Number
