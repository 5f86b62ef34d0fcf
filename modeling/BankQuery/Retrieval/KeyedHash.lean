/-!
# A keyed hash of texts

SipHash with one round per word and three rounds at the end, under the key zero, of the UTF-8 bytes
of a text and a closing byte `0xFF`.
-/

namespace BankQuery.KeyedHash

structure State where
  v0 : UInt64
  v1 : UInt64
  v2 : UInt64
  v3 : UInt64

def start : State :=
  ⟨0x736f6d6570736575, 0x646f72616e646f6d, 0x6c7967656e657261, 0x7465646279746573⟩

def rotate (x : UInt64) (n : UInt64) : UInt64 := (x <<< n) ||| (x >>> (64 - n))

def State.round (s : State) : State :=
  let v0 := s.v0 + s.v1
  let v2 := s.v2 + s.v3
  let v1 := rotate s.v1 13 ^^^ v0
  let v3 := rotate s.v3 16 ^^^ v2
  let v0 := rotate v0 32
  let v2 := v2 + v1
  let v0 := v0 + v3
  let v1 := rotate v1 17 ^^^ v2
  let v3 := rotate v3 21 ^^^ v0
  ⟨v0, v1, rotate v2 32, v3⟩

def State.absorb (s : State) (word : UInt64) : State :=
  let t := State.round { s with v3 := s.v3 ^^^ word }
  { t with v0 := t.v0 ^^^ word }

/-- Bytes as one word, the first the lowest. -/
def littleEndian : List UInt8 → UInt64
  | [] => 0
  | b :: bs => b.toUInt64 ||| (littleEndian bs <<< 8)

/-- Absorb whole words, and the last incomplete one with the length in its top byte. -/
def absorbAll (length : UInt64) (s : State) : List UInt8 → State
  | a :: b :: c :: d :: e :: f :: g :: h :: rest =>
    absorbAll length (s.absorb (littleEndian [a, b, c, d, e, f, g, h])) rest
  | tail => s.absorb (littleEndian tail ||| (length <<< 56))

def finish (s : State) : UInt64 :=
  let t := State.round (State.round (State.round { s with v2 := s.v2 ^^^ 0xFF }))
  t.v0 ^^^ t.v1 ^^^ t.v2 ^^^ t.v3

def ofBytes (bytes : List UInt8) : UInt64 :=
  finish (absorbAll (UInt64.ofNat bytes.length) start bytes)

def ofText (s : String) : UInt64 := ofBytes (s.toUTF8.toList ++ [0xFF])

end BankQuery.KeyedHash
