import BankQuery.Retrieval.KeyedHash
import BankQuery.Text.Normal

/-!
# Embeddings

A text is embedded by hashing its words and their runs of three letters onto the coordinates of a
vector of single-precision numbers, with a sign from the hash, and scaling the vector to length one.
All sums go from left to right and begin with negative zero.
-/

namespace BankQuery

abbrev Embedding := List Float32

namespace Embedding

def total (xs : List Float32) : Float32 := xs.foldl (· + ·) (-0.0)

def norm (v : Embedding) : Float32 := (total (v.map fun x => x * x)).sqrt

/-- Cosine of the angle; zero for vectors of different dimensions or without length. -/
def cosine (a b : Embedding) : Float32 :=
  if a.length ≠ b.length then 0
  else
    let dot := total (List.zipWith (· * ·) a b)
    if norm a == 0 || norm b == 0 then 0 else dot / (norm a * norm b)

def leastDimension : Nat := 8

def trigrams : List Char → List (List Char)
  | a :: b :: c :: rest => [a, b, c] :: trigrams (b :: c :: rest)
  | _ => []

/-- The features of a word with their weights: the word, and its trigrams between blanks. -/
def features (word : String) : List (String × Float32) :=
  (word, 1) :: (trigrams (' ' :: word.toList ++ [' '])).map fun g => (String.ofList g, 0.5)

/-- Add a feature at the coordinate and with the sign that its hash gives. -/
def addFeature (dimension : Nat) (v : Array Float32) (feature : String × Float32) : Array Float32 :=
  let h := KeyedHash.ofText feature.1
  let signed := if h < 0x8000000000000000 then feature.2 else -feature.2
  v.modify (h.toNat % dimension) (· + signed)

def scaled (v : Embedding) : Embedding :=
  let n := norm v
  if n > 0 then v.map (· / n) else v

def ofText (dimension : Nat) (text : String) : Embedding :=
  let n := Nat.max dimension leastDimension
  let all := (Text.words text).flatMap features
  scaled (all.foldl (addFeature n) (Array.replicate n (0 : Float32))).toList

end Embedding

end BankQuery
