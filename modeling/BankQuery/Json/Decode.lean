import BankQuery.Json.Value

/-!
# Records in JSON

A record is read from an object, by the names of its fields, or from an array, by their order.
Members with other names are ignored; a field that is given twice is refused. A field with a default
may be left out, and an optional field may also be null.
-/

namespace BankQuery.Json

structure Field where
  name : String
  hasDefault : Bool := false

def required (name : String) : Field := ⟨name, false⟩

def defaulted (name : String) : Field := ⟨name, true⟩

/-- The value of a member, unless it is given twice. -/
def memberOnce (members : List (String × Json)) (name : String) : Option (Option Json) :=
  match members.filter fun m => m.1 == name with
  | [] => some none
  | [m] => some (some m.2)
  | _ => none

/-- Values for the fields by position; only fields with a default may be missing at the end. -/
def byPosition : List Field → List Json → Option (List (Option Json))
  | [], [] => some []
  | [], _ :: _ => none
  | f :: fs, [] => if f.hasDefault then (byPosition fs []).map (none :: ·) else none
  | _ :: fs, j :: js => (byPosition fs js).map (some j :: ·)

/-- One entry for each field: its value, or nothing if it is absent. -/
def fields (fs : List Field) : Json → Option (List (Option Json))
  | .object members => fs.mapM fun f => memberOnce members f.name
  | .array items => byPosition fs items
  | _ => none

def bool? : Json → Option Bool
  | .bool b => some b
  | _ => none

def int? : Json → Option Int
  | .int n => some n
  | _ => none

def intIn? (low high : Int) (j : Json) : Option Int :=
  j.int?.bind fun n => if low ≤ n ∧ n ≤ high then some n else none

def uint32? (j : Json) : Option UInt32 :=
  (j.intIn? 0 4294967295).map fun n => UInt32.ofNat n.toNat

def uint64? (j : Json) : Option UInt64 :=
  (j.intIn? 0 18446744073709551615).map fun n => UInt64.ofNat n.toNat

def int32? (j : Json) : Option Int := j.intIn? (-2147483648) 2147483647

def int64? (j : Json) : Option Int := j.intIn? (-9223372036854775808) 9223372036854775807

def float? : Json → Option Float
  | .float x => some x
  | .int n => some (if n < 0 then -(Float.ofNat n.natAbs) else Float.ofNat n.natAbs)
  | _ => none

/-- A single-precision number; an integer is rounded once, a fraction from its double. -/
def float32? : Json → Option Float32
  | .float x => some x.toFloat32
  | .int n => some (if n < 0 then -(Float32.ofNat n.natAbs) else Float32.ofNat n.natAbs)
  | _ => none

def list? {α : Type} (f : Json → Option α) : Json → Option (List α)
  | .array items => items.mapM f
  | _ => none

def option? {α : Type} (f : Json → Option α) : Json → Option (Option α)
  | .null => some none
  | j => (f j).map some

def need {α : Type} (f : Json → Option α) (entry : Option Json) : Option α := entry.bind f

def orElse {α : Type} (value : α) (f : Json → Option α) : Option Json → Option α
  | none => some value
  | some j => f j

def maybe {α : Type} (f : Json → Option α) : Option Json → Option (Option α)
  | none => some none
  | some j => option? f j

/-- A name out of a table: a string, or an object with that single name and null. -/
def choice? {α : Type} (table : List (String × α)) : Json → Option α
  | .string s => table.lookup s
  | .object [(s, .null)] => table.lookup s
  | _ => none

/-- The last value for each name, in the order of first mention. -/
def textMap? : Json → Option (List (String × String))
  | .object members => do
    let pairs ← members.mapM fun m => m.2.text?.map fun v => (m.1, v)
    return pairs.foldl (fun done p =>
      if done.any (·.1 == p.1) then done.map fun q => if q.1 == p.1 then p else q
      else done ++ [p]) []
  | _ => none

end BankQuery.Json
