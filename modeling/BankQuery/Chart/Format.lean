import BankQuery.Chart.Basic

/-! # Charts as JSON -/

namespace BankQuery

open Json

def Point.toJson (p : Point) : Json :=
  .object [("period", .string p.period), ("value", Json.ofOption .float p.value)]

def Series.toJson (s : Series) : Json :=
  .object ([("name", .string s.name), ("label", .string s.label), ("bank", .string s.bank)] ++
    whenSome "segment" .string s.segment ++ whenSome "rank" wordToJson s.rank ++
    [("points", .array (s.points.map Point.toJson))])

end BankQuery
