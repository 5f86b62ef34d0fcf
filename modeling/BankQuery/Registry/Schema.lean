import BankQuery.Text.Case

/-!
# The schema

The tables and columns that a statement may name. One table holds a row per bank and month; another
may hold a row per bank, segment and month. Names are compared up to the case of ASCII letters.
-/

namespace BankQuery

structure Column where
  name : String
  dataType : String
  description : String := ""
deriving DecidableEq

structure Table where
  name : String
  description : String := ""
  columns : List Column
  timeColumn : String
  bankColumn : String
  segmentColumn : Option String := none
deriving DecidableEq

structure Schema where
  tables : List Table
  primaryTable : String
  segmentTable : Option String := none
deriving DecidableEq

def Table.hasColumn (t : Table) (name : String) : Bool :=
  t.columns.any fun c => Text.sameAscii c.name name

namespace Schema

def table? (s : Schema) (name : String) : Option Table :=
  s.tables.find? fun t => Text.sameAscii t.name name

def primary? (s : Schema) : Option Table := s.table? s.primaryTable

def segments? (s : Schema) : Option Table := s.segmentTable.bind s.table?

end Schema

end BankQuery
