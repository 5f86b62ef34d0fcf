import BankQuery.Sql.Parser

/-!
# Names of types

A type is a known one with what may stand behind it, or any other name. `readType` gives the text of
a type as it is written back, with the texts in quotes that stand in its parentheses.
-/

namespace BankQuery.Sql

/-- What a type name is: the type of intervals, a type that is known, or any other. -/
inductive TypeName where
  | interval
  | known (text : String) (quoted : List String)
  | other (text : String) (quoted : List String)
deriving DecidableEq

namespace TypeName

def text : TypeName → String
  | .interval => "INTERVAL"
  | .known text _ => text
  | .other text _ => text

def quoted : TypeName → List String
  | .interval => []
  | .known _ quoted => quoted
  | .other _ quoted => quoted

end TypeName

inductive TypeArguments where
  | none
  | precision
  /-- A precision, and then `UNSIGNED`. -/
  | signed
  | length
  | scale
  | values
  | timeZone
deriving DecidableEq

def typeWords : List (String × TypeArguments) := [
  ("BOOLEAN", .none), ("BOOL", .none), ("FLOAT", .precision), ("REAL", .none), ("FLOAT4", .none),
  ("FLOAT64", .none), ("FLOAT8", .none), ("TINYINT", .signed), ("INT2", .signed),
  ("SMALLINT", .signed), ("MEDIUMINT", .signed), ("INT", .signed), ("INT4", .signed),
  ("INT64", .none), ("INTEGER", .signed), ("BIGINT", .signed), ("INT8", .signed),
  ("VARCHAR", .length), ("NVARCHAR", .precision), ("CLOB", .precision), ("BINARY", .precision),
  ("VARBINARY", .precision), ("BLOB", .precision), ("BYTES", .precision), ("UUID", .none),
  ("DATE", .none), ("DATETIME", .precision), ("TIMESTAMP", .timeZone), ("TIMESTAMPTZ", .precision),
  ("TIME", .timeZone), ("TIMETZ", .precision), ("JSON", .none), ("REGCLASS", .none),
  ("STRING", .precision), ("TEXT", .none), ("BYTEA", .none), ("NUMERIC", .scale),
  ("DECIMAL", .scale), ("DEC", .scale), ("BIGNUMERIC", .scale), ("BIGDECIMAL", .scale),
  ("ENUM", .values), ("SET", .values)]

namespace Grammar

open BankQuery.Sql.Parser

def precision? : Parser (Option Nat) := do
  if ← symbol? "(" then
    let n ← natural
    symbol ")"
    pure (some n)
  else pure none

def scale? : Parser (Option Nat × Option Nat) := do
  if ← symbol? "(" then
    let n ← natural
    let scale ← if ← symbol? "," then some <$> natural else pure none
    symbol ")"
    pure (some n, scale)
  else pure (none, none)

def inParens : Option Nat → String
  | none => ""
  | some n => "(" ++ Nat.repr n ++ ")"

def lengthText : Parser String := do
  if ← symbol? "(" then
    let n ← natural
    let unit ← oneOf? ["CHARACTERS", "OCTETS"]
    symbol ")"
    pure ("(" ++ Nat.repr n ++ (match unit with
      | none => ""
      | some word => " " ++ word) ++ ")")
  else pure ""

def scaleText : Parser String := do
  match ← scale? with
  | (some n, some s) => pure ("(" ++ Nat.repr n ++ "," ++ Nat.repr s ++ ")")
  | (n, _) => pure (inParens n)

def zoneText : Parser String := do
  match ← oneOf? ["WITH", "WITHOUT"] with
  | some word =>
    phrase ["TIME", "ZONE"]
    pure (" " ++ word ++ " TIME ZONE")
  | none => pure ""

def literalString : Parser String := do
  match ← next with
  | .string s => pure s
  | _ => fail

def argumentsText : TypeArguments → Parser (String × List String)
  | .none => pure ("", [])
  | .precision => unquoted (inParens <$> precision?)
  | .signed => unquoted do
    let n ← precision?
    let unsigned ← keyword? "UNSIGNED"
    pure (inParens n ++ if unsigned then " UNSIGNED" else "")
  | .length => unquoted lengthText
  | .scale => unquoted scaleText
  | .values => do
    let values ← parenthesized (commaList literalString)
    pure ("(" ++ ", ".intercalate (values.map (quotedText '\'')) ++ ")", values)
  | .timeZone => unquoted do
    let n ← precision?
    pure (inParens n ++ (← zoneText))
where
  unquoted (p : Parser String) : Parser (String × List String) := (·, []) <$> p

/-- A type of characters, which may vary in length or be a large object. -/
def characterType (word : String) : Parser String := do
  if ← keyword? "VARYING" then pure (word ++ " VARYING" ++ (← lengthText))
  else if ← phrase? ["LARGE", "OBJECT"] then
    pure (word ++ " LARGE OBJECT" ++ inParens (← precision?))
  else pure (word ++ (← lengthText))

/-- What stands in the parentheses behind the name of another type, one after the other, and whether
it is a text in quotes. -/
def modifiers : Parser (List (String × Bool)) := do
  let read ← iterate (fun (found, done) => do
    if done then pure none
    else
      match ← next with
      | .word w => pure (some (((Token.word w).print, false) :: found, false))
      | .number digits _ => pure (some ((digits, false) :: found, false))
      | .string s => pure (some ((s, true) :: found, false))
      | .symbol "," => pure (some (found, false))
      | .symbol ")" => pure (some (found, true))
      | _ => fail) (([] : List (String × Bool)), false)
  pure read.1.reverse

/-- A type that is not known by its first word. -/
def otherType : Parser TypeName := do
  let name := printNames (← path)
  if ← symbol? "(" then
    let given ← modifiers
    let texts := given.map Prod.fst
    pure (.other (if given.isEmpty then name else name ++ "(" ++ ", ".intercalate texts ++ ")")
      ((given.filter Prod.snd).map Prod.fst))
  else pure (.other name [])

def wordType? (word : String) : Option (Parser TypeName) :=
  if word = "INTERVAL" then some (pure .interval)
  else if word = "DOUBLE" then
    some do pure (.known (if ← keyword? "PRECISION" then "DOUBLE PRECISION" else "DOUBLE") [])
  else if word = "CHARACTER" ∨ word = "CHAR" then some ((.known · []) <$> characterType word)
  else (typeWords.lookup word).map fun arguments => do
    let (text, quoted) ← argumentsText arguments
    pure (.known (word ++ text) quoted)

def arrayOf (type : TypeName) : Parser TypeName :=
  iterate (fun (type : TypeName) => do
    if ← symbol? "[" then
      symbol "]"
      pure (some (.known (type.text ++ "[]") type.quoted))
    else pure none) type

/-- A type, and whether a bracket that was read behind it closes one further out. -/
def typeFrom : Nat → Parser (TypeName × Bool)
  | 0 => fail
  | n + 1 => do
    match ← peek? with
    | some (.word w) =>
      if w.keyword = "ARRAY" then
        keyword "ARRAY"
        symbol "<"
        let (inner, closed) ← typeFrom n
        let closes ←
          if closed then pure false
          else if ← symbol? ">" then pure false
          else if ← symbol? ">>" then pure true
          else fail
        pure (← arrayOf (.known ("ARRAY<" ++ inner.text ++ ">") inner.quoted), closes)
      else
        match wordType? w.keyword with
        | some type =>
          keyword w.keyword
          pure (← arrayOf (← type), false)
        | none => pure (← arrayOf (← otherType), false)
    | _ => fail

def readType : Parser TypeName := do
  let (type, closes) ← typeFrom ((← rest).length + 1)
  ensure (!closes)
  pure type

end Grammar

end BankQuery.Sql
