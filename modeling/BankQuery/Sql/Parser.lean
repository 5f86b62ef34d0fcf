import BankQuery.Number.Nearest
import BankQuery.Sql.Token

/-!
# Readers of tokens

A reader takes tokens from the front of what is left of a statement, or fails. It also knows how
many statements, queries and expressions may still be opened inside each other.

A reader that fails takes nothing when another is tried in its place with `<|>`.
-/

namespace BankQuery.Sql

/-- A reader, of the depth that is left and the tokens that are left. -/
abbrev Parser := ReaderT Nat (StateT (List Token) Option)

namespace Parser

variable {α β : Type}

def fail : Parser α := fun _ _ => none

def rest : Parser (List Token) := fun _ ts => some (ts, ts)

def next : Parser Token := fun _ ts =>
  match ts with
  | [] => none
  | t :: ts => some (t, ts)

def peek? : Parser (Option Token) := fun _ ts => some (ts.head?, ts)

def deeper (p : Parser α) : Parser α := fun depth ts =>
  match depth with
  | 0 => none
  | depth + 1 => p depth ts

def maybe (p : Parser α) : Parser (Option α) := some <$> p <|> pure none

def take? (f : Token → Option α) : Parser (Option α) := fun _ ts =>
  match ts with
  | [] => some (none, ts)
  | t :: rest =>
    match f t with
    | some a => some (some a, rest)
    | none => some (none, ts)

def eat (t : Token) : Parser Bool := fun _ ts =>
  match ts with
  | [] => some (false, ts)
  | u :: rest => if u = t then some (true, rest) else some (false, ts)

def symbol? (text : String) : Parser Bool := eat (.symbol text)

def isKeyword (word : String) (t : Token) : Bool := t.keyword == word

def keyword? (word : String) : Parser Bool := fun _ ts =>
  match ts with
  | [] => some (false, ts)
  | t :: rest => if isKeyword word t then some (true, rest) else some (false, ts)

def afterKeywords : List String → List Token → Option (List Token)
  | [], ts => some ts
  | _ :: _, [] => none
  | w :: ws, t :: ts => if isKeyword w t then afterKeywords ws ts else none

/-- Take all of these keywords or none. -/
def phrase? (words : List String) : Parser Bool := fun _ ts =>
  match afterKeywords words ts with
  | some rest => some (true, rest)
  | none => some (false, ts)

def oneOf? (words : List String) : Parser (Option String) :=
  take? fun t => if words.contains t.keyword then some t.keyword else none

def ensure (b : Bool) : Parser Unit := if b then pure () else fail

def symbol (text : String) : Parser Unit := symbol? text >>= ensure

def keyword (word : String) : Parser Unit := keyword? word >>= ensure

def phrase (words : List String) : Parser Unit := phrase? words >>= ensure

def oneOf (words : List String) : Parser String := do
  match ← oneOf? words with
  | some word => pure word
  | none => fail

/-- What `p` reads behind the keyword, if it is next. -/
def afterKeyword? (word : String) (p : Parser α) : Parser (Option α) := do
  if ← keyword? word then some <$> p else pure none

/-- What `p` reads behind the keywords, or the empty list. -/
def listAfter (words : List String) (p : Parser (List α)) : Parser (List α) := do
  if ← phrase? words then p else pure []

def parenthesized (p : Parser α) : Parser α := do
  symbol "("
  let a ← p
  symbol ")"
  pure a

/-- Go on from `a` until a step says that it is the last, with at most `n` steps. -/
def iterateFor (step : α → Parser (Option α)) : Nat → α → Parser α
  | 0, _ => fail
  | n + 1, a => do
    match ← step a with
    | some a => iterateFor step n a
    | none => pure a

/-- Go on from `a` until a step has no next. Each step takes a token. -/
def iterate (step : α → Parser (Option α)) (a : α) : Parser α := do
  iterateFor step ((← rest).length + 1) a

def commaList (p : Parser α) : Parser (List α) := do
  let first ← p
  let others ← iterate
    (fun done => do if ← symbol? "," then some <$> ((· :: done) <$> p) else pure none) []
  pure (first :: others.reverse)

def nameOf? : Token → Option Name
  | .word w => some w.name
  | .string text => some ⟨text, some '\''⟩
  | _ => none

def name : Parser Name := do
  match nameOf? (← next) with
  | some n => pure n
  | none => fail

def path : Parser (List Name) := do
  let first ← name
  let others ← iterate
    (fun done => do if ← symbol? "." then some <$> ((· :: done) <$> name) else pure none) []
  pure (first :: others.reverse)

def columns? : Parser (List Name) := do
  if ← symbol? "(" then
    let names ← commaList name
    symbol ")"
    pure names
  else pure []

def columns : Parser (List Name) := parenthesized (commaList name)

/-- An alias; one of the reserved words is one only behind `AS`. -/
def alias? (reserved : List String) : Parser (Option Name) := do
  let said ← keyword? "AS"
  let found ← take? fun
    | .word w => if said || !reserved.contains w.keyword then some w.name else none
    | .string text => some ⟨text, some '\''⟩
    | _ => none
  if said && found.isNone then fail else pure found

/-- A text: a word without meaning of its own, or a literal. -/
def text : Parser String := do
  match ← next with
  | .word w => if w.isPlain then pure w.name.text else fail
  | .string s => pure s
  | .escaped s => pure s
  | _ => fail

/-- A number that fits in 64 bits. -/
def natural : Parser Nat := do
  match ← next with
  | .number digits _ =>
    match Number.readNat? (UInt64.size - 1) digits with
    | some n => pure n
    | none => fail
  | _ => fail

end Parser

end BankQuery.Sql
