import BankQuery.Number.Digits
import BankQuery.Sql.Token
import BankQuery.Text.Blank
import BankQuery.Text.Numeral

/-!
# Cutting a statement into tokens

Each step takes the longest token at the front of the text. Blanks between tokens are dropped. A
text that ends inside a quoted piece has no tokens. Comments are not known here: their markers are
looked for before a statement is read.
-/

namespace BankQuery.Sql

open Text

/-- Operators and punctuation, a longer one before its beginnings. -/
def symbols : List String := [
  "->>", "->", "-", "+", "*", "/", "%", "||/", "||", "|/", "|", "==", "=>", "=", "!~*", "!~", "!!",
  "!=", "!", "<=>", "<=", "<>", "<<", "<@", "<", ">=", ">>", ">", "::", ":=", ":", ";", "\\", "[",
  "]", "&&", "&", "^", "\x7b", "\x7d", "~*", "~", "#>>", "#>", "#-", "#", "@>", "@?", "@@",
  "@", "(", ")", ","]

def after? : List Char → List Char → Option (List Char)
  | [], cs => some cs
  | _ :: _, [] => none
  | p :: ps, c :: cs => if p = c then after? ps cs else none

def isNameStart (c : Char) : Bool := isLetter c || c == '_'

def isNamePart (c : Char) : Bool := isLetter c || c.isDigit || c == '$' || c == '_'

/-- Text up to the closing quote, which is doubled where it belongs to the text. -/
def readQuoted (quote : Char) (done : List Char) : List Char → Option (String × List Char)
  | [] => none
  | [c] => if c = quote then some (String.ofList done.reverse, []) else none
  | c :: d :: rest =>
    if c = quote then
      if d = quote then readQuoted quote (c :: done) rest
      else some (String.ofList done.reverse, d :: rest)
    else readQuoted quote (c :: done) (d :: rest)

/-- The character that a letter stands for behind a backslash. -/
def controlChar (c : Char) : Char :=
  if c = 'n' then '\n' else if c = 'r' then '\r' else if c = 't' then '\t' else c

/-- Text up to the closing quote, in which a backslash escapes the next character. -/
def readEscaped (done : List Char) (escaped : Bool) : List Char → Option (String × List Char)
  | [] => none
  | [c] => if c = '\'' ∧ !escaped then some (String.ofList done.reverse, []) else none
  | c :: d :: rest =>
    if escaped then readEscaped (controlChar c :: done) false (d :: rest)
    else if c = '\\' then readEscaped done true (d :: rest)
    else if c = '\'' then
      if d = '\'' then readEscaped (c :: done) false rest
      else some (String.ofList done.reverse, d :: rest)
    else readEscaped (c :: done) false (d :: rest)

def readDollars (done : List Char) : List Char → Option (String × List Char)
  | '$' :: '$' :: rest => some (String.ofList done.reverse, rest)
  | c :: rest => readDollars (c :: done) rest
  | [] => none

/-- A placeholder, or a text between dollar signs, behind the first of them. -/
def readDollar (cs : List Char) : Option (Token × List Char) :=
  match cs with
  | '$' :: rest => (readDollars [] rest).map fun (text, rest) => (.dollar "" text, rest)
  | _ =>
    let tag := cs.takeWhile fun c => isAlphanumeric c || c == '_'
    match cs.drop tag.length with
    | '$' :: rest =>
      let text := rest.takeWhile (· != '$')
      (after? (('$' :: tag) ++ ['$']) (rest.drop text.length)).map fun rest =>
        (.dollar (String.ofList tag) (String.ofList text), rest)
    | rest => some (.placeholder (String.ofList ('$' :: tag)), rest)

/-- An exponent and the text behind it; nothing if there is none. -/
def readPower (cs : List Char) : List Char × List Char :=
  let (mark, rest) := match cs with
    | c :: d :: rest =>
      if c = 'e' ∨ c = 'E' then
        if d = '+' ∨ d = '-' then ([c, d], rest) else ([c], d :: rest)
      else ([], cs)
    | _ => ([], cs)
  let digits := rest.takeWhile Char.isDigit
  if mark.isEmpty || digits.isEmpty then ([], cs)
  else (mark ++ digits, rest.drop digits.length)

def readNumber (cs : List Char) : Token × List Char :=
  let whole := cs.takeWhile Char.isDigit
  match whole, cs.drop whole.length with
  | ['0'], 'x' :: rest =>
    let digits := rest.takeWhile fun c => (Number.hexDigit? c).isSome
    (.hex (String.ofList digits), rest.drop digits.length)
  | _, rest =>
    let (fraction, rest) := match rest with
      | '.' :: rest =>
        let digits := rest.takeWhile Char.isDigit
        ('.' :: digits, rest.drop digits.length)
      | _ => ([], rest)
    if whole ++ fraction = ['.'] then (.symbol ".", rest)
    else
      let (power, rest) := readPower rest
      let text := String.ofList (whole ++ fraction ++ power)
      match rest with
      | 'L' :: rest => (.number text true, rest)
      | _ => (.number text false, rest)

def readWord (c : Char) (rest : List Char) : Token × List Char :=
  let part := rest.takeWhile isNamePart
  (.word (Word.bare (String.ofList (c :: part))), rest.drop part.length)

/-- A string of one of the kinds that a letter before the quote announces. -/
def readMarked (c : Char) (rest : List Char) : Option (Token × List Char) :=
  if c = 'n' ∨ c = 'N' then (readQuoted '\'' [] rest).map fun (s, rest) => (.national s, rest)
  else if c = 'x' ∨ c = 'X' then (readQuoted '\'' [] rest).map fun (s, rest) => (.hex s, rest)
  else (readEscaped [] false rest).map fun (s, rest) => (.escaped s, rest)

def isStringMark (c : Char) : Bool := ['n', 'N', 'x', 'X', 'e', 'E'].contains c

/-- The grave accent, which quotes names. -/
def grave : Char := Char.ofNat 96

def readSymbol (c : Char) (rest : List Char) : Option (Token × List Char) :=
  (symbols.findSome? fun s =>
    (after? s.toList (c :: rest)).map fun rest =>
      (Token.symbol (if s = "!=" then "<>" else s), rest)).or
    (some (.other c, rest))

/-- The token at the front of a text that begins with `c`, which is no blank. -/
def readToken (c : Char) (rest : List Char) : Option (Token × List Char) :=
  if c = '\'' then (readQuoted '\'' [] rest).map fun (s, rest) => (.string s, rest)
  else if c = '"' ∨ c = grave then
    (readQuoted c [] rest).map fun (s, rest) => (.word (Word.quoted s c), rest)
  else if c.isDigit ∨ c = '.' then some (readNumber (c :: rest))
  else if c = '$' then readDollar rest
  else if c = '?' then
    let digits := rest.takeWhile isNumeral
    some (.placeholder (String.ofList ('?' :: digits)), rest.drop digits.length)
  else if isNameStart c then
    match rest with
    | '\'' :: quoted => if isStringMark c then readMarked c quoted else some (readWord c rest)
    | _ => some (readWord c rest)
  else readSymbol c rest

/-- Tokens of a text, at most `n` of them and the blanks. -/
def lexFrom : Nat → List Char → Option (List Token)
  | _, [] => some []
  | 0, _ :: _ => none
  | n + 1, c :: rest =>
    if isBlank c then lexFrom n rest
    else
      match readToken c rest with
      | some (token, rest) => (lexFrom n rest).map (token :: ·)
      | none => none

def lex (s : String) : Option (List Token) := lexFrom s.length s.toList

end BankQuery.Sql
