import BankQuery.Guard.Rejection
import BankQuery.Text.Pattern
import BankQuery.Text.Similarity

/-!
# Screening

Patterns of SQL in a text, by letter case regardless. `screen` looks at a question before it is
read: a separator or a comment marker is ordinary punctuation unless a quote or a word of SQL stands
in the same text, while the opening of a statement is always suspicious.
-/

namespace BankQuery.Guard

open Text Text.Pattern

def wholeWord (words : List String) : Pattern := boundary ++ anyCaseOf words ++ boundary

/-- Words that a statement must not hold, not even in a quoted name. -/
def forbiddenWords : List String := [
  "INSERT", "UPDATE", "DELETE", "DROP", "ALTER", "TRUNCATE", "GRANT", "REVOKE", "EXEC", "EXECUTE",
  "CREATE", "MERGE", "COPY", "CALL", "COMMENT", "LOCK", "VACUUM", "REINDEX", "DO"]

def forbiddenPattern : Pattern := wholeWord forbiddenWords

/-- Words that make SQL of a separator or a comment marker. -/
def sqlWords : List String := [
  "select", "insert", "update", "delete", "drop", "alter", "truncate", "grant", "revoke", "exec",
  "execute", "create", "union", "table"]

def statementVerbs : List String := [
  "drop", "delete", "insert", "update", "truncate", "alter", "grant", "revoke", "exec", "execute",
  "create"]

def statementObjects : List String := [
  "table", "from", "into", "database", "schema", "index", "view", "user", "role", "function",
  "procedure", "set", "all"]

def wordRun : Pattern := some1 (.one isWordChar)

/-- `drop table`, `union select`, `select a, b from`. -/
def statementPattern : Pattern := oneOf [
  boundary ++ anyCaseOf statementVerbs ++ blanks ++ anyCaseOf statementObjects ++ boundary,
  boundary ++ anyCase "union" ++ blanks ++ option (anyCase "all" ++ blanks) ++ anyCase "select" ++
    boundary,
  boundary ++ anyCase "select" ++ blanks ++
    oneOf [char '*',
      wordRun ++ some1 (optionalBlanks ++ char ',' ++ optionalBlanks ++ wordRun)] ++
    blanks ++ anyCase "from" ++ boundary]

def holds (text part : String) : Bool := occurs part.toList text.toList

def hasSeparator (text : String) : Bool := holds text ";"

def hasCommentMarker (text : String) : Bool := holds text "--" || holds text "/*" || holds text "*/"

def isSqlShaped (text : String) : Bool :=
  holds text "'" || holds text "\"" || (wholeWord sqlWords).occursIn text

/-- Why the text is not read as a question, if it is not. -/
def screen (text : String) : Option Rejection :=
  if (hasSeparator text || hasCommentMarker text) && isSqlShaped text then
    some (.suspiciousInput (if hasSeparator text then "statement separator" else "comment marker"))
  else
    (statementPattern.find text).map fun m => .suspiciousInput (lower (String.ofList m.text))

end BankQuery.Guard
