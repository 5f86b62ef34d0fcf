/-!
# Rejections

Why a statement is not let through, or why a text is not read as a question.
-/

namespace BankQuery

inductive Rejection where
  | multipleStatements
  | comment
  | forbiddenKeyword (word : String)
  | unparseable (detail : String)
  | notASelect
  | setOperation
  | commonTableExpression
  | subquery
  | unknownTable (name : String)
  | unknownColumn (name : String)
  | disallowedFunction (name : String)
  | inlineLiteral (text : String)
  | placeholderMismatch (detail : String)
  | missingTimePredicate (column : String)
  | suspiciousInput (detail : String)
deriving DecidableEq

namespace Rejection

def name : Rejection → String
  | .multipleStatements => "multiple_statements"
  | .comment => "comment"
  | .forbiddenKeyword _ => "forbidden_keyword"
  | .unparseable _ => "unparseable"
  | .notASelect => "not_a_select"
  | .setOperation => "set_operation"
  | .commonTableExpression => "common_table_expression"
  | .subquery => "subquery"
  | .unknownTable _ => "unknown_table"
  | .unknownColumn _ => "unknown_column"
  | .disallowedFunction _ => "disallowed_function"
  | .inlineLiteral _ => "inline_literal"
  | .placeholderMismatch _ => "placeholder_mismatch"
  | .missingTimePredicate _ => "missing_time_predicate"
  | .suspiciousInput _ => "suspicious_input"

def detail? : Rejection → Option String
  | .forbiddenKeyword d | .unparseable d | .unknownTable d | .unknownColumn d
  | .disallowedFunction d | .inlineLiteral d | .placeholderMismatch d | .missingTimePredicate d
  | .suspiciousInput d => some d
  | .multipleStatements | .comment | .notASelect | .setOperation | .commonTableExpression
  | .subquery => none

def message : Rejection → String
  | .multipleStatements => "more than one statement"
  | .comment => "comment in statement"
  | .forbiddenKeyword word => "forbidden keyword " ++ word
  | .unparseable detail => "statement does not parse: " ++ detail
  | .notASelect => "statement is not a plain SELECT"
  | .setOperation => "set operation"
  | .commonTableExpression => "common table expression"
  | .subquery => "subquery or derived table"
  | .unknownTable name => "table " ++ name ++ " is not whitelisted"
  | .unknownColumn name => "column " ++ name ++ " is not whitelisted"
  | .disallowedFunction name => "function " ++ name ++ " is not allowed"
  | .inlineLiteral text => "inline literal " ++ text
  | .placeholderMismatch detail => "placeholders do not match bound parameters: " ++ detail
  | .missingTimePredicate column => "no predicate on time column " ++ column
  | .suspiciousInput detail => "input looks like SQL: " ++ detail

end Rejection

end BankQuery
