import BankQuery.Calendar.Phrase
import BankQuery.Question.Basic
import BankQuery.Text.Similarity

/-!
# Cue words

Words of a question that say how the answer is laid out: as a ranking, as a comparison, how many
places, and which end comes first.
-/

namespace BankQuery.Cues

open Text Text.Pattern

def ranking : List String :=
  ["ranking", "top", "clasificacion", "mejores", "peores", "mayores", "menores", "lideres"]

def comparison : List String := [
  "compara", "comparar", "comparalo", "comparala", "comparacion", "comparativo", "vs", "versus",
  "contra", "frente", "tambien", "agrega", "agregale", "anade"]

/-- Words that are never the name of a metric or a bank, even in capitals. -/
def stopwords : List String := [
  "a", "al", "con", "cual", "cuales", "dame", "de", "del", "desde", "durante", "el", "en", "entre",
  "es", "la", "las", "lo", "los", "me", "mes", "meses", "muestra", "muestrame", "para", "por",
  "que", "un", "una", "y", "ahora", "ano", "anos", "trimestre", "ultimo", "ultimos", "ultima",
  "ultimas", "hasta", "ver", "grafica", "enero", "febrero", "marzo", "abril", "mayo", "junio",
  "julio", "agosto", "octubre", "banco", "bancos", "indice", "nivel", "cifra", "cifras", "total"]

/-- `top 5`, `los 5 mejores`, `5 peores`. -/
def topPattern : Pattern :=
  let number := keep "number" shortNumber
  boundary ++ oneOf [
    literal "top" ++ optionalBlanks ++ number,
    anyOf ["los", "las", "primeros", "primeras"] ++ blanks ++ number ++ blanks ++
      anyOf ["mejores", "peores", "mayores", "menores", "bancos", "primeros"],
    number ++ blanks ++ anyOf ["mejores", "peores", "mayores", "menores"]] ++ boundary

def topN? (normal : String) : Option UInt32 := do
  let n ← Phrase.decimal? (← (← topPattern.find normal).piece? "number")
  if n = 0 then none else return UInt32.ofNat n

def contains (normal part : String) : Bool := occurs part.toList normal.toList

/-- Which end of a ranking comes first. What is best depends on the metric. -/
def order (words : List String) (normal : String) (higherIsWorse : Bool) : RankOrder :=
  if "menor" ∈ words ∨ "menores" ∈ words ∨ contains normal "mas bajo" ∨
      contains normal "mas baja" then
    .ascending
  else if "mayor" ∈ words ∨ "mayores" ∈ words ∨ contains normal "mas alto" ∨
      contains normal "mas alta" then
    .descending
  else if "mejores" ∈ words then if higherIsWorse then .ascending else .descending
  else if "peores" ∈ words then if higherIsWorse then .descending else .ascending
  else .descending

end BankQuery.Cues
