import BankQuery.Failure
import BankQuery.Question.Alias
import BankQuery.Question.Cues
import BankQuery.Registry.Basic

/-!
# Reading a text as a question

`Mentions.of` collects what the text itself names. `Mentions.merge` fills in from the question of
the turn before: what this turn names wins, what it does not name is carried over, and banks are
added to the earlier ones when the turn compares. `Reading.conclude` then decides: a question that
can be answered, a request to clarify, or a term that is not served. A term that is not served is
reported and never replaced by the earlier turn.
-/

namespace BankQuery

structure Confidence where
  metric : Float
  banks : Float
  range : Float
  filters : Float
  mode : Float

inductive Outcome where
  | resolved (question : Question) (confidence : Confidence)
  | clarification (reason : String) (options : List String)

/-- The metric that a text names, as a code, and how sure that is. -/
structure MetricMention where
  code : String
  confidence : Float

structure Mentions where
  normal : String
  /-- The words, those of banks, metric and filters taken. -/
  words : List Token
  banks : List String
  metric : Option MetricMention
  filters : List String
  period : Phrase.Resolution
  topN : Option UInt32

namespace Registry

def bankAliases (r : Registry) : List Alias := Alias.index (r.banks.map Bank.surfaceForms)

def metricAliases (r : Registry) : List Alias := Alias.index (r.metrics.map Metric.surfaceForms)

def filterAliases (r : Registry) : List Alias :=
  Alias.index (r.filters.map SegmentFilter.surfaceForms)

def unsupportedAliases (r : Registry) : List Alias :=
  Alias.index (r.unsupportedTerms.map fun t => [t])

def metricForms (r : Registry) : List (String × String) :=
  r.metrics.flatMap fun m => m.surfaceForms.map fun form => (m.code, form)

/-- Identifiers of the banks named, and the text with their words taken. -/
def banksIn (r : Registry) (text : List Token) : List String × List Token :=
  let (entries, text) := Alias.scan r.bankAliases text
  (entries.filterMap fun i => (r.banks[i]?).map Bank.id, text)

def filtersIn (r : Registry) (text : List Token) : List String × List Token :=
  let (entries, text) := Alias.scan r.filterAliases text
  (entries.filterMap fun i => (r.filters[i]?).map SegmentFilter.id, text)

/-- Whether a word may be a misspelt metric. -/
def mayBeMetric (t : Token) : Bool :=
  !t.taken && !Cues.stopwords.contains t.word && !t.word.toList.all Char.isDigit

/-- Best match of a word with a metric from place `i` of the text on, of equally good ones the
first. -/
def bestWord (m : Text.Matcher) (forms : List (String × String)) :
    Nat → Option (Nat × MetricMention) → List Token → Option (Nat × MetricMention)
  | _, best, [] => best
  | i, best, t :: rest =>
    let found := if mayBeMetric t then m.best? t.word forms else none
    let best := match found, best with
      | some (code, score), some b =>
        if score > b.2.confidence then some (i, ⟨code, score⟩) else some b
      | some (code, score), none => some (i, ⟨code, score⟩)
      | none, best => best
    bestWord m forms (i + 1) best rest

/-- The metric named: an alias, or else the word most like one. -/
def metricIn (r : Registry) (threshold : Float) (text : List Token) :
    Option MetricMention × List Token :=
  let (entries, text) := Alias.scan r.metricAliases text
  match entries.head?.bind fun i => r.metrics[i]? with
  | some m => (some ⟨m.code, 1⟩, text)
  | none =>
    match bestWord { threshold } r.metricForms 0 none text with
    | some (i, mention) =>
      if mention.confidence ≥ threshold then
        (some mention, text.modify i fun t => { t with taken := true })
      else (none, text)
    | none => (none, text)

def unsupportedTermIn? (r : Registry) (text : List Token) : Option String := do
  let entry ← (Alias.scan r.unsupportedAliases text).1.head?
  return Text.upper (← r.unsupportedTerms[entry]?)

/-- Whether a word typed in capitals stands for nothing the registry knows. -/
def isUnknownAcronym (r : Registry) (word : String) : Bool :=
  let normal := Text.normalize word
  2 ≤ word.length && word.length ≤ 8 && word.toList.all Text.isUpper &&
    !Cues.stopwords.contains normal && !Cues.ranking.contains normal &&
    !Cues.comparison.contains normal && (r.bankNamed? word).isNone &&
    (r.metricNamed? word).isNone &&
    (r.filterNamed? word).isNone

def unknownAcronym? (r : Registry) (text : String) : Option String :=
  (Text.rawWords text).find? r.isUnknownAcronym

end Registry

namespace Mentions

def rankingCue (m : Mentions) : Bool := m.words.any fun t => Cues.ranking.contains t.word

def comparisonCue (m : Mentions) : Bool := m.words.any fun t => Cues.comparison.contains t.word

def of (r : Registry) (threshold : Float) (anchor : Anchor) (text : String) : Mentions :=
  let normal := Text.normalize text
  let (banks, words) := r.banksIn (Token.ofText normal)
  let (metric, words) := r.metricIn threshold words
  let (filters, words) := r.filtersIn words
  { normal, words, banks, metric, filters,
    period := Phrase.resolve anchor normal
    topN := Cues.topN? normal }

/-- Banks of two turns, those of the earlier one first. -/
def union (earlier : List String) : List String → List String
  | [] => earlier
  | b :: rest => union (if b ∈ earlier then earlier else earlier ++ [b]) rest

end Mentions

/-- Everything known after the earlier turn has been taken into account. -/
structure Reading where
  metric : Option String
  metricConfidence : Float
  banks : List String
  range : DateRange
  filters : List String
  mode : Mode
  order : RankOrder

namespace Mentions

def mergedBanks (m : Mentions) (prior : Option Question) : List String :=
  match prior with
  | some p =>
    if m.banks.isEmpty then p.banks
    else if m.comparisonCue then union p.banks m.banks
    else m.banks
  | none => m.banks

def mode (m : Mentions) (prior : Option Question) (banks : List String) : Mode :=
  if m.rankingCue || m.topN.isSome then .ranking
  else if m.comparisonCue || 2 ≤ banks.length then .compare
  else
    match prior with
    | some p => if p.mode == .ranking && banks.isEmpty then .ranking else .single
    | none => .single

def carriedConfidence : Float := 0.9

def merge (m : Mentions) (r : Registry) (prior : Option Question) : Reading :=
  let metric := (m.metric.map MetricMention.code).or (prior.bind Question.metric)
  let named := (m.metric.map MetricMention.confidence).getD 0
  let banks := m.mergedBanks prior
  let higherIsWorse := ((metric.bind r.metric?).map Metric.higherIsWorse).getD false
  { metric, banks
    metricConfidence := if named == 0 && metric.isSome then carriedConfidence else named
    range := match prior with
      | some p => if m.period.explicit then m.period.range else p.range
      | none => m.period.range
    filters := match prior with
      | some p => if m.filters.isEmpty then p.filters else m.filters
      | none => m.filters
    mode := m.mode prior banks
    order := Cues.order (m.words.map Token.word) m.normal higherIsWorse }

end Mentions

namespace Reading

def examples : List String := [
  "IMOR de INVEX en 2024", "Compara IMOR de INVEX vs Sistema en 2024",
  "Ranking top 5 de ICAP en 2024", "Cartera vencida automotriz de BBVA en los últimos 6 meses"]

/-- Ask for clarification, with examples where there is nothing to choose from. -/
def clarify (reason : String) (options : List String) : Outcome :=
  .clarification reason (if options.isEmpty then examples else options)

/-- In a follow-up, a term that this turn names and that is not served. -/
def unserved? (r : Registry) (m : Mentions) (text : String) : Option Failure :=
  let metric := if m.metric.isNone then r.unsupportedTermIn? m.words else none
  let bank := if m.banks.isEmpty then r.unknownAcronym? text else none
  (metric.map fun t => .unsupportedMetric t r.metricCodes).or
    (bank.map fun t => .unsupportedBank t r.bankIds)

def withoutMetric (r : Registry) (m : Mentions) (text : String) : Except Failure Outcome :=
  match (r.unsupportedTermIn? m.words).or (r.unknownAcronym? text) with
  | some term => .error (.unsupportedMetric term r.metricCodes)
  | none =>
    .ok (clarify "¿Qué métrica te interesa?"
      (r.metrics.map fun m => m.code ++ " (" ++ m.displayName ++ ")"))

def withoutBank (r : Registry) (metric text : String) : Except Failure Outcome :=
  match r.unknownAcronym? text with
  | some term => .error (.unsupportedBank term r.bankIds)
  | none =>
    .ok (clarify "¿De qué banco quieres ver la métrica?"
      (r.banks.map fun b => metric ++ " de " ++ b.displayName))

def isSegmented (r : Registry) (metric : String) : Bool :=
  ((r.metric? metric).map Metric.segmented).getD false

def resolved (m : Mentions) (reading : Reading) (metric : String) : Outcome :=
  .resolved
    { metric := some metric, banks := reading.banks, range := reading.range,
      filters := reading.filters, mode := reading.mode,
      topN := if reading.mode = .ranking then m.topN else none, order := reading.order }
    { metric := reading.metricConfidence
      banks := if reading.banks.isEmpty then 0 else 1
      range := if m.period.explicit then 1 else 0.5
      filters := 1
      mode := if m.rankingCue || m.comparisonCue then 1 else 0.8 }

def conclude (r : Registry) (m : Mentions) (reading : Reading) (text : String) :
    Except Failure Outcome :=
  if reading.metric.isNone && reading.banks.isEmpty && reading.mode != .ranking then
    .ok (clarify "No identifiqué la métrica ni el banco de la consulta." [])
  else
    match reading.metric with
    | none => withoutMetric r m text
    | some metric =>
      if reading.banks.isEmpty && reading.mode != .ranking then withoutBank r metric text
      else if !reading.filters.isEmpty && !isSegmented r metric then
        .ok (clarify (metric ++ " no se publica por segmento de crédito.")
          [metric ++ " de " ++ ", ".intercalate reading.banks ++ " sin filtro de segmento"])
      else .ok (resolved m reading metric)

end Reading

structure ReaderOptions where
  /-- Least similarity of a misspelt metric. -/
  threshold : Float := 0.88

/-- Read a text as a question, `prior` being the question of the turn before. -/
def Question.read (r : Registry) (options : ReaderOptions) (anchor : Anchor)
    (prior : Option Question) (text : String) : Except Failure Outcome :=
  if Text.normalize text = "" then .ok (Reading.clarify "La consulta está vacía." [])
  else
    let m := Mentions.of r options.threshold anchor text
    match prior.bind fun _ => Reading.unserved? r m text with
    | some failure => .error failure
    | none => Reading.conclude r m (m.merge r prior) text

/-- Each turn is read with the question of the last turn that resolved as its prior. -/
def Question.converse (r : Registry) (options : ReaderOptions) (anchor : Anchor) :
    Option Question → List String → List (Except Failure Outcome)
  | _, [] => []
  | prior, text :: rest =>
    let outcome := Question.read r options anchor prior text
    let next := match outcome with
      | .ok (.resolved q _) => some q
      | _ => prior
    outcome :: converse r options anchor next rest

end BankQuery
