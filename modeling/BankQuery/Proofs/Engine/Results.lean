import BankQuery.Proofs.Engine.Runs
import BankQuery.Proofs.Question.FollowUp

/-!
# Kept results over a run

With a cache in which nothing expires, the runs of statements that succeed and the results that are
kept are the same: `Engine.gained_of_run` says that there is at most one of either for a question,
that later requests for the question are answered with its rows and without any call, and that a
request without an answer leaves the cache as it is.
-/

namespace BankQuery

variable {σ : Type}

namespace Backend

variable {options : Generation.Options}
  {execute : Candidate → Bool → σ → Except Failure (List Row) × σ} {r : Registry} {q : Question}

/-- A question about a metric that is not registered has no candidate. -/
theorem accept_of_unregistered (h : r.metric? (q.metric.getD "") = none) (context : Context)
    (s : σ) : ∃ detail, (standard options execute).accept r q context tries none s =
      (.error (.generation detail), s) := by
  have hgenerate : ∃ fault, Candidate.generate options r q context none = .error fault := by
    unfold Candidate.generate
    split
    · exact ⟨_, rfl⟩
    · simp only [h]
      exact ⟨_, rfl⟩
  obtain ⟨fault, hf⟩ := hgenerate
  refine ⟨fault.message, ?_⟩
  simp only [tries, accept, standard, hf]
  rfl

/-- What has rows is about a registered metric. -/
theorem registered_of_rows {context : Context} {cancelled : Bool} {s : σ} {rows : List Row}
    (h : ((standard options execute).rows r q context cancelled s).1 = .ok rows) :
    (r.metric? (q.metric.getD "")).isSome = true := by
  rw [Option.isSome_iff_ne_none]
  intro hnone
  obtain ⟨f, hf⟩ := @accept_of_unregistered σ options execute r q hnone context s
  simp only [Backend.rows, hf] at h
  cases h

end Backend

/-- Rows for a question about a registered metric make an answer. -/
theorem Engine.answer_of_registered {e : Engine} {q : Question}
    (h : (e.registry.metric? (q.metric.getD "")).isSome = true) (degraded : Bool)
    (rows : List Row) : ∃ chart, Chart.ofRows? e.chart e.registry q rows = some chart ∧
      e.answer q degraded rows = .answer chart degraded q := by
  obtain ⟨m, hm⟩ := Option.isSome_iff_exists.mp h
  have hchart : ∃ chart, Chart.ofRows? e.chart e.registry q rows = some chart := by
    rw [Chart.ofRows?, hm]
    exact ⟨_, rfl⟩
  obtain ⟨chart, hchart⟩ := hchart
  exact ⟨chart, hchart, by rw [answer, hchart]⟩

namespace Turn

variable {b : Backend σ} {t : Turn σ} {q : Question} {rows : List Row}

/-- Rows are gained for the question of the request, from the backend. -/
theorem of_mem_gained (hf : t.engine.FreshAt t.invocation.now) (h : (q, rows) ∈ t.gained b) :
    t.question? = some q ∧
      (b.rows t.engine.registry q (t.context q) t.invocation.cancelled t.state).1 = .ok rows := by
  cases t.ended hf b with
  | unanswered _ hcalls _ _ =>
    rw [gained_of_calls_eq_nil hcalls] at h
    cases h
  | kept _ _ hcalls _ _ =>
    rw [gained_of_calls_eq_nil hcalls] at h
    cases h
  | gained hq _ hrows hcalls _ _ =>
    rw [gained_of_served hq hcalls] at h
    cases List.mem_singleton.mp h
    exact ⟨hq, hrows⟩
  | failed hq _ _ hcalls _ _ =>
    rw [gained_of_served hq hcalls] at h
    cases h

/-- A request for a question whose rows are kept makes no call and is answered with them. -/
theorem of_mem_held (hf : t.engine.FreshAt t.invocation.now)
    (hn : (t.engine.held.map Prod.fst).Nodup) (hq : t.question? = some q)
    (h : (q.key, rows) ∈ t.engine.held) :
    t.calls b = [] ∧ t.response b = t.engine.answer q (t.context q).degraded rows := by
  have hkept : t.engine.find? q ≠ none := fun hx =>
    Engine.find?_eq_none_iff.mp hx (List.mem_map_of_mem (f := Prod.fst) h)
  cases t.ended hf b with
  | unanswered hq' _ _ _ =>
    rw [hq] at hq'
    cases hq'
  | gained hq' hx _ _ _ _ =>
    cases hq.symm.trans hq'
    exact absurd hx hkept
  | failed hq' hx _ _ _ _ =>
    cases hq.symm.trans hq'
    exact absurd hx hkept
  | kept hq' hx hcalls _ hresponse =>
    cases hq.symm.trans hq'
    have heq := List.inj_on_of_nodup_map hn (Engine.mem_held_of_find? hx) h rfl
    exact ⟨hcalls, by rw [hresponse, (Prod.mk.inj heq).2]⟩

end Turn

namespace Engine

variable {b : Backend σ} {e : Engine} {steps : List Step} {s : σ}

theorem engine_of_turns (hfixed : ∀ r, Step.replace r ∉ steps) {t : Turn σ}
    (ht : t ∈ e.turns b steps s) :
    t.engine.registry = e.registry ∧ t.engine.chart = e.chart := by
  obtain ⟨earlier, later, ht⟩ := List.append_of_mem ht
  obtain ⟨before, behind, rfl, -, hrun⟩ := turns_eq_append ht
  obtain ⟨cache, hengine⟩ := e.run_engine b before s
  rw [hrun, Registry.after_of_fixed fun r hr => hfixed r (List.mem_append_left _ hr)] at hengine
  rw [show t.engine = _ from hengine]
  exact ⟨rfl, rfl⟩

section Standard

variable {options : Generation.Options}
  {execute : Candidate → Bool → σ → Except Failure (List Row) × σ}

theorem cache_after_of_unanswered {t : Turn σ} (hf : t.engine.FreshAt t.invocation.now)
    (h : (t.response (.standard options execute)).question? = none) :
    (t.after (.standard options execute)).cache = t.engine.cache := by
  cases t.ended hf (.standard options execute) with
  | unanswered _ _ hafter _ => rw [hafter]
  | kept _ _ _ hafter _ => rw [hafter]
  | failed _ _ _ _ hafter _ => rw [hafter]
  | gained _ _ hrows _ _ hresponse =>
    obtain ⟨chart, -, hanswer⟩ := answer_of_registered (Backend.registered_of_rows hrows)
      (t.context _).degraded _
    rw [hresponse, hanswer] at h
    cases h

/-- Once rows have been gained for a question, a request for it makes no call and is answered with
them. -/
theorem kept_of_gained (hlasts : e.Lasts steps) (hc : e.cache.isSome = true)
    (hempty : e.held = []) {earlier later : List (Turn σ)} {t : Turn σ}
    (ht : e.turns b steps s = earlier ++ t :: later) {q : Question} (hq : t.question? = some q)
    {rows : List Row} (hrows : (q, rows) ∈ earlier.flatMap (Turn.gained b)) :
    t.calls b = [] ∧ t.response b = t.engine.answer q (t.context q).degraded rows := by
  have hheld : (q.key, rows) ∈ t.engine.held := by
    rw [held_of_turns hlasts hc ht, hempty, List.nil_append]
    exact List.mem_map.mpr ⟨(q, rows), hrows, rfl⟩
  have hn : (t.engine.held.map Prod.fst).Nodup :=
    nodup_held_of_turns hlasts hc (by rw [hempty]; exact List.nodup_nil) ht
  exact Turn.of_mem_held (freshAt_of_turns hlasts ht) hn hq hheld

/-- A request for a question makes no call exactly if rows have been gained for the question. -/
theorem calls_eq_nil_iff (hlasts : e.Lasts steps) (hc : e.cache.isSome = true)
    (hempty : e.held = []) {earlier later : List (Turn σ)} {t : Turn σ}
    (ht : e.turns b steps s = earlier ++ t :: later) {q : Question} (hq : t.question? = some q) :
    t.calls b = [] ↔ ∃ rows, (q, rows) ∈ earlier.flatMap (Turn.gained b) := by
  refine ⟨fun hcalls => ?_, fun ⟨rows, hrows⟩ =>
    (kept_of_gained hlasts hc hempty ht hq hrows).1⟩
  cases t.ended (freshAt_of_turns hlasts ht) b with
  | unanswered hq' _ _ _ =>
    rw [hq] at hq'
    cases hq'
  | gained _ _ _ hserved _ _ => exact absurd hcalls hserved.ne_nil
  | failed _ _ _ hserved _ _ => exact absurd hcalls hserved.ne_nil
  | @kept q' x hq' hx _ _ _ =>
    cases hq.symm.trans hq'
    obtain ⟨before, behind, rfl, hturns, hrun⟩ := turns_eq_append ht
    have hkept : (e.run b before s).1.find? q = some x := by rw [hrun, hx]
    obtain ⟨u, hu, hgained⟩ := exists_gained_of_find? hlasts.of_append hempty hkept
    rw [hturns] at hu
    exact ⟨x.rows, List.mem_flatMap.mpr ⟨u, hu, hgained⟩⟩

/-- While the registry stays, later requests are answered with the rows that have been gained. -/
theorem answer_of_gained (hlasts : e.Lasts steps) (hc : e.cache.isSome = true)
    (hempty : e.held = []) (hfixed : ∀ r, Step.replace r ∉ steps)
    {earlier later : List (Turn σ)} {t : Turn σ}
    (ht : e.turns (.standard options execute) steps s = earlier ++ t :: later) {q : Question}
    (hq : t.question? = some q) {rows : List Row}
    (hrows : (q, rows) ∈ earlier.flatMap (Turn.gained (.standard options execute))) :
    ∃ chart degraded, Chart.ofRows? e.chart e.registry q rows = some chart ∧
      t.response (.standard options execute) = .answer chart degraded q := by
  have hresponse := (kept_of_gained hlasts hc hempty ht hq hrows).2
  obtain ⟨u, hu, hgained⟩ := List.mem_flatMap.mp hrows
  obtain ⟨start, rest, rfl⟩ := List.append_of_mem hu
  have hu : e.turns (.standard options execute) steps s = start ++ u :: (rest ++ t :: later) := by
    rw [ht, List.append_assoc, List.cons_append]
  obtain ⟨-, hrows⟩ := Turn.of_mem_gained (freshAt_of_turns hlasts hu) hgained
  have hregistered := Backend.registered_of_rows hrows
  rw [(engine_of_turns hfixed (by rw [hu]; simp)).1] at hregistered
  obtain ⟨hregistry, hchart⟩ := engine_of_turns (t := t) hfixed (by rw [ht]; simp)
  rw [← hregistry] at hregistered
  obtain ⟨chart, hof, hanswer⟩ := answer_of_registered hregistered (t.context q).degraded rows
  rw [hregistry, hchart] at hof
  exact ⟨chart, _, hof, hresponse.trans hanswer⟩

theorem cached_eq (e : Engine) : e.cached = e.held.length := by
  rw [held, List.length_map, cached, results]
  cases e.cache with
  | none => rfl
  | some c => rfl

/-- Over a run with an empty cache at the start, in which nothing expires and the registry stays: no
two runs of statements succeed for one question; as many results are kept as questions have had such
a run; a later request makes no call exactly if its question is one of them, and is then answered
with the rows of that run; and a request that is not answered leaves the cache as it is. -/
theorem gained_of_run (options : Generation.Options)
    (execute : Candidate → Bool → σ → Except Failure (List Row) × σ) {e : Engine} {lifetime : Nat}
    (hc : e.cache = some { lifetime }) {steps : List Step}
    (hfixed : ∀ r, Step.replace r ∉ steps)
    (htimes : (steps.filterMap Step.time?).Pairwise fun earlier later => later - earlier < lifetime)
    (s : σ) :
    let b := Backend.standard options execute
    let gained := (e.turns b steps s).flatMap (Turn.gained b)
    (gained.map Prod.fst).Nodup ∧ (e.run b steps s).1.cached = gained.length ∧
      (∀ earlier t later, e.turns b steps s = earlier ++ t :: later →
        ∀ q, t.question? = some q →
          (t.calls b = [] ↔ ∃ rows, (q, rows) ∈ earlier.flatMap (Turn.gained b)) ∧
          ∀ rows, (q, rows) ∈ earlier.flatMap (Turn.gained b) →
            ∃ chart degraded, Chart.ofRows? e.chart e.registry q rows = some chart ∧
              t.response b = .answer chart degraded q) ∧
      ∀ t ∈ e.turns b steps s, (t.response b).question? = none →
        (t.after b).cache = t.engine.cache := by
  intro b gained
  have hlasts : e.Lasts steps := by
    constructor
    case stored =>
      intro _ _ c hc' x hx
      cases hc.symm.trans hc'
      cases hx
    case gained =>
      intro c hc'
      cases hc.symm.trans hc'
      exact htimes
  have hsome : e.cache.isSome = true := by rw [hc]; rfl
  have hempty : e.held = [] := by rw [held, results, hc]; rfl
  have hheld := held_run (b := b) (s := s) hlasts hsome
  rw [hempty, List.nil_append] at hheld
  refine ⟨?_, ?_, fun earlier t later ht q hq => ⟨calls_eq_nil_iff hlasts hsome hempty ht hq,
    fun rows => answer_of_gained hlasts hsome hempty hfixed ht hq⟩, fun t ht => ?_⟩
  · have hn := nodup_held_run (b := b) (s := s) hlasts hsome (by rw [hempty]; exact List.nodup_nil)
    rw [hheld, List.map_map] at hn
    refine List.Nodup.of_map Question.key ?_
    rw [List.map_map]
    exact hn
  · rw [cached_eq, hheld, List.length_map]
  · obtain ⟨earlier, later, ht⟩ := List.append_of_mem ht
    exact cache_after_of_unanswered (freshAt_of_turns hlasts ht)

end Standard

def askAt (now : Nat) (text : String) : Step := .ask { anchor := Question.midMonth, now } { text }

/-- Two texts for one question, half a minute apart. -/
def askedTwice : List Step :=
  [askAt 0 "mora norte junio 2025", askAt 30 "Mora de Norte en junio de 2025"]

theorem gained_of_run_askedTwice :
    keepingEngine.cache = some { lifetime := 60 } ∧ (∀ r, Step.replace r ∉ askedTwice) ∧
    ((askedTwice.filterMap Step.time?).Pairwise fun earlier later => later - earlier < 60) ∧
    (keepingEngine.run (.standard {} scripted) askedTwice [.error (.database "")]).1.cached = 1 ∧
    let b := Backend.standard {} scripted
    let gained := (keepingEngine.turns b askedTwice [.error (.database "")]).flatMap (Turn.gained b)
    (gained.map Prod.fst).Nodup ∧
      (keepingEngine.run b askedTwice [.error (.database "")]).1.cached = gained.length ∧
      (∀ earlier t later, keepingEngine.turns b askedTwice [.error (.database "")] =
        earlier ++ t :: later → ∀ q, t.question? = some q →
          (t.calls b = [] ↔ ∃ rows, (q, rows) ∈ earlier.flatMap (Turn.gained b)) ∧
          ∀ rows, (q, rows) ∈ earlier.flatMap (Turn.gained b) → ∃ chart degraded,
            Chart.ofRows? keepingEngine.chart keepingEngine.registry q rows = some chart ∧
              t.response b = .answer chart degraded q) ∧
      ∀ t ∈ keepingEngine.turns b askedTwice [.error (.database "")],
        (t.response b).question? = none → (t.after b).cache = t.engine.cache := by
  have hfixed : ∀ r, Step.replace r ∉ askedTwice := fun r hr => by
    simp [askedTwice, askAt] at hr
  have htimes : (askedTwice.filterMap Step.time?).Pairwise
      fun earlier later => later - earlier < 60 := by decide
  have hcached : (keepingEngine.run (.standard {} scripted) askedTwice
      [.error (.database "")]).1.cached = 1 := by decide +kernel
  exact ⟨rfl, hfixed, htimes, hcached, gained_of_run {} scripted rfl hfixed htimes _⟩

end Engine

end BankQuery
