import BankQuery.Engine.Start
import BankQuery.Proofs.Engine.Database
import BankQuery.Proofs.Engine.Results

/-!
# Refreshing the registry

An engine takes another registry and keeps its store, which was filled from the first one, and the
rows of earlier requests. `Settings.response_refreshed_iff` says when that shows: whatever the
database is, the response to a request is the one from an engine that starts with the registry in
place, if and only if both would run the same statements for its question and each earlier request
for the question would have run a prefix of them (`Settings.Agrees`). It never shows where the
registries have the same schema and metrics and each question is asked in the same words.
-/

namespace BankQuery

theorem Corpus.dimension_seedFrom (embed : String → Embedding) (s : Store)
    (documents : List (String × Document)) :
    (seedFrom embed s documents).dimension = s.dimension := by
  induction documents generalizing s with
  | nil => rfl
  | cons document rest ih =>
    obtain ⟨collection, d⟩ := document
    unfold seedFrom
    cases hs : s.add collection ⟨d, embed d.text⟩ with
    | error fault => rfl
    | ok s' =>
      dsimp only
      rw [ih]
      unfold Store.add at hs
      split at hs
      · cases hs
      · cases hs
        rfl

namespace Registry.Alike

variable {r r' : Registry}

theorem refl (r : Registry) : r.Alike r := ⟨rfl, rfl, rfl⟩

/-- Where each registry that is offered is alike, so is the one in place. -/
theorem after (hr : r.Alike r') {steps : List Step}
    (h : ∀ offered, Step.replace offered ∈ steps → r.Alike offered) : r.Alike (r'.after steps) := by
  induction steps generalizing r' with
  | nil => exact hr
  | cons step steps ih =>
    have hrest : ∀ offered, Step.replace offered ∈ steps → r.Alike offered :=
      fun offered hoffered => h offered (List.mem_cons_of_mem _ hoffered)
    cases step with
    | ask i request => exact ih hr hrest
    | replace offered =>
      refine ih ?_ hrest
      unfold refreshed
      split
      · exact hr
      · exact h offered List.mem_cons_self

end Registry.Alike

/-- What an engine and its store are made with, besides a registry. -/
structure Settings where
  config : Config
  chart : Chart.Options := {}
  /-- The dimension of the store. -/
  dimension : Nat
  /-- How documents are embedded. -/
  embed : String → Embedding
  /-- How questions are embedded, where they can be. -/
  embedQuestion : String → Option Embedding

namespace Settings

def retriever (S : Settings) (r : Registry) : Retriever where
  embed := S.embedQuestion
  search := (Corpus.seeded S.dimension S.embed r).search
  limit := S.config.retrievalLimit.toNat
  least := S.config.leastRelevance

def engine (S : Settings) (r : Registry) : Engine := .ofConfig S.config r (S.retriever r) S.chart

/-- What may be run for a question, with context from the documents of one registry, where another
is in place. -/
def statements (S : Settings) (documents r : Registry) (q : Question) (text : String) :
    List Prepared :=
  Backend.statements (Engine.generation S.config) r q ((S.retriever documents).retrieve q text)

def standard (config : Config) (chart : Chart.Options) : Settings where
  config := config
  chart := chart
  dimension := Engine.standardDimension
  embed := Embedding.ofText Engine.standardDimension
  embedQuestion text :=
    if config.embeddingKey.isSome then none
    else some (Embedding.ofText Engine.standardDimension text)

/-- An engine is started with these settings. -/
theorem start_eq (config : Config) (content : Except String String) (chart : Chart.Options) :
    Engine.start config content chart = (do
      let r ← Engine.firstRegistry config content
      let _ ← Engine.address config
      return (standard config chart).engine r) := rfl

/-- Whether context is missing does not depend on the registry. -/
theorem degraded_retrieve (S : Settings) (r r' : Registry) (q : Question) (text : String) :
    ((S.retriever r).retrieve q text).degraded = ((S.retriever r').retrieve q text).degraded := by
  have hfailed (r : Registry) (collection : String) (vector : Embedding) (wanted : Metadata) :
      Retriever.failed ((S.retriever r).ranked collection vector wanted) =
        decide (vector.length ≠ S.dimension) := by
    have hd : (Corpus.seeded S.dimension S.embed r).dimension = S.dimension :=
      Corpus.dimension_seedFrom S.embed _ _
    simp only [Retriever.ranked, retriever, Store.search, hd]
    split
    · rename_i h
      exact (decide_eq_true h).symm
    · rename_i h
      exact (decide_eq_false h).symm
  unfold Retriever.retrieve
  have he : (S.retriever r).embed text = (S.retriever r').embed text := rfl
  rw [he]
  cases (S.retriever r').embed text with
  | none => rfl
  | some vector => simp only [hfailed]

section Turns

variable (S : Settings) (x : Prepared → Except Failure (List Row)) (r : Registry)
  (steps : List Step) (i : Invocation) (request : Request)

def backend : Backend Unit := .ofDatabase (Engine.generation S.config) x

def turn : Turn Unit where
  invocation := i
  request := request
  engine := ((S.engine r).run (S.backend x) steps ()).1
  state := ()

def response : Response := (S.turn x r steps i request).response (S.backend x)

end Turns

end Settings

theorem Turn.question?_eq {σ : Type} (t : Turn σ) : t.question? =
    Question.questionOf? (Engine.understand t.engine.registry t.invocation t.request) := rfl

namespace Settings

variable {S : Settings} {x : Prepared → Except Failure (List Row)} {r : Registry}
  {steps : List Step} {i : Invocation} {request : Request} {q : Question}

theorem turn_engine (S : Settings) (x : Prepared → Except Failure (List Row)) (r : Registry)
    (steps : List Step) (i : Invocation) (request : Request) :
    ∃ cache, (S.turn x r steps i request).engine =
      { S.engine r with registry := r.after steps, cache } :=
  (S.engine r).run_engine (S.backend x) steps ()

@[simp] theorem registry_turn : (S.turn x r steps i request).engine.registry = r.after steps := by
  obtain ⟨cache, h⟩ := S.turn_engine x r steps i request
  rw [h]

@[simp] theorem context_turn :
    (S.turn x r steps i request).context q = (S.retriever r).retrieve q request.text := by
  obtain ⟨cache, h⟩ := S.turn_engine x r steps i request
  rw [Turn.context, h]
  rfl

theorem answer_turn (degraded : Bool) (rows : List Row) :
    (S.turn x r steps i request).engine.answer q degraded rows =
      (S.engine (r.after steps)).answer q degraded rows := by
  obtain ⟨cache, h⟩ := S.turn_engine x r steps i request
  rw [h]
  rfl

theorem question?_turn : (S.turn x r steps i request).question? =
    Question.questionOf? (Engine.understand (r.after steps) i request) := by
  rw [Turn.question?_eq, registry_turn]
  rfl

theorem freshAt_turn (h : (S.engine r).Lasts (steps ++ [.ask i request])) :
    (S.turn x r steps i request).engine.FreshAt i.now :=
  (h.run (b := S.backend x) (s := ())).stored _ List.mem_cons_self

theorem isSome_cache_turn (h : (S.engine r).Lasts (steps ++ [.ask i request])) :
    (S.turn x r steps i request).engine.cache.isSome = S.config.cacheTime?.isSome := by
  rw [turn, Engine.isSome_cache_run h.of_append, engine, Engine.ofConfig, Option.isSome_map]

theorem results_engine : (S.engine r).results = [] := by
  unfold Engine.results engine Engine.ofConfig
  cases S.config.cacheTime? with
  | none => rfl
  | some seconds => rfl

/-- A single request finds nothing kept that could be too old. -/
theorem lasts_ask (S : Settings) (r : Registry) (i : Invocation) (request : Request) :
    (S.engine r).Lasts ([] ++ [.ask i request]) where
  stored now _ c hc kept hkept := by
    have hempty := @results_engine S r
    rw [Engine.results, hc] at hempty
    rw [show c.entries = [] from hempty] at hkept
    cases hkept
  gained _ _ := List.pairwise_singleton _ _

/-- The first request is answered from the database. -/
theorem find?_turn_nil : (S.turn x r [] i request).engine.find? q = none := by
  have hempty := @results_engine S r
  unfold Engine.find?
  rw [show (S.turn x r [] i request).engine.results = [] from hempty]
  rfl

theorem toOption_rows_turn : ((S.backend x).rows (r.after steps) q
      ((S.retriever r).retrieve q request.text) i.cancelled ()).1.toOption =
    Backend.outcome x (S.statements r (r.after steps) q request.text) :=
  Backend.toOption_rows x i.cancelled ()

section Kept

variable {before behind : List Step} {j : Invocation} {earlier : Request}

/-- A turn of the run is a request after the steps before it. -/
theorem eq_turn_of_mem {t : Turn Unit} (ht : t ∈ (S.engine r).turns (S.backend x) steps ()) :
    ∃ before behind, steps = before ++ .ask t.invocation t.request :: behind ∧
      t = S.turn x r before t.invocation t.request := by
  obtain ⟨start, rest, hturns⟩ := List.append_of_mem ht
  obtain ⟨before, behind, hsteps, -, hrun⟩ := Engine.turns_eq_append hturns
  refine ⟨before, behind, hsteps, ?_⟩
  unfold turn
  rw [hrun]

theorem lasts_before
    (h : (S.engine r).Lasts (before ++ .ask j earlier :: behind ++ [.ask i request])) :
    (S.engine r).Lasts (before ++ [.ask j earlier]) := by
  rw [List.append_assoc, List.cons_append, List.append_cons] at h
  exact h.of_append

/-- What is kept are rows of an earlier request for the question. -/
theorem outcome_of_find? (hlasts : (S.engine r).Lasts (steps ++ [.ask i request]))
    {kept : CachedRows} (hx : (S.turn x r steps i request).engine.find? q = some kept) :
    S.config.cacheTime?.isSome = true ∧ ∃ before j earlier behind,
      steps = before ++ .ask j earlier :: behind ∧
      Question.questionOf? (Engine.understand (r.after before) j earlier) = some q ∧
      Backend.outcome x (S.statements r (r.after before) q earlier.text) = some kept.rows := by
  have hempty : (S.engine r).held = [] := by
    rw [Engine.held, results_engine]
    rfl
  obtain ⟨t, ht, hgained⟩ := Engine.exists_gained_of_find? hlasts.of_append hempty hx
  obtain ⟨before, behind, rfl, hturn⟩ := eq_turn_of_mem ht
  rw [hturn] at hgained
  obtain ⟨hq, hrows⟩ := Turn.of_mem_gained (freshAt_turn (lasts_before hlasts)) hgained
  refine ⟨?_, before, t.invocation, t.request, behind, rfl, by rw [← question?_turn, hq], ?_⟩
  · rw [← isSome_cache_turn hlasts]
    exact Engine.isSome_cache_of_find? hx
  · rw [← toOption_rows_turn (i := t.invocation)]
    rw [registry_turn, context_turn] at hrows
    exact congrArg Except.toOption hrows

/-- Where an earlier request for the question would have had rows, some are kept. -/
theorem find?_ne_none (hcache : S.config.cacheTime?.isSome = true)
    (hlasts : (S.engine r).Lasts (before ++ .ask j earlier :: behind ++ [.ask i request]))
    (hq : Question.questionOf? (Engine.understand (r.after before) j earlier) = some q)
    (hrows : (Backend.outcome x
      (S.statements r (r.after before) q earlier.text)).isSome = true) :
    (S.turn x r (before ++ .ask j earlier :: behind) i request).engine.find? q ≠ none := by
  let u := S.turn x r before j earlier
  have hf : u.engine.FreshAt j.now := freshAt_turn (lasts_before hlasts)
  have hc : u.engine.cache.isSome = true := (isSome_cache_turn (lasts_before hlasts)).trans hcache
  have hu : q.key ∈ (u.after (S.backend x)).held.map Prod.fst := by
    refine Turn.key_mem_held_after hf hc (question?_turn.trans hq) ?_
    rw [registry_turn, context_turn]
    exact (congrArg Option.isSome toOption_rows_turn).trans hrows
  intro hnone
  refine Engine.find?_eq_none_iff.mp hnone ?_
  rw [List.append_assoc, List.cons_append] at hlasts
  have hrest := Turn.lasts_after (t := u) (b := S.backend x)
    (hlasts.run (b := S.backend x) (s := ()))
  have hheld := Engine.held_run (b := S.backend x) (s := ()) hrest.of_append
    ((Turn.isSome_cache_after hf).trans hc)
  have hrun : (S.turn x r (before ++ .ask j earlier :: behind) i request).engine =
      ((u.after (S.backend x)).run (S.backend x) behind ()).1 :=
    congrArg Prod.fst (Engine.run_append _ _ _ _ _)
  rw [hrun, hheld, List.map_append]
  exact List.mem_append_left _ hu

end Kept

section Response

variable (hlasts : (S.engine r).Lasts (steps ++ [.ask i request]))
  (hq : Question.questionOf? (Engine.understand (r.after steps) i request) = some q)

include hlasts hq

theorem response_of_kept {kept : CachedRows}
    (hx : (S.turn x r steps i request).engine.find? q = some kept) :
    S.response x r steps i request = (S.engine (r.after steps)).answer q
      ((S.retriever r).retrieve q request.text).degraded kept.rows := by
  rw [response, Turn.response_of_asked (freshAt_turn hlasts) (question?_turn.trans hq), hx]
  dsimp only
  rw [answer_turn, context_turn]

theorem response_of_not_kept (hx : (S.turn x r steps i request).engine.find? q = none) :
    S.response x r steps i request =
      match ((S.backend x).rows (r.after steps) q ((S.retriever r).retrieve q request.text)
        i.cancelled ()).1 with
      | .ok rows => (S.engine (r.after steps)).answer q
          ((S.retriever r).retrieve q request.text).degraded rows
      | .error f => .ofFailure f := by
  rw [response, Turn.response_of_asked (freshAt_turn hlasts) (question?_turn.trans hq), hx]
  simp only [registry_turn, context_turn, answer_turn]
  rfl

/-- There is an answer exactly if rows are kept or had. -/
theorem isSome_question?_response
    (hm : ((r.after steps).metric? (q.metric.getD "")).isSome = true) :
    (S.response x r steps i request).question?.isSome = true ↔
      (S.turn x r steps i request).engine.find? q ≠ none ∨
        (Backend.outcome x (S.statements r (r.after steps) q request.text)).isSome = true := by
  have hanswer (degraded : Bool) (rows : List Row) :
      ((S.engine (r.after steps)).answer q degraded rows).question?.isSome = true := by
    obtain ⟨chart, -, h⟩ :=
      @Engine.answer_of_registered (S.engine (r.after steps)) q hm degraded rows
    rw [h]
    rfl
  cases hx : (S.turn x r steps i request).engine.find? q with
  | some kept =>
    rw [response_of_kept hlasts hq hx]
    exact iff_of_true (hanswer _ _) (.inl (Option.some_ne_none kept))
  | none =>
    rw [response_of_not_kept hlasts hq hx, ← toOption_rows_turn (i := i)]
    cases ((S.backend x).rows (r.after steps) q ((S.retriever r).retrieve q request.text)
      i.cancelled ()).1 with
    | ok rows => exact iff_of_true (hanswer _ _) (.inr rfl)
    | error f => exact iff_of_false (fun h => nomatch h) (fun h => h.elim (absurd rfl) nofun)

/-- Without its metric a question fails in the same way whether rows are kept for it or not. -/
theorem response_of_unregistered (hm : (r.after steps).metric? (q.metric.getD "") = none) :
    S.response x r steps i request = .ofFailure (.unregistered (q.metric.getD "")) := by
  cases hx : (S.turn x r steps i request).engine.find? q with
  | some kept =>
    rw [response_of_kept hlasts hq hx, Engine.answer, Chart.ofRows?]
    rw [show (S.engine (r.after steps)).registry = r.after steps from rfl, hm]
    rfl
  | none =>
    obtain ⟨detail, h⟩ := @Backend.accept_of_unregistered Unit (Engine.generation S.config)
      (fun c _ s => (x c.prepared, s)) (r.after steps) q hm
      ((S.retriever r).retrieve q request.text) ()
    rw [response_of_not_kept hlasts hq hx, Backend.rows, backend, Backend.ofDatabase, h]
    rfl

/-- When all that is run is cancelled the response shows whether anything is run. -/
theorem errorKind?_response_iff :
    (S.response (fun _ => .error .cancelled) r steps i request).errorKind? = some .cancelled ↔
      S.statements r (r.after steps) q request.text ≠ [] := by
  have hx : (S.turn (fun _ => .error .cancelled) r steps i request).engine.find? q = none := by
    rw [← Option.not_isSome_iff_eq_none]
    intro hsome
    obtain ⟨kept, hx⟩ := Option.isSome_iff_exists.mp hsome
    obtain ⟨-, before, j, earlier, behind, -, -, hrows⟩ := outcome_of_find? hlasts hx
    rw [Backend.outcome_of_failing] at hrows
    cases hrows
  rw [response_of_not_kept hlasts hq hx, backend, Backend.rows_ofDatabase, statements,
    Backend.statements]
  cases ha : Backend.admitted (Engine.generation S.config) (r.after steps) q
      ((S.retriever r).retrieve q request.text) with
  | error f =>
    exact iff_of_false (fun h => Backend.kind_ne_cancelled ha (Option.some.inj h))
      fun h => h rfl
  | ok p => exact iff_of_true rfl (List.cons_ne_nil _ _)

end Response

/-- The statements that an engine may have run for a question after some steps, with a store filled
at their start, are those of an engine that starts with the registry in place. -/
structure Agrees (S : Settings) (r : Registry) (steps : List Step) (q : Question) (text : String) :
    Prop where
  /-- The documents of the first registry lead to the statements that those of the registry in place
  lead to. -/
  documents : S.statements r (r.after steps) q text =
    S.statements (r.after steps) (r.after steps) q text
  /-- Where rows are kept, each earlier request for the question led to a prefix of them. -/
  kept : S.config.cacheTime?.isSome = true → ∀ before j earlier behind,
    steps = before ++ .ask j earlier :: behind →
    Question.questionOf? (Engine.understand (r.after before) j earlier) = some q →
    S.statements r (r.after before) q earlier.text <+:
      S.statements (r.after steps) (r.after steps) q text

section Agrees

variable (hlasts : (S.engine r).Lasts (steps ++ [.ask i request]))
  (hq : Question.questionOf? (Engine.understand (r.after steps) i request) = some q)

include hlasts hq

theorem Agrees.response_eq (h : S.Agrees r steps q request.text)
    (x : Prepared → Except Failure (List Row)) :
    S.response x r steps i request = S.response x (r.after steps) [] i request := by
  let fresh := (S.retriever (r.after steps)).retrieve q request.text
  rw [response_of_not_kept (S.lasts_ask (r.after steps) i request) hq find?_turn_nil]
  have hrows : ((S.backend x).rows (r.after steps) q ((S.retriever r).retrieve q request.text)
      i.cancelled ()).1 = ((S.backend x).rows (r.after steps) q fresh i.cancelled ()).1 := by
    rw [backend, Backend.rows_ofDatabase, Backend.rows_ofDatabase,
      Backend.admitted_eq_iff.mp h.documents]
  cases hx : (S.turn x r steps i request).engine.find? q with
  | none =>
    rw [response_of_not_kept hlasts hq hx, S.degraded_retrieve r (r.after steps), hrows]
    rfl
  | some kept =>
    obtain ⟨hc, before, j, earlier, behind, hsteps, hearlier, hkept⟩ := outcome_of_find? hlasts hx
    have hout : ((S.backend x).rows (r.after steps) q fresh i.cancelled ()).1.toOption =
        some kept.rows :=
      (Backend.toOption_rows x i.cancelled ()).trans
        (Backend.outcome_of_isPrefix (h.kept hc before j earlier behind hsteps hearlier) hkept)
    cases hfound : ((S.backend x).rows (r.after steps) q fresh i.cancelled ()).1 with
    | error f =>
      rw [hfound] at hout
      cases hout
    | ok rows =>
      rw [hfound] at hout
      obtain rfl : rows = kept.rows := Option.some.inj hout
      rw [response_of_kept hlasts hq hx, S.degraded_retrieve r (r.after steps)]
      simp only [Registry.after, hfound, fresh]

theorem agrees_of_response_eq
    (hm : ((r.after steps).metric? (q.metric.getD "")).isSome = true)
    (h : ∀ x, S.response x r steps i request = S.response x (r.after steps) [] i request) :
    S.Agrees r steps q request.text := by
  have hlasts' := S.lasts_ask (r.after steps) i request
  have hanswered (x) (hx : (S.turn x r steps i request).engine.find? q ≠ none ∨
      (Backend.outcome x (S.statements r (r.after steps) q request.text)).isSome = true) :
      (Backend.outcome x
        (S.statements (r.after steps) (r.after steps) q request.text)).isSome = true := by
    have hanswer := (isSome_question?_response hlasts hq hm).mpr hx
    rw [h x] at hanswer
    exact ((isSome_question?_response hlasts' hq hm).mp hanswer).resolve_left
      fun hne => hne find?_turn_nil
  constructor
  case documents =>
    by_cases hne : S.statements r (r.after steps) q request.text = []
    · have hkind := errorKind?_response_iff hlasts hq
      rw [h, errorKind?_response_iff hlasts' hq, not_iff_not] at hkind
      exact hne.trans (hkind.mpr hne).symm
    · exact Backend.statements_eq_of_isPrefix (Backend.isPrefix_of_outcome
        Backend.nodup_statements Backend.nodup_statements fun x hx => hanswered x (.inr hx)) hne
  case kept =>
    rintro hc before j earlier behind rfl hearlier
    exact Backend.isPrefix_of_outcome Backend.nodup_statements Backend.nodup_statements
      fun x hx => hanswered x (.inl (find?_ne_none hc hlasts hearlier hx))

end Agrees

/-- While nothing expires, the response to a request after some steps is, for every database, the
one from an engine that starts with the registry in place, if and only if the statements for its
question agree, where that is about a registered metric. -/
theorem response_refreshed_iff (S : Settings) (r : Registry) (steps : List Step) (i : Invocation)
    (request : Request) (hlasts : (S.engine r).Lasts (steps ++ [.ask i request])) :
    (∀ x, S.response x r steps i request = S.response x (r.after steps) [] i request) ↔
      ∀ q, Question.questionOf? (Engine.understand (r.after steps) i request) = some q →
        ((r.after steps).metric? (q.metric.getD "")).isSome = true →
        S.Agrees r steps q request.text := by
  refine ⟨fun h q hq hm => agrees_of_response_eq hlasts hq hm h, fun h x => ?_⟩
  cases hq : Question.questionOf? (Engine.understand (r.after steps) i request) with
  | none => exact Turn.response_of_unasked (question?_turn.trans hq) registry_turn rfl rfl
  | some q =>
    by_cases hm : ((r.after steps).metric? (q.metric.getD "")).isSome = true
    · exact (h q hq hm).response_eq hlasts hq x
    · have hm := Option.not_isSome_iff_eq_none.mp hm
      rw [response_of_unregistered hlasts hq hm,
        response_of_unregistered (S.lasts_ask (r.after steps) i request) hq hm]

section Alike

variable {documents documents' r' : Registry}

theorem retriever_congr (h : documents.Alike documents') :
    S.retriever documents' = S.retriever documents := by
  have hexamples (m : Metric) :
      Corpus.exampleDocuments documents' m = Corpus.exampleDocuments documents m := by
    rw [Corpus.exampleDocuments, Corpus.exampleDocuments, h.schema]
  unfold retriever Corpus.seeded Corpus.documents
  simp only [h.schema, h.metrics, hexamples]

theorem statements_congr (hd : documents.Alike documents') (hr : r.Alike r') (q : Question)
    (text : String) : S.statements documents' r' q text = S.statements documents r q text := by
  rw [statements, statements, retriever_congr hd, Backend.statements_congr hr]

/-- Where registries differ in the names of banks, in filters and in terms only, a request finds the
statements of the registry in place, as far as each earlier one had the same text. -/
theorem agrees_of_alike (hsteps : ∀ offered, Step.replace offered ∈ steps → r.Alike offered)
    {text : String} (htext : S.config.cacheTime?.isSome = true → ∀ j earlier,
      Step.ask j earlier ∈ steps → earlier.text = text) (q : Question) :
    S.Agrees r steps q text where
  documents := (statements_congr ((Registry.Alike.refl r).after hsteps) (.refl _) q text).symm
  kept hc before j earlier behind heq _ := by
    have hmem : Step.ask j earlier ∈ steps := by rw [heq]; simp
    have hbefore : r.Alike (r.after before) := (Registry.Alike.refl r).after fun offered hoffered =>
      hsteps offered (by rw [heq]; exact List.mem_append_left _ hoffered)
    have hafter : r.Alike (r.after steps) := (Registry.Alike.refl r).after hsteps
    have hsame : S.statements r (r.after before) q earlier.text =
        S.statements (r.after steps) (r.after steps) q text := by
      rw [htext hc j earlier hmem, statements_congr hafter hafter,
        statements_congr (.refl _) hbefore]
    exact hsame ▸ List.prefix_rfl

end Alike

def keeping : Settings where
  config := { cacheSeconds := 60 }
  dimension := 0
  embed _ := []
  embedQuestion _ := none

def renamed : Registry :=
  { Question.twoBanksServed with
    banks := [{ id := "NORTE", displayName := "Banco Norte" },
      { id := "SUR", displayName := "Banco Sur" }] }

def moved : Registry where
  banks := Question.twoBanks.banks
  metrics := Question.twoBanks.metrics.map fun m => { m with column := "saldo" }
  schema.tables := [{
    name := "kpis"
    columns := [{ name := "saldo", dataType := "double precision" },
      { name := "mes", dataType := "date" }, { name := "banco", dataType := "text" }]
    timeColumn := "mes"
    bankColumn := "banco" }]
  schema.primaryTable := "kpis"

def aboutNorte : Request := { text := "mora norte junio 2025" }

def halfMinute : Invocation := { anchor := Question.midMonth, now := 30 }

/-- A request half a minute earlier, and another registry after it. -/
def askedBefore (r : Registry) : List Step :=
  [.ask { anchor := Question.midMonth } aboutNorte, .replace r]

theorem lasts_askedBefore (r : Registry) : (keeping.engine Question.twoBanksServed).Lasts
    (askedBefore r ++ [.ask halfMinute aboutNorte]) where
  stored now _ c hc kept hkept := by
    cases hc
    cases hkept
  gained c hc := by
    cases hc
    change List.Pairwise (fun earlier later => later - earlier < 60) [0, 30]
    decide

theorem response_refreshed_iff_renamed :
    (keeping.engine Question.twoBanksServed).Lasts
      (askedBefore renamed ++ [.ask halfMinute aboutNorte]) ∧
    ∀ x, keeping.response x Question.twoBanksServed (askedBefore renamed) halfMinute aboutNorte =
      keeping.response x (Question.twoBanksServed.after (askedBefore renamed)) [] halfMinute
        aboutNorte := by
  refine ⟨lasts_askedBefore renamed, (response_refreshed_iff keeping Question.twoBanksServed
    (askedBefore renamed) halfMinute aboutNorte (lasts_askedBefore renamed)).mpr fun q _ _ => ?_⟩
  refine agrees_of_alike (fun offered hoffered => ?_) (fun _ j earlier hearlier => ?_) q
  · obtain rfl : offered = renamed := by simpa [askedBefore] using hoffered
    exact ⟨rfl, rfl, rfl⟩
  · obtain ⟨-, rfl⟩ : j = { anchor := Question.midMonth } ∧ earlier = aboutNorte := by
      simpa [askedBefore] using hearlier
    rfl

/-- A response may be made of rows of a column in which the registry in place has no metric. -/
theorem response_unrefreshed : ¬ ∀ (S : Settings) (r : Registry) (steps : List Step)
    (i : Invocation) (request : Request), r.check = .ok () →
    (∀ offered, Step.replace offered ∈ steps → offered.check = .ok ()) →
    (∃ offered, Step.replace offered ∈ steps) →
    (S.engine r).Lasts (steps ++ [.ask i request]) →
    ∀ x, S.response x r steps i request = S.response x (r.after steps) [] i request := by
  intro h
  have hmoved : ∀ offered, Step.replace offered ∈ askedBefore moved → offered.check = .ok () := by
    intro offered hoffered
    obtain rfl : offered = moved := by simpa [askedBefore] using hoffered
    decide +kernel
  have hkind := congrArg Response.errorKind? (h keeping Question.twoBanksServed (askedBefore moved)
    halfMinute aboutNorte (by decide +kernel) hmoved ⟨moved, by simp [askedBefore]⟩
    (lasts_askedBefore moved) fun p =>
      if p.statement = "SELECT banco AS bank, mes AS period, mora AS value FROM kpis WHERE " ++
        "banco = $1 AND mes BETWEEN $2 AND $3 ORDER BY banco, mes" then .ok []
      else .error (.poolExhausted ""))
  revert hkind
  decide +kernel

end Settings

end BankQuery
