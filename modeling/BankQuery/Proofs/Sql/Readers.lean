import BankQuery.Sql.Parser

/-!
# Running readers

What a reader gives on given tokens, one equation for each combinator. A keyword or a symbol is
taken or left by the first token alone; a loop is run by its steps, each of which takes a token; a
list with commas is read member by member.
-/

namespace BankQuery.Sql.Parser

variable {α β : Type} {d : Nat} {t : Token} {ts rest : List Token}

theorem bind_run (p : Parser α) (f : α → Parser β) (d : Nat) (ts : List Token) :
    (p >>= f) d ts = (p d ts).bind fun r => f r.1 d r.2 := rfl

/-- A long reader is run part by part. -/
theorem bind_run_of_eq {p : Parser α} {f : α → Parser β} {a : α} {mid : List Token}
    {result : Option (β × List Token)} (hp : p d ts = some (a, mid)) (hf : f a d mid = result) :
    (p >>= f) d ts = result := by
  rw [bind_run, hp, Option.bind_some]
  exact hf

theorem pure_run (a : α) (d : Nat) (ts : List Token) :
    (pure a : Parser α) d ts = some (a, ts) := rfl

theorem map_run (f : α → β) (p : Parser α) (d : Nat) (ts : List Token) :
    (f <$> p) d ts = (p d ts).map fun r => (f r.1, r.2) := by
  change (p d ts).bind _ = _
  cases p d ts <;> rfl

theorem orElse_run (p q : Parser α) (d : Nat) (ts : List Token) :
    (p <|> q) d ts = (p d ts).or (q d ts) := by
  change (p d ts <|> q d ts) = _
  cases p d ts <;> rfl

theorem rest_run (d : Nat) (ts : List Token) : Parser.rest d ts = some (ts, ts) := rfl

theorem next_run (d : Nat) (t : Token) (ts : List Token) : next d (t :: ts) = some (t, ts) := rfl

theorem peek?_run (d : Nat) (ts : List Token) : peek? d ts = some (ts.head?, ts) := rfl

theorem deeper_run (p : Parser α) (d : Nat) (ts : List Token) :
    deeper p (d + 1) ts = p d ts := rfl

theorem ensure_run (b : Bool) (h : b = true) (d : Nat) (ts : List Token) :
    ensure b d ts = some ((), ts) := by
  subst h
  rfl

theorem keyword?_run_of_eq {word : String} (h : t.keyword = word) (d : Nat) (ts : List Token) :
    keyword? word d (t :: ts) = some (true, ts) := by
  simp [keyword?, isKeyword, h]

theorem keyword?_run_of_ne {word : String} (h : ∀ t ∈ ts.head?, t.keyword ≠ word) (d : Nat) :
    keyword? word d ts = some (false, ts) := by
  cases ts with
  | nil => rfl
  | cons t ts => simp [keyword?, isKeyword, h t rfl]

theorem keyword_run {word : String} (h : t.keyword = word) (d : Nat) (ts : List Token) :
    keyword word d (t :: ts) = some ((), ts) := by
  rw [keyword, bind_run, keyword?_run_of_eq h]
  rfl

theorem symbol?_run_of_eq (text : String) (d : Nat) (ts : List Token) :
    symbol? text d (.symbol text :: ts) = some (true, ts) := by
  simp [symbol?, eat]

theorem symbol?_run_of_ne {text : String} (h : ∀ t ∈ ts.head?, t ≠ .symbol text) (d : Nat) :
    symbol? text d ts = some (false, ts) := by
  cases ts with
  | nil => rfl
  | cons t ts => simp [symbol?, eat, h t rfl]

theorem word_ne_symbol {w : Word} (s : String) :
    ∀ t ∈ (Token.word w :: ts).head?, t ≠ .symbol s := by
  rintro t ⟨⟩
  exact Token.noConfusion

theorem symbol_ne_symbol {s u : String} (h : s ≠ u) :
    ∀ t ∈ (Token.symbol s :: ts).head?, t ≠ .symbol u := by
  rintro t ⟨⟩ he
  cases he
  exact h rfl

theorem symbol_run (text : String) (d : Nat) (ts : List Token) :
    symbol text d (.symbol text :: ts) = some ((), ts) := by
  rw [symbol, bind_run, symbol?_run_of_eq]
  rfl

theorem phrase?_run_of_ne {word : String} {words : List String}
    (h : ∀ t ∈ ts.head?, t.keyword ≠ word) (d : Nat) :
    phrase? (word :: words) d ts = some (false, ts) := by
  cases ts with
  | nil => rfl
  | cons t ts => simp [phrase?, afterKeywords, isKeyword, h t rfl]

theorem phrase?_run_of_ne_second {t' : Token} {word word' : String} {words : List String}
    (h : t'.keyword ≠ word') (d : Nat) (ts : List Token) :
    phrase? (word :: word' :: words) d (t :: t' :: ts) = some (false, t :: t' :: ts) := by
  by_cases ht : t.keyword = word
  · simp [phrase?, afterKeywords, isKeyword, ht, h]
  · simp [phrase?, afterKeywords, isKeyword, ht]

theorem phrase?_run_of_eq {u : Token} {word word' : String} (h : t.keyword = word)
    (h' : u.keyword = word') (d : Nat) (ts : List Token) :
    phrase? [word, word'] d (t :: u :: ts) = some (true, ts) := by
  simp [phrase?, afterKeywords, isKeyword, h, h']

theorem phrase?_run_single {word : String} (h : t.keyword = word) (d : Nat) (ts : List Token) :
    phrase? [word] d (t :: ts) = some (true, ts) := by
  simp [phrase?, afterKeywords, isKeyword, h]

theorem oneOf?_run_of_not_mem {words : List String} (h : ∀ t ∈ ts.head?, t.keyword ∉ words)
    (d : Nat) : oneOf? words d ts = some (none, ts) := by
  cases ts with
  | nil => rfl
  | cons t ts => simp [oneOf?, take?, h t rfl]

theorem oneOf?_run_of_mem {words : List String} (h : t.keyword ∈ words) (d : Nat)
    (ts : List Token) : oneOf? words d (t :: ts) = some (some t.keyword, ts) := by
  simp [oneOf?, take?, h]

theorem afterKeyword?_run_of_ne {word : String} (p : Parser α)
    (h : ∀ t ∈ ts.head?, t.keyword ≠ word) (d : Nat) :
    afterKeyword? word p d ts = some (none, ts) := by
  rw [afterKeyword?, bind_run, keyword?_run_of_ne h]
  rfl

theorem listAfter_run_of_ne {word : String} {words : List String} (p : Parser (List α))
    (h : ∀ t ∈ ts.head?, t.keyword ≠ word) (d : Nat) :
    listAfter (word :: words) p d ts = some ([], ts) := by
  rw [listAfter, bind_run, phrase?_run_of_ne h]
  rfl

theorem parenthesized_run {p : Parser α} {a : α}
    (h : p d ts = some (a, .symbol ")" :: rest)) :
    parenthesized p d (.symbol "(" :: ts) = some (a, rest) := by
  rw [parenthesized, bind_run, symbol_run, Option.bind_some, bind_run, h, Option.bind_some,
    bind_run, symbol_run]
  rfl

/-- Steps of a loop from a value and tokens to the last value and the tokens behind it. -/
inductive Steps (step : α → Parser (Option α)) (d : Nat) :
    α → List Token → α → List Token → Prop where
  | last {a : α} {ts rest : List Token} (h : step a d ts = some (none, rest)) :
      Steps step d a ts a rest
  | more {a b c : α} {ts m rest : List Token} (h : step a d ts = some (some b, m))
      (hlt : m.length < ts.length) (hs : Steps step d b m c rest) : Steps step d a ts c rest

theorem iterate_run {step : α → Parser (Option α)} {a b : α} {r : List Token}
    (h : Steps step d a ts b r) : iterate step a d ts = some (b, r) := by
  have hfor : ∀ n, ts.length < n → iterateFor step n a d ts = some (b, r) := by
    induction h with
    | last h =>
      intro n hn
      obtain ⟨n, rfl⟩ := Nat.exists_eq_succ_of_ne_zero (Nat.ne_of_gt (Nat.zero_lt_of_lt hn))
      rw [iterateFor, bind_run, h]
      rfl
    | more h hlt _ ih =>
      intro n hn
      obtain ⟨n, rfl⟩ := Nat.exists_eq_succ_of_ne_zero (Nat.ne_of_gt (Nat.zero_lt_of_lt hn))
      rw [iterateFor, bind_run, h]
      exact ih n (by omega)
  rw [iterate, bind_run, rest_run]
  exact hfor _ (Nat.lt_succ_self _)

/-- The tokens of members with commas between them. -/
def listed {γ : Type} (tokens : γ → List Token) : List γ → List Token
  | [] => []
  | x :: xs => tokens x ++ xs.flatMap fun y => .symbol "," :: tokens y

section CommaList

variable {γ : Type} {p : Parser α} {tokens : γ → List Token} {value : γ → α}
  (ends : List Token → Prop)

theorem steps_comma {xs : List γ}
    (hp : ∀ y ∈ xs, ∀ after, ends after → p d (tokens y ++ after) = some (value y, after))
    (hcomma : ∀ after, ends (.symbol "," :: after)) (hends : ends rest)
    (hrest : ∀ t ∈ rest.head?, t ≠ .symbol ",") (done : List α) :
    Steps (fun done => do if ← symbol? "," then some <$> ((· :: done) <$> p) else pure none) d
      done (xs.flatMap (fun y => .symbol "," :: tokens y) ++ rest)
      ((xs.map value).reverse ++ done) rest := by
  induction xs generalizing done with
  | nil =>
    refine .last ?_
    rw [List.flatMap_nil, List.nil_append, bind_run, symbol?_run_of_ne hrest]
    rfl
  | cons y ys ih =>
    rw [List.map_cons, List.reverse_cons, List.append_assoc]
    refine .more (b := value y :: done) ?_ ?_
      (ih (fun z hz => hp z (List.mem_cons_of_mem y hz)) (value y :: done))
    · rw [List.flatMap_cons, List.append_assoc, List.cons_append, bind_run, symbol?_run_of_eq,
        Option.bind_some, if_pos rfl, map_run, map_run, hp y List.mem_cons_self]
      · rfl
      · cases ys with
        | nil => exact hends
        | cons z zs => exact hcomma _
    · simp only [List.flatMap_cons, List.cons_append, List.length_cons, List.append_assoc,
        List.length_append]
      omega

/-- Members are read one by one if each is read before a comma and before the end. -/
theorem commaList_run {x : γ} {xs : List γ}
    (hp : ∀ y ∈ x :: xs, ∀ after, ends after → p d (tokens y ++ after) = some (value y, after))
    (hcomma : ∀ after, ends (.symbol "," :: after)) (hends : ends rest)
    (hrest : ∀ t ∈ rest.head?, t ≠ .symbol ",") :
    commaList p d (listed tokens (x :: xs) ++ rest) = some ((x :: xs).map value, rest) := by
  have hx : ends (xs.flatMap (fun y => .symbol "," :: tokens y) ++ rest) := by
    cases xs with
    | nil => exact hends
    | cons y ys => exact hcomma _
  have hs := steps_comma ends (fun y hy => hp y (List.mem_cons_of_mem x hy)) hcomma hends hrest []
  rw [commaList, listed, List.append_assoc, bind_run, hp x List.mem_cons_self _ hx,
    Option.bind_some, bind_run, iterate_run hs, Option.bind_some, List.append_nil,
    List.reverse_reverse]
  rfl

theorem commaList_run_single {a : α} {ts : List Token} (hp : p d ts = some (a, rest))
    (hrest : ∀ t ∈ rest.head?, t ≠ .symbol ",") : commaList p d ts = some ([a], rest) := by
  rw [commaList, bind_run, hp, Option.bind_some, bind_run, iterate_run (.last ?_)]
  · rfl
  · rw [bind_run, symbol?_run_of_ne hrest]
    rfl

end CommaList

theorem name_run (w : Word) (d : Nat) (ts : List Token) :
    name d (.word w :: ts) = some (w.name, ts) := rfl

theorem path_run (w : Word) {ts : List Token} (h : ∀ t ∈ ts.head?, t ≠ .symbol ".") :
    path d (.word w :: ts) = some ([w.name], ts) := by
  rw [path, bind_run, name_run, Option.bind_some, bind_run, iterate_run (.last ?_)]
  · rfl
  · rw [bind_run, symbol?_run_of_ne h]
    rfl

end BankQuery.Sql.Parser
