import Formula.Proofs.Grammar.Reading

/-! The parsers do what the rules of reading say: `reads_iff_runs` for every phrase, and
`parse_eq_finish` for a whole sequence of tokens. -/

namespace Formula.Grammar

open Formula.Parser

variable {settings : Settings} {bindings : Bindings} {room : Nat} {c c' : Cursor}
  {r : Except SyntaxError Subtree}

/-- The parser of a phrase, with `deeper` for what is nested in it. -/
def Phrase.parser (settings : Settings) (bindings : Bindings) (deeper : Goal → Parser Subtree) :
    Phrase → Parser Subtree
  | .chain .sum => Grammar.expression settings bindings deeper
  | .chain .product => term settings bindings deeper
  | .chain .power => joined settings power? (Grammar.factor settings bindings deeper)
  | .tower => power settings bindings deeper
  | .factor => Grammar.factor settings bindings deeper

theorem Phrase.parser_powers (deeper : Goal → Parser Subtree) :
    (Phrase.powers settings).parser settings bindings deeper = power settings bindings deeper := by
  unfold Phrase.powers
  split
  · next h => simp only [Phrase.parser, power, h]
  · rfl

theorem produce_eq (deeper : Goal → Parser Subtree) (goal : Goal) :
    produce settings bindings deeper goal =
      (goal.phrase settings).parser settings bindings deeper := by
  cases goal with
  | expression | factor => rfl
  | power => exact (Phrase.parser_powers deeper).symm

/-- A chain starts with an operand, and the operators after it are those of its rank. -/
theorem runs_chain {deeper : Goal → Parser Subtree} {rank : Rank}
    (h : (joined settings rank.operator?
      ((Phrase.operand settings rank).parser settings bindings deeper)).Runs c r c') :
    ((Phrase.chain rank).parser settings bindings deeper).Runs c r c' := by
  cases rank with
  | sum => exact .bind ⟨rfl, rfl⟩ (.bind ⟨rfl, rfl⟩ h)
  | product => rwa [Phrase.operand, Phrase.parser_powers] at h
  | power => exact h

/-- What the parsers do for a task.  For a tail, the bound on its length may be anything that is
long enough. -/
def Task.Runs (settings : Settings) (bindings : Bindings) (room : Nat) (task : Task) (c : Cursor)
    (r : Except SyntaxError Subtree) (c' : Cursor) : Prop :=
  match task with
  | .phrase p => (p.parser settings bindings (descend settings bindings room)).Runs c r c'
  | .tail rank left => ∀ bound, c.rest.length ≤ bound.length →
    (chain settings rank.operator? ((Phrase.operand settings rank).parser settings bindings
      (descend settings bindings room)) bound left).Runs c r c'
  | .deeper goal => (descend settings bindings room goal).Runs c r c'

theorem bind_operator?_eq_none {rank : Rank}
    (h : ∀ op, c.next? = some (.operator op) → op.rank ≠ rank) :
    c.next?.bind rank.operator? = none := by
  rw [Option.bind_eq_none_iff]
  intro k hk
  rw [Option.eq_none_iff_forall_ne_some]
  intro op hop
  obtain ⟨rfl, hrank⟩ := Rank.operator?_eq_some.mp hop
  exact h op hk hrank

theorem bind_power?_eq_none (h : c.next? ≠ some (.operator .power)) : c.next?.bind power? = none :=
  @bind_operator?_eq_none c .power fun op hop hrank => by
    cases op with
    | power => exact h hop
    | add | subtract | multiply | divide => simp [BinaryOperator.rank] at hrank

/-- After an operator of its rank a chain goes on with an operand. -/
theorem runs_tail {operand : Parser Subtree} {rank : Rank} {left : Subtree}
    {taken rest bound : List Token} {t u : Token} {op : BinaryOperator}
    (hk : t.kind = .operator op) (hrank : op.rank = rank)
    (h : (operand >>= fun right => join settings op t.location left right >>= fun s =>
      chain settings rank.operator? operand bound s).Runs ⟨t :: taken, rest⟩ r c') :
    (chain settings rank.operator? operand (u :: bound) left).Runs ⟨taken, t :: rest⟩ r c' := by
  have hop : (Cursor.mk taken (t :: rest)).next?.bind rank.operator? = some op := by
    simpa [Cursor.next?] using Rank.operator?_eq_some.mpr ⟨hk, hrank⟩
  refine .bind ⟨rfl, rfl⟩ ?_
  simp only [hop]
  exact .bind (runs_advance _ _ _) h

/-- After `^` a tower goes on one level deeper. -/
theorem runs_tower {deeper : Goal → Parser Subtree} {base : Subtree} {taken rest : List Token}
    {t : Token} (hp : settings.power = .right)
    (hbase : (factor settings bindings deeper).Runs c (.ok base) ⟨taken, t :: rest⟩)
    (hk : t.kind = .operator .power)
    (h : (deeper .power >>= fun exponent => join settings .power t.location base exponent).Runs
      ⟨t :: taken, rest⟩ r c') :
    (power settings bindings deeper).Runs c r c' := by
  simp only [power, hp]
  refine .bind hbase (.bind ⟨rfl, rfl⟩ ?_)
  simp only [Cursor.next?, List.head?_cons, Option.map_some, hk, Option.bind_some, power?]
  exact .bind (runs_advance _ _ _) h

/-- A factor that has a token is what its first token starts. -/
theorem runs_factor {deeper : Goal → Parser Subtree} {taken rest : List Token} {t : Token}
    (h : (factorFrom settings bindings deeper t).Runs ⟨t :: taken, rest⟩ r c') :
    (factor settings bindings deeper).Runs ⟨taken, t :: rest⟩ r c' :=
  .bind (runs_advance _ _ _) (.bind ⟨rfl, rfl⟩ h)

theorem factorFrom_unexpected {deeper : Goal → Parser Subtree} {t : Token}
    (h : t.kind.startsFactor = false) :
    factorFrom settings bindings deeper t = fail (.unexpectedToken t.kind t.location) := by
  cases hk : t.kind with
  | number | letter | opening | function => simp [hk, Token.Kind.startsFactor] at h
  | closing => simp only [factorFrom, hk, unary?]
  | operator op =>
    cases op with
    | add | subtract => simp [hk, Token.Kind.startsFactor, BinaryOperator.rank] at h
    | multiply | divide | power => simp only [factorFrom, hk, unary?]

theorem factorFrom_opening {deeper : Goal → Parser Subtree} {t : Token} {delimiter : Delimiter}
    (h : t.kind = .opening delimiter) :
    factorFrom settings bindings deeper t = group deeper delimiter t.location := by
  simp only [factorFrom, h]

theorem factorFrom_prefixed {deeper : Goal → Parser Subtree} {t : Token} {op : UnaryOperator}
    (h : t.kind = op.kind) :
    factorFrom settings bindings deeper t =
      deeper .factor >>= fun operand => wrap settings op t.location operand := by
  cases op <;> simp only [factorFrom, h, UnaryOperator.kind, unary?]

theorem runs_letter (name : String) (c : Cursor) :
    (letter bindings name).Runs c (.ok (leaf (bindings.leaf name))) c := by
  cases h : bindings.get? name <;> simp only [letter, Bindings.leaf, h] <;> exact ⟨rfl, rfl⟩

/-- A letter that no index follows stands for itself or its value. -/
theorem runs_unindexed {name : String} {location : Location}
    (h : settings.indexedLetters = true → ∀ value, c.next? ≠ some (.number value)) :
    (letterOrIndexed settings bindings name location).Runs c (.ok (leaf (bindings.leaf name)))
      c := by
  have hhere : here.Runs c (.ok c) c := ⟨rfl, rfl⟩
  refine hhere.bind ?_
  split
  · next value hi hnext => exact absurd hnext (h hi value)
  · exact runs_letter name c

/-- The parsers do what the rules of reading say. -/
theorem Reads.runs {task : Task} (h : Reads settings bindings room task c r c') :
    task.Runs settings bindings room c r c' := by
  -- One case a rule: the steps of the parser before what the rule reads, and then the hypothesis.
  induction h with
  | chain_fails _ ih => exact runs_chain (.bind_error ih)
  | chain _ _ ih ih' => exact runs_chain (.bind ih (.bind ⟨rfl, rfl⟩ (ih' _ (Nat.le_refl _))))
  | tail_ends hnext =>
    intro bound hbound
    cases bound with
    | nil => exact ⟨rfl, rfl⟩
    | cons u bound =>
      refine .bind ⟨rfl, rfl⟩ ?_
      rw [bind_operator?_eq_none hnext]
      exact ⟨rfl, rfl⟩
  | tail_fails hk hrank _ ih =>
    rintro (_ | ⟨u, bound⟩) hbound
    · simp at hbound
    · exact runs_tail hk hrank (.bind_error ih)
  | tail_refused hk hrank _ hfit ih =>
    rintro (_ | ⟨u, bound⟩) hbound
    · simp at hbound
    · exact runs_tail hk hrank (.bind ih (.bind_error (hfit ▸ runs_checked _ _ _ _)))
  | tail_goes_on hk hrank hright hfit _ ih ih' =>
    rintro (_ | ⟨u, bound⟩) hbound
    · simp at hbound
    · have hlt := hright.length_lt
      simp only [List.length_cons] at hbound hlt
      have htail := ih' bound (by omega)
      exact runs_tail hk hrank (.bind ih (.bind (hfit ▸ runs_checked _ _ _ _) htail))
  | tower_fails hp _ ih =>
    simp only [Task.Runs, Phrase.parser, power, hp]
    exact .bind_error ih
  | tower_ends hp _ hnext ih =>
    simp only [Task.Runs, Phrase.parser, power, hp]
    refine .bind ih (.bind ⟨rfl, rfl⟩ ?_)
    rw [bind_power?_eq_none hnext]
    exact ⟨rfl, rfl⟩
  | exponent_fails hp _ hk _ ih ih' => exact runs_tower hp ih hk (.bind_error ih')
  | tower hp _ hk _ ih ih' => exact runs_tower hp ih hk (.bind ih' (runs_checked _ _ _ _))
  | too_deep => exact ⟨rfl, rfl⟩
  | deeper _ ih =>
    show Runs (produce settings bindings (descend settings bindings _) _) _ _ _
    rw [produce_eq]
    exact ih
  | ended => exact .bind ⟨rfl, rfl⟩ ⟨rfl, rfl⟩
  | unexpected hk => exact runs_factor (factorFrom_unexpected hk ▸ ⟨rfl, rfl⟩)
  | number hk => exact runs_factor (by simp only [factorFrom, hk]; exact ⟨rfl, rfl⟩)
  | letter hk hnext =>
    refine runs_factor ?_
    simp only [factorFrom, hk]
    exact runs_unindexed hnext
  | @indexed _ taken t i rest name value hk hi hv =>
    refine runs_factor ?_
    simp only [factorFrom, hk]
    have hhere : here.Runs ⟨t :: taken, i :: rest⟩ (.ok _) _ := ⟨rfl, rfl⟩
    refine hhere.bind ?_
    simp only [hi, Cursor.next?, List.head?_cons, Option.map_some, hv]
    exact .bind (runs_advance _ _ _) (.bind ⟨rfl, rfl⟩ (runs_checked _ _ _ _))
  | group_fails hk _ ih => exact runs_factor (factorFrom_opening hk ▸ .bind_error ih)
  | unclosed hk _ ih =>
    exact runs_factor (factorFrom_opening hk ▸ .bind ih (.bind ⟨rfl, rfl⟩ ⟨rfl, rfl⟩))
  | mismatched hk _ hu ih =>
    refine runs_factor (factorFrom_opening hk ▸ .bind ih (.bind (runs_advance _ _ _) ?_))
    simp only [hu, ↓reduceIte]
    exact ⟨rfl, rfl⟩
  | group hk _ hu ih =>
    refine runs_factor (factorFrom_opening hk ▸ .bind ih (.bind (runs_advance _ _ _) ?_))
    simp only [hu, ↓reduceIte]
    exact ⟨rfl, rfl⟩
  | prefixed_fails hk _ ih => exact runs_factor (factorFrom_prefixed hk ▸ .bind_error ih)
  | prefixed hk _ ih =>
    exact runs_factor (factorFrom_prefixed hk ▸ .bind ih (runs_checked _ _ _ _))

/-- A parser ends in exactly the way that the rules of reading allow. -/
theorem reads_iff_runs {p : Phrase} (hp : p.Occurs settings) :
    Reads settings bindings room (.phrase p) c r c' ↔
      (p.parser settings bindings (descend settings bindings room)).Runs c r c' := by
  constructor
  · intro h
    exact h.runs
  · intro h
    have hends : Ends settings bindings room (.phrase p) := ends_phrase hp ends_deeper
    obtain ⟨r1, c1, hreads⟩ := hends c
    obtain ⟨rfl, rfl⟩ := h.unique hreads.runs
    exact hreads

/-- What becomes of the result of reading an expression when it should be all there is. -/
def finish (r : Except SyntaxError Subtree) (c : Cursor) : Except SyntaxError (Option Tree) :=
  match r, c.rest with
  | .error e, _ => .error e
  | .ok s, [] => .ok (some s.tree)
  | .ok _, t :: _ => .error (.trailingTokens t.kind t.location)

theorem finish_ne_none (r : Except SyntaxError Subtree) (c : Cursor) : finish r c ≠ .ok none := by
  obtain ⟨taken, _ | ⟨t, rest⟩⟩ := c <;> cases r <;> simp [finish]

/-- Where the parser stops after that: a token that is left is taken before it is an error. -/
def stop (r : Except SyntaxError Subtree) (c : Cursor) : Cursor :=
  match r, c.rest with
  | .ok _, t :: rest => ⟨t :: c.taken, rest⟩
  | _, _ => c

theorem parse_nil : parse settings bindings [] = .ok none := rfl

theorem whole_runs {tokens : List Token} (hne : tokens ≠ [])
    (h : Reads settings bindings settings.maxDepth (.phrase .expression) (.ofList tokens) r c') :
    (whole settings bindings).Runs (.ofList tokens) (finish r c') (stop r c') := by
  have hruns : (expression settings bindings (descend settings bindings settings.maxDepth)).Runs
      (.ofList tokens) r c' := h.runs
  have hempty : (Cursor.ofList tokens).rest.isEmpty = false := by
    simpa [Cursor.ofList] using hne
  refine .bind ⟨rfl, rfl⟩ ?_
  simp only [hempty]
  obtain e | s := r
  · exact .bind ⟨rfl, rfl⟩ (.bind_error hruns)
  · obtain ⟨taken, _ | ⟨t, rest⟩⟩ := c'
    · exact .bind ⟨rfl, rfl⟩ (.bind hruns ⟨rfl, rfl⟩)
    · exact .bind ⟨rfl, rfl⟩ (.bind hruns (.bind (runs_advance _ _ _) ⟨rfl, rfl⟩))

theorem parse_eq_finish {tokens : List Token} (hne : tokens ≠ [])
    (h : Reads settings bindings settings.maxDepth (.phrase .expression) (.ofList tokens) r c') :
    parse settings bindings tokens = finish r c' :=
  (whole_runs hne h).1

/-- Parsing is reading an expression that is all there is, unless there are no tokens. -/
theorem exists_reads (settings : Settings) (bindings : Bindings) (tokens : List Token) :
    ∃ r c', Reads settings bindings settings.maxDepth (.phrase .expression) (.ofList tokens) r c' ∧
      (tokens ≠ [] → parse settings bindings tokens = finish r c') := by
  have hends : Ends settings bindings settings.maxDepth (.phrase .expression) :=
    ends_phrase (by simp [Phrase.Occurs]) ends_deeper
  obtain ⟨r, c', h⟩ := hends (.ofList tokens)
  exact ⟨r, c', h, fun hne => parse_eq_finish hne h⟩

/-- A tree that is parsed is read from the first token to the last. -/
theorem reads_of_parse {tokens : List Token} {t : Tree}
    (h : parse settings bindings tokens = .ok (some t)) :
    tokens ≠ [] ∧ ∃ s : Subtree, s.tree = t ∧
      Reads settings bindings settings.maxDepth (.phrase .expression) (.ofList tokens) (.ok s)
        ⟨tokens.reverse, []⟩ := by
  have hne : tokens ≠ [] := by
    rintro rfl
    simp [parse_nil] at h
  obtain ⟨r, ⟨taken, rest⟩, hreads, hparse⟩ := exists_reads settings bindings tokens
  rw [hparse hne] at h
  rcases r with e | s
  · contradiction
  rcases rest with _ | ⟨u, rest⟩
  · obtain ⟨used, htakes, -⟩ := hreads.takes
    have hused : tokens = used := by simpa [Cursor.ofList] using htakes.rest
    have htaken : taken = tokens.reverse := by simpa [Cursor.ofList, hused] using htakes.taken
    subst htaken
    exact ⟨hne, s, Option.some.inj (Except.ok.inj h), hreads⟩
  · contradiction

end Formula.Grammar
