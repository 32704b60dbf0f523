import Formula.Proofs.Grammar.Runs

/-! What the parsers do, told by rules: `Reads` has a rule for every way in which a part of the work
can end.  `reads_iff_runs` says that a parser ends in exactly the way that the rules allow, so facts
about parsing follow by induction on the rules. -/

namespace Formula.Grammar

/-- The phrase that a goal asks for. -/
def Goal.phrase (settings : Settings) : Goal → Phrase
  | .expression => .expression
  | .power => .powers settings
  | .factor => .factor

/-- A part of the work of reading. -/
inductive Task where
  /-- Reads a phrase. -/
  | phrase (p : Phrase)
  /-- Goes on from `left` as long as an operator of the rank is next. -/
  | tail (rank : Rank) (left : Subtree)
  /-- Reads what the goal asks for, one level deeper. -/
  | deeper (goal : Goal)

section Rules

variable (settings : Settings) (bindings : Bindings)

/-- `Reads settings bindings room task c r c'`: the task, started at `c` with `room` levels left,
stops at `c'` with the result `r`. -/
inductive Reads : Nat → Task → Cursor → Except SyntaxError Subtree → Cursor → Prop
  | chain_fails {room rank c e c1} :
      Reads room (.phrase (.operand settings rank)) c (.error e) c1 →
      Reads room (.phrase (.chain rank)) c (.error e) c1
  | chain {room rank c first c1 r c2} :
      Reads room (.phrase (.operand settings rank)) c (.ok first) c1 →
      Reads room (.tail rank first) c1 r c2 →
      Reads room (.phrase (.chain rank)) c r c2
  | tail_ends {room rank left c} :
      (∀ op, c.next? = some (.operator op) → op.rank ≠ rank) →
      Reads room (.tail rank left) c (.ok left) c
  | tail_fails {room rank left taken t rest op e c1} :
      t.kind = .operator op → op.rank = rank →
      Reads room (.phrase (.operand settings rank)) ⟨t :: taken, rest⟩ (.error e) c1 →
      Reads room (.tail rank left) ⟨taken, t :: rest⟩ (.error e) c1
  | tail_refused {room rank left taken t rest op right c1 e} :
      t.kind = .operator op → op.rank = rank →
      Reads room (.phrase (.operand settings rank)) ⟨t :: taken, rest⟩ (.ok right) c1 →
      fitted settings t.location (.binary op left right) = .error e →
      Reads room (.tail rank left) ⟨taken, t :: rest⟩ (.error e) c1
  | tail_goes_on {room rank left taken t rest op right c1 r c2} :
      t.kind = .operator op → op.rank = rank →
      Reads room (.phrase (.operand settings rank)) ⟨t :: taken, rest⟩ (.ok right) c1 →
      fitted settings t.location (.binary op left right) = .ok (.binary op left right) →
      Reads room (.tail rank (.binary op left right)) c1 r c2 →
      Reads room (.tail rank left) ⟨taken, t :: rest⟩ r c2
  | tower_fails {room c e c1} :
      settings.power = .right →
      Reads room (.phrase .factor) c (.error e) c1 →
      Reads room (.phrase .tower) c (.error e) c1
  | tower_ends {room c base c1} :
      settings.power = .right →
      Reads room (.phrase .factor) c (.ok base) c1 →
      c1.next? ≠ some (.operator .power) →
      Reads room (.phrase .tower) c (.ok base) c1
  | exponent_fails {room c base taken t rest e c1} :
      settings.power = .right →
      Reads room (.phrase .factor) c (.ok base) ⟨taken, t :: rest⟩ →
      t.kind = .operator .power →
      Reads room (.deeper .power) ⟨t :: taken, rest⟩ (.error e) c1 →
      Reads room (.phrase .tower) c (.error e) c1
  | tower {room c base taken t rest right c1} :
      settings.power = .right →
      Reads room (.phrase .factor) c (.ok base) ⟨taken, t :: rest⟩ →
      t.kind = .operator .power →
      Reads room (.deeper .power) ⟨t :: taken, rest⟩ (.ok right) c1 →
      Reads room (.phrase .tower) c (fitted settings t.location (.binary .power base right)) c1
  | too_deep {goal c} :
      Reads 0 (.deeper goal) c (.error (.nestingTooDeep settings.maxDepth c.location)) c
  | deeper {room goal c r c1} :
      Reads room (.phrase (goal.phrase settings)) c r c1 →
      Reads (room + 1) (.deeper goal) c r c1
  | ended {room taken} :
      Reads room (.phrase .factor) ⟨taken, []⟩
        (.error (.unexpectedEnd (Cursor.location ⟨taken, []⟩))) ⟨taken, []⟩
  | unexpected {room taken t rest} :
      t.kind.startsFactor = false →
      Reads room (.phrase .factor) ⟨taken, t :: rest⟩
        (.error (.unexpectedToken t.kind t.location)) ⟨t :: taken, rest⟩
  | number {room taken t rest value} :
      t.kind = .number value →
      Reads room (.phrase .factor) ⟨taken, t :: rest⟩ (.ok (leaf (.number value)))
        ⟨t :: taken, rest⟩
  | letter {room taken t rest name} :
      t.kind = .letter name →
      (settings.indexedLetters = true →
        ∀ value, (Cursor.mk (t :: taken) rest).next? ≠ some (.number value)) →
      Reads room (.phrase .factor) ⟨taken, t :: rest⟩ (.ok (leaf (bindings.leaf name)))
        ⟨t :: taken, rest⟩
  | indexed {room taken t i rest name value} :
      t.kind = .letter name → settings.indexedLetters = true → i.kind = .number value →
      Reads room (.phrase .factor) ⟨taken, t :: i :: rest⟩
        (fitted settings t.location (.indexed name value)) ⟨i :: t :: taken, rest⟩
  | group_fails {room taken t rest delimiter e c1} :
      t.kind = .opening delimiter →
      Reads room (.deeper .expression) ⟨t :: taken, rest⟩ (.error e) c1 →
      Reads room (.phrase .factor) ⟨taken, t :: rest⟩ (.error e) c1
  | unclosed {room taken t rest delimiter inner taken1} :
      t.kind = .opening delimiter →
      Reads room (.deeper .expression) ⟨t :: taken, rest⟩ (.ok inner) ⟨taken1, []⟩ →
      Reads room (.phrase .factor) ⟨taken, t :: rest⟩
        (.error (.unclosedDelimiter delimiter t.location)) ⟨taken1, []⟩
  | mismatched {room taken t rest delimiter inner taken1 u rest1} :
      t.kind = .opening delimiter →
      Reads room (.deeper .expression) ⟨t :: taken, rest⟩ (.ok inner) ⟨taken1, u :: rest1⟩ →
      u.kind ≠ .closing delimiter →
      Reads room (.phrase .factor) ⟨taken, t :: rest⟩
        (.error (.mismatchedDelimiter delimiter u.kind u.location)) ⟨u :: taken1, rest1⟩
  | group {room taken t rest delimiter inner taken1 u rest1} :
      t.kind = .opening delimiter →
      Reads room (.deeper .expression) ⟨t :: taken, rest⟩ (.ok inner) ⟨taken1, u :: rest1⟩ →
      u.kind = .closing delimiter →
      Reads room (.phrase .factor) ⟨taken, t :: rest⟩ (.ok inner) ⟨u :: taken1, rest1⟩
  | prefixed_fails {room taken t rest op e c1} :
      t.kind = UnaryOperator.kind op →
      Reads room (.deeper .factor) ⟨t :: taken, rest⟩ (.error e) c1 →
      Reads room (.phrase .factor) ⟨taken, t :: rest⟩ (.error e) c1
  | prefixed {room taken t rest op operand c1} :
      t.kind = UnaryOperator.kind op →
      Reads room (.deeper .factor) ⟨t :: taken, rest⟩ (.ok operand) c1 →
      Reads room (.phrase .factor) ⟨taken, t :: rest⟩
        (fitted settings t.location (.unary op operand)) c1

end Rules

variable {settings : Settings} {bindings : Bindings} {room : Nat} {task : Task} {c c' : Cursor}
  {r : Except SyntaxError Subtree}

/-- Reading goes forwards, and a phrase that is read has at least one token. -/
theorem Reads.takes (h : Reads settings bindings room task c r c') :
    ∃ used, c.Takes used c' ∧
      ((∀ rank left, task ≠ .tail rank left) → (∃ s, r = .ok s) → used ≠ []) := by
  induction h with
  | chain_fails _ ih | deeper _ ih | tower_fails _ _ ih | tower_ends _ _ _ ih => simpa using ih
  | chain _ _ ih ih' =>
    obtain ⟨used, hu, hne⟩ := ih
    obtain ⟨used', hu', -⟩ := ih'
    have := hne (by simp) ⟨_, rfl⟩
    exact ⟨used ++ used', hu.trans hu', by simp [this]⟩
  | tail_ends | too_deep | ended => exact ⟨[], .refl _, by simp⟩
  | tail_goes_on _ _ _ _ _ ih ih' =>
    obtain ⟨used, hu, -⟩ := ih
    obtain ⟨used', hu', -⟩ := ih'
    exact ⟨_, hu.cons.trans hu', by simp⟩
  | exponent_fails _ _ _ _ ih ih' | tower _ _ _ _ ih ih' =>
    obtain ⟨used, hu, -⟩ := ih
    obtain ⟨used', hu', -⟩ := ih'
    exact ⟨_, hu.trans hu'.cons, by simp⟩
  | unexpected | number | letter => exact ⟨_, .one _ _ _, by simp⟩
  | indexed => exact ⟨_, (Cursor.Takes.one _ _ _).cons, by simp⟩
  | tail_fails _ _ _ ih | tail_refused _ _ _ _ ih | group_fails _ _ ih | unclosed _ _ ih
  | prefixed_fails _ _ ih | prefixed _ _ ih =>
    obtain ⟨used, hu, -⟩ := ih
    exact ⟨_, hu.cons, by simp⟩
  | mismatched _ _ _ ih | group _ _ _ ih =>
    obtain ⟨used, hu, -⟩ := ih
    exact ⟨_, (hu.trans (.one _ _ _)).cons, by simp⟩

/-- Reading a phrase leaves fewer tokens. -/
theorem Reads.length_lt {p : Phrase} {s : Subtree}
    (h : Reads settings bindings room (.phrase p) c (.ok s) c') :
    c'.rest.length < c.rest.length := by
  obtain ⟨used, hu, hne⟩ := h.takes
  have := List.length_pos_iff.mpr (hne (by simp) ⟨s, rfl⟩)
  have := hu.length_rest
  omega

/-! ### Every reading ends -/

section Ends

variable (settings bindings room)

/-- Whatever the cursor, the task ends in one of the ways that the rules tell. -/
def Ends (task : Task) : Prop :=
  ∀ c, ∃ r c', Reads settings bindings room task c r c'

variable {settings bindings room}

theorem ends_tail {rank : Rank} (h : Ends settings bindings room (.phrase (.operand settings rank)))
    (left : Subtree) : Ends settings bindings room (.tail rank left) := by
  -- The induction is on the tokens left, of which every operand takes one at least.
  suffices ∀ n left c, c.rest.length ≤ n →
      ∃ r c', Reads settings bindings room (.tail rank left) c r c'
    from fun c => this _ left c (Nat.le_refl _)
  intro n
  induction n with
  | zero =>
    intro left c hc
    have hnil : c.rest = [] := List.length_eq_zero_iff.mp (Nat.le_zero.mp hc)
    exact ⟨_, _, .tail_ends (by simp [Cursor.next?, hnil])⟩
  | succ n ih =>
    intro left c hc
    by_cases hop : ∃ op, c.next? = some (.operator op) ∧ op.rank = rank
    · obtain ⟨op, hnext, hrank⟩ := hop
      obtain ⟨taken, _ | ⟨t, rest⟩⟩ := c
      · simp [Cursor.next?] at hnext
      have hk : t.kind = .operator op := by simpa [Cursor.next?] using hnext
      obtain ⟨r | right, c1, hright⟩ := h ⟨t :: taken, rest⟩
      · exact ⟨_, _, .tail_fails hk hrank hright⟩
      cases hfit : fitted settings t.location (.binary op left right) with
      | error e => exact ⟨_, _, .tail_refused hk hrank hright hfit⟩
      | ok s =>
        obtain ⟨-, rfl⟩ := fitted_eq_ok.mp hfit
        have hlt := hright.length_lt
        simp only [List.length_cons] at hc hlt
        obtain ⟨r, c2, htail⟩ := ih (.binary op left right) c1 (by omega)
        exact ⟨_, _, .tail_goes_on hk hrank hright hfit htail⟩
    · exact ⟨_, _, .tail_ends fun op hnext hrank => hop ⟨op, hnext, hrank⟩⟩

theorem ends_chain {rank : Rank}
    (h : Ends settings bindings room (.phrase (.operand settings rank))) :
    Ends settings bindings room (.phrase (.chain rank)) := by
  intro c
  obtain ⟨e | first, c1, hfirst⟩ := h c
  · exact ⟨_, _, .chain_fails hfirst⟩
  · obtain ⟨r, c2, htail⟩ := ends_tail h first c1
    exact ⟨_, _, .chain hfirst htail⟩

theorem ends_factor (h : ∀ goal, Ends settings bindings room (.deeper goal)) :
    Ends settings bindings room (.phrase .factor) := by
  rintro ⟨taken, _ | ⟨t, rest⟩⟩
  · exact ⟨_, _, .ended⟩
  have hprefixed : ∀ op, t.kind = UnaryOperator.kind op →
      ∃ r c', Reads settings bindings room (.phrase .factor) ⟨taken, t :: rest⟩ r c' := by
    intro op hk
    obtain ⟨e | operand, c1, hoperand⟩ := h .factor ⟨t :: taken, rest⟩
    · exact ⟨_, _, .prefixed_fails hk hoperand⟩
    · exact ⟨_, _, .prefixed hk hoperand⟩
  cases hk : t.kind with
  | number value => exact ⟨_, _, .number hk⟩
  | letter name =>
    by_cases hi : settings.indexedLetters = true ∧ ∃ value, (Cursor.mk (t :: taken) rest).next? =
        some (.number value)
    · obtain ⟨hi, value, hnext⟩ := hi
      cases rest with
      | nil => simp [Cursor.next?] at hnext
      | cons i rest => exact ⟨_, _, .indexed hk hi (by simpa [Cursor.next?] using hnext)⟩
    · exact ⟨_, _, .letter hk fun h value hnext => hi ⟨h, value, hnext⟩⟩
  | operator op =>
    cases op with
    | add => exact hprefixed .plus hk
    | subtract => exact hprefixed .minus hk
    | multiply | divide | power => exact ⟨_, _, .unexpected (by rw [hk]; rfl)⟩
  | function f => exact hprefixed (.function f) hk
  | closing d => exact ⟨_, _, .unexpected (by rw [hk]; rfl)⟩
  | opening d =>
    obtain ⟨e | inner, ⟨taken1, rest1⟩, hinner⟩ := h .expression ⟨t :: taken, rest⟩
    · exact ⟨_, _, .group_fails hk hinner⟩
    cases rest1 with
    | nil => exact ⟨_, _, .unclosed hk hinner⟩
    | cons u rest1 =>
      by_cases hu : u.kind = .closing d
      · exact ⟨_, _, .group hk hinner hu⟩
      · exact ⟨_, _, .mismatched hk hinner hu⟩

theorem ends_tower (hright : settings.power = .right)
    (h : ∀ goal, Ends settings bindings room (.deeper goal)) :
    Ends settings bindings room (.phrase .tower) := by
  intro c
  obtain ⟨e | base, c1, hbase⟩ := ends_factor h c
  · exact ⟨_, _, .tower_fails hright hbase⟩
  by_cases hnext : c1.next? = some (.operator .power)
  · obtain ⟨taken, _ | ⟨t, rest⟩⟩ := c1
    · simp [Cursor.next?] at hnext
    have hk : t.kind = .operator .power := by simpa [Cursor.next?] using hnext
    obtain ⟨e | right, c2, hexponent⟩ := h .power ⟨t :: taken, rest⟩
    · exact ⟨_, _, .exponent_fails hright hbase hk hexponent⟩
    · exact ⟨_, _, .tower hright hbase hk hexponent⟩
  · exact ⟨_, _, .tower_ends hright hbase hnext⟩

/-- The phrases that the settings give a use: towers only when powers group to the right. -/
def Phrase.Occurs (settings : Settings) (p : Phrase) : Prop := p = .tower → settings.power = .right

theorem Phrase.occurs_powers (settings : Settings) : (Phrase.powers settings).Occurs settings := by
  unfold Occurs powers
  split <;> simp_all

theorem Goal.occurs (settings : Settings) (goal : Goal) :
    (goal.phrase settings).Occurs settings := by
  cases goal with
  | expression | factor => simp [Goal.phrase, Phrase.Occurs]
  | power => exact Phrase.occurs_powers settings

theorem ends_phrase {p : Phrase} (hp : p.Occurs settings)
    (h : ∀ goal, Ends settings bindings room (.deeper goal)) :
    Ends settings bindings room (.phrase p) := by
  have hfactor := ends_factor h
  have hpower : Ends settings bindings room (.phrase (.chain .power)) := ends_chain hfactor
  have hpowers : Ends settings bindings room (.phrase (.powers settings)) := by
    unfold Phrase.powers
    split
    · exact hpower
    · next hright => exact ends_tower hright h
  have hproduct : Ends settings bindings room (.phrase (.chain .product)) := ends_chain hpowers
  cases p with
  | chain rank =>
    cases rank with
    | sum => exact ends_chain hproduct
    | product => exact hproduct
    | power => exact hpower
  | tower => exact ends_tower (hp rfl) h
  | factor => exact hfactor

theorem ends_deeper (goal : Goal) : Ends settings bindings room (.deeper goal) := by
  induction room generalizing goal with
  | zero => exact fun c => ⟨_, _, .too_deep⟩
  | succ room ih =>
    intro c
    obtain ⟨r, c', h⟩ := ends_phrase (goal.occurs settings) ih c
    exact ⟨_, _, .deeper h⟩

end Ends

end Formula.Grammar
