import Formula.Proofs.Grammar.Adjacency

/-! Indices add expressions and change none.  Where no letter stands right before a number, reading
takes the same steps whether letters take indices or not.  Where one does, there is an expression
only if letters take indices, since two operands never stand side by side otherwise. -/

namespace Formula

/-- The settings with indices switched on or off. -/
def Settings.indexing (settings : Settings) (on : Bool) : Settings :=
  { settings with indexedLetters := on }

/-- Some letter among the tokens stands right before a number. -/
def LetterMeetsNumber (tokens : List Token) : Prop :=
  ∃ before l n after name value, tokens = before ++ l :: n :: after ∧
    l.kind = .letter name ∧ n.kind = .number value

theorem LetterMeetsNumber.prepend {tokens : List Token} (h : LetterMeetsNumber tokens)
    (used : List Token) : LetterMeetsNumber (used ++ tokens) := by
  obtain ⟨before, l, n, after, name, value, rfl, hl, hn⟩ := h
  exact ⟨used ++ before, l, n, after, name, value, by simp, hl, hn⟩

namespace Grammar

variable {settings : Settings} {bindings : Bindings} {room : Nat} {task : Task} {c c' : Cursor}
  {r : Except SyntaxError Subtree} {tokens : List Token}

theorem operand_indexing (settings : Settings) (rank : Rank) (on on' : Bool) :
    Phrase.operand (settings.indexing on) rank = Phrase.operand (settings.indexing on') rank := by
  cases rank <;> rfl

theorem phrase_indexing (settings : Settings) (goal : Goal) (on on' : Bool) :
    goal.phrase (settings.indexing on) = goal.phrase (settings.indexing on') := by
  cases goal <;> rfl

/-- Tokens that are left over hold no letter before a number if none held one at the start. -/
theorem Reads.not_letterMeetsNumber (h : Reads settings bindings room task c r c')
    (hc : ¬LetterMeetsNumber c.rest) : ¬LetterMeetsNumber c'.rest := by
  obtain ⟨used, hu, -⟩ := h.takes
  rw [hu.rest] at hc
  exact fun hc' => hc (hc'.prepend used)

theorem not_letterMeetsNumber_tail {t : Token} {rest : List Token}
    (h : ¬LetterMeetsNumber (t :: rest)) : ¬LetterMeetsNumber rest :=
  fun hrest => h (hrest.prepend [t])

/-- What is read without indices is read with them as well, where no letter stands before a
number. -/
theorem Reads.indexing (h : Reads (settings.indexing false) bindings room task c r c')
    (hc : ¬LetterMeetsNumber c.rest) :
    Reads (settings.indexing true) bindings room task c r c' := by
  -- All rules are the same under both settings but that of a letter, which looks at what is next.
  induction h with
  | chain_fails _ ih =>
    rw [operand_indexing settings _ false true] at ih
    exact .chain_fails (ih hc)
  | chain hfirst _ ih ih' =>
    rw [operand_indexing settings _ false true] at ih
    exact .chain (ih hc) (ih' (hfirst.not_letterMeetsNumber hc))
  | tail_ends hnext => exact .tail_ends hnext
  | tail_fails hk hrank _ ih =>
    rw [operand_indexing settings _ false true] at ih
    exact .tail_fails hk hrank (ih (not_letterMeetsNumber_tail hc))
  | tail_refused hk hrank _ hfit ih =>
    rw [operand_indexing settings _ false true] at ih
    exact .tail_refused hk hrank (ih (not_letterMeetsNumber_tail hc)) hfit
  | tail_goes_on hk hrank hright hfit _ ih ih' =>
    rw [operand_indexing settings _ false true] at ih
    have hrest := not_letterMeetsNumber_tail hc
    exact .tail_goes_on hk hrank (ih hrest) hfit (ih' (hright.not_letterMeetsNumber hrest))
  | tower_fails hp _ ih => exact .tower_fails hp (ih hc)
  | tower_ends hp _ hnext ih => exact .tower_ends hp (ih hc) hnext
  | exponent_fails hp hbase hk _ ih ih' =>
    have hrest := not_letterMeetsNumber_tail (hbase.not_letterMeetsNumber hc)
    exact .exponent_fails hp (ih hc) hk (ih' hrest)
  | tower hp hbase hk _ ih ih' =>
    have hrest := not_letterMeetsNumber_tail (hbase.not_letterMeetsNumber hc)
    exact .tower hp (ih hc) hk (ih' hrest)
  | too_deep => exact .too_deep
  | deeper _ ih =>
    rw [phrase_indexing settings _ false true] at ih
    exact .deeper (ih hc)
  | ended => exact .ended
  | unexpected hk => exact .unexpected hk
  | number hk => exact .number hk
  | @letter _ taken t rest name hk =>
    refine .letter hk fun _ value hnext => hc ?_
    obtain _ | ⟨n, after⟩ := rest
    · contradiction
    · exact ⟨[], t, n, after, name, value, rfl, hk, Option.some.inj hnext⟩
  | indexed _ hi => contradiction
  | group_fails hk _ ih => exact .group_fails hk (ih (not_letterMeetsNumber_tail hc))
  | unclosed hk _ ih => exact .unclosed hk (ih (not_letterMeetsNumber_tail hc))
  | mismatched hk _ hu ih => exact .mismatched hk (ih (not_letterMeetsNumber_tail hc)) hu
  | group hk _ hu ih => exact .group hk (ih (not_letterMeetsNumber_tail hc)) hu
  | prefixed_fails hk _ ih => exact .prefixed_fails hk (ih (not_letterMeetsNumber_tail hc))
  | prefixed hk _ ih => exact .prefixed hk (ih (not_letterMeetsNumber_tail hc))

/-- Where no letter stands before a number, indices make no difference. -/
theorem parse_eq_of_not_letterMeetsNumber (h : ¬LetterMeetsNumber tokens) :
    parse (settings.indexing true) bindings tokens =
      parse (settings.indexing false) bindings tokens := by
  cases tokens with
  | nil => rw [parse_nil, parse_nil]
  | cons token tokens =>
    have hne : token :: tokens ≠ [] := by simp
    obtain ⟨r, c', hreads, hparse⟩ :=
      exists_reads (settings.indexing false) bindings (token :: tokens)
    have hreads' : Reads (settings.indexing true) bindings settings.maxDepth _ _ r c' :=
      hreads.indexing h
    rw [hparse hne, parse_eq_finish hne hreads']

/-- Without indices a letter never stands before a number in an expression. -/
theorem not_letterMeetsNumber_of_parse {t : Option Tree}
    (h : parse (settings.indexing false) bindings tokens = .ok t) : ¬LetterMeetsNumber tokens := by
  rintro ⟨before, l, n, after, name, value, rfl, hl, hn⟩
  have hchain := isChain_of_parse h
  rw [List.map_append, List.map_cons, List.map_cons, hl, hn] at hchain
  obtain ⟨hadjoins, -⟩ := List.isChain_cons_cons.mp hchain.right_of_append
  cases hadjoins with
  | «open» hends => contradiction
  | leaves hleaves => contradiction
  | index hi _ _ => contradiction

/-- Indices add expressions and change none: without a letter right before a number the outcome is
the same with and without them, and with one there is no expression without them. -/
theorem parse_indexing (settings : Settings) (bindings : Bindings) (tokens : List Token) :
    (¬LetterMeetsNumber tokens →
      parse (settings.indexing true) bindings tokens =
        parse (settings.indexing false) bindings tokens) ∧
    (LetterMeetsNumber tokens →
      ∃ e, parse (settings.indexing false) bindings tokens = .error e) ∧
    ∀ t, parse (settings.indexing false) bindings tokens = .ok t →
      parse (settings.indexing true) bindings tokens = .ok t := by
  refine ⟨parse_eq_of_not_letterMeetsNumber, fun hmeets => ?_, fun t ht => ?_⟩
  · cases hparse : parse (settings.indexing false) bindings tokens with
    | error e => exact ⟨e, rfl⟩
    | ok t => exact absurd hmeets (not_letterMeetsNumber_of_parse hparse)
  · rw [parse_eq_of_not_letterMeetsNumber (not_letterMeetsNumber_of_parse ht), ht]

/-- Of `x 2` and `2 * x` the first is an expression with indices only, the second in any case. -/
theorem parse_indexing_letter_number :
    let x := Token.synthetic (.letter "x")
    let two := Token.synthetic (.number ⟨0x4000000000000000⟩)
    let times := Token.synthetic (.operator .multiply)
    LetterMeetsNumber [x, two] ∧ ¬LetterMeetsNumber [two, times, x] ∧
      (∃ e, parse ({ : Settings }.indexing false) {} [x, two] = .error e) ∧
      ∃ t, parse ({ : Settings }.indexing false) {} [two, times, x] = .ok (some t) ∧
        parse ({ : Settings }.indexing true) {} [two, times, x] = .ok (some t) := by
  intro x two times
  have hmeets : LetterMeetsNumber [x, two] := ⟨[], x, two, [], _, _, rfl, rfl, rfl⟩
  have hparse : parse ({ : Settings }.indexing false) {} [two, times, x] =
      .ok (some (.binary .multiply (.number ⟨0x4000000000000000⟩) (.letter "x"))) := by rfl
  obtain ⟨-, herror, -⟩ := parse_indexing {} {} [x, two]
  obtain ⟨-, -, hsame⟩ := parse_indexing {} {} [two, times, x]
  exact ⟨hmeets, not_letterMeetsNumber_of_parse hparse, herror hmeets, _, hparse, hsame _ hparse⟩

end Grammar

end Formula
