import Formula.Proofs.Grammar.Agreement

/-! Reading depends on nothing but the tokens that it has looked at.  `looked` counts them: those
taken and the one in view, except that an error about a token that has just been taken does not
depend on what is in view after it.  So an error that is found with a token in view is found
whatever follows that token. -/

namespace Formula

/-- The cursors have taken the same tokens, and agree on all tokens up to the first `n`. -/
structure Cursor.Agree (n : Nat) (c d : Cursor) : Prop where
  taken : d.taken = c.taken
  rest : d.rest.take (n - c.position) = c.rest.take (n - c.position)

namespace Cursor.Agree

variable {n : Nat}

/-- Cursors that agree on a token in view have the same one, and agree after it. -/
theorem uncons {taken rest : List Token} {t : Token} {d : Cursor} (h : Agree n ⟨taken, t :: rest⟩ d)
    (hn : taken.length < n) :
    ∃ rest', d = ⟨taken, t :: rest'⟩ ∧ Agree n ⟨t :: taken, rest⟩ ⟨t :: taken, rest'⟩ := by
  obtain ⟨taken', rest'⟩ := d
  obtain ⟨rfl, hrest⟩ := h
  replace hn : taken'.length < n := hn
  obtain ⟨k, hk⟩ := Nat.exists_eq_succ_of_ne_zero (Nat.sub_ne_zero_of_lt hn)
  simp only [position, hk, List.take_succ_cons] at hrest
  cases rest' with
  | nil => simp at hrest
  | cons u rest' =>
    simp only [List.take_succ_cons, List.cons.injEq] at hrest
    obtain ⟨rfl, hrest⟩ := hrest
    refine ⟨rest', rfl, rfl, ?_⟩
    rwa [show n - position ⟨u :: taken', rest⟩ = k by simp [position]; omega]

/-- Cursors that agree on the end of the tokens are the same. -/
theorem eq_of_nil {taken : List Token} {d : Cursor} (h : Agree n ⟨taken, []⟩ d)
    (hn : taken.length < n) : d = ⟨taken, []⟩ := by
  obtain ⟨taken', rest'⟩ := d
  obtain ⟨rfl, hrest⟩ := h
  have hne : n - taken'.length ≠ 0 := Nat.sub_ne_zero_of_lt hn
  simpa [position, hne] using hrest

theorem next?_eq {c d : Cursor} (h : Agree n c d) (hn : c.position < n) : d.next? = c.next? := by
  obtain ⟨taken, _ | ⟨t, rest⟩⟩ := c
  · rw [h.eq_of_nil hn]
  · obtain ⟨rest', rfl, -⟩ := h.uncons hn
    rfl

theorem location_eq {c d : Cursor} (h : Agree n c d) (hn : c.position < n) :
    d.location = c.location := by
  obtain ⟨taken, _ | ⟨t, rest⟩⟩ := c
  · rw [h.eq_of_nil hn]
  · obtain ⟨rest', rfl, -⟩ := h.uncons hn
    rfl

end Cursor.Agree

namespace Grammar

variable {settings : Settings} {bindings : Bindings} {room : Nat} {task : Task} {c c' : Cursor}
  {r : Except SyntaxError Subtree}

/-- How many tokens have been looked at when a task ends with `r` at `c`. -/
def looked (r : Except SyntaxError Subtree) (c : Cursor) : Nat :=
  match r with
  | .ok _ => c.position + 1
  | .error e => if e.found?.isSome then c.position else c.position + 1

@[simp] theorem looked_ok (s : Subtree) (c : Cursor) : looked (.ok s) c = c.position + 1 := rfl

theorem looked_fitted (location : Location) (s : Subtree) (c : Cursor) :
    looked (fitted settings location s) c = c.position + 1 := by
  unfold fitted
  split <;> rfl

/-- Every task looks at the token in view. -/
theorem Reads.position_lt (h : Reads settings bindings room task c r c') :
    c.position < looked r c' := by
  induction h with
  | chain_fails _ ih | deeper _ ih | tower_fails _ _ ih | tower_ends _ _ _ ih => exact ih
  | tail_ends | too_deep | ended | unexpected => exact Nat.lt_succ_self _
  | chain _ _ ih ih' => exact Nat.lt_of_le_of_lt (Nat.le_of_lt_succ ih) ih'
  | tail_refused _ _ _ hfit ih =>
    rw [← hfit, looked_fitted]
    exact Nat.lt_of_succ_lt ih
  | tail_fails _ _ _ ih | group_fails _ _ ih | prefixed_fails _ _ ih | number | letter | indexed
  | tail_goes_on _ _ _ _ _ ih ih' | exponent_fails _ _ _ _ ih ih' | tower _ _ _ _ ih ih'
  | prefixed _ _ ih | group _ _ _ ih =>
    simp only [looked_ok, looked_fitted, Cursor.position, List.length_cons] at *
    omega
  | unclosed _ _ ih | mismatched _ _ _ ih => exact Nat.lt_of_succ_lt ih

/-- A task that starts after a token has looked at it. -/
theorem Reads.length_lt_of_looked {taken rest : List Token} {t : Token} {n : Nat}
    (h : Reads settings bindings room task ⟨t :: taken, rest⟩ r c') (hn : looked r c' ≤ n) :
    taken.length < n :=
  Nat.lt_of_succ_lt (Nat.lt_of_lt_of_le h.position_lt hn)

/-- A task that has looked at no more than the first `n` tokens ends alike from every cursor that
agrees on these. -/
theorem Reads.of_agree (h : Reads settings bindings room task c r c') {n : Nat} {d : Cursor}
    (hd : c.Agree n d) (hn : looked r c' ≤ n) :
    ∃ d', Reads settings bindings room task d r d' ∧ c'.Agree n d' := by
  -- What the last part of a rule has looked at includes all that the parts before it have, so the
  -- bound passes on to every part.
  induction h generalizing d with
  | chain_fails _ ih =>
    obtain ⟨d1, h1, hd1⟩ := ih hd hn
    exact ⟨d1, .chain_fails h1, hd1⟩
  | chain _ htail ih ih' =>
    obtain ⟨d1, h1, hd1⟩ := ih hd (Nat.le_trans htail.position_lt hn)
    obtain ⟨d2, h2, hd2⟩ := ih' hd1 hn
    exact ⟨d2, .chain h1 h2, hd2⟩
  | tail_ends hnext => exact ⟨d, .tail_ends (by rwa [hd.next?_eq hn]), hd⟩
  | tail_fails hk hrank hright ih =>
    obtain ⟨rest', rfl, hd'⟩ := hd.uncons (hright.length_lt_of_looked hn)
    obtain ⟨d1, h1, hd1⟩ := ih hd' hn
    exact ⟨d1, .tail_fails hk hrank h1, hd1⟩
  | tail_refused hk hrank hright hfit ih =>
    rw [← hfit, looked_fitted] at hn
    obtain ⟨rest', rfl, hd'⟩ := hd.uncons (hright.length_lt_of_looked hn)
    obtain ⟨d1, h1, hd1⟩ := ih hd' hn
    exact ⟨d1, .tail_refused hk hrank h1 hfit, hd1⟩
  | tail_goes_on hk hrank hright hfit htail ih ih' =>
    have hn' := Nat.le_trans htail.position_lt hn
    obtain ⟨rest', rfl, hd'⟩ := hd.uncons (hright.length_lt_of_looked hn')
    obtain ⟨d1, h1, hd1⟩ := ih hd' hn'
    obtain ⟨d2, h2, hd2⟩ := ih' hd1 hn
    exact ⟨d2, .tail_goes_on hk hrank h1 hfit h2, hd2⟩
  | tower_fails hp _ ih =>
    obtain ⟨d1, h1, hd1⟩ := ih hd hn
    exact ⟨d1, .tower_fails hp h1, hd1⟩
  | tower_ends hp _ hnext ih =>
    obtain ⟨d1, h1, hd1⟩ := ih hd hn
    exact ⟨d1, .tower_ends hp h1 (by rwa [hd1.next?_eq hn]), hd1⟩
  | exponent_fails hp _ hk hexponent ih ih' =>
    have hn' := hexponent.length_lt_of_looked hn
    obtain ⟨d1, h1, hd1⟩ := ih hd hn'
    obtain ⟨rest', rfl, hd'⟩ := hd1.uncons hn'
    obtain ⟨d2, h2, hd2⟩ := ih' hd' hn
    exact ⟨d2, .exponent_fails hp h1 hk h2, hd2⟩
  | tower hp _ hk hexponent ih ih' =>
    rw [looked_fitted] at hn
    have hn' := hexponent.length_lt_of_looked hn
    obtain ⟨d1, h1, hd1⟩ := ih hd hn'
    obtain ⟨rest', rfl, hd'⟩ := hd1.uncons hn'
    obtain ⟨d2, h2, hd2⟩ := ih' hd' hn
    exact ⟨d2, .tower hp h1 hk h2, hd2⟩
  | too_deep => exact ⟨d, hd.location_eq hn ▸ .too_deep, hd⟩
  | deeper _ ih =>
    obtain ⟨d1, h1, hd1⟩ := ih hd hn
    exact ⟨d1, .deeper h1, hd1⟩
  | ended =>
    obtain rfl := hd.eq_of_nil hn
    exact ⟨_, .ended, ⟨rfl, rfl⟩⟩
  | unexpected hk =>
    obtain ⟨rest', rfl, hd'⟩ := hd.uncons hn
    exact ⟨_, .unexpected hk, hd'⟩
  | number hk =>
    obtain ⟨rest', rfl, hd'⟩ := hd.uncons (Nat.lt_of_succ_lt hn)
    exact ⟨_, .number hk, hd'⟩
  | letter hk hnext =>
    obtain ⟨rest', rfl, hd'⟩ := hd.uncons (Nat.lt_of_succ_lt hn)
    exact ⟨_, .letter hk (by rwa [hd'.next?_eq hn]), hd'⟩
  | indexed hk hi hv =>
    rw [looked_fitted] at hn
    have hn' := Nat.lt_of_succ_lt hn
    obtain ⟨rest', rfl, hd'⟩ := hd.uncons (Nat.lt_of_succ_lt hn')
    obtain ⟨rest'', hmk, hd''⟩ := hd'.uncons hn'
    cases hmk
    exact ⟨_, .indexed hk hi hv, hd''⟩
  | group_fails hk hinner ih =>
    obtain ⟨rest', rfl, hd'⟩ := hd.uncons (hinner.length_lt_of_looked hn)
    obtain ⟨d1, h1, hd1⟩ := ih hd' hn
    exact ⟨d1, .group_fails hk h1, hd1⟩
  | unclosed hk hinner ih =>
    obtain ⟨rest', rfl, hd'⟩ := hd.uncons (hinner.length_lt_of_looked hn)
    obtain ⟨d1, h1, hd1⟩ := ih hd' hn
    obtain rfl := hd1.eq_of_nil hn
    exact ⟨_, .unclosed hk h1, ⟨rfl, rfl⟩⟩
  | mismatched hk hinner hu ih =>
    obtain ⟨rest', rfl, hd'⟩ := hd.uncons (hinner.length_lt_of_looked hn)
    obtain ⟨d1, h1, hd1⟩ := ih hd' hn
    obtain ⟨rest'', rfl, hd''⟩ := hd1.uncons hn
    exact ⟨_, .mismatched hk h1 hu, hd''⟩
  | group hk hinner hu ih =>
    have hn' := Nat.le_of_succ_le hn
    obtain ⟨rest', rfl, hd'⟩ := hd.uncons (hinner.length_lt_of_looked hn')
    obtain ⟨d1, h1, hd1⟩ := ih hd' hn'
    obtain ⟨rest'', rfl, hd''⟩ := hd1.uncons hn'
    exact ⟨_, .group hk h1 hu, hd''⟩
  | prefixed_fails hk hoperand ih =>
    obtain ⟨rest', rfl, hd'⟩ := hd.uncons (hoperand.length_lt_of_looked hn)
    obtain ⟨d1, h1, hd1⟩ := ih hd' hn
    exact ⟨d1, .prefixed_fails hk h1, hd1⟩
  | prefixed hk hoperand ih =>
    rw [looked_fitted] at hn
    obtain ⟨rest', rfl, hd'⟩ := hd.uncons (hoperand.length_lt_of_looked hn)
    obtain ⟨d1, h1, hd1⟩ := ih hd' hn
    exact ⟨d1, .prefixed hk h1, hd1⟩

/-! ### Whole sequences of tokens -/

variable {tokens tokens' : List Token} {e : SyntaxError} {n : Nat}

theorem agree_ofList (h : tokens'.take n = tokens.take n) :
    (Cursor.ofList tokens).Agree n (.ofList tokens') :=
  ⟨rfl, h⟩

/-- Parsing fails alike, and as far on, when the tokens that were looked at are the same. -/
theorem Reads.whole_runs_of_agree
    (h : Reads settings bindings settings.maxDepth (.phrase .expression) (.ofList tokens) r c')
    (hfinish : finish r c' = .error e) (hn : looked r c' ≤ n)
    (hagree : tokens'.take n = tokens.take n) (hne : tokens' ≠ []) :
    ∃ d, (whole settings bindings).Runs (.ofList tokens') (.error e) d ∧
      d.taken = (stop r c').taken := by
  obtain ⟨d', hd', ha⟩ := h.of_agree (agree_ofList hagree) hn
  have hruns := Grammar.whole_runs hne hd'
  obtain e' | s := r
  · exact ⟨d', hfinish ▸ hruns, ha.taken⟩
  · obtain ⟨taken, _ | ⟨t, rest⟩⟩ := c'
    · contradiction
    · obtain ⟨rest', rfl, -⟩ := ha.uncons hn
      exact ⟨⟨t :: taken, rest'⟩, hfinish ▸ hruns, rfl⟩

/-- An error is found with no more tokens in view than the one after those taken. -/
theorem looked_le_position_stop (hfinish : finish r c' = .error e) :
    looked r c' ≤ (stop r c').position + 1 := by
  obtain e' | s := r
  · show (if e'.found?.isSome then c'.position else c'.position + 1) ≤ c'.position + 1
    split <;> omega
  · obtain ⟨taken, _ | ⟨t, rest⟩⟩ := c'
    · contradiction
    · show taken.length + 1 ≤ taken.length + 1 + 1
      omega

/-- Parsing that fails with a token in view fails with the same error, after as many tokens, on all
tokens that agree up to the one in view. -/
theorem run_error_of_take_eq {j : Nat} (h : (run settings bindings tokens).result = .error e)
    (hj : (run settings bindings tokens).cursor.position = j) (hview : j < tokens.length)
    (hagree : tokens'.take (j + 1) = tokens.take (j + 1)) :
    parse settings bindings tokens' = .error e ∧
      (run settings bindings tokens').cursor.position = j := by
  have hlength : tokens ≠ [] ∧ tokens' ≠ [] := by
    constructor
    · rintro rfl
      simp at hview
    · rintro rfl
      have hzero := congrArg List.length hagree
      simp only [List.take_nil, List.length_nil, List.length_take] at hzero
      omega
  obtain ⟨r, c', hreads, -⟩ := exists_reads settings bindings tokens
  obtain ⟨hresult, hcursor⟩ := whole_runs hlength.1 hreads
  have hfinish : finish r c' = .error e := hresult.symm.trans h
  have hstop : (stop r c').position = j := by
    rw [← hj, ← hcursor]
    rfl
  have hlooked : looked r c' ≤ j + 1 := hstop ▸ looked_le_position_stop hfinish
  obtain ⟨d, hruns, htaken⟩ :=
    hreads.whole_runs_of_agree hfinish hlooked hagree hlength.2
  refine ⟨hruns.1, ?_⟩
  show (whole settings bindings (.ofList tokens')).cursor.position = j
  rw [hruns.2, Cursor.position, htaken]
  exact hstop

/-- A group in a group, one too many, which is reported at the token in view. -/
theorem run_error_of_take_eq_nested :
    let settings : Settings := { maxDepth := 1 }
    let start := [⟨.opening .paren, "(", ⟨1, 1, 0⟩⟩, ⟨.opening .bracket, "[", ⟨1, 2, 1⟩⟩,
      ⟨.letter "x", "x", ⟨1, 3, 2⟩⟩]
    let tokens := start ++ [Token.mk (.closing .bracket) "]" ⟨1, 4, 3⟩]
    let tokens' := start ++ [⟨.operator .power, "^", ⟨1, 4, 3⟩⟩, ⟨.closing .paren, ")", ⟨1, 5, 4⟩⟩]
    let e := SyntaxError.nestingTooDeep 1 ⟨1, 3, 2⟩
    (run settings {} tokens).result = .error e ∧ (run settings {} tokens).cursor.position = 2 ∧
      2 < tokens.length ∧ tokens'.take 3 = tokens.take 3 ∧
      parse settings {} tokens' = .error e ∧ (run settings {} tokens').cursor.position = 2 := by
  intro settings start tokens tokens' e
  have h : (run settings {} tokens).result = .error e := rfl
  have hj : (run settings {} tokens).cursor.position = 2 := rfl
  have hview : 2 < tokens.length := by decide
  have hagree : tokens'.take 3 = tokens.take 3 := rfl
  exact ⟨h, hj, hview, hagree, run_error_of_take_eq h hj hview hagree⟩

end Grammar

end Formula
