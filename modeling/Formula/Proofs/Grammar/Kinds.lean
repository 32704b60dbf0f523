import Formula.Proofs.Grammar.Agreement

/-! Parsing sees the kinds of the tokens only.  Two sequences of tokens of the same kinds are read
step by step alike, so that whatever was read from a token of the one was read from the token at the
same place in the other.  Lexemes are never looked at, and locations only end up in errors; each of
these names a token of the sequence. -/

namespace Formula

/-- The same error at another location. -/
def SyntaxError.relocate (location : Location) : SyntaxError → SyntaxError
  | .unexpectedToken found _ => .unexpectedToken found location
  | .unexpectedEnd _ => .unexpectedEnd location
  | .mismatchedDelimiter delimiter found _ => .mismatchedDelimiter delimiter found location
  | .unclosedDelimiter delimiter _ => .unclosedDelimiter delimiter location
  | .trailingTokens found _ => .trailingTokens found location
  | .nestingTooDeep limit _ => .nestingTooDeep limit location

theorem SyntaxError.location_relocate (e : SyntaxError) (location : Location) :
    (e.relocate location).location = location := by
  cases e <;> rfl

theorem SyntaxError.relocate_relocate (e : SyntaxError) (location location' : Location) :
    (e.relocate location).relocate location' = e.relocate location' := by
  cases e <;> rfl

/-- `c` in `tokens` and `d` in `tokens'` stand at the same place between tokens of the same
kinds. -/
structure Cursor.Abreast (tokens tokens' : List Token) (c d : Cursor) : Prop where
  left : c.taken.reverse ++ c.rest = tokens
  right : d.taken.reverse ++ d.rest = tokens'
  taken : d.taken.map Token.kind = c.taken.map Token.kind
  rest : d.rest.map Token.kind = c.rest.map Token.kind

/-- The results are the same, or they are the same error at tokens of the same index. -/
inductive Grammar.Matches (tokens tokens' : List Token) {α : Type} :
    Except SyntaxError α → Except SyntaxError α → Prop
  | ok (a : α) : Matches tokens tokens' (.ok a) (.ok a)
  | error (e : SyntaxError) {i : Nat} {t t' : Token} :
      tokens[i]? = some t → tokens'[i]? = some t' →
      Matches tokens tokens' (.error (e.relocate t.location)) (.error (e.relocate t'.location))

namespace Cursor.Abreast

variable {tokens tokens' : List Token} {α : Type} {c d : Cursor}

theorem ofList (h : tokens'.map Token.kind = tokens.map Token.kind) :
    Abreast tokens tokens' (Cursor.ofList tokens) (Cursor.ofList tokens') :=
  ⟨rfl, rfl, rfl, h⟩

theorem uncons {taken rest : List Token} {t : Token}
    (h : Abreast tokens tokens' ⟨taken, t :: rest⟩ d) :
    ∃ taken' t' rest', d = ⟨taken', t' :: rest'⟩ ∧ t'.kind = t.kind ∧
      Abreast tokens tokens' ⟨t :: taken, rest⟩ ⟨t' :: taken', rest'⟩ := by
  obtain ⟨taken', rest'⟩ := d
  obtain ⟨hleft, hright, htaken, hrest⟩ := h
  obtain ⟨t', rest', rfl, hk, hrest'⟩ := List.map_eq_cons_iff.mp hrest
  exact ⟨taken', t', rest', rfl, hk, by simpa using hleft, by simpa using hright,
    by simpa [hk] using htaken, hrest'⟩

theorem eq_nil {taken : List Token} (h : Abreast tokens tokens' ⟨taken, []⟩ d) :
    ∃ taken', d = ⟨taken', []⟩ := by
  obtain ⟨taken', rest'⟩ := d
  exact ⟨taken', by simpa using h.rest⟩

theorem next?_eq (h : Abreast tokens tokens' c d) : d.next? = c.next? := by
  have hhead := congrArg List.head? h.rest
  simpa only [Cursor.next?, List.head?_map] using hhead

/-- The tokens in view have the same index. -/
theorem matches_next {taken rest taken' rest' : List Token} {t t' : Token}
    (h : Abreast tokens tokens' ⟨taken, t :: rest⟩ ⟨taken', t' :: rest'⟩) (e : SyntaxError) :
    Grammar.Matches tokens tokens' (.error (e.relocate t.location) : Except SyntaxError α)
      (.error (e.relocate t'.location)) := by
  obtain ⟨rfl, rfl, htaken, -⟩ := h
  have hlength : taken'.length = taken.length := by simpa using congrArg List.length htaken
  apply Grammar.Matches.error e (i := taken.length)
  · simp
  · simp [← hlength]

/-- So do the last tokens taken. -/
theorem matches_last {taken rest taken' rest' : List Token} {t t' : Token}
    (h : Abreast tokens tokens' ⟨t :: taken, rest⟩ ⟨t' :: taken', rest'⟩) (e : SyntaxError) :
    Grammar.Matches tokens tokens' (.error (e.relocate t.location) : Except SyntaxError α)
      (.error (e.relocate t'.location)) := by
  obtain ⟨hleft, hright, htaken, hrest⟩ := h
  simp only [List.map_cons, List.cons.injEq] at htaken
  have hback : Abreast tokens tokens' ⟨taken, t :: rest⟩ ⟨taken', t' :: rest'⟩ :=
    ⟨by simpa using hleft, by simpa using hright, htaken.2, by simp [htaken.1, hrest]⟩
  exact hback.matches_next e

theorem matches_location (h : Abreast tokens tokens' c d) (hne : tokens ≠ []) (e : SyntaxError) :
    Grammar.Matches tokens tokens' (.error (e.relocate c.location) : Except SyntaxError α)
      (.error (e.relocate d.location)) := by
  obtain ⟨taken, _ | ⟨t, rest⟩⟩ := c
  · obtain ⟨taken', rfl⟩ := h.eq_nil
    cases taken with
    | nil => exact absurd h.left.symm hne
    | cons t taken =>
      obtain ⟨t', taken', rfl, -⟩ := List.map_eq_cons_iff.mp h.taken
      exact h.matches_last e
  · obtain ⟨taken', t', rest', rfl, -⟩ := h.uncons
    exact h.matches_next e

end Cursor.Abreast

namespace Grammar

variable {settings : Settings} {bindings : Bindings} {room : Nat} {task : Task} {c c' d : Cursor}
  {r : Except SyntaxError Subtree} {tokens tokens' : List Token} {α : Type}

theorem Matches.eq_ok {a : α} {r' : Except SyntaxError α}
    (h : Matches tokens tokens' (.ok a) r') : r' = .ok a := by
  cases h
  rfl

theorem Matches.eq_error {e : SyntaxError} {r' : Except SyntaxError α}
    (h : Matches tokens tokens' (.error e) r') : ∃ e', r' = .error e' := by
  cases h
  exact ⟨_, rfl⟩

theorem Matches.exists_location {e : SyntaxError} {r' : Except SyntaxError α}
    (h : Matches tokens tokens' (.error e) r') : ∃ t ∈ tokens, t.location = e.location := by
  cases h with
  | error e hi _ => exact ⟨_, List.mem_of_getElem? hi, (e.location_relocate _).symm⟩

theorem matches_fitted (settings : Settings) {taken rest taken' rest' : List Token} {t t' : Token}
    (h : Cursor.Abreast tokens tokens' ⟨taken, t :: rest⟩ ⟨taken', t' :: rest'⟩) (s : Subtree) :
    Matches tokens tokens' (fitted settings t.location s) (fitted settings t'.location s) := by
  unfold fitted
  split
  · exact h.matches_next (.nestingTooDeep settings.maxTreeDepth {})
  · exact .ok s

/-- Reading from `d` in `tokens'` ends as it does in `tokens` with the result `r` and at `c'`. -/
def EndsAlike (settings : Settings) (bindings : Bindings) (tokens tokens' : List Token)
    (room : Nat) (task : Task) (d : Cursor) (r : Except SyntaxError Subtree) (c' : Cursor) : Prop :=
  ∃ r' d', Reads settings bindings room task d r' d' ∧ Matches tokens tokens' r r' ∧
    c'.Abreast tokens tokens' d'

namespace EndsAlike

variable {room' : Nat} {task' : Task} {d' : Cursor}

theorem exists_ok {s : Subtree}
    (h : EndsAlike settings bindings tokens tokens' room task d (.ok s) c') :
    ∃ d', Reads settings bindings room task d (.ok s) d' ∧ c'.Abreast tokens tokens' d' := by
  obtain ⟨r', d', hreads, hm, hd⟩ := h
  obtain rfl := hm.eq_ok
  exact ⟨d', hreads, hd⟩

/-- A task that ends in every way in which another one does. -/
theorem imp (h : EndsAlike settings bindings tokens tokens' room task d r c')
    (himp : ∀ r d1, Reads settings bindings room task d r d1 →
      Reads settings bindings room' task' d' r d1) :
    EndsAlike settings bindings tokens tokens' room' task' d' r c' := by
  obtain ⟨r', d1, hreads, hm, hd⟩ := h
  exact ⟨r', d1, himp r' d1 hreads, hm, hd⟩

/-- A task that fails whenever another one does. -/
theorem fails {e : SyntaxError}
    (h : EndsAlike settings bindings tokens tokens' room task d (.error e) c')
    (himp : ∀ e d1, Reads settings bindings room task d (.error e) d1 →
      Reads settings bindings room' task' d' (.error e) d1) :
    EndsAlike settings bindings tokens tokens' room' task' d' (.error e) c' := by
  obtain ⟨r', d1, hreads, hm, hd⟩ := h
  obtain ⟨e', rfl⟩ := hm.eq_error
  exact ⟨_, d1, himp e' d1 hreads, hm, hd⟩

end EndsAlike

/-- Reading from the same place between tokens of the same kinds ends alike and at the same
place. -/
theorem Reads.abreast (h : Reads settings bindings room task c r c') (hne : tokens ≠ [])
    (hd : c.Abreast tokens tokens' d) :
    EndsAlike settings bindings tokens tokens' room task d r c' := by
  -- Every rule takes the same tokens in both sequences, and the tokens whose location it reports
  -- have the same index in both.
  induction h generalizing d with
  | chain_fails _ ih => exact (ih hd).fails fun _ _ => .chain_fails
  | chain _ _ ih ih' =>
    obtain ⟨d1, hfirst, hd1⟩ := (ih hd).exists_ok
    exact (ih' hd1).imp fun _ _ => .chain hfirst
  | tail_ends hnext =>
    rw [← hd.next?_eq] at hnext
    exact ⟨_, d, .tail_ends hnext, .ok _, hd⟩
  | tail_fails hk hrank _ ih =>
    obtain ⟨taken', t', rest', rfl, hk', hd'⟩ := hd.uncons
    exact (ih hd').fails fun _ _ => .tail_fails (hk'.trans hk) hrank
  | @tail_refused _ _ left _ _ _ op right _ _ hk hrank _ hfit ih =>
    obtain ⟨taken', t', rest', rfl, hk', hd'⟩ := hd.uncons
    obtain ⟨d1, hright, hd1⟩ := (ih hd').exists_ok
    have hm := matches_fitted settings hd (.binary op left right)
    rw [hfit] at hm
    obtain ⟨e', hfit'⟩ := hm.eq_error
    rw [hfit'] at hm
    exact ⟨_, d1, .tail_refused (hk'.trans hk) hrank hright hfit', hm, hd1⟩
  | @tail_goes_on _ _ left _ _ _ op right _ _ _ hk hrank _ hfit _ ih ih' =>
    obtain ⟨taken', t', rest', rfl, hk', hd'⟩ := hd.uncons
    obtain ⟨d1, hright, hd1⟩ := (ih hd').exists_ok
    have hm := matches_fitted settings hd (.binary op left right)
    rw [hfit] at hm
    exact (ih' hd1).imp fun _ _ => .tail_goes_on (hk'.trans hk) hrank hright hm.eq_ok
  | tower_fails hp _ ih => exact (ih hd).fails fun _ _ => .tower_fails hp
  | tower_ends hp _ hnext ih =>
    obtain ⟨d1, hbase, hd1⟩ := (ih hd).exists_ok
    rw [← hd1.next?_eq] at hnext
    exact ⟨_, d1, .tower_ends hp hbase hnext, .ok _, hd1⟩
  | exponent_fails hp _ hk _ ih ih' =>
    obtain ⟨d1, hbase, hd1⟩ := (ih hd).exists_ok
    obtain ⟨taken', t', rest', rfl, hk', hd'⟩ := hd1.uncons
    exact (ih' hd').fails fun _ _ => .exponent_fails hp hbase (hk'.trans hk)
  | tower hp _ hk _ ih ih' =>
    obtain ⟨d1, hbase, hd1⟩ := (ih hd).exists_ok
    obtain ⟨taken', t', rest', rfl, hk', hd'⟩ := hd1.uncons
    obtain ⟨d2, hexponent, hd2⟩ := (ih' hd').exists_ok
    exact ⟨_, d2, .tower hp hbase (hk'.trans hk) hexponent, matches_fitted settings hd1 _, hd2⟩
  | too_deep =>
    exact ⟨_, d, .too_deep, hd.matches_location hne (.nestingTooDeep settings.maxDepth {}), hd⟩
  | deeper _ ih => exact (ih hd).imp fun _ _ => .deeper
  | ended =>
    obtain ⟨taken', rfl⟩ := hd.eq_nil
    exact ⟨_, _, .ended, hd.matches_location hne (.unexpectedEnd {}), hd⟩
  | @unexpected _ _ t _ hk =>
    obtain ⟨taken', t', rest', rfl, hk', hd'⟩ := hd.uncons
    rw [← hk'] at hk
    refine ⟨_, _, .unexpected hk, ?_, hd'⟩
    rw [hk']
    exact hd.matches_next (.unexpectedToken t.kind {})
  | number hk =>
    obtain ⟨taken', t', rest', rfl, hk', hd'⟩ := hd.uncons
    exact ⟨_, _, .number (hk'.trans hk), .ok _, hd'⟩
  | letter hk hnext =>
    obtain ⟨taken', t', rest', rfl, hk', hd'⟩ := hd.uncons
    rw [← hd'.next?_eq] at hnext
    exact ⟨_, _, .letter (hk'.trans hk) hnext, .ok _, hd'⟩
  | indexed hk hi hv =>
    obtain ⟨taken', t', rest', rfl, hk', hd'⟩ := hd.uncons
    obtain ⟨_, i', rest', hcons, hv', hd''⟩ := hd'.uncons
    obtain ⟨rfl, rfl⟩ := Cursor.mk.inj hcons
    exact ⟨_, _, .indexed (hk'.trans hk) hi (hv'.trans hv), matches_fitted settings hd _, hd''⟩
  | group_fails hk _ ih =>
    obtain ⟨taken', t', rest', rfl, hk', hd'⟩ := hd.uncons
    exact (ih hd').fails fun _ _ => .group_fails (hk'.trans hk)
  | @unclosed _ _ _ _ delimiter _ _ hk _ ih =>
    obtain ⟨taken', t', rest', rfl, hk', hd'⟩ := hd.uncons
    obtain ⟨d1, hinner, hd1⟩ := (ih hd').exists_ok
    obtain ⟨taken1, rfl⟩ := hd1.eq_nil
    exact ⟨_, _, .unclosed (hk'.trans hk) hinner,
      hd.matches_next (.unclosedDelimiter delimiter {}), hd1⟩
  | @mismatched _ _ _ _ delimiter _ _ u _ hk _ hu ih =>
    obtain ⟨taken', t', rest', rfl, hk', hd'⟩ := hd.uncons
    obtain ⟨d1, hinner, hd1⟩ := (ih hd').exists_ok
    obtain ⟨taken1, u', rest1, rfl, hu', hd2⟩ := hd1.uncons
    rw [← hu'] at hu
    refine ⟨_, _, .mismatched (hk'.trans hk) hinner hu, ?_, hd2⟩
    rw [hu']
    exact hd1.matches_next (.mismatchedDelimiter delimiter u.kind {})
  | group hk _ hu ih =>
    obtain ⟨taken', t', rest', rfl, hk', hd'⟩ := hd.uncons
    obtain ⟨d1, hinner, hd1⟩ := (ih hd').exists_ok
    obtain ⟨taken1, u', rest1, rfl, hu', hd2⟩ := hd1.uncons
    exact ⟨_, _, .group (hk'.trans hk) hinner (hu'.trans hu), .ok _, hd2⟩
  | prefixed_fails hk _ ih =>
    obtain ⟨taken', t', rest', rfl, hk', hd'⟩ := hd.uncons
    exact (ih hd').fails fun _ _ => .prefixed_fails (hk'.trans hk)
  | prefixed hk _ ih =>
    obtain ⟨taken', t', rest', rfl, hk', hd'⟩ := hd.uncons
    obtain ⟨d1, hoperand, hd1⟩ := (ih hd').exists_ok
    exact ⟨_, d1, .prefixed (hk'.trans hk) hoperand, matches_fitted settings hd _, hd1⟩

theorem matches_finish {r' : Except SyntaxError Subtree} {d' : Cursor}
    (hm : Matches tokens tokens' r r') (hd : c'.Abreast tokens tokens' d') :
    Matches tokens tokens' (finish r c') (finish r' d') := by
  cases hm with
  | error e hi hi' => exact .error e hi hi'
  | ok s =>
    obtain ⟨taken, _ | ⟨t, rest⟩⟩ := c'
    · obtain ⟨taken', rfl⟩ := hd.eq_nil
      exact .ok (some s.tree)
    · obtain ⟨taken', t', rest', rfl, hk, -⟩ := hd.uncons
      show Matches tokens tokens' _ (.error (.trailingTokens t'.kind t'.location))
      rw [hk]
      exact hd.matches_next (.trailingTokens t.kind {})

theorem matches_parse (hkinds : tokens'.map Token.kind = tokens.map Token.kind) :
    Matches tokens tokens' (parse settings bindings tokens) (parse settings bindings tokens') := by
  by_cases hne : tokens = []
  · subst hne
    obtain rfl := List.map_eq_nil_iff.mp hkinds
    exact .ok none
  · have hne' : tokens' ≠ [] := by
      rintro rfl
      exact hne (List.map_eq_nil_iff.mp hkinds.symm)
    obtain ⟨r, c', hreads, hparse⟩ := exists_reads settings bindings tokens
    obtain ⟨r', d', hreads', hm, hd⟩ := hreads.abreast hne (.ofList hkinds)
    rw [hparse hne, parse_eq_finish hne' hreads']
    exact matches_finish hm hd

/-- An error is at one of the tokens. -/
theorem exists_location_of_parse {e : SyntaxError} (h : parse settings bindings tokens = .error e) :
    ∃ t ∈ tokens, t.location = e.location := by
  have hm : Matches tokens tokens (parse settings bindings tokens) _ := matches_parse rfl
  rw [h] at hm
  exact hm.exists_location

/-- Sequences of tokens of the same kinds are parsed alike, whatever their lexemes and locations:
to the same result, or to the same error, in each at the location of its token of one index. -/
theorem parse_alike_of_kinds (settings : Settings) (bindings : Bindings)
    (hkinds : tokens.map Token.kind = tokens'.map Token.kind) :
    (∃ t, parse settings bindings tokens = .ok t ∧ parse settings bindings tokens' = .ok t) ∨
    ∃ (e : SyntaxError) (i : Nat) (token token' : Token),
      tokens[i]? = some token ∧ tokens'[i]? = some token' ∧
      parse settings bindings tokens = .error (e.relocate token.location) ∧
      parse settings bindings tokens' = .error (e.relocate token'.location) := by
  have hm : Matches tokens tokens' (parse settings bindings tokens)
      (parse settings bindings tokens') := matches_parse hkinds.symm
  generalize parse settings bindings tokens = result at hm ⊢
  generalize parse settings bindings tokens' = result' at hm ⊢
  cases hm with
  | ok t => exact .inl ⟨t, rfl, rfl⟩
  | error e hi hi' => exact .inr ⟨e, _, _, _, hi, hi', rfl, rfl⟩

/-- A group that the wrong bracket closes, once as it is written and once over several lines and
with other lexemes: the same error, at the third token of each. -/
theorem parse_alike_of_kinds_mismatched :
    let last := Token.mk (.closing .bracket) "]" ⟨1, 3, 2⟩
    let last' := Token.mk (.closing .bracket) ")" ⟨9, 2, 78⟩
    let tokens := [⟨.opening .paren, "(", ⟨1, 1, 0⟩⟩, ⟨.letter "x", "x", ⟨1, 2, 1⟩⟩, last]
    let tokens' := [⟨.opening .paren, "", ⟨7, 1, 60⟩⟩, ⟨.letter "x", "y", ⟨9, 4, 80⟩⟩, last']
    let e : SyntaxError := .mismatchedDelimiter .paren (.closing .bracket) {}
    tokens.map Token.kind = tokens'.map Token.kind ∧
      tokens[2]? = some last ∧ parse {} {} tokens = .error (e.relocate last.location) ∧
      tokens'[2]? = some last' ∧ parse {} {} tokens' = .error (e.relocate last'.location) := by
  intro last last' tokens tokens' e
  have hkinds : tokens.map Token.kind = tokens'.map Token.kind := rfl
  have hparse : parse {} {} tokens = .error (e.relocate last.location) := rfl
  rcases parse_alike_of_kinds {} {} hkinds with
    ⟨t, ht, -⟩ | ⟨e', i, token, token', hi, hi', herror, herror'⟩
  · rw [hparse] at ht
    contradiction
  · have hsame : e'.relocate token.location = e.relocate last.location :=
      Except.error.inj (herror.symm.trans hparse)
    have hlocation : token.location = last.location := by
      rw [← e'.location_relocate token.location, hsame, e.location_relocate]
    obtain rfl : i = 2 := by
      obtain _ | _ | _ | i := i
      · cases hi
        exact absurd hlocation (by decide)
      · cases hi
        exact absurd hlocation (by decide)
      · rfl
      · contradiction
    obtain rfl : last' = token' := Option.some.inj hi'
    have he : e'.relocate last'.location = e.relocate last'.location := by
      rw [← e'.relocate_relocate token.location, hsame, e.relocate_relocate]
    rw [he] at herror'
    exact ⟨hkinds, rfl, hparse, rfl, herror'⟩

end Grammar

end Formula
