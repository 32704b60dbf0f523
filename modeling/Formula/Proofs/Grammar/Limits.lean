import Formula.Proofs.Grammar.Acceptance

/-! The limits only ever cut parsing off.  Under settings that differ in their limits alone two runs
take the same steps, until the one with the tighter limits meets one of them; so there is nothing
that a limit changes other than into the error that tells of it. -/

namespace Formula

/-- The settings `tight` read the same grammar as `settings` and allow no more. -/
structure Settings.Tightens (tight settings : Settings) : Prop where
  maxDepth : tight.maxDepth ≤ settings.maxDepth
  maxTreeDepth : tight.maxTreeDepth ≤ settings.maxTreeDepth
  power : tight.power = settings.power
  indexedLetters : tight.indexedLetters = settings.indexedLetters

namespace Grammar

variable {tight settings : Settings} {bindings : Bindings} {room room' : Nat} {task task' : Task}
  {c c' c1 c2 : Cursor} {r r' : Except SyntaxError Subtree}

theorem powers_tightens (h : tight.Tightens settings) :
    Phrase.powers tight = Phrase.powers settings := by
  unfold Phrase.powers
  rw [h.power]

theorem operand_tightens (h : tight.Tightens settings) (rank : Rank) :
    Phrase.operand tight rank = Phrase.operand settings rank := by
  cases rank with
  | sum | power => rfl
  | product => exact powers_tightens h

theorem phrase_tightens (h : tight.Tightens settings) (goal : Goal) :
    goal.phrase tight = goal.phrase settings := by
  cases goal with
  | expression | factor => rfl
  | power => exact powers_tightens h

/-- A subtree that the tighter limit lets pass is one that the other lets pass too. -/
theorem fitted_tightens (h : tight.Tightens settings) (location : Location) (s : Subtree) :
    fitted tight location s = fitted settings location s ∨
      fitted tight location s = .error (.nestingTooDeep tight.maxTreeDepth location) := by
  have hle := h.maxTreeDepth
  by_cases hs : tight.maxTreeDepth < s.height
  · right
    exact fitted_eq_error.mpr ⟨hs, rfl⟩
  · left
    have ht : fitted tight location s = .ok s := fitted_eq_ok.mpr ⟨by omega, rfl⟩
    rw [ht, fitted_eq_ok.mpr ⟨by omega, rfl⟩]

/-- The task ends with the result `r`, unless it is cut off at a limit before. -/
def Cut (settings : Settings) (bindings : Bindings) (room : Nat) (task : Task) (c : Cursor)
    (r : Except SyntaxError Subtree) (c' : Cursor) : Prop :=
  Reads settings bindings room task c r c' ∨ Refuses settings bindings room task c

/-- A task that starts with another one and fails when that fails is cut off where that is. -/
theorem Cut.bind (h : Cut settings bindings room task c r c1)
    (hcut : ∀ e c1, Reads settings bindings room task c (.error e) c1 →
      Reads settings bindings room' task' c' (.error e) c1)
    (hgo : Reads settings bindings room task c r c1 →
      Cut settings bindings room' task' c' r' c2) :
    Cut settings bindings room' task' c' r' c2 := by
  rcases h with hreads | hrefuses
  · exact hgo hreads
  · exact .inr (hrefuses.imp hcut)

theorem Cut.of_fitted (h : tight.Tightens settings) {location : Location} {s : Subtree}
    (hreads : Reads tight bindings room task c (fitted tight location s) c') :
    Cut tight bindings room task c (fitted settings location s) c' := by
  rcases fitted_tightens h location s with hsame | herror
  · rw [hsame] at hreads
    exact .inl hreads
  · rw [herror] at hreads
    exact .inr ⟨_, _, _, .inr rfl, hreads⟩

/-- What is read under the looser settings is read under the tighter ones and with less room, unless
it is cut off there. -/
theorem Reads.cut (htight : tight.Tightens settings)
    (h : Reads settings bindings room task c r c') (hroom : room' ≤ room) :
    Cut tight bindings room' task c r c' := by
  -- In every case the parts are read one after the other, and each may be cut off.
  induction h generalizing room' with
  | chain_fails _ ih =>
    rw [← operand_tightens htight] at ih
    exact (ih hroom).bind (fun _ _ => .chain_fails) fun hr => .inl (.chain_fails hr)
  | chain _ _ ih ih' =>
    rw [← operand_tightens htight] at ih
    refine (ih hroom).bind (fun _ _ => .chain_fails) fun hfirst => ?_
    exact (ih' hroom).bind (fun _ _ => .chain hfirst) fun htail => .inl (.chain hfirst htail)
  | tail_ends hnext => exact .inl (.tail_ends hnext)
  | tail_fails hk hrank _ ih =>
    rw [← operand_tightens htight] at ih
    exact (ih hroom).bind (fun _ _ => .tail_fails hk hrank) fun hr =>
      .inl (.tail_fails hk hrank hr)
  | @tail_refused _ _ left _ t _ op right _ _ hk hrank _ hfit ih =>
    rw [← operand_tightens htight] at ih
    refine (ih hroom).bind (fun _ _ => .tail_fails hk hrank) fun hright => ?_
    rcases fitted_tightens htight t.location (.binary op left right) with hsame | herror
    · exact .inl (.tail_refused hk hrank hright (hsame.trans hfit))
    · exact .inr ⟨_, _, _, .inr rfl, .tail_refused hk hrank hright herror⟩
  | @tail_goes_on _ _ left _ t _ op right _ _ _ hk hrank _ hfit _ ih ih' =>
    rw [← operand_tightens htight] at ih
    refine (ih hroom).bind (fun _ _ => .tail_fails hk hrank) fun hright => ?_
    rcases fitted_tightens htight t.location (.binary op left right) with hsame | herror
    · have hjoined := hsame.trans hfit
      exact (ih' hroom).bind (fun _ _ => .tail_goes_on hk hrank hright hjoined) fun htail =>
        .inl (.tail_goes_on hk hrank hright hjoined htail)
    · exact .inr ⟨_, _, _, .inr rfl, .tail_refused hk hrank hright herror⟩
  | tower_fails hp _ ih =>
    rw [← htight.power] at hp
    exact (ih hroom).bind (fun _ _ => .tower_fails hp) fun hr => .inl (.tower_fails hp hr)
  | tower_ends hp _ hnext ih =>
    rw [← htight.power] at hp
    exact (ih hroom).bind (fun _ _ => .tower_fails hp) fun hbase =>
      .inl (.tower_ends hp hbase hnext)
  | exponent_fails hp _ hk _ ih ih' =>
    rw [← htight.power] at hp
    refine (ih hroom).bind (fun _ _ => .tower_fails hp) fun hbase => ?_
    exact (ih' hroom).bind (fun _ _ => .exponent_fails hp hbase hk) fun hr =>
      .inl (.exponent_fails hp hbase hk hr)
  | tower hp _ hk _ ih ih' =>
    rw [← htight.power] at hp
    refine (ih hroom).bind (fun _ _ => .tower_fails hp) fun hbase => ?_
    exact (ih' hroom).bind (fun _ _ => .exponent_fails hp hbase hk) fun hexponent =>
      .of_fitted htight (.tower hp hbase hk hexponent)
  | too_deep =>
    obtain rfl := Nat.le_zero.mp hroom
    exact .inr ⟨_, _, _, .inl rfl, .too_deep⟩
  | deeper _ ih =>
    rw [← phrase_tightens htight] at ih
    cases room' with
    | zero => exact .inr ⟨_, _, _, .inl rfl, .too_deep⟩
    | succ room' =>
      have hroom := Nat.le_of_succ_le_succ hroom
      exact (ih hroom).bind (fun _ _ => .deeper) fun hr => .inl (.deeper hr)
  | ended => exact .inl .ended
  | unexpected hk => exact .inl (.unexpected hk)
  | number hk => exact .inl (.number hk)
  | letter hk hnext =>
    rw [← htight.indexedLetters] at hnext
    exact .inl (.letter hk hnext)
  | indexed hk hi hv =>
    rw [← htight.indexedLetters] at hi
    exact .of_fitted htight (.indexed hk hi hv)
  | group_fails hk _ ih =>
    exact (ih hroom).bind (fun _ _ => .group_fails hk) fun hr => .inl (.group_fails hk hr)
  | unclosed hk _ ih =>
    exact (ih hroom).bind (fun _ _ => .group_fails hk) fun hr => .inl (.unclosed hk hr)
  | mismatched hk _ hu ih =>
    exact (ih hroom).bind (fun _ _ => .group_fails hk) fun hr => .inl (.mismatched hk hr hu)
  | group hk _ hu ih =>
    exact (ih hroom).bind (fun _ _ => .group_fails hk) fun hr => .inl (.group hk hr hu)
  | prefixed_fails hk _ ih =>
    exact (ih hroom).bind (fun _ _ => .prefixed_fails hk) fun hr => .inl (.prefixed_fails hk hr)
  | prefixed hk _ ih =>
    exact (ih hroom).bind (fun _ _ => .prefixed_fails hk) fun hoperand =>
      .of_fitted htight (.prefixed hk hoperand)

/-- Tighter limits change nothing about what becomes of a sequence of tokens, tree or error, other
than into an error that tells of one of them. -/
theorem parse_tightened (h : tight.Tightens settings) (bindings : Bindings) (tokens : List Token) :
    parse tight bindings tokens = parse settings bindings tokens ∨
      ∃ limit location, (limit = tight.maxDepth ∨ limit = tight.maxTreeDepth) ∧
        parse tight bindings tokens = .error (.nestingTooDeep limit location) := by
  cases tokens with
  | nil =>
    left
    rw [parse_nil, parse_nil]
  | cons token tokens =>
    have hne : token :: tokens ≠ [] := by simp
    obtain ⟨r, c', hreads, hparse⟩ := exists_reads settings bindings (token :: tokens)
    rcases hreads.cut h h.maxDepth with hsame | ⟨limit, location, c', hlimit, hrefused⟩
    · left
      rw [hparse hne, parse_eq_finish hne hsame]
    · right
      exact ⟨limit, location, hlimit, parse_eq_finish hne hrefused⟩

/-- A group in a group, read in full under the looser settings and cut off where the tighter ones
allow no second group. -/
theorem groups_tightened :
    let tight : Settings := { maxDepth := 1, maxTreeDepth := 1 }
    let kinds := [.opening .paren, .opening .bracket, .letter "x", .closing .bracket,
      .closing .paren]
    let tokens := kinds.map Token.synthetic
    tight.Tightens {} ∧ parse {} {} tokens = .ok (some (.letter "x")) ∧
      ∃ location, parse tight {} tokens = .error (.nestingTooDeep 1 location) := by
  intro tight kinds tokens
  have htight : tight.Tightens {} := ⟨by decide, by decide, rfl, rfl⟩
  have hexpression : ∀ {ks t n}, Derives {} {} .factor ks t n → Derives {} {} .expression ks t n :=
    fun h => .first (.first (.first h))
  have hgroups : Derives {} {} .expression (tokens.map Token.kind) (.letter "x") 2 :=
    hexpression (.group .paren (hexpression (.group .bracket (hexpression (.letter "x")))))
  have hloose : parse {} {} tokens = .ok (some (.letter "x")) :=
    hgroups.parse.1 (by decide) (.inr (by decide))
  have hfails : (parse tight {} tokens).toOption = none := rfl
  have hcut : parse tight {} tokens ≠ parse {} {} tokens := by
    intro hsame
    rw [hsame, hloose] at hfails
    exact Option.some_ne_none _ hfails
  obtain ⟨limit, location, hlimit, herror⟩ := (parse_tightened htight {} tokens).resolve_left hcut
  obtain rfl : limit = 1 := hlimit.elim id id
  exact ⟨htight, hloose, location, herror⟩

end Grammar

end Formula
