import Formula.Proofs.Grammar.Acceptance
import Formula.Proofs.Grammar.Locality

/-! A syntax error is reported at the first token with which the tokens so far can no longer be
completed to a sentence.  `Reads.viable` completes what was taken before the error, rule by rule;
that nothing completes it together with the offending token follows from `Reads.of_agree`, since a
parser that fails there fails on every continuation, and from `Derives.parse`, since a sentence is
parsed or stops at a limit. -/

namespace Formula

namespace Grammar

/-- The tokens start a sentence, or are one. -/
def Viable (settings : Settings) (tokens : List Token) : Prop :=
  ∃ more, Sentence settings (tokens ++ more)

end Grammar

/-- What an error says about the tokens: the offending token is the first with which they are no
longer viable, or, when there is none, the tokens end too early.  Errors about a limit say nothing
about the grammar. -/
def SyntaxError.Earliest (settings : Settings) (tokens : List Token) : SyntaxError → Prop
  | .unexpectedToken found location | .mismatchedDelimiter _ found location
  | .trailingTokens found location =>
    ∃ i token, tokens[i]? = some token ∧ token.kind = found ∧ token.location = location ∧
      Grammar.Viable settings (tokens.take i) ∧ ¬Grammar.Viable settings (tokens.take (i + 1))
  | .unexpectedEnd location =>
    (∃ more, more ≠ [] ∧ Grammar.Sentence settings (tokens ++ more)) ∧
      ¬Grammar.Sentence settings tokens ∧
      ∃ last, tokens.getLast? = some last ∧ last.location = location
  | .unclosedDelimiter _ _ =>
    (∃ more, more ≠ [] ∧ Grammar.Sentence settings (tokens ++ more)) ∧
      ¬Grammar.Sentence settings tokens
  | .nestingTooDeep _ _ => True

/-- How an error about the grammar arises at the cursor `c`, after the tokens `good` and before any
other than the offending one: `used` are all tokens taken. -/
inductive SyntaxError.Arises (good : List Token) : List Token → Cursor → SyntaxError → Prop
  | unexpected (bad : Token) (c : Cursor) :
      Arises good (good ++ [bad]) c (.unexpectedToken bad.kind bad.location)
  | mismatched (delimiter : Delimiter) (bad : Token) (c : Cursor) :
      Arises good (good ++ [bad]) c (.mismatchedDelimiter delimiter bad.kind bad.location)
  | ended (taken : List Token) :
      Arises good good ⟨taken, []⟩ (.unexpectedEnd (Cursor.location ⟨taken, []⟩))
  | unclosed (delimiter : Delimiter) (openedAt : Location) (taken : List Token) :
      Arises good good ⟨taken, []⟩ (.unclosedDelimiter delimiter openedAt)

theorem SyntaxError.Arises.append {good used : List Token} {c : Cursor} {e : SyntaxError}
    (h : e.Arises good used c) (before : List Token) :
    e.Arises (before ++ good) (before ++ used) c := by
  cases h with
  | unexpected bad => exact List.append_assoc .. ▸ unexpected bad c
  | mismatched delimiter bad => exact List.append_assoc .. ▸ mismatched delimiter bad c
  | ended taken => exact ended taken
  | unclosed delimiter openedAt taken => exact unclosed delimiter openedAt taken

namespace Grammar

variable {settings : Settings} {bindings : Bindings} {room : Nat} {task : Task} {c c' : Cursor}
  {r : Except SyntaxError Subtree}

/-- Values for letters play no part in what is derived. -/
theorem Derives.rebind {p : Phrase} {ks : List Token.Kind} {t : Tree} {n : Nat}
    (h : Derives settings bindings p ks t n) (bindings' : Bindings) :
    ∃ t', Derives settings bindings' p ks t' n := by
  induction h with
  | first _ ih =>
    obtain ⟨t, ht⟩ := ih
    exact ⟨t, .first ht⟩
  | more hrank _ _ ihl ihr =>
    obtain ⟨l, hl⟩ := ihl
    obtain ⟨r, hr⟩ := ihr
    exact ⟨_, .more hrank hl hr⟩
  | base _ ih =>
    obtain ⟨t, ht⟩ := ih
    exact ⟨t, .base ht⟩
  | exponent _ _ ihl ihr =>
    obtain ⟨l, hl⟩ := ihl
    obtain ⟨r, hr⟩ := ihr
    exact ⟨_, .exponent hl hr⟩
  | group delimiter _ ih =>
    obtain ⟨t, ht⟩ := ih
    exact ⟨t, .group delimiter ht⟩
  | number value => exact ⟨_, .number value⟩
  | letter name => exact ⟨_, .letter name⟩
  | indexed name value hi => exact ⟨_, .indexed name value hi⟩
  | prefixed op _ ih =>
    obtain ⟨t, ht⟩ := ih
    exact ⟨_, .prefixed op ht⟩

/-- The kinds can be completed to what the task reads; for a tail, after whatever chain it goes on
from. -/
def Task.Viable (settings : Settings) (bindings : Bindings) (ks : List Token.Kind) : Task → Prop
  | .phrase p => ∃ more t n, Grammar.Derives settings bindings p (ks ++ more) t n
  | .tail rank _ => ∀ before l m, Grammar.Derives settings bindings (.chain rank) before l m →
    ∃ more t n, Grammar.Derives settings bindings (.chain rank) (before ++ ks ++ more) t n
  | .deeper goal =>
    ∃ more t n, Grammar.Derives settings bindings (goal.phrase settings) (ks ++ more) t n

/-- A number completes whatever lacks an operand. -/
theorem viable_factor : Task.Viable settings bindings [] (.phrase .factor) :=
  ⟨[.number ⟨0⟩], _, _, .number _⟩

/-- What was taken before an error about the grammar can be completed. -/
theorem Reads.viable (h : Reads settings bindings room task c r c') {e : SyntaxError}
    (hr : r = .error e) (he : ∀ limit location, e ≠ .nestingTooDeep limit location) :
    ∃ good used, c.Takes used c' ∧ e.Arises good used c' ∧
      task.Viable settings bindings (good.map Token.kind) := by
  -- The completion grows outwards: each rule puts what it still lacks after what completes the part
  -- that failed.
  induction h with
  | chain_fails _ ih =>
    obtain ⟨good, used, hu, ha, more, t, n, hd⟩ := ih hr
    exact ⟨good, used, hu, ha, more, t, n, .first hd⟩
  | chain hfirst _ _ ih' =>
    obtain ⟨used1, hu1, m, -, hd1⟩ := hfirst.derives rfl
    obtain ⟨good, used, hu, ha, hv⟩ := ih' hr
    obtain ⟨more, t, n, hd⟩ := hv _ _ _ (.first hd1)
    exact ⟨_, _, hu1.trans hu, ha.append used1, more, t, n, by simpa using hd⟩
  | tail_fails hk hrank _ ih =>
    obtain ⟨good, used, hu, ha, more, t, n, hd⟩ := ih hr
    exact ⟨_, _, hu.cons, ha.append [_], fun before l m hl =>
      ⟨more, _, _, by simpa [hk] using Derives.more hrank hl hd⟩⟩
  | tail_goes_on hk hrank hright _ _ _ ih' =>
    obtain ⟨used1, hu1, m, -, hd1⟩ := hright.derives rfl
    obtain ⟨good, used, hu, ha, hv⟩ := ih' hr
    refine ⟨_, _, hu1.cons.trans hu, ha.append (_ :: used1), fun before l m hl => ?_⟩
    obtain ⟨more, t, n, hd⟩ := hv _ _ _ (.more hrank hl hd1)
    exact ⟨more, t, n, by simpa [hk] using hd⟩
  | tower_fails _ _ ih =>
    obtain ⟨good, used, hu, ha, more, t, n, hd⟩ := ih hr
    exact ⟨good, used, hu, ha, more, t, n, .base hd⟩
  | exponent_fails hp hbase hk _ _ ih' =>
    obtain ⟨used1, hu1, m, -, hd1⟩ := hbase.derives rfl
    obtain ⟨good, used, hu, ha, more, t, n, hd⟩ := ih' hr
    simp only [Goal.phrase, Phrase.powers, hp] at hd
    exact ⟨_, _, hu1.trans hu.cons, (ha.append [_]).append used1, more, _, _,
      by simpa [hk] using Derives.exponent hd1 hd⟩
  | deeper _ ih => exact ih hr
  | ended =>
    cases hr
    exact ⟨[], [], .refl _, .ended _, viable_factor⟩
  | unexpected hk =>
    cases hr
    exact ⟨[], _, .one _ _ _, .unexpected _ _, viable_factor⟩
  | group_fails hk _ ih =>
    obtain ⟨good, used, hu, ha, more, t, n, hd⟩ := ih hr
    exact ⟨_, _, hu.cons, ha.append [_], more ++ [.closing _], _, _,
      by simpa [hk] using Derives.group _ hd⟩
  | unclosed hk hinner _ =>
    cases hr
    obtain ⟨used, hu, m, -, hd⟩ := hinner.derives rfl
    exact ⟨_, _, hu.cons, .unclosed _ _ _, [.closing _], _, _,
      by simpa [hk] using Derives.group _ hd⟩
  | mismatched hk hinner _ _ =>
    cases hr
    obtain ⟨used, hu, m, -, hd⟩ := hinner.derives rfl
    exact ⟨_, _, hu.cons.trans (.one _ _ _), .mismatched _ _ _, [.closing _], _, _,
      by simpa [hk] using Derives.group _ hd⟩
  | prefixed_fails hk _ ih =>
    obtain ⟨good, used, hu, ha, more, t, n, hd⟩ := ih hr
    exact ⟨_, _, hu.cons, ha.append [_], more, _, _, by simpa [hk] using Derives.prefixed _ hd⟩
  | tail_refused _ _ _ hfit =>
    cases hr
    exact absurd (fitted_eq_error.mp hfit).2 (he _ _)
  | tower | indexed | prefixed => exact absurd (fitted_eq_error.mp hr).2 (he _ _)
  | too_deep =>
    cases hr
    exact absurd rfl (he _ _)
  | _ => contradiction

/-- Tokens that fail to parse for another reason than a limit are no sentence. -/
theorem not_sentence {tokens : List Token} {e : SyntaxError}
    (h : parse settings bindings tokens = .error e)
    (he : ∀ limit location, e ≠ .nestingTooDeep limit location) : ¬Sentence settings tokens := by
  rintro ⟨t, n, hd⟩
  obtain ⟨t', hd'⟩ := hd.rebind bindings
  by_cases hfits : n ≤ settings.maxDepth ∧ t'.Fits settings
  · rw [hd'.parse.1 hfits.1 hfits.2] at h
    contradiction
  · obtain ⟨limit, location, -, hlim⟩ := hd'.parse.2 hfits
    rw [hlim] at h
    exact he limit location (by cases h; rfl)

/-- What the grammar derives makes a sentence of the tokens of its kinds. -/
theorem sentence_of_derives {tokens : List Token} {ks : List Token.Kind} {t : Tree} {n : Nat}
    (h : Derives settings bindings .expression (tokens.map Token.kind ++ ks) t n) :
    Sentence settings (tokens ++ ks.map .synthetic) := by
  obtain ⟨t', ht'⟩ := h.rebind {}
  refine ⟨t', n, ?_⟩
  have hks : (ks.map Token.synthetic).map Token.kind = ks := by
    simp [Token.synthetic, Function.comp_def]
  rwa [List.map_append, hks]

/-- A parser that has looked at the first `i` tokens when it fails, fails on whatever goes on from
there. -/
theorem not_viable_take {tokens : List Token} {e : SyntaxError} {i : Nat}
    (h : Reads settings bindings settings.maxDepth (.phrase .expression) (.ofList tokens) r c')
    (hfinish : finish r c' = .error e) (he : ∀ limit location, e ≠ .nestingTooDeep limit location)
    (hlooked : looked r c' ≤ i) (hi : i ≤ tokens.length) : ¬Viable settings (tokens.take i) := by
  rintro ⟨more, hsentence⟩
  have hagree : (tokens.take i ++ more).take i = tokens.take i := by simp [hi]
  have hne : tokens.take i ++ more ≠ [] := by
    rintro hnil
    obtain ⟨t, n, hd⟩ := hsentence
    exact hd.ne_nil (by rw [hnil]; rfl)
  obtain ⟨d, hruns, -⟩ := h.whole_runs_of_agree hfinish hlooked hagree hne
  exact not_sentence hruns.1 he hsentence

theorem exists_earliest {good rest : List Token} {bad : Token} {tokens : List Token}
    (htokens : tokens = good ++ bad :: rest) (hgood : Viable settings good)
    (hbad : ¬Viable settings (tokens.take (good.length + 1))) :
    ∃ i token, tokens[i]? = some token ∧ token.kind = bad.kind ∧ token.location = bad.location ∧
      Viable settings (tokens.take i) ∧ ¬Viable settings (tokens.take (i + 1)) :=
  ⟨good.length, bad, by simp [htokens], rfl, rfl, by simpa [htokens] using hgood, hbad⟩

theorem Viable.exists_ne_nil {tokens : List Token} (h : Viable settings tokens)
    (hnot : ¬Sentence settings tokens) :
    ∃ more, more ≠ [] ∧ Sentence settings (tokens ++ more) := by
  obtain ⟨more, hmore⟩ := h
  refine ⟨more, ?_, hmore⟩
  rintro rfl
  exact hnot (by simpa using hmore)

/-- At the end of the tokens the location to report is that of the last one. -/
theorem exists_getLast? {tokens : List Token} (hne : tokens ≠ []) :
    ∃ last, tokens.getLast? = some last ∧
      last.location = Cursor.location ⟨tokens.reverse, []⟩ := by
  obtain ⟨before, last, rfl⟩ := List.eq_nil_or_concat tokens |>.resolve_left hne
  exact ⟨last, by simp, by simp [Cursor.location]⟩

theorem Reads.earliest {tokens : List Token} {e : SyntaxError}
    (h : Reads settings bindings settings.maxDepth (.phrase .expression) (.ofList tokens)
      (.error e) c') (hne : tokens ≠ [])
    (he : ∀ limit location, e ≠ .nestingTooDeep limit location) : e.Earliest settings tokens := by
  obtain ⟨good, used, hu, ha, more, t, n, hd⟩ := h.viable rfl he
  have hgood : Viable settings good := ⟨_, sentence_of_derives hd⟩
  have htokens : tokens = used ++ c'.rest := hu.rest
  have htaken : c'.taken = used.reverse := by simpa [Cursor.ofList] using hu.taken
  have hnot := not_sentence ((parse_eq_finish hne h).trans rfl) he
  cases ha with
  | unexpected bad | mismatched _ bad =>
    have hlooked : c'.position = good.length + 1 := by simp [Cursor.position, htaken]
    have hlength : good.length + 1 ≤ tokens.length := by simp [htokens]
    exact exists_earliest (by simpa using htokens) hgood
      (not_viable_take h rfl he (Nat.le_of_eq hlooked) hlength)
  | ended taken =>
    obtain rfl : tokens = good := by simpa using htokens
    obtain rfl : taken = tokens.reverse := htaken
    exact ⟨hgood.exists_ne_nil hnot, hnot, exists_getLast? hne⟩
  | unclosed =>
    obtain rfl : tokens = good := by simpa using htokens
    exact ⟨hgood.exists_ne_nil hnot, hnot⟩

/-- A token that is left over is one too many. -/
theorem Reads.earliest_trailing {tokens taken rest : List Token} {s : Subtree} {t : Token}
    (h : Reads settings bindings settings.maxDepth (.phrase .expression) (.ofList tokens) (.ok s)
      ⟨taken, t :: rest⟩) :
    (SyntaxError.trailingTokens t.kind t.location).Earliest settings tokens := by
  obtain ⟨used, hu, n, -, hd⟩ := h.derives rfl
  have htokens : tokens = used ++ t :: rest := hu.rest
  have htaken : taken = used.reverse := by simpa [Cursor.ofList] using hu.taken
  have hd' : Derives settings bindings .expression (used.map Token.kind ++ []) s.tree n := by
    rwa [List.append_nil]
  have hused : Viable settings used := ⟨_, sentence_of_derives hd'⟩
  refine exists_earliest htokens hused (not_viable_take h rfl (by simp) ?_ ?_)
  · simp [Cursor.position, htaken]
  · simp [htokens]

/-- Every error about the grammar is reported as early as it can be. -/
theorem parse_error_earliest {settings : Settings} {bindings : Bindings} {tokens : List Token}
    {e : SyntaxError} (h : parse settings bindings tokens = .error e) :
    e.Earliest settings tokens := by
  have hne : tokens ≠ [] := by
    rintro rfl
    simp [parse_nil] at h
  obtain ⟨r, ⟨taken, rest⟩, hreads, hparse⟩ := exists_reads settings bindings tokens
  rw [hparse hne] at h
  obtain e' | s := r
  · obtain rfl : e' = e := by simpa [finish] using h
    by_cases he : ∀ limit location, e' ≠ .nestingTooDeep limit location
    · exact hreads.earliest hne he
    · simp only [Classical.not_forall, Decidable.not_not] at he
      obtain ⟨limit, location, rfl⟩ := he
      trivial
  · cases rest with
    | nil => contradiction
    | cons t rest =>
      cases h
      exact hreads.earliest_trailing

/-- A group that the wrong bracket closes. -/
theorem mismatched_earliest :
    let one := Token.mk (.number ⟨0x3ff0000000000000⟩) "1" ⟨1, 2, 1⟩
    let tokens := [⟨.opening .paren, "(", ⟨1, 1, 0⟩⟩, one, ⟨.closing .bracket, "]", ⟨1, 3, 2⟩⟩]
    let e := SyntaxError.mismatchedDelimiter .paren (.closing .bracket) ⟨1, 3, 2⟩
    parse {} {} tokens = .error e ∧ e.Earliest {} tokens := by
  intro one tokens e
  have h : parse {} {} tokens = .error e := rfl
  exact ⟨h, parse_error_earliest h⟩

end Grammar

end Formula
