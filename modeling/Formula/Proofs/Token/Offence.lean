import Formula.Proofs.Token.Tracking

/-! The characters that are errors.  Each is known from itself and the character after it: the lexer
takes every letter, digit, operator, delimiter and separator somewhere, and a point exactly where a
digit follows.  `offences` reads a text character by character, without a lexeme in view. -/

namespace Formula.Lexer

/-- Whether a character belongs somewhere wherever it stands. -/
def isAllowed (c : Char) : Bool :=
  c.isAlpha || c.isDigit || isSeparator c ||
    ['+', '-', '*', '/', '^', '(', ')', '[', ']'].contains c

/-- Whether a character is an error when `rest` follows it. -/
def offends (c : Char) (rest : List Char) : Bool :=
  !isAllowed c && !(c = '.' && rest.head?.any Char.isDigit)

/-- The errors of `text`, when the characters `before` stand before it: each offending character at
its counted place. -/
def offences (before : List Char) : List Char → List LexicalError
  | [] => []
  | c :: rest =>
    if offends c rest then ⟨c, .counted before⟩ :: offences (before ++ [c]) rest
    else offences (before ++ [c]) rest

/-- The error that an item is, if it is one. -/
def Item.error? : Item → Option LexicalError
  | .ok _ => none
  | .error e => some e

/-! ### Where nothing offends -/

/-- Nothing in the text offends, whatever stands around it. -/
def Inoffensive (cs : List Char) : Prop :=
  ∀ before rest, offences before (cs ++ rest) = offences (before ++ cs) rest

namespace Inoffensive

theorem nil : Inoffensive [] := by
  intro before rest
  rw [List.nil_append, List.append_nil]

theorem append {cs ds : List Char} (h : Inoffensive cs) (h' : Inoffensive ds) :
    Inoffensive (cs ++ ds) := by
  intro before rest
  rw [List.append_assoc, h, h', List.append_assoc]

theorem of_isAllowed {cs : List Char} (h : ∀ c ∈ cs, isAllowed c = true) : Inoffensive cs := by
  induction cs with
  | nil => exact nil
  | cons c cs ih =>
    have hc : Inoffensive [c] := by
      intro before rest
      have hallowed : isAllowed c = true := h c List.mem_cons_self
      simp [offences, offends, hallowed]
    exact hc.append (ih fun d hd => h d (List.mem_cons_of_mem c hd))

theorem digits {ds : List Char} (h : ∀ c ∈ ds, c.isDigit = true) : Inoffensive ds :=
  of_isAllowed fun c hc => by simp [isAllowed, h c hc]

theorem point {ds : List Char} (h : Numeral.Digits ds) : Inoffensive ('.' :: ds) := by
  intro before rest
  obtain ⟨d, ds, rfl⟩ := List.exists_cons_of_ne_nil h.1
  have hd : d.isDigit = true := h.2 d List.mem_cons_self
  have hmore := digits h.2 (before ++ ['.']) rest
  have hpoint : offends '.' (d :: ds ++ rest) = false := by simp [offends, hd]
  rw [List.append_assoc] at hmore
  rw [List.cons_append, offences, hpoint, if_neg Bool.false_ne_true, hmore]
  rfl

theorem exponent {cs : List Char} {power : Option Int} (h : Numeral.Exponent cs power) :
    Inoffensive cs := by
  have hmarks : ['e', 'E', '+', '-'].all isAllowed = true := by decide
  refine of_isAllowed fun c hc => ?_
  rcases h.mem c hc with hdigit | hmark
  · simp [isAllowed, hdigit]
  · exact List.all_eq_true.mp hmarks c hmark

theorem literal {cs : List Char} {n : Numeral} (h : Numeral.Literal cs n) : Inoffensive cs := by
  obtain @⟨whole, fraction, ds, _, _, hwhole, hfraction, hexponent, -⟩ := h
  have hpoint : Inoffensive fraction := by
    cases hfraction with
    | missing => exact nil
    | point hds => exact point hds
  exact (digits hwhole).append (hpoint.append (exponent hexponent))

end Inoffensive

theorem isAllowed_symbol : ∀ kind ∈ Token.Kind.fixed,
    kind.symbol.toList.all isAllowed = true := by
  decide +kernel

/-- No token has an offending character in it. -/
theorem IsToken.inoffensive {lexeme : List Char} {kind : Token.Kind} (h : IsToken lexeme kind) :
    Inoffensive lexeme := by
  cases h with
  | fixed hkind => exact .of_isAllowed (List.all_eq_true.mp (isAllowed_symbol kind hkind))
  | number hliteral _ => exact .literal hliteral
  | letter hc =>
    refine .of_isAllowed fun d hd => ?_
    rw [List.mem_singleton.mp hd]
    simp [isAllowed, hc]

/-! ### Where no token starts -/

theorem isToken_digits {ds : List Char} (h : Numeral.Digits ds) :
    ∃ kind, IsToken ds kind := by
  have hliteral := Numeral.Literal.parts h.2 .missing .missing (.inl h.1)
  rw [List.append_nil, List.append_nil] at hliteral
  exact ⟨_, isToken_number hliteral⟩

theorem isToken_point {ds : List Char} (h : Numeral.Digits ds) :
    ∃ kind, IsToken ('.' :: ds) kind := by
  have hnone : ∀ c ∈ ([] : List Char), c.isDigit = true := fun c hc => absurd hc List.not_mem_nil
  have hliteral := Numeral.Literal.parts hnone (.point h) .missing (.inr h.1)
  rw [List.nil_append, List.append_nil] at hliteral
  exact ⟨_, isToken_number hliteral⟩

theorem digits_singleton {d : Char} (h : d.isDigit = true) : Numeral.Digits [d] :=
  ⟨by simp, by simpa using h⟩

/-- A character that is allowed, and separates nothing, is a token by itself if it is no more. -/
theorem isToken_of_isAllowed {c : Char} (h : isAllowed c = true) (hc : isSeparator c = false) :
    ∃ kind, IsToken [c] kind := by
  by_cases hletter : c.isAlpha = true
  · exact ⟨_, .letter hletter⟩
  by_cases hdigit : c.isDigit = true
  · exact isToken_digits (digits_singleton hdigit)
  have hmem : c ∈ ['+', '-', '*', '/', '^', '(', ')', '[', ']'] := by
    simpa [isAllowed, hletter, hdigit, hc] using h
  have hsymbols : ['+', '-', '*', '/', '^', '(', ')', '[', ']'].all
      (fun c => Token.Kind.fixed.any fun kind => kind.symbol.toList == [c]) = true := by
    decide +kernel
  obtain ⟨kind, hkind, hsymbol⟩ := List.any_eq_true.mp (List.all_eq_true.mp hsymbols c hmem)
  rw [beq_iff_eq] at hsymbol
  exact ⟨kind, hsymbol ▸ .fixed hkind⟩

theorem offends_of_startsNone {c : Char} {rest : List Char} (h : StartsNone (c :: rest))
    (hc : isSeparator c = false) : offends c rest = true := by
  have hallowed : isAllowed c = false := by
    rw [← Bool.not_eq_true]
    intro hallowed
    obtain ⟨kind, htoken⟩ := isToken_of_isAllowed hallowed hc
    exact h [c] kind (List.prefix_append [c] rest) htoken
  have hpoint : c = '.' → rest.head?.any Char.isDigit = false := by
    rintro rfl
    rw [← Bool.not_eq_true]
    intro hhead
    cases rest with
    | nil => contradiction
    | cons d rest =>
      obtain ⟨kind, htoken⟩ := isToken_point (digits_singleton hhead)
      exact h ['.', d] kind (List.prefix_append ['.', d] rest) htoken
  simpa [offends, hallowed, ← imp_iff_not_or] using hpoint

/-! ### The errors of a text -/

theorem Scans.errors {here : Location} {text : List Char} {items : List Item}
    (h : Scans here text items) (before : List Char)
    (hhere : here = Location.start.through before text) :
    items.filterMap Item.error? = offences before text := by
  induction h generalizing before with
  | done => rfl
  | @separator here c rest items hc _ ih =>
    have hmore : here.after c rest = Location.start.through (before ++ [c]) rest := by
      rw [Location.through_append, hhere]
      rfl
    have hclear : offends c rest = false := by simp [offends, isAllowed, hc]
    rw [offences, hclear, if_neg Bool.false_ne_true]
    exact ih (before ++ [c]) hmore
  | @token here kind c lexeme rest items _ hlongest _ ih =>
    have hmore : here.through (c :: lexeme) rest =
        Location.start.through (before ++ c :: lexeme) rest := by
      rw [Location.through_append, hhere]
    rw [(isToken_of_longest? hlongest).inoffensive]
    exact ih (before ++ c :: lexeme) hmore
  | @error here c rest items hc hlongest _ ih =>
    have hmore : here.after c rest = Location.start.through (before ++ [c]) rest := by
      rw [Location.through_append, hhere]
      rfl
    have hoffends := offends_of_startsNone (startsNone_of_longest? hlongest) hc
    -- The error is no line feed, so what stands before it is passed as it is counted.
    have hcounted : here = .counted before := by
      rw [hhere, ← Location.through_start]
      refine Location.start.through_eq_of_head? before (c :: rest) fun _ => ?_
      rintro ⟨rfl⟩
      contradiction
    rw [offences, if_pos hoffends, ← hcounted, ← ih (before ++ [c]) hmore]
    rfl

theorem offences_eq_nil_iff {before text : List Char} : offences before text = [] ↔
    ∀ passed c after, text = passed ++ c :: after → offends c after = false := by
  induction text generalizing before with
  | nil => simp [offences]
  | cons c rest ih =>
    constructor
    · intro h passed d after htext
      rw [offences] at h
      split at h
      · contradiction
      · next hc =>
        cases passed with
        | nil =>
          obtain ⟨rfl, rfl⟩ := List.cons.inj htext
          simpa using hc
        | cons _ passed => exact ih.mp h passed d after (List.cons.inj htext).2
    · intro h
      rw [offences, h [] c rest rfl, if_neg Bool.false_ne_true, ih]
      intro passed d after hrest
      exact h (c :: passed) d after (by rw [hrest]; rfl)

theorem untilError_eq {items : List Item} :
    (untilError items).2 = (items.filterMap Item.error?).head? := by
  induction items with
  | nil => rfl
  | cons item items ih =>
    cases item with
    | error e => rfl
    | ok token => exact ih

/-- A number stands for what its lexeme is as the literal of a double. -/
theorem ofLiteral_of_mem_items {source : String} {token : Token} {value : Double}
    (h : .ok token ∈ items source) (hkind : token.kind = .number value) :
    Double.ofLiteral token.lexeme.toList = .ok value := by
  have htoken := isToken_of_mem_items h
  rw [hkind] at htoken
  obtain ⟨n, hliteral, rfl⟩ := htoken.exists_literal
  exact Double.ofLiteral_of_literal hliteral

/-- The errors of a source text are its offending characters in their order, each of them once.  The
text is read as tokens if it has none of them, and stops at the first otherwise; the lexeme of every
number is a literal that has a value. -/
theorem errors_items (source : String) :
    (items source).filterMap Item.error? = offences [] source.toList ∧
      ((∃ tokens, tokenize source = .ok tokens) ↔
        ∀ before c after, source.toList = before ++ c :: after → offends c after = false) ∧
      (∀ e, tokenize source = .error e ↔ (offences [] source.toList).head? = some e) ∧
      ∀ token value, .ok token ∈ items source → token.kind = .number value →
        Double.ofLiteral token.lexeme.toList = .ok value := by
  have herrors : (items source).filterMap Item.error? = offences [] source.toList :=
    (scans_itemsFrom .start source.toList).errors [] rfl
  have hfirst : (untilError (items source)).2 = (offences [] source.toList).head? := by
    rw [untilError_eq, herrors]
  refine ⟨herrors, ?_, fun e => ?_, fun token value => ofLiteral_of_mem_items⟩
  · rw [← offences_eq_nil_iff, ← List.head?_eq_none_iff, ← hfirst]
    unfold tokenize
    split
    · next hread => simp [hread]
    · next hread => simp [hread]
  · rw [← hfirst]
    unfold tokenize
    split
    · next hread => simp [hread]
    · next hread => simp [hread]

/-- Of the points in this text only the one that another point follows offends. -/
theorem errors_items_points :
    let source := "1.5.5..5"
    let error : LexicalError := ⟨'.', ⟨1, 6, 5⟩⟩
    let last : Token := ⟨.number ⟨0x3fe0000000000000⟩, ".5", ⟨1, 7, 6⟩⟩
    offences [] source.toList = [error] ∧ (items source).filterMap Item.error? = [error] ∧
      tokenize source = .error error ∧ .ok last ∈ items source ∧
      Double.ofLiteral last.lexeme.toList = .ok ⟨0x3fe0000000000000⟩ := by
  intro source error last
  have hoffences : offences [] source.toList = [error] := by decide +kernel
  have hlast : .ok last ∈ items source := by decide +kernel
  obtain ⟨herrors, -, hstops, hnumbers⟩ := errors_items source
  refine ⟨hoffences, herrors.trans hoffences, (hstops error).mpr ?_, hlast, ?_⟩
  · rw [hoffences]
    rfl
  · exact hnumbers last _ hlast rfl

end Formula.Lexer
