import Formula.Proofs.Numeral.Literal
import Formula.Token.Lexer

/-! Texts that are made up of tokens.  `Spells` says which kinds of tokens a text is read as; a text
is built from its end, one token or space at a time, and each token asks of what follows it only
that this does not go on with the token. -/

namespace Formula

/-- The place after the characters `cs`, when `rest` follows them. -/
def Location.through (here : Location) : List Char → List Char → Location
  | [], _ => here
  | c :: cs, rest => (here.after c (cs ++ rest)).through cs rest

namespace Lexer

/-- The text is read as tokens of the given kinds, wherever it stands. -/
def Spells (cs : List Char) (ks : List Token.Kind) : Prop :=
  ∀ here, ∃ tokens : List Token, itemsFrom 0 here cs = tokens.map .ok ∧ tokens.map Token.kind = ks

theorem itemsFrom_through (lexeme rest : List Char) (here : Location) :
    itemsFrom lexeme.length here (lexeme ++ rest) =
      itemsFrom 0 (here.through lexeme rest) rest := by
  induction lexeme generalizing here with
  | nil => rfl
  | cons c lexeme ih => exact ih _

theorem itemsFrom_separator {c : Char} (here : Location) (hc : isSeparator c = true)
    (rest : List Char) : itemsFrom 0 here (c :: rest) = itemsFrom 0 (here.after c rest) rest := by
  simp only [itemsFrom, hc, if_true]

theorem itemsFrom_token {c : Char} {lexeme rest : List Char} {kind : Token.Kind} (here : Location)
    (hc : isSeparator c = false) (h : longest? (c :: lexeme ++ rest) = some (kind, c :: lexeme)) :
    itemsFrom 0 here (c :: lexeme ++ rest) =
      .ok ⟨kind, String.ofList (c :: lexeme), here⟩ ::
        itemsFrom 0 (here.through (c :: lexeme) rest) rest := by
  rw [← itemsFrom_through]
  simp only [List.cons_append] at h ⊢
  simp [itemsFrom, hc, h]

/-! ### Up to the first error -/

theorem untilError_map_ok (tokens : List Token) :
    untilError (tokens.map .ok) = (tokens, none) := by
  induction tokens with
  | nil => rfl
  | cons token tokens ih => simp [untilError, ih]

/-- Reading stops at the first error, and all that was read before it are tokens. -/
theorem items_of_untilError {items : List Item} {tokens : List Token}
    {stop : Option LexicalError} (h : untilError items = (tokens, stop)) :
    ∃ rest, items = tokens.map .ok ++ rest ∧ rest.head? = stop.map .error := by
  induction items generalizing tokens stop with
  | nil =>
    cases h
    exact ⟨[], rfl, rfl⟩
  | cons item items ih =>
    cases item with
    | error e =>
      cases h
      exact ⟨.error e :: items, rfl, rfl⟩
    | ok token =>
      rcases hread : untilError items with ⟨more, stop'⟩
      obtain ⟨rest, rfl, hhead⟩ := ih hread
      simp only [untilError, hread] at h
      cases h
      exact ⟨rest, rfl, hhead⟩

theorem mem_of_untilError {items : List Item} {tokens : List Token} {stop : Option LexicalError}
    (h : untilError items = (tokens, stop)) {t : Token} (ht : t ∈ tokens) : .ok t ∈ items := by
  obtain ⟨rest, rfl, -⟩ := items_of_untilError h
  exact List.mem_append_left rest (List.mem_map_of_mem ht)

theorem items_eq_of_untilError {items : List Item} {tokens : List Token}
    (h : untilError items = (tokens, none)) : items = tokens.map .ok := by
  obtain ⟨rest, rfl, hhead⟩ := items_of_untilError h
  rw [List.head?_eq_none_iff.mp hhead, List.append_nil]

/-! ### Characters that start a token -/

theorem scan?_eq_none {c : Char} (hc : c.isDigit = false) (hpoint : c ≠ '.') (rest : List Char) :
    Numeral.scan? (c :: rest) = none := by
  simp [Numeral.scan?, Numeral.digits, hc, Numeral.fractionPart, hpoint, Numeral.Part.none]

/-- Fixed symbols start like no number, and with no separator. -/
theorem head_symbol {kind : Token.Kind} (h : kind ∈ Token.Kind.fixed) :
    ∀ c ∈ kind.symbol.toList.head?, c.isDigit = false ∧ c ≠ '.' ∧ isSeparator c = false := by
  have hall : ∀ kind ∈ Token.Kind.fixed, kind.symbol.toList.head?.all
      (fun c => !c.isDigit && c != '.' && !isSeparator c) = true := by decide +kernel
  intro c hc
  have hhead := hall kind h
  rw [hc] at hhead
  simpa [and_assoc] using hhead

/-- No fixed symbol starts with another. -/
theorem symbol_prefix_free : ∀ j ∈ Token.Kind.fixed, ∀ k ∈ Token.Kind.fixed,
    j.symbol.toList <+: k.symbol.toList → j = k := by
  decide +kernel

/-- The symbols that start with a letter go on with one. -/
theorem symbol_letters : ∀ kind ∈ Token.Kind.fixed, kind.symbol.toList.head?.any Char.isAlpha →
    kind.symbol.toList.tail.head?.any Char.isAlpha := by
  decide +kernel

/-- A symbol that a text starts with is the one that is found. -/
theorem fixed?_symbol {kind : Token.Kind} (h : kind ∈ Token.Kind.fixed) (rest : List Char) :
    fixed? (kind.symbol.toList ++ rest) = some kind := by
  have hstart : kind.symbol.toList <+: kind.symbol.toList ++ rest := List.prefix_append _ _
  cases hfound : fixed? (kind.symbol.toList ++ rest) with
  | none =>
    have hnone := List.find?_eq_none.mp hfound kind h
    exact absurd (List.isPrefixOf_iff_prefix.mpr hstart) hnone
  | some found =>
    obtain ⟨hmem, hfoundStart⟩ := fixed?_eq_some hfound
    -- Of two symbols at the start of one text, the shorter starts the longer.
    rcases List.prefix_or_prefix_of_prefix hstart hfoundStart with hp | hp
    · rw [symbol_prefix_free kind h found hmem hp]
    · rw [symbol_prefix_free found hmem kind h hp]

theorem longest?_symbol {kind : Token.Kind} (h : kind ∈ Token.Kind.fixed) (rest : List Char) :
    longest? (kind.symbol.toList ++ rest) = some (kind, kind.symbol.toList) := by
  have hfixed := fixed?_symbol h rest
  have hhead := head_symbol h
  cases hsymbol : kind.symbol.toList with
  | nil => exact absurd hsymbol (symbol_ne_nil kind h)
  | cons c cs =>
    rw [hsymbol] at hfixed hhead
    obtain ⟨hdigit, hpoint, -⟩ := hhead c rfl
    rw [List.cons_append] at hfixed ⊢
    simp [longest?, scan?_eq_none hdigit hpoint, hfixed, hsymbol]

theorem isDigit_eq_false {c : Char} (hc : c.isAlpha = true) : c.isDigit = false := by
  have hletter : 'A'.val ≤ c.val := by
    rcases Bool.or_eq_true_iff.mp hc with hupper | hlower
    · exact (of_decide_eq_true hupper).1
    · have ha : 'a'.val ≤ c.val := of_decide_eq_true (Bool.and_eq_true_iff.mp hlower).1
      exact UInt32.le_trans (by decide) ha
  simp [Char.isDigit, UInt32.le_iff_toNat_le] at *
  omega

theorem isSeparator_eq_false {c : Char} (hc : c.isAlpha = true ∨ c.isDigit = true) :
    isSeparator c = false := by
  cases hsep : isSeparator c with
  | false => rfl
  | true =>
    simp only [isSeparator, Bool.or_eq_true, decide_eq_true_eq] at hsep
    rcases hsep with (((rfl | rfl) | rfl) | rfl) | rfl <;> revert hc <;> decide

theorem fixed?_letter {c : Char} (hc : c.isAlpha = true) {rest : List Char}
    (hrest : ∀ d ∈ rest.head?, d.isAlpha = false) : fixed? (c :: rest) = none := by
  cases hfound : fixed? (c :: rest) with
  | none => rfl
  | some kind =>
    obtain ⟨hmem, suffix, hsuffix⟩ := fixed?_eq_some hfound
    have hletters := symbol_letters kind hmem
    cases hsymbol : kind.symbol.toList with
    | nil => exact absurd hsymbol (symbol_ne_nil kind hmem)
    | cons c' cs =>
      rw [hsymbol] at hsuffix hletters
      obtain ⟨rfl, rfl⟩ := List.cons.inj hsuffix
      have hsecond := hletters hc
      cases cs with
      | nil => contradiction
      | cons d cs =>
        have hd : d.isAlpha = true := hsecond
        simp [hrest d rfl] at hd

theorem longest?_letter {c : Char} (hc : c.isAlpha = true) {rest : List Char}
    (hrest : ∀ d ∈ rest.head?, d.isAlpha = false) :
    longest? (c :: rest) = some (.letter c.toString, [c]) := by
  have hpoint : c ≠ '.' := by
    rintro rfl
    contradiction
  simp [longest?, scan?_eq_none (isDigit_eq_false hc) hpoint, fixed?_letter hc hrest, hc]

/-! ### Texts from their end -/

namespace Spells

variable {cs : List Char} {ks : List Token.Kind}

theorem nil : Spells [] [] := fun _ => ⟨[], rfl, rfl⟩

theorem separator {c : Char} (hc : isSeparator c = true) (h : Spells cs ks) :
    Spells (c :: cs) ks := by
  intro here
  rw [itemsFrom_separator here hc]
  exact h (here.after c cs)

theorem space (h : Spells cs ks) : Spells (" ".toList ++ cs) ks := separator rfl h

/-- The longest lexeme at the start of a text is its first token. -/
theorem token {lexeme : List Char} {kind : Token.Kind}
    (hlongest : longest? (lexeme ++ cs) = some (kind, lexeme))
    (hhead : ∀ c ∈ lexeme.head?, isSeparator c = false) (h : Spells cs ks) :
    Spells (lexeme ++ cs) (kind :: ks) := by
  intro here
  cases lexeme with
  | nil => exact absurd rfl (longest?_eq_some hlongest).1
  | cons c lexeme =>
    have hc : isSeparator c = false := hhead c rfl
    obtain ⟨tokens, hitems, hkinds⟩ := h (here.through (c :: lexeme) cs)
    refine ⟨⟨kind, String.ofList (c :: lexeme), here⟩ :: tokens, ?_, by simp [hkinds]⟩
    rw [itemsFrom_token here hc hlongest, hitems, List.map_cons]

theorem fixed (kind : Token.Kind) (hkind : kind ∈ Token.Kind.fixed) (h : Spells cs ks) :
    Spells (kind.symbol.toList ++ cs) (kind :: ks) :=
  token (longest?_symbol hkind cs) (fun c hc => (head_symbol hkind c hc).2.2) h

theorem operator (op : BinaryOperator) (h : Spells cs ks) :
    Spells (op.symbol.toList ++ cs) (.operator op :: ks) :=
  fixed (.operator op) (by cases op <;> decide) h

theorem opening (delimiter : Delimiter) (h : Spells cs ks) :
    Spells (delimiter.opening.toList ++ cs) (.opening delimiter :: ks) :=
  fixed (.opening delimiter) (by cases delimiter <;> decide) h

theorem closing (delimiter : Delimiter) (h : Spells cs ks) :
    Spells (delimiter.closing.toList ++ cs) (.closing delimiter :: ks) :=
  fixed (.closing delimiter) (by cases delimiter <;> decide) h

theorem function (f : NamedFunction) (h : Spells cs ks) :
    Spells (f.symbol.toList ++ cs) (.function f :: ks) :=
  fixed (.function f) (by cases f <;> decide) h

/-- A letter is not taken for the start of a function when no letter follows it. -/
theorem letter {c : Char} (hc : c.isAlpha = true) (hcs : ∀ d ∈ cs.head?, d.isAlpha = false)
    (h : Spells cs ks) : Spells (c.toString.toList ++ cs) (.letter c.toString :: ks) := by
  have hchars : c.toString.toList = [c] := by simp
  rw [hchars]
  refine token (longest?_letter hc hcs) ?_ h
  rintro d ⟨rfl⟩
  exact isSeparator_eq_false (.inl hc)

theorem number {v : Double} (hv : v.isFinite = true) (hsign : v.negative = false)
    (hcs : Numeral.Ends cs) (h : Spells cs ks) :
    Spells (v.text.toList ++ cs) (.number v :: ks) := by
  refine token ?_ (fun c hc => isSeparator_eq_false (.inr (v.isDigit_head_text hv hsign c hc))) h
  simp [longest?, Double.scan?_text hv hsign hcs, Double.value_plain hv]

end Spells

end Lexer

end Formula
