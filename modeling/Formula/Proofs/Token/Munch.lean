import Formula.Proofs.Numeral.Literal
import Formula.Proofs.Numeral.Rounding
import Formula.Proofs.Token.Spelling

/-! The lexer divides a text into separators and items.  `IsToken` has one rule for each form of a
token and knows nothing of what is longest; `Divided` says that every token is the longest start of
what is left that has such a form, and that a character is an error where no start of it has. -/

namespace Formula

theorem Location.offset_after (here : Location) (c : Char) (rest : List Char) :
    (here.after c rest).offset = here.offset + c.utf8Size := by
  unfold after
  split
  · rfl
  · split <;> rfl

theorem Location.offset_through (here : Location) (cs rest : List Char) :
    (here.through cs rest).offset = here.offset + (String.ofList cs).utf8ByteSize := by
  induction cs generalizing here with
  | nil => rfl
  | cons c cs ih =>
    rw [through, ih, offset_after, String.ofList_cons, String.utf8ByteSize_append,
      String.utf8ByteSize_singleton, Nat.add_assoc]

namespace Lexer

/-! ### Forms of tokens -/

/-- The texts that are tokens, with what they are.  The value of a number is its decimal, rounded
once. -/
inductive IsToken : List Char → Token.Kind → Prop
  | fixed {kind} : kind ∈ Token.Kind.fixed → IsToken kind.symbol.toList kind
  | number {cs n m} : Numeral.Literal cs n → n.decimal.Rounds m →
      IsToken cs (.number (.ofMagnitude false m))
  | letter {c : Char} : c.isAlpha = true → IsToken [c] (.letter c.toString)

/-- The token is the longest one that the text starts with. -/
structure Longest (text lexeme : List Char) (kind : Token.Kind) : Prop where
  isToken : IsToken lexeme kind
  start : lexeme <+: text
  length_le : ∀ other k, other <+: text → IsToken other k → other.length ≤ lexeme.length

/-- The text starts with no token. -/
def StartsNone (text : List Char) : Prop := ∀ lexeme kind, lexeme <+: text → ¬IsToken lexeme kind

theorem isToken_number {lexeme : List Char} {n : Numeral} (h : Numeral.Literal lexeme n) :
    IsToken lexeme (.number n.value) := by
  have hsign : n.negative = false := by
    cases h
    rfl
  rw [Numeral.value, hsign]
  exact .number h (Decimal.rounds_magnitude _)

theorem isToken_of_longest? {text lexeme : List Char} {kind : Token.Kind}
    (h : longest? text = some (kind, lexeme)) : IsToken lexeme kind := by
  unfold longest? at h
  split at h
  · next part hpart =>
    cases h
    exact isToken_number (Numeral.literal_of_scan? hpart)
  · split at h
    · next hfixed =>
      cases h
      exact .fixed (fixed?_eq_some hfixed).1
    · split at h
      · split at h
        · next hc =>
          cases h
          exact .letter hc
        · contradiction
      · contradiction

theorem longest?_of_scan? {text : List Char} {part : Numeral.Part Numeral}
    (h : Numeral.scan? text = some part) :
    longest? text = some (.number part.value.value, part.lexeme) := by
  simp only [longest?, h]

/-- What the lexer takes is at least as long as any token that the text starts with. -/
theorem IsToken.longest? {lexeme : List Char} {kind : Token.Kind} (h : IsToken lexeme kind)
    (rest : List Char) :
    ∃ k best, Lexer.longest? (lexeme ++ rest) = some (k, best) ∧ lexeme.length ≤ best.length := by
  cases h with
  | fixed hkind => exact ⟨_, _, longest?_symbol hkind rest, Nat.le_refl _⟩
  | number hliteral hm =>
    obtain ⟨part, hpart, hstart, -⟩ := hliteral.scan? rest
    exact ⟨_, _, longest?_of_scan? hpart, hstart.length_le⟩
  | @letter c hc =>
    have hpoint : c ≠ '.' := by
      rintro rfl
      contradiction
    have hscan := scan?_eq_none (isDigit_eq_false hc) hpoint rest
    cases hfixed : fixed? (c :: rest) with
    | none =>
      refine ⟨.letter c.toString, [c], ?_, Nat.le_refl 1⟩
      simp [Lexer.longest?, hscan, hfixed, hc]
    | some k =>
      have hne := symbol_ne_nil k (fixed?_eq_some hfixed).1
      refine ⟨k, k.symbol.toList, ?_, List.length_pos_iff.mpr hne⟩
      simp [Lexer.longest?, hscan, hfixed]

/-- A token is read as what it is when nothing follows that could go on with a number or with the
name of a function. -/
theorem IsToken.longest?_append {lexeme : List Char} {kind : Token.Kind} (h : IsToken lexeme kind)
    (rest : List Char) (hnumber : ∀ value, kind = .number value → Numeral.Ends rest)
    (hletter : ∀ name, kind = .letter name → ∀ c ∈ rest.head?, c.isAlpha = false) :
    Lexer.longest? (lexeme ++ rest) = some (kind, lexeme) := by
  cases h with
  | fixed hkind => exact longest?_symbol hkind rest
  | letter hc => exact longest?_letter hc (hletter _ rfl)
  | @number _ n m hliteral hm =>
    obtain ⟨part, hpart, -, hall⟩ := hliteral.scan? rest
    rw [hall (hnumber _ rfl)] at hpart
    rw [longest?_of_scan? hpart, Numeral.value, ← hm.unique (Decimal.rounds_magnitude _)]
    cases hliteral
    rfl

theorem IsToken.longest?_self {lexeme : List Char} {kind : Token.Kind} (h : IsToken lexeme kind) :
    Lexer.longest? lexeme = some (kind, lexeme) := by
  simpa using h.longest?_append [] (by simp [Numeral.Ends]) (by simp)

theorem IsToken.unique {lexeme : List Char} {k k' : Token.Kind} (h : IsToken lexeme k)
    (h' : IsToken lexeme k') : k = k' := by
  have hsame := h.longest?_self.symm.trans h'.longest?_self
  simpa using hsame

/-- A number token is a written number, with its value. -/
theorem IsToken.exists_literal {lexeme : List Char} {v : Double} (h : IsToken lexeme (.number v)) :
    ∃ n, Numeral.Literal lexeme n ∧ n.value = v := by
  cases h with
  | fixed hkind =>
    simp [Token.Kind.fixed] at hkind
  | number hliteral hm =>
    refine ⟨_, hliteral, ?_⟩
    rw [Numeral.value, ← hm.unique (Decimal.rounds_magnitude _)]
    cases hliteral
    rfl

theorem IsToken.ne_nil {lexeme : List Char} {kind : Token.Kind} (h : IsToken lexeme kind) :
    lexeme ≠ [] :=
  (longest?_eq_some h.longest?_self).1

theorem isSeparator_symbol : ∀ kind ∈ Token.Kind.fixed,
    kind.symbol.toList.all (fun c => !isSeparator c) = true := by
  decide +kernel

/-- No token has a separator in it. -/
theorem IsToken.isSeparator_eq_false {lexeme : List Char} {kind : Token.Kind}
    (h : IsToken lexeme kind) : ∀ c ∈ lexeme, isSeparator c = false := by
  cases h with
  | fixed hkind => simpa using isSeparator_symbol kind hkind
  | letter hc =>
    intro d hd
    rw [List.mem_singleton.mp hd]
    exact Lexer.isSeparator_eq_false (.inl hc)
  | number hliteral _ =>
    have hmarks : ['.', 'e', 'E', '+', '-'].all (fun c => !isSeparator c) = true := by decide
    intro c hc
    rcases hliteral.mem c hc with hdigit | hmark
    · exact Lexer.isSeparator_eq_false (.inr hdigit)
    · simpa using List.all_eq_true.mp hmarks c hmark

theorem longest_of_longest? {text lexeme : List Char} {kind : Token.Kind}
    (h : longest? text = some (kind, lexeme)) : Longest text lexeme kind where
  isToken := isToken_of_longest? h
  start := (longest?_eq_some h).2
  length_le := by
    rintro other k ⟨rest, rfl⟩ hother
    obtain ⟨k', best, hbest, hle⟩ := hother.longest? rest
    rw [h] at hbest
    cases hbest
    exact hle

theorem startsNone_of_longest? {text : List Char} (h : longest? text = none) : StartsNone text := by
  rintro lexeme kind ⟨rest, rfl⟩ htoken
  obtain ⟨k, best, hbest, -⟩ := htoken.longest? rest
  rw [h] at hbest
  contradiction

/-- There is one longest token at most. -/
theorem Longest.unique {text lexeme lexeme' : List Char} {k k' : Token.Kind}
    (h : Longest text lexeme k) (h' : Longest text lexeme' k') : lexeme = lexeme' ∧ k = k' := by
  have hle := h'.length_le lexeme k h.start h.isToken
  have hge := h.length_le lexeme' k' h'.start h'.isToken
  have heq : lexeme = lexeme' :=
    (List.prefix_of_prefix_length_le h.start h'.start hle).eq_of_length (Nat.le_antisymm hle hge)
  subst heq
  exact ⟨rfl, h.isToken.unique h'.isToken⟩

/-! ### The steps of the lexer -/

theorem itemsFrom_error {c : Char} {rest : List Char} (here : Location)
    (hc : isSeparator c = false) (h : longest? (c :: rest) = none) :
    itemsFrom 0 here (c :: rest) = .error ⟨c, here⟩ :: itemsFrom 0 (here.after c rest) rest := by
  simp [itemsFrom, hc, h]

/-- What the lexer makes of `text` from `here` on, one rule a step: it passes over a separator,
takes the longest token, or takes a character that starts none. -/
inductive Scans : (here : Location) → (text : List Char) → List Item → Prop
  | done {here} : Scans here [] []
  | separator {here c rest items} :
      isSeparator c = true → Scans (here.after c rest) rest items → Scans here (c :: rest) items
  | token {here kind c lexeme rest items} :
      isSeparator c = false → longest? (c :: lexeme ++ rest) = some (kind, c :: lexeme) →
      Scans (here.through (c :: lexeme) rest) rest items →
      Scans here (c :: lexeme ++ rest) (.ok ⟨kind, String.ofList (c :: lexeme), here⟩ :: items)
  | error {here c rest items} :
      isSeparator c = false → longest? (c :: rest) = none → Scans (here.after c rest) rest items →
      Scans here (c :: rest) (.error ⟨c, here⟩ :: items)

theorem scans_itemsFrom (here : Location) (text : List Char) :
    Scans here text (itemsFrom 0 here text) := by
  -- The induction is on the length, since a token takes several characters at once.
  induction hlength : text.length using Nat.strongRecOn generalizing text here with
  | ind n ih =>
    rcases text with _ | ⟨c, rest⟩
    · exact .done
    have hshorter : rest.length < n := by simp [← hlength]
    by_cases hc : isSeparator c = true
    · rw [itemsFrom_separator here hc]
      exact .separator hc (ih rest.length hshorter _ rest rfl)
    · rw [Bool.not_eq_true] at hc
      cases hlongest : longest? (c :: rest) with
      | none =>
        rw [itemsFrom_error here hc hlongest]
        exact .error hc hlongest (ih rest.length hshorter _ rest rfl)
      | some best =>
        obtain ⟨kind, lexeme⟩ := best
        obtain ⟨hne, rest', hstart⟩ := longest?_eq_some hlongest
        obtain ⟨d, lexeme, rfl⟩ := List.exists_cons_of_ne_nil hne
        obtain ⟨rfl, rfl⟩ : d = c ∧ lexeme ++ rest' = rest := by simpa using hstart
        have hlonger : rest'.length < n := by
          rw [List.length_append] at hshorter
          omega
        rw [← List.cons_append] at hlongest ⊢
        rw [itemsFrom_token here hc hlongest]
        exact .token hc hlongest (ih rest'.length hlonger _ rest' rfl)

theorem Scans.isToken {here : Location} {text : List Char} {items : List Item}
    (h : Scans here text items) {token : Token} (htoken : .ok token ∈ items) :
    IsToken token.lexeme.toList token.kind := by
  induction h with
  | done => exact absurd htoken List.not_mem_nil
  | separator _ _ ih => exact ih htoken
  | token _ hlongest _ ih =>
    rcases List.mem_cons.mp htoken with heq | hmem
    · cases heq
      simpa using isToken_of_longest? hlongest
    · exact ih hmem
  | error _ _ _ ih => exact ih (by simpa using htoken)

theorem isToken_of_mem_items {source : String} {token : Token} (h : .ok token ∈ items source) :
    IsToken token.lexeme.toList token.kind :=
  (scans_itemsFrom .start source.toList).isToken h

/-! ### The division of a text -/

/-- What stands between items. -/
def IsGap (cs : List Char) : Prop := ∀ c ∈ cs, isSeparator c = true

/-- The items of `text`, when the characters `before` stand before it: gaps and items in turn, each
item at the place where its lexeme starts. -/
inductive Divided : (before text : List Char) → List Item → Prop
  | done {before gap} : IsGap gap → Divided before gap []
  | token {before gap lexeme rest kind location items} :
      IsGap gap → Longest (lexeme ++ rest) lexeme kind →
      location.offset = (String.ofList (before ++ gap)).utf8ByteSize →
      Divided (before ++ gap ++ lexeme) rest items →
      Divided before (gap ++ (lexeme ++ rest)) (.ok ⟨kind, String.ofList lexeme, location⟩ :: items)
  | error {before gap c rest location items} :
      IsGap gap → isSeparator c = false → StartsNone (c :: rest) →
      location.offset = (String.ofList (before ++ gap)).utf8ByteSize →
      Divided (before ++ gap ++ [c]) rest items →
      Divided before (gap ++ c :: rest) (.error ⟨c, location⟩ :: items)

theorem utf8ByteSize_append (cs ds : List Char) : (String.ofList (cs ++ ds)).utf8ByteSize =
    (String.ofList cs).utf8ByteSize + (String.ofList ds).utf8ByteSize := by
  rw [String.ofList_append, String.utf8ByteSize_append]

/-- The lexer divides what is left of a text after it has passed over a gap. -/
theorem divided_itemsFrom {before gap text : List Char} {here : Location} (hgap : IsGap gap)
    (hhere : here.offset = (String.ofList (before ++ gap)).utf8ByteSize) :
    Divided before (gap ++ text) (itemsFrom 0 here text) := by
  have hnil : IsGap [] := fun c hc => absurd hc List.not_mem_nil
  have hscans := scans_itemsFrom here text
  generalize itemsFrom 0 here text = items at hscans ⊢
  induction hscans generalizing before gap with
  | done =>
    rw [List.append_nil]
    exact .done hgap
  | @separator here c rest items hc _ ih =>
    have hmore : IsGap (gap ++ [c]) := by
      intro d hd
      rcases List.mem_append.mp hd with hd | hd
      · exact hgap d hd
      · rw [List.mem_singleton.mp hd]
        exact hc
    have hend := Location.offset_through here [c] rest
    rw [hhere, ← utf8ByteSize_append, List.append_assoc] at hend
    simpa using ih hmore hend
  | @token here kind c lexeme rest items _ hlongest _ ih =>
    have hend := Location.offset_through here (c :: lexeme) rest
    rw [hhere, ← utf8ByteSize_append] at hend
    refine .token hgap (longest_of_longest? hlongest) hhere (ih hnil ?_)
    rwa [List.append_nil]
  | @error here c rest items hc hlongest _ ih =>
    have hend := Location.offset_through here [c] rest
    rw [hhere, ← utf8ByteSize_append] at hend
    refine .error hgap hc (startsNone_of_longest? hlongest) hhere (ih hnil ?_)
    rwa [List.append_nil]

theorem divided_items (source : String) : Divided [] source.toList (items source) := by
  have hgap : IsGap [] := fun c hc => absurd hc List.not_mem_nil
  have hdivided : Divided [] ([] ++ source.toList) (items source) := divided_itemsFrom hgap rfl
  rwa [List.nil_append] at hdivided

/-- A text without items is a gap. -/
theorem Divided.isGap {before text : List Char} (h : Divided before text []) : IsGap text := by
  cases h
  assumption

/-! ### There is one division -/

/-- What an item is and where it starts, its line and column left aside. -/
def Item.summary : Item → Option Token.Kind × String × Nat
  | .ok token => (some token.kind, token.lexeme, token.location.offset)
  | .error e => (none, e.lexeme, e.location.offset)

theorem Longest.longest? {text lexeme : List Char} {kind : Token.Kind}
    (h : Longest text lexeme kind) : Lexer.longest? text = some (kind, lexeme) := by
  obtain ⟨rest, rfl⟩ := h.start
  obtain ⟨k, best, hbest, -⟩ := h.isToken.longest? rest
  obtain ⟨rfl, rfl⟩ := h.unique (longest_of_longest? hbest)
  exact hbest

theorem StartsNone.longest? {text : List Char} (h : StartsNone text) :
    Lexer.longest? text = none := by
  cases hbest : Lexer.longest? text with
  | none => rfl
  | some best =>
    have hlongest := longest_of_longest? hbest
    exact absurd hlongest.isToken (h _ _ hlongest.start)

theorem itemsFrom_gap {gap : List Char} (hgap : IsGap gap) (text : List Char) (here : Location) :
    itemsFrom 0 here (gap ++ text) = itemsFrom 0 (here.through gap text) text := by
  induction gap generalizing here with
  | nil => rfl
  | cons c gap ih =>
    have hc : isSeparator c = true := hgap c (by simp)
    rw [List.cons_append, itemsFrom_separator here hc]
    exact ih (fun d hd => hgap d (by simp [hd])) _

theorem Divided.summary_eq {before text : List Char} {items : List Item}
    (h : Divided before text items) {here : Location}
    (hhere : here.offset = (String.ofList before).utf8ByteSize) :
    items.map Item.summary = (itemsFrom 0 here text).map Item.summary := by
  induction h generalizing here with
  | @done before gap hgap =>
    rw [← List.append_nil gap, itemsFrom_gap hgap]
    rfl
  | @token before gap lexeme rest kind location items hgap hlongest hlocation _ ih =>
    have hstart : (here.through gap (lexeme ++ rest)).offset = location.offset := by
      rw [Location.offset_through, hhere, hlocation, utf8ByteSize_append]
    obtain ⟨c, lexeme, rfl⟩ := List.exists_cons_of_ne_nil hlongest.isToken.ne_nil
    have hc : isSeparator c = false := hlongest.isToken.isSeparator_eq_false c List.mem_cons_self
    have hend := Location.offset_through (here.through gap (c :: lexeme ++ rest)) (c :: lexeme) rest
    rw [hstart, hlocation, ← utf8ByteSize_append] at hend
    rw [itemsFrom_gap hgap, itemsFrom_token _ hc hlongest.longest?, List.map_cons, List.map_cons,
      ih hend]
    simp only [Item.summary, hstart]
  | @error before gap c rest location items hgap hc hnone hlocation _ ih =>
    have hstart : (here.through gap (c :: rest)).offset = location.offset := by
      rw [Location.offset_through, hhere, hlocation, utf8ByteSize_append]
    have hend := Location.offset_through (here.through gap (c :: rest)) [c] rest
    rw [hstart, hlocation, ← utf8ByteSize_append] at hend
    rw [itemsFrom_gap hgap, itemsFrom_error _ hc hnone.longest?, List.map_cons, List.map_cons,
      ih hend]
    simp only [Item.summary, hstart]
    rfl

/-- The items of a source text divide it: separators and lexemes in turn make up the text, every
item is where its lexeme starts, every token is the longest one that the rest of the text starts
with, and a character is an error exactly where the rest starts with no token.  No other items do,
their lines and columns left aside. -/
theorem items_divided (source : String) :
    Divided [] source.toList (items source) ∧
      ∀ other, Divided [] source.toList other →
        other.map Item.summary = (items source).map Item.summary := by
  constructor
  · have hgap : IsGap [] := fun c hc => absurd hc List.not_mem_nil
    exact divided_itemsFrom hgap rfl
  · intro other h
    exact h.summary_eq rfl

end Lexer

end Formula
