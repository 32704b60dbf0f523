import Formula.Proofs.Token.Gaps
import Formula.Proofs.Tree.Printed

/-! Tokens are read back from their symbols.  The symbol of a token is one token by itself, however
long the text of a number is; with separators between the symbols nothing of one is taken for a part
of the next, so any sequence of tokens comes back from a text of its symbols. -/

namespace Formula

/-- Whether the symbol of a token is read as the token: a number has to be finite and without sign,
and a name a single letter. -/
def Token.Kind.isReadable : Kind → Bool
  | .number value => value.isFinite && !value.negative
  | .letter name => isLetterName name
  | _ => true

namespace Lexer

/-- The symbols of tokens in their order, with a gap between every two neighbours. -/
inductive Joined : List Token.Kind → String → Prop
  | nil : Joined [] ""
  | one (k : Token.Kind) : Joined [k] k.symbol
  | more {k next ks gap text} : IsGap gap.toList → gap ≠ "" → Joined (next :: ks) text →
      Joined (k :: next :: ks) (k.symbol ++ gap ++ text)

theorem isToken_number_text {v : Double} (hv : v.isFinite = true) (hsign : v.negative = false) :
    IsToken v.text.toList (.number v) := by
  have hends : Numeral.Ends [] := by rintro c ⟨⟩
  have hscan := Double.scan?_text hv hsign hends
  rw [List.append_nil] at hscan
  have hlongest := longest?_of_scan? hscan
  rw [Double.value_plain hv] at hlongest
  exact isToken_of_longest? hlongest

theorem isToken_symbol {k : Token.Kind} (h : k.isReadable = true) :
    IsToken k.symbol.toList k := by
  cases k with
  | number v =>
    obtain ⟨hv, hsign⟩ := Bool.and_eq_true_iff.mp h
    exact isToken_number_text hv (Bool.not_eq_true' _ ▸ hsign)
  | letter name =>
    obtain ⟨c, hc, rfl⟩ := exists_char_of_isLetterName h
    show IsToken c.toString.toList _
    have hchars : c.toString.toList = [c] := by simp
    rw [hchars]
    exact .letter hc
  | operator op => exact .fixed (by cases op <;> decide)
  | opening d | closing d => exact .fixed (by cases d <;> decide)
  | function f => exact .fixed (by cases f <;> decide)

/-- A token by itself is the only item of its text. -/
theorem IsToken.items_eq {text : String} {k : Token.Kind} (h : IsToken text.toList k) :
    items text = [.ok ⟨k, text, .start⟩] := by
  obtain ⟨c, lexeme, hchars⟩ := List.exists_cons_of_ne_nil h.ne_nil
  have hc : isSeparator c = false := h.isSeparator_eq_false c (by simp [hchars])
  have hlongest := h.longest?_self
  rw [hchars, ← List.append_nil (c :: lexeme)] at hlongest
  rw [items, hchars, ← List.append_nil (c :: lexeme)]
  rw [itemsFrom_token .start hc (by simpa using hlongest)]
  simp [itemsFrom, ← hchars]

/-- What an item is and the text it was read from, its place left aside. -/
def Item.reading (item : Item) : Option Token.Kind × String := (item.summary.1, item.summary.2.1)

theorem readings_append_gap (s t : String) {gap : String} (hgap : IsGap gap.toList)
    (hne : gap ≠ "") : (items (s ++ gap ++ t)).map Item.reading =
      (items s).map Item.reading ++ (items t).map Item.reading := by
  have hitems := congrArg (List.map fun summary => (summary.1, summary.2.1))
    (items_append_gap s t hgap hne)
  rw [List.map_append, List.map_map, List.map_map, List.map_map] at hitems
  exact hitems

/-- The items of a text of symbols are the tokens, each read from its symbol. -/
theorem Joined.readings {ks : List Token.Kind} {text : String} (h : Joined ks text)
    (hks : ∀ k ∈ ks, k.isReadable = true) :
    (items text).map Item.reading = ks.map fun k => (some k, k.symbol) := by
  induction h with
  | nil => rfl
  | one k =>
    have htoken := isToken_symbol (hks k List.mem_cons_self)
    rw [htoken.items_eq]
    rfl
  | @more k next ks gap text hgap hne _ ih =>
    obtain ⟨hk, hrest⟩ := List.forall_mem_cons.mp hks
    rw [readings_append_gap k.symbol text hgap hne, ih hrest, (isToken_symbol hk).items_eq]
    rfl

theorem exists_tokens_of_readings {items : List Item} {ks : List Token.Kind}
    (h : items.map Item.reading = ks.map fun k => (some k, k.symbol)) :
    ∃ tokens : List Token, items = tokens.map .ok ∧
      tokens.map Token.kind = ks ∧ ∀ t ∈ tokens, t.lexeme = t.kind.symbol := by
  induction items generalizing ks with
  | nil =>
    obtain rfl := List.map_eq_nil_iff.mp h.symm
    exact ⟨[], rfl, rfl, by simp⟩
  | cons item items ih =>
    obtain ⟨k, ks, rfl, hk, hks⟩ := List.map_eq_cons_iff.mp h.symm
    obtain ⟨tokens, rfl, rfl, hlexemes⟩ := ih hks.symm
    cases item with
    | error e => exact absurd (congrArg Prod.fst hk) (by simp [Item.reading, Item.summary])
    | ok token =>
      obtain ⟨hkind, hlexeme⟩ := Prod.mk.inj hk
      obtain rfl : k = token.kind := Option.some.inj hkind
      exact ⟨token :: tokens, rfl, rfl, List.forall_mem_cons.mpr ⟨hlexeme.symm, hlexemes⟩⟩

/-- The symbols of tokens, with separators between neighbours, are read as these tokens and no
others, in their order and each from the whole of its symbol. -/
theorem tokenize_joined {ks : List Token.Kind} {text : String}
    (hks : ∀ k ∈ ks, k.isReadable = true) (h : Joined ks text) :
    ∃ tokens, tokenize text = .ok tokens ∧ tokens.map Token.kind = ks ∧
      ∀ t ∈ tokens, t.lexeme = t.kind.symbol := by
  obtain ⟨tokens, hitems, hkinds, hlexemes⟩ := exists_tokens_of_readings (h.readings hks)
  refine ⟨tokens, ?_, hkinds, hlexemes⟩
  rw [tokenize, hitems, untilError_map_ok]

/-- Without the separators `ccos` would be two letters and a name, and `5e-1` one number. -/
theorem tokenize_joined_exponent :
    let ks : List Token.Kind := [.letter "c", .function .cos, .number ⟨0x4014000000000000⟩,
      .letter "e", .operator .subtract, .number ⟨0x3ff0000000000000⟩]
    let text := "c\tcos\r\n5 e\x0c-\n1"
    (∀ k ∈ ks, k.isReadable = true) ∧ Joined ks text ∧
      ∃ tokens, tokenize text = .ok tokens ∧ tokens.map Token.kind = ks ∧
        ∀ t ∈ tokens, t.lexeme = t.kind.symbol := by
  intro ks text
  have hks : ∀ k ∈ ks, k.isReadable = true := by decide +kernel
  have hgap : ∀ gap ∈ ["\t", "\r\n", " ", "\x0c", "\n"], IsGap gap.toList ∧ gap ≠ "" := by
    have hall : ["\t", "\r\n", " ", "\x0c", "\n"].all
        (fun gap => gap.toList.all isSeparator && gap != "") = true := by decide +kernel
    simpa [IsGap] using hall
  have more : ∀ {k next ks text} gap, gap ∈ ["\t", "\r\n", " ", "\x0c", "\n"] →
      Joined (next :: ks) text → Joined (k :: next :: ks) (k.symbol ++ gap ++ text) :=
    fun gap hmem h => .more (hgap gap hmem).1 (hgap gap hmem).2 h
  have hsymbols : Joined ks _ := more "\t" (by simp) (more "\r\n" (by simp) (more " " (by simp)
    (more "\x0c" (by simp) (more "\n" (by simp) (.one _)))))
  have h : Joined ks text := by
    refine (congrArg (Joined ks) ?_).mp hsymbols
    decide +kernel
  exact ⟨hks, h, tokenize_joined hks h⟩

end Lexer

end Formula
