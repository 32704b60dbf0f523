import Formula.Proofs.Grammar.Adjacency
import Formula.Proofs.Token.Gaps
import Formula.Proofs.Tree.RoundTrip

/-! What the spaces of a source text mean for its tree.  Where some stand already they may be
changed in any way, since the kinds of the tokens stay the same.  They may be removed, too, from a
text that has a tree: tokens that stand next to each other in an expression are never taken for
one. -/

namespace Formula

namespace Lexer

/-- The kind of an item that is a token. -/
def Item.kind? (item : Item) : Option Token.Kind := (summary item).1

theorem kinds_summary (items : List Item) :
    (items.map Item.summary).map Prod.fst = items.map Item.kind? := by
  rw [List.map_map]
  rfl

theorem kinds_summaryAfter (bytes : Nat) (items : List Item) :
    (items.map (Item.summaryAfter bytes)).map Prod.fst = items.map Item.kind? := by
  rw [List.map_map]
  rfl

theorem kinds_map_ok (tokens : List Token) :
    (tokens.map .ok).map Item.kind? = (tokens.map Token.kind).map some := by
  rw [List.map_map, List.map_map]
  rfl

theorem exists_tokens_of_kinds {items : List Item} {ks : List Token.Kind}
    (h : items.map Item.kind? = ks.map some) :
    ∃ tokens : List Token, items = tokens.map .ok ∧ tokens.map Token.kind = ks := by
  induction items generalizing ks with
  | nil =>
    obtain rfl := List.map_eq_nil_iff.mp h.symm
    exact ⟨[], rfl, rfl⟩
  | cons item items ih =>
    obtain ⟨k, ks, rfl, hk, hks⟩ := List.map_eq_cons_iff.mp h.symm
    obtain ⟨tokens, rfl, rfl⟩ := ih hks.symm
    cases item with
    | error e => contradiction
    | ok token =>
      obtain rfl : k = token.kind := Option.some.inj hk
      exact ⟨token :: tokens, rfl, rfl⟩

/-- What the tokens of a text are does not depend on where it stands. -/
theorem Spells.of_kinds {source : String} {ks : List Token.Kind}
    (h : (items source).map Item.kind? = ks.map some) : Spells source.toList ks := by
  intro here
  have hhere : here.offset = here.offset + Location.start.offset := rfl
  have hsame := (scans_itemsFrom .start source.toList).summary_append startsGap_nil hhere
  have hkinds := congrArg (List.map Prod.fst) hsame
  rw [List.append_nil, List.map_append, kinds_summary, kinds_summary, kinds_summaryAfter] at hkinds
  refine exists_tokens_of_kinds (hkinds.trans ?_)
  rw [← h]
  exact List.append_nil _

/-! ### Tokens without separators between them -/

/-- A text starts with a separator or with its first token. -/
theorem Spells.head {c : Char} {cs : List Char} {ks : List Token.Kind} (h : Spells (c :: cs) ks) :
    isSeparator c = true ∨ ∃ lexeme kind, IsToken (c :: lexeme) kind ∧ ks.head? = some kind := by
  obtain ⟨tokens, hitems, rfl⟩ := h .start
  have hscans := scans_itemsFrom .start (c :: cs)
  generalize htext : c :: cs = text at hscans hitems
  generalize itemsFrom 0 .start text = items at hscans hitems
  cases hscans with
  | done => contradiction
  | separator hc _ =>
    cases htext
    exact .inl hc
  | token _ hlongest _ =>
    cases htext
    obtain ⟨token, tokens, rfl, htoken, -⟩ := List.map_eq_cons_iff.mp hitems.symm
    cases htoken
    exact .inr ⟨_, _, isToken_of_longest? hlongest, rfl⟩
  | error =>
    obtain ⟨token, tokens, rfl, htoken, -⟩ := List.map_eq_cons_iff.mp hitems.symm
    contradiction

/-- The characters that a text goes on with after a factor. -/
def ending : List Char := [' ', '\t', '\r', '\n', '\x0c', '+', '-', '*', '/', '^', ')', ']']

theorem mem_ending_of_isSeparator {c : Char} (hc : isSeparator c = true) : c ∈ ending := by
  simp only [isSeparator, Bool.or_eq_true, decide_eq_true_eq] at hc
  rcases hc with (((rfl | rfl) | rfl) | rfl) | rfl <;> decide

theorem mem_ending_of_isToken {c : Char} {lexeme : List Char} {kind : Token.Kind}
    (h : IsToken (c :: lexeme) kind) (hleaves : kind.leavesFactor = true) : c ∈ ending := by
  have hall : ∀ kind ∈ Token.Kind.fixed, kind.leavesFactor = true →
      kind.symbol.toList.head?.all ending.contains = true := by
    decide +kernel
  generalize hchars : c :: lexeme = cs at h
  cases h with
  | fixed hkind =>
    have hhead := hall kind hkind hleaves
    rw [← hchars] at hhead
    exact List.contains_iff_mem.mp hhead
  | number | letter => contradiction

theorem ends_of_mem_ending {c : Char} (hc : c ∈ ending) (rest : List Char) :
    Numeral.Ends (c :: rest) := by
  have hall : ending.all (fun c => !c.isDigit && c != '.' && c != 'e' && c != 'E') = true := by
    decide
  rintro d ⟨rfl⟩
  simpa [and_assoc] using List.all_eq_true.mp hall c hc

theorem isAlpha_of_mem_ending {c : Char} (hc : c ∈ ending) : c.isAlpha = false := by
  have hall : ending.all (fun c => !c.isAlpha) = true := by decide
  simpa using List.all_eq_true.mp hall c hc

variable {settings : Settings} {cs : List Char} {ks : List Token.Kind}

theorem Spells.ends_number {value : Double} (h : Spells cs ks)
    (hnext : ∀ next ∈ ks.head?, Grammar.Adjoins settings (.number value) next) :
    Numeral.Ends cs := by
  cases cs with
  | nil => rintro c ⟨⟩
  | cons c cs =>
    apply ends_of_mem_ending
    rcases h.head with hc | ⟨lexeme, kind, htoken, hkind⟩
    · exact mem_ending_of_isSeparator hc
    · exact mem_ending_of_isToken htoken (hnext kind hkind).leaves_number

theorem Spells.ends_letter {name : String} (h : Spells cs ks)
    (hnext : ∀ next ∈ ks.head?, Grammar.Adjoins settings (.letter name) next) :
    ∀ c ∈ cs.head?, c.isAlpha = false := by
  cases cs with
  | nil => rintro c ⟨⟩
  | cons c cs =>
    rintro d ⟨rfl⟩
    rcases h.head with hc | ⟨lexeme, kind, htoken, hkind⟩
    · exact isAlpha_of_mem_ending (mem_ending_of_isSeparator hc)
    rcases (hnext kind hkind).leaves_letter with hleaves | ⟨value, rfl⟩
    · exact isAlpha_of_mem_ending (mem_ending_of_isToken htoken hleaves)
    · obtain ⟨n, hliteral, -⟩ := htoken.exists_literal
      obtain ⟨d, rest, hchars, hd⟩ := hliteral.exists_head
      obtain ⟨rfl, -⟩ := List.cons.inj hchars
      rw [← Bool.not_eq_true]
      intro hletter
      rcases hd with hdigit | rfl
      · rw [isDigit_eq_false hletter] at hdigit
        contradiction
      · contradiction

/-- Tokens that may stand next to each other are read as they are with nothing between them. -/
theorem Scans.spells_append {here : Location} {text : List Char} {items : List Item}
    (h : Scans here text items) {tokens : List Token} (hitems : items = tokens.map .ok)
    (hchain : (tokens.map Token.kind ++ ks).IsChain (Grammar.Adjoins settings))
    (hmore : Spells cs ks) : Spells (text ++ cs) (tokens.map Token.kind ++ ks) := by
  induction h generalizing tokens with
  | done =>
    obtain rfl := List.map_eq_nil_iff.mp hitems.symm
    exact hmore
  | separator hc _ ih => exact .separator hc (ih hitems hchain)
  | @token _ kind c lexeme rest items hc hlongest _ ih =>
    obtain ⟨token, tokens, rfl, htoken, hrest⟩ := List.map_eq_cons_iff.mp hitems.symm
    cases htoken
    obtain ⟨hnext, hchain⟩ := List.isChain_cons.mp hchain
    -- All that follows the lexeme is known to be read before the lexeme is.
    have hspells := ih hrest.symm hchain
    have hnumber : ∀ value, kind = .number value → Numeral.Ends (rest ++ cs) := by
      rintro value rfl
      exact hspells.ends_number hnext
    have hletter : ∀ name, kind = .letter name → ∀ d ∈ (rest ++ cs).head?, d.isAlpha = false := by
      rintro name rfl
      exact hspells.ends_letter hnext
    have hlexeme := (isToken_of_longest? hlongest).longest?_append (rest ++ cs) hnumber hletter
    rw [List.append_assoc]
    refine .token hlexeme ?_ hspells
    rintro d ⟨rfl⟩
    exact hc
  | error =>
    obtain ⟨token, tokens, rfl, htoken, -⟩ := List.map_eq_cons_iff.mp hitems.symm
    contradiction

end Lexer

namespace Source

open Lexer (IsGap Item items)

variable {settings : Settings} {bindings : Bindings}

theorem parse_eq_ok_of_kinds {source other : String} {t : Option Tree}
    (hkinds : (items source).map Item.kind? = (items other).map Item.kind?)
    (h : parse settings bindings source = .ok t) : parse settings bindings other = .ok t := by
  obtain ⟨tokens, hitems, hparse⟩ := parse_eq_ok_iff_exists.mp h
  rw [hitems, Lexer.kinds_map_ok] at hkinds
  obtain ⟨tokens', hitems', hsame⟩ := Lexer.exists_tokens_of_kinds hkinds.symm
  exact parse_eq_ok_iff_exists.mpr ⟨tokens', hitems',
    Grammar.parse_eq_ok_of_kinds hsame.symm hparse⟩

/-- Texts whose tokens are of the same kinds have the same tree, or both have none. -/
theorem toOption_parse_eq {source other : String}
    (hkinds : (items source).map Item.kind? = (items other).map Item.kind?) :
    (parse settings bindings source).toOption = (parse settings bindings other).toOption := by
  cases hsource : parse settings bindings source with
  | ok t => rw [parse_eq_ok_of_kinds hkinds hsource]
  | error e =>
    cases hother : parse settings bindings other with
    | error e' => rfl
    | ok t =>
      rw [parse_eq_ok_of_kinds hkinds.symm hother] at hsource
      contradiction

theorem kinds_append_gap (s t : String) {gap : String} (hgap : IsGap gap.toList)
    (hne : gap ≠ "") : (items (s ++ gap ++ t)).map Item.kind? =
      (items s).map Item.kind? ++ (items t).map Item.kind? := by
  have hkinds := congrArg (List.map Prod.fst) (Lexer.items_append_gap s t hgap hne)
  rwa [List.map_append, Lexer.kinds_summary, Lexer.kinds_summary, Lexer.kinds_summaryAfter]
    at hkinds

/-- A text that has a tree keeps it when a gap in it is closed. -/
theorem parse_append {s gap t : String} {tree : Option Tree} (hgap : IsGap gap.toList)
    (hne : gap ≠ "") (h : parse settings bindings (s ++ gap ++ t) = .ok tree) :
    parse settings bindings (s ++ t) = .ok tree := by
  obtain ⟨tokens, hitems, hparse⟩ := parse_eq_ok_iff_exists.mp h
  have hkinds := kinds_append_gap s t hgap hne
  rw [hitems, Lexer.kinds_map_ok] at hkinds
  obtain ⟨ks, ls, hsplit, hs, ht⟩ := List.map_eq_append_iff.mp hkinds
  obtain ⟨tokens', hread, rfl⟩ := Lexer.exists_tokens_of_kinds hs.symm
  have hchain := Grammar.isChain_of_parse hparse
  rw [hsplit] at hchain
  have hspells := (Lexer.scans_itemsFrom .start s.toList).spells_append hread hchain
    (.of_kinds ht.symm)
  obtain ⟨closed, hclosed, hsame⟩ := hspells .start
  have hitems' : items (s ++ t) = closed.map .ok := by
    rw [items, String.toList_append, hclosed]
  exact parse_eq_ok_iff_exists.mpr ⟨closed, hitems',
    Grammar.parse_eq_ok_of_kinds (hsplit.trans hsame.symm) hparse⟩

/-- A gap between two texts cuts the items of the whole into those of the one and those of the
other, which start as many bytes later as stand before it.  So another gap in its place leaves the
tree as it is, or leaves none; closing the gap keeps a tree that there is; and a gap before or after
a text changes nothing. -/
theorem parse_append_gap (s t : String) {gap : String} (hgap : IsGap gap.toList) (hne : gap ≠ "") :
    (items (s ++ gap ++ t)).map Item.summary =
        (items s).map Item.summary ++
          (items t).map (Item.summaryAfter (s ++ gap).utf8ByteSize) ∧
      ∀ settings bindings,
        (∀ other : String, IsGap other.toList → other ≠ "" →
          (parse settings bindings (s ++ other ++ t)).toOption =
            (parse settings bindings (s ++ gap ++ t)).toOption) ∧
        (∀ tree, parse settings bindings (s ++ gap ++ t) = .ok tree →
          parse settings bindings (s ++ t) = .ok tree) ∧
        (parse settings bindings (gap ++ t)).toOption = (parse settings bindings t).toOption ∧
        (parse settings bindings (s ++ gap)).toOption = (parse settings bindings s).toOption := by
  refine ⟨Lexer.items_append_gap s t hgap hne, fun settings bindings => ⟨?_, ?_, ?_, ?_⟩⟩
  · intro other hother hne'
    apply toOption_parse_eq
    rw [kinds_append_gap s t hother hne', kinds_append_gap s t hgap hne]
  · intro tree
    exact parse_append hgap hne
  · apply toOption_parse_eq
    have hkinds := kinds_append_gap "" t hgap hne
    rw [String.empty_append] at hkinds
    exact hkinds
  · apply toOption_parse_eq
    have hkinds := kinds_append_gap s "" hgap hne
    rw [String.append_empty] at hkinds
    exact hkinds.trans (List.append_nil _)

/-- With the gap in it, what would be one number is a number, a letter, a sign and a number. -/
theorem parse_append_gap_exponent :
    let gap := "\r\n"
    let tree : Tree := .binary .add
      (.binary .multiply (.number ⟨0x4000000000000000⟩) (.letter "e"))
      (.number ⟨0x4014000000000000⟩)
    IsGap gap.toList ∧ gap ≠ "" ∧
      (items ("1e" ++ gap ++ "+5")).map Item.summary =
        [(some (.number ⟨0x3ff0000000000000⟩), "1", 0), (some (.letter "e"), "e", 1),
          (some (.operator .add), "+", 4), (some (.number ⟨0x4014000000000000⟩), "5", 5)] ∧
      parse {} {} ("2*e" ++ gap ++ "+5") = .ok (some tree) ∧
      parse {} {} ("2*e" ++ "+5") = .ok (some tree) := by
  intro gap tree
  have hgap : IsGap gap.toList := by
    have hall : gap.toList.all Lexer.isSeparator = true := by decide +kernel
    exact List.all_eq_true.mp hall
  have hne : gap ≠ "" := by decide
  have hread : Lexer.untilError (items ("2*e" ++ gap ++ "+5")) =
      ([⟨.number ⟨0x4000000000000000⟩, "2", ⟨1, 1, 0⟩⟩, ⟨.operator .multiply, "*", ⟨1, 2, 1⟩⟩,
        ⟨.letter "e", "e", ⟨1, 3, 2⟩⟩, ⟨.operator .add, "+", ⟨2, 1, 5⟩⟩,
        ⟨.number ⟨0x4014000000000000⟩, "5", ⟨2, 2, 6⟩⟩], none) := by
    decide +kernel
  have hparse : parse {} {} ("2*e" ++ gap ++ "+5") = .ok (some tree) := by
    rw [parse_of_untilError _ _ hread]
    rfl
  obtain ⟨hitems, -⟩ := parse_append_gap "1e" "+5" hgap hne
  obtain ⟨-, htrees⟩ := parse_append_gap "2*e" "+5" hgap hne
  obtain ⟨-, hclosed, -⟩ := htrees {} {}
  exact ⟨hgap, hne, hitems.trans (by decide +kernel), hparse, hclosed _ hparse⟩

/-- A gap that is closed may also make a tree where there was none. -/
example : (parse {} {} "1 2").toOption = none ∧
    (parse {} {} "12").toOption = some (some (.number ⟨0x4028000000000000⟩)) := by
  decide +kernel

end Source

end Formula
