import Formula.Proofs.Token.Munch
import Formula.Proofs.Token.Placement
import Formula.Proofs.Tree.Document
import Formula.Proofs.Tree.RoundTrip

/-! Trees that come from source text.  No token of a text carries a sign and every name in it is a
letter, so the tree of a text can be printed and read again, provided that its numbers are finite.
The text printed has parentheses that the source need not have had; they count against the limit on
nesting, and only there can the tree be lost. -/

namespace Formula

/-- Whether a token of this kind can stand in a source text. -/
def Token.Kind.isWritten : Kind → Bool
  | .number value => !value.negative
  | .letter name => isLetterName name
  | _ => true

/-! ### Tokens -/

namespace Decimal.Rounds

variable {d : Decimal} {m : Nat}

theorem le_infinite (h : d.Rounds m) : m ≤ Double.infinite := by
  obtain ⟨r, -, rfl⟩ := h
  exact Nat.min_le_left _ r

theorem lt_signBit (h : d.Rounds m) : m < Double.signBit :=
  Nat.lt_of_le_of_lt h.le_infinite (by decide)

/-- Rounding leads to no NaN. -/
theorem isNaN_eq_false (h : d.Rounds m) (negative : Bool) :
    (Double.ofMagnitude negative m).isNaN = false := by
  rw [Double.isNaN, Double.magnitude_ofMagnitude negative h.lt_signBit]
  exact decide_eq_false (Nat.not_lt.mpr h.le_infinite)

end Decimal.Rounds

namespace Lexer

theorem isWritten_fixed : ∀ kind ∈ Token.Kind.fixed, kind.isWritten = true := by decide

theorem IsToken.isWritten {lexeme : List Char} {kind : Token.Kind} (h : IsToken lexeme kind) :
    kind.isWritten = true := by
  cases h with
  | fixed hkind => exact isWritten_fixed kind hkind
  | number _ hm =>
    have hsign := Double.negative_ofMagnitude false hm.lt_signBit
    simp [Token.Kind.isWritten, hsign]
  | letter hc => simpa [Token.Kind.isWritten, isLetterName] using hc

theorem isWritten_of_mem_items {source : String} {token : Token} (h : .ok token ∈ items source) :
    token.kind.isWritten = true :=
  (isToken_of_mem_items h).isWritten

end Lexer

/-! ### Trees -/

namespace Grammar

variable {settings : Settings} {p : Phrase} {ks : List Token.Kind} {t : Tree} {n : Nat}

/-- Numbers without sign have no signs to set apart. -/
theorem Derives.signsApart_eq (h : Derives settings {} p ks t n)
    (hks : ∀ k ∈ ks, k.isWritten = true) : t.signsApart = t := by
  induction h with
  | first _ ih | base _ ih => exact ih hks
  | more _ _ _ ihl ihr | exponent _ _ ihl ihr =>
    obtain ⟨hleft, hrest⟩ := List.forall_mem_append.mp hks
    have hright := (List.forall_mem_cons.mp hrest).2
    rw [Tree.signsApart, ihl hleft, ihr hright]
  | group _ _ ih =>
    obtain ⟨hopened, -⟩ := List.forall_mem_append.mp hks
    exact ih (List.forall_mem_cons.mp hopened).2
  | number value =>
    have hsign : value.negative = false := by
      simpa [Token.Kind.isWritten] using hks (.number value) (by simp)
    simp [Tree.signsApart, hsign]
  | letter name => rfl
  | indexed => rfl
  | prefixed op _ ih =>
    rw [Tree.signsApart, ih (List.forall_mem_cons.mp hks).2]

/-- The tree of written tokens can be printed, if its numbers are finite. -/
theorem Derives.isReadable (h : Derives settings {} p ks t n)
    (hks : ∀ k ∈ ks, k.isWritten = true) (hfinite : ∀ v ∈ t.numbers, v.isFinite = true) :
    t.isReadable settings = true := by
  induction h with
  | first _ ih | base _ ih => exact ih hks hfinite
  | more _ _ _ ihl ihr | exponent _ _ ihl ihr =>
    obtain ⟨hleft, hrest⟩ := List.forall_mem_append.mp hks
    obtain ⟨hfinitel, hfiniter⟩ := List.forall_mem_append.mp hfinite
    have hright := (List.forall_mem_cons.mp hrest).2
    rw [Tree.isReadable, ihl hleft hfinitel, ihr hright hfiniter]
    rfl
  | group _ _ ih =>
    obtain ⟨hopened, -⟩ := List.forall_mem_append.mp hks
    exact ih (List.forall_mem_cons.mp hopened).2 hfinite
  | number value => exact hfinite value (by simp [Tree.numbers])
  | letter name => exact hks (.letter name) (by simp)
  | indexed name value hindexed =>
    have hname : isLetterName name = true := hks (.letter name) (by simp)
    have hsign : value.negative = false := by
      simpa [Token.Kind.isWritten] using hks (.number value) (by simp)
    have hvalue : value.isFinite = true := hfinite value (by simp [Tree.numbers])
    simp [Tree.isReadable, hindexed, hname, hvalue, hsign]
  | prefixed op _ ih =>
    exact ih (List.forall_mem_cons.mp hks).2 hfinite

end Grammar

namespace Source

/-- A text without lexical errors is parsed as its tokens, all of which can be written. -/
theorem exists_tokens_of_parse {settings : Settings} {bindings : Bindings} {source : String}
    {t : Tree} (h : parse settings bindings source = .ok (some t)) :
    ∃ tokens, (∀ token ∈ tokens, token.kind.isWritten = true) ∧
      Grammar.parse settings bindings tokens = .ok (some t) := by
  obtain ⟨tokens, hitems, hparse⟩ := parse_eq_ok_iff_exists.mp h
  refine ⟨tokens, fun token htoken => ?_, hparse⟩
  have hmem : .ok token ∈ Lexer.items source := by
    rw [hitems]
    exact List.mem_map_of_mem htoken
  exact Lexer.isWritten_of_mem_items hmem

/-- The tree of a source text whose numbers are finite is printed as a text that parses to the same
tree under the same settings, if that text nests no deeper than they allow; a text that does is
refused by a limit. -/
theorem parse_render_of_parse {settings : Settings} {source : String} {t : Tree}
    (h : parse settings {} source = .ok (some t)) (hfinite : ∀ v ∈ t.numbers, v.isFinite = true) :
    (t.nesting settings ≤ settings.maxDepth → parse settings {} t.render = .ok (some t)) ∧
    (settings.maxDepth < t.nesting settings →
      ∃ limit location, (limit = settings.maxDepth ∨ limit = settings.maxTreeDepth) ∧
        parse settings {} t.render = .error (.grammatical (.nestingTooDeep limit location))) := by
  obtain ⟨tokens, hwritten, hparse⟩ := exists_tokens_of_parse h
  obtain ⟨n, -, hderives, hfits⟩ := Grammar.derives_of_parse hparse
  have hks : ∀ k ∈ tokens.map Token.kind, k.isWritten = true := by simpa using hwritten
  have ht : t.isReadable settings = true := hderives.isReadable hks hfinite
  -- The text printed has other tokens than the source, and their derivation has the same tree.
  have hspells : Lexer.Spells (t.render.toList ++ []) (t.kinds ++ []) :=
    .render ht (by simp [Tree.Ends]) .nil
  rw [List.append_nil, List.append_nil] at hspells
  obtain ⟨printed, hkinds, hagain⟩ := parse_of_spells settings {} hspells
  have hprinted := (Grammar.derives_kinds ht).expression
  rw [← hkinds, hderives.signsApart_eq hks] at hprinted
  rw [hagain]
  constructor
  · intro hn
    rw [hprinted.parse.1 hn hfits]
    rfl
  · intro hn
    have hbeyond : ¬(t.nesting settings ≤ settings.maxDepth ∧ t.Fits settings) := by
      rintro ⟨hle, -⟩
      omega
    obtain ⟨limit, location, hlimit, herror⟩ := hprinted.parse.2 hbeyond
    exact ⟨limit, location, hlimit, by rw [herror]; rfl⟩

/-- A number written with more digits than it needs. -/
theorem parse_render_of_parse_sum :
    let t : Tree := .binary .add (.letter "x")
      (.binary .multiply (.number ⟨0x4004000000000000⟩) (.letter "y"))
    parse {} {} "x+2.50*y" = .ok (some t) ∧ (∀ v ∈ t.numbers, v.isFinite = true) ∧
      parse {} {} t.render = .ok (some t) := by
  intro t
  have hread : Lexer.untilError (Lexer.items "x+2.50*y") =
      ([⟨.letter "x", "x", ⟨1, 1, 0⟩⟩, ⟨.operator .add, "+", ⟨1, 2, 1⟩⟩,
        ⟨.number ⟨0x4004000000000000⟩, "2.50", ⟨1, 3, 2⟩⟩,
        ⟨.operator .multiply, "*", ⟨1, 7, 6⟩⟩, ⟨.letter "y", "y", ⟨1, 8, 7⟩⟩], none) := by
    decide +kernel
  have h : parse {} {} "x+2.50*y" = .ok (some t) := by
    rw [parse_of_untilError _ _ hread]
    rfl
  have hfinite : ∀ v ∈ t.numbers, v.isFinite = true := by decide
  exact ⟨h, hfinite, (parse_render_of_parse h hfinite).1 (by decide)⟩

/-- The limit counts the parentheses that are printed: a sum of three letters nests nowhere, and its
text nests twice. -/
theorem not_parse_render_of_parse :
    ¬∀ (settings : Settings) (source : String) (t : Tree),
      parse settings {} source = .ok (some t) → parse settings {} t.render = .ok (some t) := by
  intro hall
  let t : Tree := .binary .add (.binary .add (.letter "x") (.letter "y")) (.letter "z")
  have hread : Lexer.untilError (Lexer.items "x+y+z") =
      ([⟨.letter "x", "x", ⟨1, 1, 0⟩⟩, ⟨.operator .add, "+", ⟨1, 2, 1⟩⟩,
        ⟨.letter "y", "y", ⟨1, 3, 2⟩⟩, ⟨.operator .add, "+", ⟨1, 4, 3⟩⟩,
        ⟨.letter "z", "z", ⟨1, 5, 4⟩⟩], none) := by
    decide +kernel
  have hparse : parse { maxDepth := 1 } {} "x+y+z" = .ok (some t) := by
    rw [parse_of_untilError _ _ hread]
    rfl
  have htext : t.render = "((x + y) + z)" := by decide
  have herror : parse { maxDepth := 1 } {} "((x + y) + z)" =
    .error (.grammatical (.nestingTooDeep 1 ⟨1, 3, 2⟩)) := rfl
  have hagain := hall _ _ _ hparse
  rw [htext, herror] at hagain
  cases hagain

end Source

end Formula
