import Formula.Proofs.Grammar.Acceptance
import Formula.Tree.Visit

/-! The letters of a parsed tree.  A visit of the tree collects each name once, when it is first
met.  The names are those of the letters among the tokens that no value was put in for, in the order
in which these stand, although the tree is visited from the root downwards. -/

namespace Formula

namespace Tree

/-- The names of the letters in the order of a visit, as often as they stand in the tree. -/
def names : Tree → List String
  | .number _ => []
  | .letter name => [name]
  | .indexed name index => name :: index.names
  | .binary _ left right => left.names ++ right.names
  | .unary _ operand => operand.names

theorem filterMap_entriesAt (t : Tree) (level : Nat) :
    (t.entriesAt level).filterMap (fun entry => entry.2.letter?) = t.names := by
  induction t generalizing level with
  | number | letter => rfl
  | indexed name index ih =>
    show name :: _ = name :: index.names
    rw [ih]
  | binary op left right ihl ihr =>
    rw [entriesAt, List.filterMap_cons_none rfl, List.filterMap_append, ihl, ihr, names]
  | unary op operand ih =>
    rw [entriesAt, List.filterMap_cons_none rfl, ih, names]

theorem letters_eq (t : Tree) : t.letters = t.names.eraseDups := by
  rw [letters, entries, List.filterMap_map, ← filterMap_entriesAt t 0]
  rfl

theorem collect_eq_foldl (t : Tree) (met : List String) :
    t.collect met = .ok (t.names.foldl meet met) := by
  induction t generalizing met with
  | number | letter => rfl
  | indexed name index ih => exact ih _
  | binary op left right ihl ihr =>
    rw [collect, ihl, names, List.foldl_append]
    exact ihr _
  | unary op operand ih => exact ih met

theorem foldl_meet (names met : List String) :
    names.foldl meet met = met ++ (names.filter (· ∉ met)).eraseDups := by
  induction names generalizing met with
  | nil => simp
  | cons name names ih =>
    rw [List.foldl_cons, ih]
    by_cases hmem : name ∈ met
    · simp [meet, hmem]
    · have hrest : names.filter (· ∉ met ++ [name]) =
          (names.filter (· ∉ met)).filter fun other => !other == name := by
        rw [List.filter_filter]
        apply List.filter_congr
        intro other _
        rw [Bool.eq_iff_iff]
        simp [and_comm]
      rw [meet, if_neg hmem, hrest, List.filter_cons_of_pos (by simpa using hmem),
        List.eraseDups_cons, List.append_assoc]
      rfl

theorem letters_eq_foldl (t : Tree) : t.letters = t.names.foldl meet [] := by
  rw [foldl_meet, letters_eq, List.nil_append, List.filter_eq_self.mpr (by simp)]

theorem nodup_foldl_meet (names : List String) {met : List String} (h : met.Nodup) :
    (names.foldl meet met).Nodup := by
  induction names generalizing met with
  | nil => exact h
  | cons name names ih =>
    apply ih
    unfold meet
    split
    · exact h
    · next hnew => exact List.nodup_append.mpr ⟨h, by simp, by grind⟩

end Tree

def Token.Kind.isNumber : Kind → Bool
  | .number _ => true
  | _ => false

namespace Grammar

variable {settings : Settings} {bindings : Bindings} {tokens : List Token} {t : Tree}

/-- Whether a letter stays a letter where `next` follows it: it has no value, or it takes the number
that follows as its index. -/
def stays (settings : Settings) (bindings : Bindings) (name : String)
    (next : Option Token.Kind) : Bool :=
  (bindings.get? name).isNone || settings.indexedLetters && next.any Token.Kind.isNumber

/-- The names of the letters among the tokens that stay letters, as often as they stand there. -/
def remaining (settings : Settings) (bindings : Bindings) : List Token.Kind → List String
  | [] => []
  | .letter name :: rest =>
    if stays settings bindings name rest.head? then name :: remaining settings bindings rest
    else remaining settings bindings rest
  | _ :: rest => remaining settings bindings rest

theorem remaining_cons {k : Token.Kind} (hk : ∀ name, k ≠ .letter name)
    (rest : List Token.Kind) :
    remaining settings bindings (k :: rest) = remaining settings bindings rest := by
  cases k with
  | letter name => exact absurd rfl (hk name)
  | _ => rfl

/-- The letters of a derived tree are those that stay letters among its tokens, unless a number goes
on with the last of these. -/
theorem Derives.remaining_append {p : Phrase} {ks : List Token.Kind} {n : Nat}
    (h : Derives settings bindings p ks t n) {rest : List Token.Kind}
    (hrest : rest.head?.any Token.Kind.isNumber = false) :
    remaining settings bindings (ks ++ rest) = t.names ++ remaining settings bindings rest := by
  induction h generalizing rest with
  | first _ ih | base _ ih => exact ih hrest
  | more _ _ _ ih ih' | exponent _ _ ih ih' =>
    rw [List.append_assoc, List.cons_append, ih rfl, remaining_cons (by simp), ih' hrest,
      Tree.names, List.append_assoc]
  | group delimiter _ ih =>
    rw [List.append_assoc, List.cons_append, remaining_cons (by simp), List.cons_append, ih rfl,
      remaining_cons (by simp), List.nil_append]
  | number => rfl
  | letter name =>
    cases hvalue : bindings.get? name <;>
      simp [remaining, stays, Bindings.leaf, hvalue, hrest, Tree.names]
  | indexed name value hi => simp [remaining, stays, hi, Token.Kind.isNumber, Tree.names]
  | prefixed op _ ih =>
    rw [List.cons_append, remaining_cons (by cases op <;> simp [UnaryOperator.kind]), ih hrest,
      Tree.names]

/-- The letters that a visit of a parsed tree collects are those that stay letters among the tokens,
each once and in the order in which they first stand there. -/
theorem collect_of_parse (h : parse settings bindings tokens = .ok (some t)) :
    t.collect [] = .ok t.letters ∧ t.letters.Nodup ∧
      t.letters = (remaining settings bindings (tokens.map Token.kind)).eraseDups := by
  refine ⟨?_, ?_, ?_⟩
  · rw [t.collect_eq_foldl, t.letters_eq_foldl]
  · rw [t.letters_eq_foldl]
    exact Tree.nodup_foldl_meet t.names List.nodup_nil
  · obtain ⟨n, -, hderives, -⟩ := derives_of_parse h
    have hnames : remaining settings bindings (tokens.map Token.kind ++ []) = t.names ++ [] :=
      hderives.remaining_append rfl
    rw [List.append_nil, List.append_nil] at hnames
    rw [t.letters_eq, hnames]

/-- In `x + y - x 2 ^ y`, where `x` has a value, `x` is left where it takes an index only, after the
first `y`. -/
theorem collect_of_parse_indexed :
    let two : Double := ⟨0x4000000000000000⟩
    let settings : Settings := { indexedLetters := true }
    let bindings : Bindings := .ofList [("x", two)]
    let tokens := [.letter "x", .operator .add, .letter "y", .operator .subtract, .letter "x",
      .number two, .operator .power, .letter "y"].map Token.synthetic
    ∃ t, parse settings bindings tokens = .ok (some t) ∧ t.collect [] = .ok ["y", "x"] := by
  intro two settings bindings tokens
  have hadd : BinaryOperator.add.rank = .sum := rfl
  have hsubtract : BinaryOperator.subtract.rank = .sum := rfl
  have hpower : BinaryOperator.power.rank = .power := rfl
  have hvalue : Derives settings bindings (.chain .product) _ (.number two) 0 :=
    .first (.first (.letter "x"))
  have hletter : Derives settings bindings (.chain .product) _ (.letter "y") 0 :=
    .first (.first (.letter "y"))
  have hindexed : Derives settings bindings (.chain .product) _ _ 0 :=
    .first (.more hpower (.first (.indexed "x" two rfl)) (.letter "y"))
  have hderives : Derives settings bindings .expression (tokens.map Token.kind) _ 0 :=
    .more hsubtract (.more hadd (.first hvalue) hletter) hindexed
  have hparse := hderives.parse.1 (by decide) (.inr (by decide))
  obtain ⟨hcollect, -, hletters⟩ := collect_of_parse hparse
  refine ⟨_, hparse, ?_⟩
  rw [hcollect, hletters]
  rfl

end Grammar

end Formula
