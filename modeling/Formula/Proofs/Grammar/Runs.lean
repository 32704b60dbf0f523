import Formula.Proofs.Grammar.Derivation

/-! Cursors that move and parsers that run.  `Takes` says which tokens lie between two cursors, and
`Runs` what a parser makes of a cursor, the events left aside.  The smallest steps of the parsers
follow: looking for an operator, and the check of the height. -/

namespace Formula

/-- `c.Takes used c'`: from `c` the tokens `used` are taken, which leads to `c'`. -/
structure Cursor.Takes (c : Cursor) (used : List Token) (c' : Cursor) : Prop where
  taken : c'.taken = used.reverse ++ c.taken
  rest : c.rest = used ++ c'.rest

namespace Cursor.Takes

theorem refl (c : Cursor) : c.Takes [] c := ⟨rfl, rfl⟩

theorem one (taken : List Token) (token : Token) (rest : List Token) :
    Takes ⟨taken, token :: rest⟩ [token] ⟨token :: taken, rest⟩ := ⟨rfl, rfl⟩

theorem trans {c c1 c2 : Cursor} {used used' : List Token} (h : c.Takes used c1)
    (h' : c1.Takes used' c2) : c.Takes (used ++ used') c2 :=
  ⟨by rw [h'.taken, h.taken]; simp, by rw [h.rest, h'.rest]; simp⟩

theorem cons {taken rest used : List Token} {token : Token} {c' : Cursor}
    (h : Takes ⟨token :: taken, rest⟩ used c') :
    Takes ⟨taken, token :: rest⟩ (token :: used) c' :=
  (one taken token rest).trans h

theorem eq {c c' : Cursor} (h : c.Takes [] c') : c' = c := by
  obtain ⟨taken, rest⟩ := c
  obtain ⟨taken', rest'⟩ := c'
  obtain ⟨ht, hr⟩ := h
  simp_all

theorem uncons {c c' : Cursor} {used : List Token} {token : Token}
    (h : c.Takes (token :: used) c') :
    ∃ taken rest, c = ⟨taken, token :: rest⟩ ∧ Takes ⟨token :: taken, rest⟩ used c' := by
  obtain ⟨taken, rest⟩ := c
  obtain ⟨ht, hr⟩ := h
  exact ⟨taken, used ++ c'.rest, by simp_all, by simpa using ht, rfl⟩

theorem split {c c' : Cursor} {used used' : List Token} {token : Token}
    (h : c.Takes (used ++ token :: used') c') :
    ∃ taken rest, c.Takes used ⟨taken, token :: rest⟩ ∧ Takes ⟨token :: taken, rest⟩ used' c' :=
  ⟨used.reverse ++ c.taken, used' ++ c'.rest, ⟨rfl, by simp [h.rest]⟩, ⟨by simp [h.taken], rfl⟩⟩

theorem length_rest {c c' : Cursor} {used : List Token} (h : c.Takes used c') :
    c.rest.length = used.length + c'.rest.length := by
  rw [h.rest, List.length_append]

end Cursor.Takes

/-- `p.Runs c r c'`: `p`, started at `c`, stops at `c'` with the result `r`. -/
def Parser.Runs {α : Type} (p : Parser α) (c : Cursor) (r : Except SyntaxError α) (c' : Cursor) :
    Prop :=
  (p c).result = r ∧ (p c).cursor = c'

namespace Parser.Runs

variable {α β : Type} {p : Parser α} {f : α → Parser β} {c c' c'' : Cursor}

theorem bind {a : α} {r : Except SyntaxError β} (h : p.Runs c (.ok a) c')
    (h' : (f a).Runs c' r c'') : (p >>= f).Runs c r c'' := by
  obtain ⟨hr, hc⟩ := h
  obtain ⟨hr', hc'⟩ := h'
  show ((andThen p f) c).result = r ∧ ((andThen p f) c).cursor = c''
  simp only [andThen, hr, hc]
  exact ⟨hr', hc'⟩

theorem bind_error {e : SyntaxError} (h : p.Runs c (.error e) c') :
    (p >>= f).Runs c (.error e) c' := by
  obtain ⟨hr, hc⟩ := h
  show ((andThen p f) c).result = .error e ∧ ((andThen p f) c).cursor = c'
  simp only [andThen, hr, hc, and_self]

theorem unique {r r' : Except SyntaxError α} (h : p.Runs c r c') (h' : p.Runs c r' c'') :
    r = r' ∧ c' = c'' :=
  ⟨h.1.symm.trans h'.1, h.2.symm.trans h'.2⟩

end Parser.Runs

theorem Parser.runs_advance (taken : List Token) (token : Token) (rest : List Token) :
    advance.Runs ⟨taken, token :: rest⟩ (.ok (some token)) ⟨token :: taken, rest⟩ :=
  ⟨rfl, rfl⟩

/-- Two subtrees joined by an operator. -/
def Subtree.binary (op : BinaryOperator) (left right : Subtree) : Subtree :=
  ⟨.binary op left.tree right.tree, 1 + max left.height right.height⟩

/-- A subtree under an operator. -/
def Subtree.unary (op : UnaryOperator) (operand : Subtree) : Subtree :=
  ⟨.unary op operand.tree, 1 + operand.height⟩

/-- A letter under a number. -/
def Subtree.indexed (name : String) (value : Double) : Subtree := ⟨.indexed name (.number value), 2⟩

/-- Whether a factor may start with a token of this kind. -/
def Token.Kind.startsFactor : Token.Kind → Bool
  | .number _ => true
  | .letter _ => true
  | .operator op => op.rank = .sum
  | .opening _ => true
  | .closing _ => false
  | .function _ => true

namespace Grammar

open Formula.Parser

/-- What the check of the height makes of a subtree. -/
def fitted (settings : Settings) (location : Location) (s : Subtree) : Except SyntaxError Subtree :=
  if settings.maxTreeDepth < s.height then
    .error (.nestingTooDeep settings.maxTreeDepth location)
  else .ok s

theorem runs_checked (settings : Settings) (location : Location) (s : Subtree) (c : Cursor) :
    (checked settings location s).Runs c (fitted settings location s) c := by
  unfold checked fitted
  split <;> exact ⟨rfl, rfl⟩

theorem fitted_eq_ok {settings : Settings} {location : Location} {s s' : Subtree} :
    fitted settings location s = .ok s' ↔ s.height ≤ settings.maxTreeDepth ∧ s = s' := by
  unfold fitted
  split
  · constructor
    · intro h
      contradiction
    · intro h
      omega
  · simp_all

theorem fitted_eq_error {settings : Settings} {location : Location} {s : Subtree}
    {e : SyntaxError} :
    fitted settings location s = .error e ↔
      settings.maxTreeDepth < s.height ∧ e = .nestingTooDeep settings.maxTreeDepth location := by
  unfold fitted
  split
  · simp_all [eq_comm]
  · simp_all only [reduceCtorEq, false_and]

end Grammar

/-- The operators of a rank, as the parsers look for them. -/
def Rank.operator? : Rank → Token.Kind → Option BinaryOperator
  | .sum => Grammar.additive?
  | .product => Grammar.multiplicative?
  | .power => Grammar.power?

theorem Rank.operator?_eq_some {rank : Rank} {k : Token.Kind} {op : BinaryOperator} :
    rank.operator? k = some op ↔ k = .operator op ∧ op.rank = rank := by
  cases rank <;> rcases k with _ | _ | o | _ | _ | _ <;> try cases o
  all_goals cases op <;> simp [Rank.operator?, Grammar.additive?, Grammar.multiplicative?,
    Grammar.power?, BinaryOperator.rank]

end Formula
