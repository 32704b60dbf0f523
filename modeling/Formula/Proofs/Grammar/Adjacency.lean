import Formula.Proofs.Grammar.Acceptance
import Mathlib.Data.List.Chain

/-! Which tokens stand next to each other in an expression.  Where a factor may have ended, an
operator or a closing symbol goes on, or the index of a letter; two operands never stand side by
side otherwise, however deep they are. -/

namespace Formula

/-- Whether a factor may end with the token. -/
def Token.Kind.endsFactor : Kind → Bool
  | .number _ => true
  | .letter _ => true
  | .closing _ => true
  | _ => false

/-- Whether the token goes on after a factor, joining it to another or ending its group. -/
def Token.Kind.leavesFactor : Kind → Bool
  | .operator _ => true
  | .closing _ => true
  | _ => false

namespace Grammar

/-- The token `next` may come right after `k`. -/
inductive Adjoins (settings : Settings) (k next : Token.Kind) : Prop
  | open : k.endsFactor = false → Adjoins settings k next
  | leaves : next.leavesFactor = true → Adjoins settings k next
  | index {name : String} {value : Double} : settings.indexedLetters = true →
      k = .letter name → next = .number value → Adjoins settings k next

variable {settings : Settings} {bindings : Bindings} {k next : Token.Kind}

/-- After a number an operator or a closing symbol has to come. -/
theorem Adjoins.leaves_number {value : Double} (h : Adjoins settings (.number value) next) :
    next.leavesFactor = true := by
  cases h with
  | «open» hends => contradiction
  | leaves hleaves => exact hleaves
  | index _ hk _ => contradiction

/-- After a letter a number may come too. -/
theorem Adjoins.leaves_letter {name : String} (h : Adjoins settings (.letter name) next) :
    next.leavesFactor = true ∨ ∃ value, next = .number value := by
  cases h with
  | «open» hends => contradiction
  | leaves hleaves => exact .inl hleaves
  | index _ _ hnext => exact .inr ⟨_, hnext⟩

/-- The tokens of a phrase may stand as they do. -/
theorem Derives.isChain {p : Phrase} {ks : List Token.Kind} {t : Tree} {n : Nat}
    (h : Derives settings bindings p ks t n) : ks.IsChain (Adjoins settings) := by
  induction h with
  | first _ ih | base _ ih => exact ih
  | more _ _ _ ih ih' | exponent _ _ ih ih' =>
    apply ih.append (ih'.cons fun _ _ => .open rfl)
    rintro k - next ⟨rfl⟩
    exact .leaves rfl
  | group delimiter _ ih =>
    have hclosed := ih.append (List.isChain_singleton (.closing delimiter)) <| by
      rintro k - next ⟨rfl⟩
      exact .leaves rfl
    exact hclosed.cons fun _ _ => .open rfl
  | number | letter => exact List.isChain_singleton _
  | indexed name value hindexed => exact List.isChain_pair.mpr (.index hindexed rfl rfl)
  | prefixed op _ ih =>
    have hopen : op.kind.endsFactor = false := by cases op <;> rfl
    exact ih.cons fun _ _ => .open hopen

theorem isChain_of_parse {tokens : List Token} {t : Option Tree}
    (h : parse settings bindings tokens = .ok t) :
    (tokens.map Token.kind).IsChain (Adjoins settings) := by
  cases t with
  | none =>
    obtain rfl := parse_eq_none_iff.mp h
    exact List.isChain_nil
  | some t =>
    obtain ⟨n, -, hderives, -⟩ := derives_of_parse h
    exact hderives.isChain

end Grammar

end Formula
