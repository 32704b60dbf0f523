import Formula.Proofs.Grammar.Agreement

/-! Values given to letters before parsing and put in for them afterwards make the same tree.  The
two runs take the same tokens and check the same heights, because a letter and its value are both a
leaf, so they fail alike as well. -/

namespace Formula

/-- The tree with the values of the letters put in for them.  A letter with an index, and the index
itself, stay as they are. -/
def Tree.substitute (b : Bindings) : Tree → Tree
  | .number value => .number value
  | .letter name => b.leaf name
  | .indexed name index => .indexed name index
  | .binary op left right => .binary op (left.substitute b) (right.substitute b)
  | .unary op operand => .unary op (operand.substitute b)

theorem Tree.depth_substitute (b : Bindings) (t : Tree) : (t.substitute b).depth = t.depth := by
  induction t with
  | number | indexed => rfl
  | letter name =>
    simp only [substitute, Bindings.leaf]
    split <;> rfl
  | binary op left right ihl ihr => simp only [substitute, depth, ihl, ihr]
  | unary op operand ih => simp only [substitute, depth, ih]

theorem Tree.leafCount_substitute (b : Bindings) (t : Tree) :
    (t.substitute b).leafCount = t.leafCount := by
  induction t with
  | number | indexed => rfl
  | letter name =>
    simp only [substitute, Bindings.leaf]
    split <;> rfl
  | binary op left right ihl ihr => simp only [substitute, leafCount, ihl, ihr]
  | unary op operand ih => simp only [substitute, leafCount, ih]

/-- The subtree with values put in for its letters; its height is the same. -/
def Subtree.substitute (b : Bindings) (s : Subtree) : Subtree := ⟨s.tree.substitute b, s.height⟩

namespace Grammar

variable {settings : Settings} {room : Nat} {task : Task} {c c' : Cursor}
  {r : Except SyntaxError Subtree}

/-- The task that has values put in for the letters of what it goes on from. -/
def Task.substitute (b : Bindings) : Task → Task
  | .phrase p => .phrase p
  | .tail rank left => .tail rank (left.substitute b)
  | .deeper goal => .deeper goal

theorem fitted_substitute (b : Bindings) (location : Location) (s : Subtree) :
    fitted settings location (s.substitute b) =
      (fitted settings location s).map (Subtree.substitute b) := by
  by_cases h : settings.maxTreeDepth < s.height <;> simp [fitted, Subtree.substitute, h, Except.map]

/-- Reading with values for the letters is reading without them, the values put in afterwards. -/
theorem Reads.substitute (b : Bindings) (h : Reads settings {} room task c r c') :
    Reads settings b room (task.substitute b) c (r.map (Subtree.substitute b)) c' := by
  induction h with
  | chain_fails _ ih => exact .chain_fails ih
  | chain _ _ ih ih' => exact .chain ih ih'
  | tail_ends hnext => exact .tail_ends hnext
  | tail_fails hk hrank _ ih => exact .tail_fails hk hrank ih
  | tail_refused hk hrank _ hfit ih =>
    exact .tail_refused hk hrank ih ((fitted_substitute b _ _).trans (by rw [hfit]))
  | tail_goes_on hk hrank _ hfit _ ih ih' =>
    exact .tail_goes_on hk hrank ih ((fitted_substitute b _ _).trans (by rw [hfit])) ih'
  | tower_fails hp _ ih => exact .tower_fails hp ih
  | tower_ends hp _ hnext ih => exact .tower_ends hp ih hnext
  | exponent_fails hp _ hk _ ih ih' => exact .exponent_fails hp ih hk ih'
  | tower hp _ hk _ ih ih' => exact fitted_substitute b _ _ ▸ .tower hp ih hk ih'
  | too_deep => exact .too_deep
  | deeper _ ih => exact .deeper ih
  | ended => exact .ended
  | unexpected hk => exact .unexpected hk
  | number hk => exact .number hk
  | letter hk hnext => exact .letter hk hnext
  | indexed hk hi hv => exact fitted_substitute b _ _ ▸ .indexed hk hi hv
  | group_fails hk _ ih => exact .group_fails hk ih
  | unclosed hk _ ih => exact .unclosed hk ih
  | mismatched hk _ hu ih => exact .mismatched hk ih hu
  | group hk _ hu ih => exact .group hk ih hu
  | prefixed_fails hk _ ih => exact .prefixed_fails hk ih
  | prefixed hk _ ih => exact fitted_substitute b _ _ ▸ .prefixed hk ih

theorem finish_map_substitute (b : Bindings) (r : Except SyntaxError Subtree) (c : Cursor) :
    finish (r.map (Subtree.substitute b)) c =
      (finish r c).map (Option.map (Tree.substitute b)) := by
  obtain ⟨taken, _ | ⟨t, rest⟩⟩ := c <;> cases r <;> rfl

/-- Parsing with values for the letters gives what parsing without them gives, error or tree, with
the values put in afterwards; this changes neither the depth of a tree nor the number of its
leaves. -/
theorem parse_eq_map_substitute (settings : Settings) (bindings : Bindings) (tokens : List Token) :
    parse settings bindings tokens =
      (parse settings {} tokens).map (Option.map (Tree.substitute bindings)) ∧
    ∀ t : Tree, (t.substitute bindings).depth = t.depth ∧
      (t.substitute bindings).leafCount = t.leafCount := by
  refine ⟨?_, fun t => ⟨t.depth_substitute bindings, t.leafCount_substitute bindings⟩⟩
  cases tokens with
  | nil => rfl
  | cons token tokens =>
    obtain ⟨r, c', h, hparse⟩ := exists_reads settings {} (token :: tokens)
    rw [hparse (by simp), parse_eq_finish (by simp) (h.substitute bindings), finish_map_substitute]

end Grammar

end Formula
