import Formula.Proofs.Grammar.Acceptance

/-! How powers group changes nothing but how they group.  Grouping to the left, powers are read in a
loop, and grouping to the right one level deeper each; both take the same tokens and stop at the
same errors, as long as neither meets a limit.  Their trees have the same operands in the same
order, once the powers that stand directly under each other are joined to one chain. -/

namespace Formula

/-- An expression in which powers directly under each other are one chain of operands. -/
inductive FlatTree where
  | number (value : Double)
  | letter (name : String)
  | indexed (name : String) (index : FlatTree)
  | binary (op : BinaryOperator) (left right : FlatTree)
  | unary (op : UnaryOperator) (operand : FlatTree)
  | powers (operands : List FlatTree)

/-- The chain of the operands; a single one stands for itself. -/
def FlatTree.chain : List FlatTree → FlatTree
  | [operand] => operand
  | operands => .powers operands

namespace Tree

/-- The operands of the powers at the root, from left to right, and flattened themselves; the tree
itself if it is no power. -/
def powerOperands : Tree → List FlatTree
  | .number value => [.number value]
  | .letter name => [.letter name]
  | .indexed name index => [.indexed name (.chain index.powerOperands)]
  | .binary .power left right => left.powerOperands ++ right.powerOperands
  | .binary op left right => [.binary op (.chain left.powerOperands) (.chain right.powerOperands)]
  | .unary op operand => [.unary op (.chain operand.powerOperands)]

/-- The tree with its powers in chains. -/
def flattened (t : Tree) : FlatTree := .chain t.powerOperands

theorem powerOperands_binary {op : BinaryOperator} {left right left' right' : Tree}
    (hleft : left.powerOperands = left'.powerOperands)
    (hright : right.powerOperands = right'.powerOperands) :
    (binary op left right).powerOperands = (binary op left' right').powerOperands := by
  cases op <;> simp only [powerOperands, hleft, hright]

end Tree

/-- The settings with powers grouped as given. -/
def Settings.grouping (settings : Settings) (power : Associativity) : Settings :=
  { settings with power }

theorem BinaryOperator.eq_power_of_rank {op : BinaryOperator} (h : op.rank = .power) :
    op = .power := by
  cases op <;> trivial

namespace Grammar

/-- The phrase that takes the same tokens when powers group to the right. -/
def Phrase.rightward : Phrase → Phrase
  | .chain .power => .tower
  | p => p

theorem Phrase.rightward_operand (settings : Settings) (rank : Rank) :
    (operand (settings.grouping .left) rank).rightward =
      operand (settings.grouping .right) rank := by
  cases rank <;> rfl

theorem Goal.rightward_phrase (settings : Settings) (goal : Goal) :
    (goal.phrase (settings.grouping .left)).rightward = goal.phrase (settings.grouping .right) := by
  cases goal <;> rfl

/-- The results are the same error, or subtrees of which the first has the operands of the second
after those that are given. -/
inductive Regroups (before : List FlatTree) :
    Except SyntaxError Subtree → Except SyntaxError Subtree → Prop
  | error (e : SyntaxError) : Regroups before (.error e) (.error e)
  | ok {s s' : Subtree} : s.tree.powerOperands = before ++ s'.tree.powerOperands →
      Regroups before (.ok s) (.ok s')

section

variable (settings : Settings) (bindings : Bindings)

/-- With powers grouped to the right the task ends at `c'` and with the result `r` regrouped, unless
it is cut off at a limit. -/
def EndsRightward (room : Nat) (task : Task) (before : List FlatTree) (c : Cursor)
    (r : Except SyntaxError Subtree) (c' : Cursor) : Prop :=
  (∃ r', Regroups before r r' ∧ Reads (settings.grouping .right) bindings room task c r' c') ∨
    Refuses (settings.grouping .right) bindings room task c

/-- What a task that groups powers to the left has to do with grouping them to the right.  A tail of
powers goes on from its last operand `base`: what is read from there on is the exponent of that, and
the operands before it are left out. -/
def Task.Rightward (c : Cursor) (r : Except SyntaxError Subtree) (c' : Cursor) : Task → Prop
  | .phrase p => ∀ room,
    Grammar.EndsRightward settings bindings room (.phrase p.rightward) [] c r c'
  | .tail .power left => ∀ room start base before,
    left.tree.powerOperands = before ++ base.tree.powerOperands →
    Reads (settings.grouping .right) bindings room (.phrase .factor) start (.ok base) c →
    Grammar.EndsRightward settings bindings room (.phrase .tower) before start r c'
  | .tail rank left => ∀ room left', left.tree.powerOperands = left'.tree.powerOperands →
    Grammar.EndsRightward settings bindings room (.tail rank left') [] c r c'
  | .deeper goal => ∀ room, Grammar.EndsRightward settings bindings room (.deeper goal) [] c r c'

end

variable {settings : Settings} {bindings : Bindings} {room room' : Nat} {task task' : Task}
  {before before' : List FlatTree} {c c' c1 c2 : Cursor} {r r' : Except SyntaxError Subtree}

namespace EndsRightward

/-- A task that starts with another one and fails when that fails is cut off where that is. -/
theorem bind (h : EndsRightward settings bindings room task before c r c1)
    (hcut : ∀ e c1, Reads (settings.grouping .right) bindings room task c (.error e) c1 →
      Reads (settings.grouping .right) bindings room' task' c' (.error e) c1)
    (hgo : ∀ s, Regroups before r s → Reads (settings.grouping .right) bindings room task c s c1 →
      EndsRightward settings bindings room' task' before' c' r' c2) :
    EndsRightward settings bindings room' task' before' c' r' c2 := by
  rcases h with ⟨s, hs, hreads⟩ | hrefuses
  · exact hgo s hs hreads
  · exact .inr (hrefuses.imp hcut)

theorem error {e : SyntaxError}
    (h : Reads (settings.grouping .right) bindings room task c (.error e) c') :
    EndsRightward settings bindings room task before c (.error e) c' :=
  .inl ⟨_, .error e, h⟩

theorem bind_error {e : SyntaxError}
    (h : EndsRightward settings bindings room task before c (.error e) c1)
    (himp : ∀ e c1, Reads (settings.grouping .right) bindings room task c (.error e) c1 →
      Reads (settings.grouping .right) bindings room' task' c' (.error e) c1) :
    EndsRightward settings bindings room' task' before' c' (.error e) c1 := by
  apply h.bind himp
  intro s hs hreads
  cases hs
  exact error (himp _ _ hreads)

/-- A task that ends in every way in which another one does. -/
theorem imp (h : EndsRightward settings bindings room task before c r c1)
    (himp : ∀ r c1, Reads (settings.grouping .right) bindings room task c r c1 →
      Reads (settings.grouping .right) bindings room' task' c' r c1) :
    EndsRightward settings bindings room' task' before c' r c1 :=
  h.bind (fun e => himp (.error e)) fun s hs hreads => .inl ⟨s, hs, himp s _ hreads⟩

/-- A task that ends with the check of a tree ends with that tree or at the limit. -/
theorem of_fitted {location : Location} {s s' : Subtree}
    (h : Reads (settings.grouping .right) bindings room task c
      (fitted (settings.grouping .right) location s') c')
    (hs : s.tree.powerOperands = before ++ s'.tree.powerOperands) :
    EndsRightward settings bindings room task before c (.ok s) c' := by
  cases hfit : fitted (settings.grouping .right) location s' with
  | error e =>
    right
    obtain ⟨-, rfl⟩ := fitted_eq_error.mp hfit
    rw [hfit] at h
    exact ⟨_, _, _, .inr rfl, h⟩
  | ok joined =>
    left
    obtain ⟨-, rfl⟩ := fitted_eq_ok.mp hfit
    rw [hfit] at h
    exact ⟨_, .ok hs, h⟩

/-- After `^` all that follows is read as a tower one level deeper. -/
theorem exponent {start : Cursor} {base : Subtree} {taken rest : List Token} {t : Token}
    (hbase : Reads (settings.grouping .right) bindings room (.phrase .factor) start (.ok base)
      ⟨taken, t :: rest⟩) (hk : t.kind = .operator .power)
    (h : ∀ room, EndsRightward settings bindings room (.phrase .tower)
      (before ++ base.tree.powerOperands) ⟨t :: taken, rest⟩ r c') :
    EndsRightward settings bindings room (.phrase .tower) before start r c' := by
  have hdeeper : EndsRightward settings bindings room (.deeper .power)
      (before ++ base.tree.powerOperands) ⟨t :: taken, rest⟩ r c' := by
    cases room with
    | zero => exact .inr ⟨_, _, _, .inl rfl, .too_deep⟩
    | succ room =>
      have hphrase : Goal.power.phrase (settings.grouping .right) = .tower := rfl
      rw [← hphrase] at h
      exact (h room).imp fun _ _ => .deeper
  apply hdeeper.bind fun _ _ => .exponent_fails rfl hbase hk
  intro s hs hreads
  cases hs with
  | error e => exact error (.exponent_fails rfl hbase hk hreads)
  | ok hs =>
    apply of_fitted (.tower rfl hbase hk hreads)
    rw [hs, List.append_assoc]
    rfl

end EndsRightward

theorem fitted_eq_ok_of_ne {location : Location} {s : Subtree}
    (h : ∀ limit location', fitted settings location s ≠ .error (.nestingTooDeep limit location')) :
    fitted settings location s = .ok s := by
  apply fitted_eq_ok.mpr
  constructor
  · apply Nat.le_of_not_lt
    intro hlt
    exact h _ _ (fitted_eq_error.mpr ⟨hlt, rfl⟩)
  · rfl

/-- What is read with powers grouped to the left, and is not cut off, is read with powers grouped to
the right, unless it is cut off there. -/
theorem Reads.endsRightward
    (h : Reads (settings.grouping .left) bindings room task c r c')
    (hr : ∀ limit location, r ≠ .error (.nestingTooDeep limit location)) :
    task.Rightward settings bindings c r c' := by
  -- Sums and products are read alike.  A chain of powers is unrolled from its first operand on: the
  -- loop over the rest of it becomes the exponent of the operand before.
  induction h with
  | @chain_fails _ rank c e c1 _ ih =>
    intro room
    have hoperand : EndsRightward settings bindings room _ _ _ _ _ := ih hr room
    rw [Phrase.rightward_operand] at hoperand
    cases rank with
    | sum | product => exact hoperand.bind_error fun _ _ => .chain_fails
    | power => exact hoperand.bind_error fun _ _ => .tower_fails rfl
  | @chain _ rank c first c1 r c2 _ _ ih ih' =>
    intro room
    have hoperand : EndsRightward settings bindings room _ _ _ _ _ := ih (by simp) room
    rw [Phrase.rightward_operand] at hoperand
    have htail := ih' hr
    cases rank with
    | sum | product =>
      apply hoperand.bind fun _ _ => .chain_fails
      rintro _ (_ | hs) hfirst
      exact (htail room _ hs).imp fun _ _ => .chain hfirst
    | power =>
      apply hoperand.bind fun _ _ => .tower_fails rfl
      rintro _ (_ | hs) hfirst
      exact htail room c _ [] hs hfirst
  | @tail_ends _ rank left c hnext =>
    cases rank with
    | sum | product => exact fun _ _ hleft => .inl ⟨_, .ok hleft, .tail_ends hnext⟩
    | power =>
      intro room start base before hleft hbase
      have hpower : c.next? ≠ some (.operator .power) := fun hop => hnext _ hop rfl
      exact .inl ⟨_, .ok hleft, .tower_ends rfl hbase hpower⟩
  | @tail_fails _ rank left taken t rest op e c1 hk hrank _ ih =>
    have hoperand : ∀ room, EndsRightward settings bindings room _ _ _ _ _ := ih hr
    rw [Phrase.rightward_operand] at hoperand
    cases rank with
    | sum | product =>
      exact fun room _ _ => (hoperand room).bind_error fun _ _ => .tail_fails hk hrank
    | power =>
      intro room start base before _ hbase
      have hk : t.kind = .operator .power := by rw [hk, op.eq_power_of_rank hrank]
      apply EndsRightward.exponent hbase hk
      intro room
      exact (hoperand room).bind_error fun _ _ => .tower_fails rfl
  | tail_refused _ _ _ hfit =>
    obtain ⟨-, rfl⟩ := fitted_eq_error.mp hfit
    exact absurd rfl (hr _ _)
  | @tail_goes_on _ rank left taken t rest op right c1 r c2 hk hrank _ hfit _ ih ih' =>
    have hoperand : ∀ room, EndsRightward settings bindings room _ _ _ _ _ := ih (by simp)
    rw [Phrase.rightward_operand] at hoperand
    have htail := ih' hr
    cases rank with
    | sum | product =>
      intro room left' hleft
      apply (hoperand room).bind fun _ _ => .tail_fails hk hrank
      rintro _ (_ | @⟨_, right', hright⟩) hreads
      have hjoined : (Subtree.binary op left right).tree.powerOperands = _ :=
        Tree.powerOperands_binary hleft hright
      cases hfit' : fitted (settings.grouping .right) t.location (.binary op left' right') with
      | error e =>
        obtain ⟨-, rfl⟩ := fitted_eq_error.mp hfit'
        exact .inr ⟨_, _, _, .inr rfl, .tail_refused hk hrank hreads hfit'⟩
      | ok joined =>
        obtain ⟨-, rfl⟩ := fitted_eq_ok.mp hfit'
        exact (htail room _ hjoined).imp fun _ _ => .tail_goes_on hk hrank hreads hfit'
    | power =>
      intro room start base before hleft hbase
      have hop : op = .power := op.eq_power_of_rank hrank
      subst hop
      apply EndsRightward.exponent hbase hk
      intro room
      apply (hoperand room).bind fun _ _ => .tower_fails rfl
      rintro _ (_ | @⟨_, right', hright⟩) hreads
      apply htail room _ right' _ _ hreads
      show left.tree.powerOperands ++ right.tree.powerOperands = _
      rw [hleft, hright]
      rfl
  | tower_fails hp | tower_ends hp | exponent_fails hp | tower hp => contradiction
  | too_deep => exact absurd rfl (hr _ _)
  | @deeper _ goal _ _ _ _ ih =>
    intro room
    have hphrase : ∀ room, EndsRightward settings bindings room _ _ _ _ _ := ih hr
    rw [Goal.rightward_phrase] at hphrase
    cases room with
    | zero => exact .inr ⟨_, _, _, .inl rfl, .too_deep⟩
    | succ room => exact (hphrase room).imp fun _ _ => .deeper
  | ended => exact fun _ => .error .ended
  | unexpected hk => exact fun _ => .error (.unexpected hk)
  | number hk => exact fun _ => .inl ⟨_, .ok rfl, .number hk⟩
  | letter hk hnext => exact fun _ => .inl ⟨_, .ok rfl, .letter hk hnext⟩
  | indexed hk hi hv =>
    rw [fitted_eq_ok_of_ne hr]
    exact fun _ => .of_fitted (.indexed hk hi hv) rfl
  | group_fails hk _ ih => exact fun room => (ih hr room).bind_error fun _ _ => .group_fails hk
  | unclosed hk _ ih =>
    intro room
    apply (ih (by simp) room).bind fun _ _ => .group_fails hk
    rintro _ (_ | hs) hreads
    exact .error (.unclosed hk hreads)
  | mismatched hk _ hu ih =>
    intro room
    apply (ih (by simp) room).bind fun _ _ => .group_fails hk
    rintro _ (_ | hs) hreads
    exact .error (.mismatched hk hreads hu)
  | group hk _ hu ih =>
    intro room
    apply (ih (by simp) room).bind fun _ _ => .group_fails hk
    rintro _ (_ | hs) hreads
    exact .inl ⟨_, .ok hs, .group hk hreads hu⟩
  | prefixed_fails hk _ ih =>
    exact fun room => (ih hr room).bind_error fun _ _ => .prefixed_fails hk
  | prefixed hk _ ih =>
    intro room
    rw [fitted_eq_ok_of_ne hr]
    apply (ih (by simp) room).bind fun _ _ => .prefixed_fails hk
    rintro _ (_ | hs) hreads
    apply EndsRightward.of_fitted (.prefixed hk hreads)
    simp only [Subtree.unary, Tree.powerOperands, hs, List.nil_append]

theorem finish_of_regroups (h : Regroups [] r r') (c : Cursor) :
    (finish r c).map (Option.map Tree.flattened) =
      (finish r' c).map (Option.map Tree.flattened) := by
  obtain ⟨taken, _ | ⟨t, rest⟩⟩ := c
  · cases h with
    | error e => rfl
    | ok hs => simp [finish, Except.map, Tree.flattened, hs]
  · cases h with
    | error e => rfl
    | ok hs => rfl

/-- Unless one of them is cut off at a limit, parsing with powers grouped to the left and parsing
with powers grouped to the right come to the same error, or to the same tree but for the grouping
of its powers. -/
theorem parse_grouping (settings : Settings) (bindings : Bindings) (tokens : List Token)
    (hleft : ∀ limit location, parse (settings.grouping .left) bindings tokens ≠
      .error (.nestingTooDeep limit location))
    (hright : ∀ limit location, parse (settings.grouping .right) bindings tokens ≠
      .error (.nestingTooDeep limit location)) :
    (parse (settings.grouping .left) bindings tokens).map (Option.map Tree.flattened) =
      (parse (settings.grouping .right) bindings tokens).map (Option.map Tree.flattened) := by
  cases tokens with
  | nil => rw [parse_nil, parse_nil]
  | cons token tokens =>
    have hne : token :: tokens ≠ [] := by simp
    obtain ⟨r, c', hreads, hparse⟩ :=
      exists_reads (settings.grouping .left) bindings (token :: tokens)
    have hr : ∀ limit location, r ≠ .error (.nestingTooDeep limit location) := by
      rintro limit location rfl
      exact hleft limit location (hparse hne)
    have hends : EndsRightward settings bindings settings.maxDepth (.phrase .expression) [] _ r
        c' := hreads.endsRightward hr settings.maxDepth
    rcases hends with ⟨r', hregroups, hreads'⟩ | ⟨limit, location, c', -, hrefused⟩
    · rw [hparse hne, parse_eq_finish hne hreads']
      exact finish_of_regroups hregroups c'
    · exact absurd (parse_eq_finish hne hrefused) (hright limit location)

/-- The tower `x^(y^z)^t`. -/
theorem parse_grouping_tower :
    let tokens := [.letter "x", .operator .power, .opening .paren, .letter "y", .operator .power,
      .letter "z", .closing .paren, .operator .power, .letter "t"].map Token.synthetic
    let settings : Settings := {}
    (∀ limit location, parse (settings.grouping .left) {} tokens ≠
        .error (.nestingTooDeep limit location)) ∧
      (∀ limit location, parse (settings.grouping .right) {} tokens ≠
        .error (.nestingTooDeep limit location)) ∧
      (parse (settings.grouping .left) {} tokens).map (Option.map Tree.flattened) =
        (parse (settings.grouping .right) {} tokens).map (Option.map Tree.flattened) := by
  intro tokens settings
  let x := Tree.letter "x"
  let group := Tree.binary .power (.letter "y") (.letter "z")
  let t := Tree.letter "t"
  have hrank : BinaryOperator.power.rank = .power := rfl
  have hinner : Derives (settings.grouping .left) {} .expression _ group 0 :=
    .first (.first (.more hrank (.first (.letter "y")) (.letter "z")))
  have hinner' : Derives (settings.grouping .right) {} .expression _ group 1 :=
    .first (.first (.exponent (.letter "y") (.base (.letter "z"))))
  have hleft : Derives (settings.grouping .left) {} .expression (tokens.map Token.kind)
      (.binary .power (.binary .power x group) t) 1 :=
    .first (.first (.more hrank (.more hrank (.first (.letter "x")) (.group .paren hinner))
      (.letter "t")))
  have hright : Derives (settings.grouping .right) {} .expression (tokens.map Token.kind)
      (.binary .power x (.binary .power group t)) 3 :=
    .first (.first (.exponent (.letter "x") (.exponent (.group .paren hinner')
      (.base (.letter "t")))))
  have hleft' : ∀ limit location, parse (settings.grouping .left) {} tokens ≠
      .error (.nestingTooDeep limit location) := by
    simp [hleft.parse.1 (by decide) (.inr (by decide))]
  have hright' : ∀ limit location, parse (settings.grouping .right) {} tokens ≠
      .error (.nestingTooDeep limit location) := by
    simp [hright.parse.1 (by decide) (.inr (by decide))]
  exact ⟨hleft', hright', parse_grouping settings {} tokens hleft' hright'⟩

end Grammar

end Formula
