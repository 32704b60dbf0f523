import Formula.Proofs.Grammar.Yield

/-! Groups that are open.  A list of them, the innermost first, follows the tokens: an opening
symbol puts its group on the list, and a closing symbol takes the innermost group off if it has the
same kind.  Whatever is read as a phrase leaves the list as it was, so the parser, which keeps no
such list, reports an error about a group at the innermost one. -/

namespace Formula

/-- A group that has been opened and not yet closed. -/
structure OpenGroup where
  delimiter : Delimiter
  openedAt : Location
deriving DecidableEq

/-- The groups open after the token; none if it closes anything but the innermost group. -/
def Token.regroup (groups : List OpenGroup) (t : Token) : Option (List OpenGroup) :=
  match t.kind with
  | .opening d => some (⟨d, t.location⟩ :: groups)
  | .closing d =>
    match groups with
    | [] => none
    | group :: outer => if group.delimiter = d then some outer else none
  | _ => some groups

/-- The groups open after the tokens, the innermost first; none if one of them closes anything but
the innermost group. -/
def openAfter (groups : List OpenGroup) (tokens : List Token) : Option (List OpenGroup) :=
  tokens.foldlM Token.regroup groups

section Regroup

variable {t : Token} {d : Delimiter}

theorem Token.regroup_opening (h : t.kind = .opening d) (groups : List OpenGroup) :
    t.regroup groups = some (⟨d, t.location⟩ :: groups) := by
  simp only [regroup, h]

theorem Token.regroup_closing (h : t.kind = .closing d) (group : OpenGroup)
    (outer : List OpenGroup) :
    t.regroup (group :: outer) = if group.delimiter = d then some outer else none := by
  simp only [regroup, h]

theorem Token.regroup_of_not_isDelimiter (h : t.kind.isDelimiter = false)
    (groups : List OpenGroup) : t.regroup groups = some groups := by
  unfold regroup
  cases hk : t.kind with
  | opening | closing => simp [hk, Kind.isDelimiter] at h
  | number | letter | operator | function => rfl

end Regroup

@[simp] theorem openAfter_nil (groups : List OpenGroup) : openAfter groups [] = some groups := rfl

@[simp] theorem openAfter_cons (groups : List OpenGroup) (t : Token) (tokens : List Token) :
    openAfter groups (t :: tokens) = (t.regroup groups).bind (openAfter · tokens) :=
  List.foldlM_cons ..

@[simp] theorem openAfter_append (groups : List OpenGroup) (tokens more : List Token) :
    openAfter groups (tokens ++ more) = (openAfter groups tokens).bind (openAfter · more) :=
  List.foldlM_append ..

namespace Grammar

variable {settings : Settings} {bindings : Bindings} {room : Nat} {task : Task} {c c' : Cursor}
  {r : Except SyntaxError Subtree}

/-- A phrase closes the groups that it opens, and no others. -/
theorem Derives.openAfter_eq {p : Phrase} {ks : List Token.Kind} {t : Tree} {n : Nat}
    (h : Derives settings bindings p ks t n) {tokens : List Token}
    (hk : tokens.map Token.kind = ks) (groups : List OpenGroup) :
    openAfter groups tokens = some groups := by
  induction h generalizing tokens groups with
  | first _ ih | base _ ih => exact ih hk groups
  | more _ _ _ ih ih' | exponent _ _ ih ih' =>
    obtain ⟨left, _, rfl, hl, ho⟩ := List.map_eq_append_iff.mp hk
    obtain ⟨o, right, rfl, hop, hr⟩ := List.map_eq_cons_iff.mp ho
    have hplain := Token.regroup_of_not_isDelimiter (t := o) (by rw [hop]; rfl) groups
    simp [ih hl, hplain, ih' hr]
  | group delimiter _ ih =>
    obtain ⟨o, used, rfl, ho, hk⟩ := List.map_eq_cons_iff.mp hk
    obtain ⟨inner, last, rfl, hin, hlast⟩ := List.map_eq_append_iff.mp hk
    obtain ⟨u, rfl, hclose⟩ := List.map_eq_singleton_iff.mp hlast
    simp [Token.regroup_opening ho, ih hin, Token.regroup_closing hclose]
  | number | letter =>
    obtain ⟨o, rfl, ho⟩ := List.map_eq_singleton_iff.mp hk
    simp [Token.regroup_of_not_isDelimiter (t := o) (by rw [ho]; rfl)]
  | indexed =>
    obtain ⟨o, used, rfl, ho, hk⟩ := List.map_eq_cons_iff.mp hk
    obtain ⟨i, rfl, hi⟩ := List.map_eq_singleton_iff.mp hk
    simp [Token.regroup_of_not_isDelimiter (t := o) (by rw [ho]; rfl),
      Token.regroup_of_not_isDelimiter (t := i) (by rw [hi]; rfl)]
  | prefixed op _ ih =>
    obtain ⟨o, used, rfl, ho, hk⟩ := List.map_eq_cons_iff.mp hk
    simp [Token.regroup_of_not_isDelimiter (t := o) (by rw [ho, op.isDelimiter_kind]), ih hk]

/-! ### Where a phrase ends -/

/-- If an operator comes next, it binds less tightly than the level. -/
def Looser (level : Nat) (next : Option Token.Kind) : Prop :=
  ∀ op, next = some (.operator op) → op.rank.level < level

theorem looser_factor (next : Option Token.Kind) : Looser 3 next := by
  intro op _
  cases op <;> decide

/-- What is read goes on as long as the operators bind tightly enough; a tail must not start at one
that binds more tightly than its own. -/
def Task.Stops (settings : Settings) (c c' : Cursor) : Task → Prop
  | .phrase p => Looser p.level c'.next?
  | .tail rank _ => Looser (rank.level + 1) c.next? → Looser rank.level c'.next?
  | .deeper goal => Looser (goal.phrase settings).level c'.next?

theorem Reads.stops (h : Reads settings bindings room task c r c') {s : Subtree} (hr : r = .ok s) :
    task.Stops settings c c' := by
  induction h generalizing s with
  | @chain _ rank _ _ _ _ _ _ _ ih ih' =>
    have hoperand : Looser (Phrase.operand settings rank).level _ := ih rfl
    rw [Phrase.level_operand] at hoperand
    exact ih' hr hoperand
  | @tail_ends _ rank _ _ hnext =>
    intro hlooser op hop
    have hlt := hlooser op hop
    have hne := hnext op hop
    have hlevel : op.rank.level ≠ rank.level := by
      intro heq
      apply hne
      cases hop : op.rank <;> cases rank <;> simp_all [Rank.level]
    omega
  | @tail_goes_on _ rank _ _ _ _ _ _ _ _ _ _ _ _ _ _ ih ih' =>
    intro _
    have hoperand : Looser (Phrase.operand settings rank).level _ := ih rfl
    rw [Phrase.level_operand] at hoperand
    exact ih' hr hoperand
  | tower_ends _ _ hnext _ =>
    intro op hop
    cases op with
    | power => exact absurd hop hnext
    | add | subtract | multiply | divide => decide
  | tower hp _ _ _ _ ih =>
    have hexponent : Looser (Goal.power.phrase settings).level _ := ih rfl
    simp only [Goal.phrase, Phrase.powers, hp] at hexponent
    exact hexponent
  | deeper _ ih => exact ih hr
  | number | letter | indexed | group | prefixed => exact looser_factor _
  | _ => contradiction

/-- Nothing that goes on an expression comes after it. -/
theorem isOperator_of_stops {taken rest : List Token} {t : Token}
    (h : Looser Phrase.expression.level (Cursor.mk taken (t :: rest)).next?) :
    t.kind.isOperator = false := by
  cases hk : t.kind with
  | operator op =>
    have hlt := h op (by simp [Cursor.next?, hk])
    exact absurd hlt (Nat.not_lt_zero _)
  | number | letter | opening | closing | function => rfl

end Grammar

/-! ### Errors about groups -/

/-- What an error about groups says: a group that is not closed is the innermost one at the end of
the tokens; a token that stands where a group should end is the last one taken, and the group is the
innermost one before it; and before a token that is left over, the last one taken, no group is
open. -/
def SyntaxError.Innermost (tokens : List Token) (position : Nat) : SyntaxError → Prop
  | .unclosedDelimiter delimiter openedAt =>
    ∃ outer, openAfter [] tokens = some (⟨delimiter, openedAt⟩ :: outer)
  | .mismatchedDelimiter delimiter found location =>
    ∃ i token openedAt outer, position = i + 1 ∧ tokens[i]? = some token ∧ token.kind = found ∧
      token.location = location ∧
      openAfter [] (tokens.take i) = some (⟨delimiter, openedAt⟩ :: outer) ∧
      found ≠ .closing delimiter ∧ found.isOperator = false
  | .trailingTokens found location =>
    ∃ i token, position = i + 1 ∧ tokens[i]? = some token ∧ token.kind = found ∧
      token.location = location ∧ openAfter [] (tokens.take i) = some []
  | _ => True

namespace Grammar

variable {settings : Settings} {bindings : Bindings} {room : Nat} {task : Task} {c c' : Cursor}
  {r : Except SyntaxError Subtree} {groups : List OpenGroup}

/-- The groups open where the cursor stands. -/
def Opens (c : Cursor) (groups : List OpenGroup) : Prop :=
  openAfter [] c.taken.reverse = some groups

theorem Opens.next {taken rest : List Token} {t : Token} {groups' : List OpenGroup}
    (h : Opens ⟨taken, t :: rest⟩ groups) (ht : t.regroup groups = some groups') :
    Opens ⟨t :: taken, rest⟩ groups' := by
  have h' : openAfter [] taken.reverse = some groups := h
  simp [Opens, h', ht]

theorem Opens.operator {taken rest : List Token} {t : Token} {op : BinaryOperator}
    (h : Opens ⟨taken, t :: rest⟩ groups) (hk : t.kind = .operator op) :
    Opens ⟨t :: taken, rest⟩ groups :=
  h.next (Token.regroup_of_not_isDelimiter (by rw [hk]; rfl) groups)

theorem Opens.takes {used : List Token} (h : Opens c groups) (hu : c.Takes used c')
    (hused : openAfter groups used = some groups) : Opens c' groups := by
  have h' : openAfter [] c.taken.reverse = some groups := h
  simp [Opens, hu.taken, h', hused]

/-- Reading a phrase leaves the groups that are open as they were. -/
theorem Opens.phrase {p : Phrase} {s : Subtree} (h : Opens c groups)
    (hreads : Reads settings bindings room (.phrase p) c (.ok s) c') : Opens c' groups := by
  obtain ⟨used, hu, n, -, hd⟩ := hreads.derives rfl
  exact h.takes hu (hd.openAfter_eq rfl groups)

theorem Opens.deeper {goal : Goal} {s : Subtree} (h : Opens c groups)
    (hreads : Reads settings bindings room (.deeper goal) c (.ok s) c') : Opens c' groups := by
  obtain ⟨used, hu, n, -, hd⟩ := hreads.derives rfl
  exact h.takes hu (hd.openAfter_eq rfl groups)

/-- An error about groups is about the innermost one. -/
theorem Reads.innermost (h : Reads settings bindings room task c r c') {e : SyntaxError}
    (hr : r = .error e) (hopen : Opens c groups) :
    e.Innermost (c'.taken.reverse ++ c'.rest) c'.position := by
  induction h generalizing groups with
  | chain_fails _ ih | deeper _ ih | tower_fails _ _ ih => exact ih hr hopen
  | chain hfirst _ _ ih => exact ih hr (hopen.phrase hfirst)
  | tail_fails hk _ _ ih => exact ih hr (hopen.operator hk)
  | tail_goes_on hk _ hright _ _ _ ih => exact ih hr ((hopen.operator hk).phrase hright)
  | exponent_fails _ hbase hk _ _ ih => exact ih hr ((hopen.phrase hbase).operator hk)
  | group_fails hk _ ih => exact ih hr (hopen.next (Token.regroup_opening hk groups))
  | prefixed_fails hk _ ih =>
    exact ih hr (hopen.next (Token.regroup_of_not_isDelimiter
      (by rw [hk, UnaryOperator.isDelimiter_kind]) groups))
  | unclosed hk hinner _ =>
    cases hr
    have hgroups : Opens _ _ := (hopen.next (Token.regroup_opening hk groups)).deeper hinner
    exact ⟨groups, by simpa [Opens] using hgroups⟩
  | @mismatched _ _ t _ _ _ taken u rest hk hinner hu _ =>
    cases hr
    have hgroups : Opens _ _ := (hopen.next (Token.regroup_opening hk groups)).deeper hinner
    have hstops : Task.Stops settings _ _ _ := hinner.stops rfl
    exact ⟨taken.length, u, t.location, groups, rfl, by simp, rfl, rfl,
      by simpa [Opens] using hgroups, hu, isOperator_of_stops hstops⟩
  | tail_refused _ _ _ hfit =>
    obtain ⟨-, rfl⟩ := fitted_eq_error.mp hfit
    cases hr
    trivial
  | tower | indexed | prefixed =>
    obtain ⟨-, rfl⟩ := fitted_eq_error.mp hr
    trivial
  | too_deep | ended | unexpected =>
    cases hr
    trivial
  | tail_ends | tower_ends | number | letter | group => contradiction

/-- An error about groups is about the innermost group that is open where it is found. -/
theorem parse_error_innermost {tokens : List Token} {e : SyntaxError}
    (h : parse settings bindings tokens = .error e) :
    e.Innermost tokens (run settings bindings tokens).cursor.position := by
  have hne : tokens ≠ [] := by
    rintro rfl
    simp [parse_nil] at h
  obtain ⟨r, c', hreads, hparse⟩ := exists_reads settings bindings tokens
  obtain ⟨used, hu, -⟩ := hreads.takes
  have htokens : c'.taken.reverse ++ c'.rest = tokens := by
    simp [hu.taken, ← hu.rest, Cursor.ofList]
  have hcursor : (run settings bindings tokens).cursor = stop r c' := (whole_runs hne hreads).2
  have hstart : Opens (.ofList tokens) [] := rfl
  rw [hparse hne] at h
  rw [hcursor, ← htokens]
  obtain e' | s := r
  · obtain rfl : e' = e := Except.error.inj h
    exact hreads.innermost rfl hstart
  · have hopen : Opens c' [] := hstart.phrase hreads
    obtain ⟨taken, _ | ⟨t, rest⟩⟩ := c'
    · contradiction
    · obtain rfl : _ = e := Except.error.inj h
      exact ⟨taken.length, t, rfl, by simp, rfl, rfl, by simpa [Opens] using hopen⟩

/-- A parenthesis where the inner one of two groups has to end. -/
theorem parse_error_innermost_bracket :
    let tokens := [⟨.opening .paren, "(", ⟨1, 1, 0⟩⟩, ⟨.opening .bracket, "[", ⟨1, 2, 1⟩⟩,
      ⟨.letter "x", "x", ⟨1, 3, 2⟩⟩, Token.mk (.closing .paren) ")" ⟨1, 4, 3⟩]
    let e := SyntaxError.mismatchedDelimiter .bracket (.closing .paren) ⟨1, 4, 3⟩
    parse {} {} tokens = .error e ∧ e.Innermost tokens (run {} {} tokens).cursor.position := by
  intro tokens e
  have h : parse {} {} tokens = .error e := rfl
  exact ⟨h, parse_error_innermost h⟩

end Grammar

end Formula
