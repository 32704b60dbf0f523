import Formula.Proofs.Grammar.Agreement

/-! The parser accepts what the grammar derives within the limits, with the tree of the derivation.
What is read has a derivation: `Reads.derives` follows the rules of reading.  What is derived is
read, or refused by a limit if it exceeds one: `Derives.decides` follows the rules of the
grammar. -/

namespace Formula

/-- Whether a subtree has passed the check of its height, and knows its height. -/
structure Subtree.Measured (settings : Settings) (s : Subtree) : Prop where
  height : s.height = s.tree.depth
  fits : s.tree.Fits settings

/-- The tree of a subtree with its height. -/
def Tree.subtree (t : Tree) : Subtree := ⟨t, t.depth⟩

namespace Grammar

variable {settings : Settings} {bindings : Bindings} {room : Nat} {task : Task} {c c' : Cursor}
  {r : Except SyntaxError Subtree}

theorem isBare_leaf (bindings : Bindings) (name : String) : (bindings.leaf name).isBare = true := by
  unfold Bindings.leaf
  split <;> rfl

theorem depth_leaf (bindings : Bindings) (name : String) : (bindings.leaf name).depth = 1 := by
  unfold Bindings.leaf
  split <;> rfl

theorem measured_fitted {location : Location} {s s' : Subtree}
    (h : fitted settings location s = .ok s')
    (height : s.height = s.tree.depth) : s'.Measured settings := by
  obtain ⟨hle, rfl⟩ := fitted_eq_ok.mp h
  exact ⟨height, .inr (height ▸ hle)⟩

/-- Every subtree that is read knows its height and has passed the check. -/
theorem Reads.measured (h : Reads settings bindings room task c r c') {s : Subtree} (hr : r = .ok s)
    (hleft : ∀ rank left, task = .tail rank left → left.Measured settings) :
    s.Measured settings := by
  induction h generalizing s with
  | chain _ _ ih ih' => exact ih' hr fun _ _ h => by cases h; exact ih rfl (by simp)
  | tail_ends => cases hr; exact hleft _ _ rfl
  | tail_goes_on _ _ _ hfit _ ih ih' =>
    refine ih' hr fun _ _ h => ?_
    cases h
    have hl := hleft _ _ rfl
    have hr := ih rfl (by simp)
    exact measured_fitted hfit (by simp [Subtree.binary, Tree.depth, hl.height, hr.height])
  | tower_ends _ _ _ ih => exact ih hr (by simp)
  | tower _ _ _ _ ih ih' =>
    have hl := ih rfl (by simp)
    have hr' := ih' rfl (by simp)
    exact measured_fitted hr (by simp [Subtree.binary, Tree.depth, hl.height, hr'.height])
  | deeper _ ih => exact ih hr (by simp)
  | number => cases hr; exact ⟨rfl, .inl rfl⟩
  | letter => cases hr; exact ⟨(depth_leaf _ _).symm, .inl (isBare_leaf _ _)⟩
  | indexed => exact measured_fitted hr rfl
  | group _ _ _ ih => exact ih hr (by simp)
  | prefixed _ _ ih =>
    have ho := ih rfl (by simp)
    exact measured_fitted hr (by simp [Subtree.unary, Tree.depth, ho.height])
  | _ => contradiction

/-- What has been derived once a task has read the kinds `ks`: the phrase itself, or, after a tail,
the chain that it goes on from. -/
def Task.Derives (settings : Settings) (bindings : Bindings) (room : Nat) (ks : List Token.Kind)
    (s : Subtree) : Task → Prop
  | .phrase p => ∃ n ≤ room, Grammar.Derives settings bindings p ks s.tree n
  | .tail rank left => ∀ ls m, m ≤ room →
    Grammar.Derives settings bindings (.chain rank) ls left.tree m →
    ∃ n ≤ room, Grammar.Derives settings bindings (.chain rank) (ls ++ ks) s.tree n
  | .deeper goal => ∃ n < room, Grammar.Derives settings bindings (goal.phrase settings) ks s.tree n

/-- What is read is derived by the grammar, with the nesting that there is room for. -/
theorem Reads.derives (h : Reads settings bindings room task c r c') {s : Subtree}
    (hr : r = .ok s) : ∃ used, c.Takes used c' ∧
      task.Derives settings bindings room (used.map Token.kind) s := by
  induction h generalizing s with
  | chain _ _ ih ih' =>
    obtain ⟨used, hu, n, hn, hd⟩ := ih rfl
    obtain ⟨used', hu', hd'⟩ := ih' hr
    refine ⟨used ++ used', hu.trans hu', ?_⟩
    rw [List.map_append]
    exact hd' _ n hn (.first hd)
  | tail_ends =>
    cases hr
    exact ⟨[], .refl _, fun ls m hm h => ⟨m, hm, by simpa using h⟩⟩
  | tail_goes_on hk hrank _ _ _ ih ih' =>
    obtain ⟨used, hu, n, hn, hd⟩ := ih rfl
    obtain ⟨used', hu', hd'⟩ := ih' hr
    refine ⟨_, hu.cons.trans hu', fun ls m hm h => ?_⟩
    obtain ⟨n', hn', hd''⟩ := hd' _ (max m n) (by omega) (.more hrank h hd)
    exact ⟨n', hn', by simpa [hk] using hd''⟩
  | tower_ends _ _ _ ih =>
    obtain ⟨used, hu, n, hn, hd⟩ := ih hr
    exact ⟨used, hu, n, hn, .base hd⟩
  | tower hp _ hk _ ih ih' =>
    obtain ⟨-, rfl⟩ := fitted_eq_ok.mp hr
    obtain ⟨used, hu, n, hn, hd⟩ := ih rfl
    obtain ⟨used', hu', n', hn', hd'⟩ := ih' rfl
    simp only [Goal.phrase, Phrase.powers, hp] at hd'
    exact ⟨_, hu.trans hu'.cons, max n (n' + 1), by omega, by simpa [hk] using .exponent hd hd'⟩
  | deeper _ ih =>
    obtain ⟨used, hu, n, hn, hd⟩ := ih hr
    exact ⟨used, hu, n, by omega, hd⟩
  | number hk =>
    cases hr
    exact ⟨_, .one _ _ _, 0, by omega, by simpa [hk] using .number _⟩
  | letter hk =>
    cases hr
    exact ⟨_, .one _ _ _, 0, by omega, by simpa [hk] using .letter _⟩
  | indexed hk hi hv =>
    obtain ⟨-, rfl⟩ := fitted_eq_ok.mp hr
    exact ⟨_, (Cursor.Takes.one _ _ _).cons, 0, by omega, by simpa [hk, hv] using .indexed _ _ hi⟩
  | group hk _ hu ih =>
    obtain ⟨used, hused, n, hn, hd⟩ := ih hr
    exact ⟨_, (hused.trans (.one _ _ _)).cons, n + 1, by omega, by simpa [hk, hu] using .group _ hd⟩
  | prefixed hk _ ih =>
    obtain ⟨-, rfl⟩ := fitted_eq_ok.mp hr
    obtain ⟨used, hu, n, hn, hd⟩ := ih rfl
    exact ⟨_, hu.cons, n + 1, by omega, by simpa [hk] using .prefixed _ hd⟩
  | _ => contradiction

/-! ### What is derived is read or exceeds a limit -/

/-- The task stops at one of the two limits. -/
def Refuses (settings : Settings) (bindings : Bindings) (room : Nat) (task : Task) (c : Cursor) :
    Prop :=
  ∃ limit location c', (limit = settings.maxDepth ∨ limit = settings.maxTreeDepth) ∧
    Reads settings bindings room task c (.error (.nestingTooDeep limit location)) c'

/-- A task that fails whenever another one does stops at its limits. -/
theorem Refuses.imp {room' : Nat} {task' : Task} (h : Refuses settings bindings room task c)
    (himp : ∀ e c1, Reads settings bindings room task c (.error e) c1 →
      Reads settings bindings room' task' c' (.error e) c1) :
    Refuses settings bindings room' task' c' := by
  obtain ⟨limit, location, c1, hl, hr⟩ := h
  exact ⟨limit, location, c1, hl, himp _ _ hr⟩

/-- What may come after a phrase whose operators bind at least as tightly as the level: nothing, the
end of a group, or an operator that binds less tightly. -/
def Follows (level : Nat) (next : Option Token.Kind) : Prop :=
  ∀ k, next = some k → (∃ d, k = .closing d) ∨ ∃ op, k = .operator op ∧ op.rank.level < level

theorem Follows.mono {level level' : Nat} {next : Option Token.Kind} (h : Follows level next)
    (hle : level ≤ level') : Follows level' next := by
  intro k hk
  obtain h | ⟨op, hop, hlt⟩ := h k hk
  · exact .inl h
  · exact .inr ⟨op, hop, by omega⟩

theorem Follows.operator {level : Nat} {op : BinaryOperator} (h : op.rank.level < level) :
    Follows level (some (.operator op)) := by
  rintro k ⟨⟩
  exact .inr ⟨op, rfl, h⟩

theorem Follows.ne_number {level : Nat} {next : Option Token.Kind} (h : Follows level next)
    (value : Double) : next ≠ some (.number value) := by
  intro hk
  obtain ⟨d, hd⟩ | ⟨op, hop, -⟩ := h _ hk
  · contradiction
  · contradiction

theorem Phrase.level_operand (settings : Settings) (rank : Rank) :
    (Phrase.operand settings rank).level = rank.level + 1 := by
  cases rank with
  | sum | power => rfl
  | product =>
    show (powers settings).level = 2
    unfold powers
    split <;> rfl

theorem Phrase.occurs_operand (settings : Settings) (rank : Rank) :
    (Phrase.operand settings rank).Occurs settings := by
  cases rank with
  | sum | power => simp [operand, Occurs]
  | product => exact occurs_powers settings

/-- Reading the phrase comes to `c'` with the tree `t`; a chain may go on from there. -/
def Phrase.Leads (settings : Settings) (bindings : Bindings) (room : Nat) (c c' : Cursor)
    (t : Tree) : Phrase → Prop
  | .chain rank => ∀ r c'', Reads settings bindings room (.tail rank t.subtree) c' r c'' →
    Reads settings bindings room (.phrase (.chain rank)) c r c''
  | p => Reads settings bindings room (.phrase p) c (.ok t.subtree) c'

/-- The tightest operators that may come next where a phrase has come to: a chain may go on with
operators of its own rank. -/
def Phrase.reach : Phrase → Nat
  | .chain rank => rank.level + 1
  | p => p.level

theorem Phrase.level_le_reach (p : Phrase) : p.level ≤ p.reach := by
  cases p <;> simp [reach, level]

theorem Phrase.lt_reach_operand (settings : Settings) (rank : Rank) :
    rank.level < (Phrase.operand settings rank).reach := by
  have := level_operand settings rank
  have := level_le_reach (operand settings rank)
  omega

/-- A phrase is all read when nothing comes next that it could go on with. -/
theorem Phrase.Leads.reads {p : Phrase} {t : Tree} (h : p.Leads settings bindings room c c' t)
    (hf : Follows p.level c'.next?) :
    Reads settings bindings room (.phrase p) c (.ok t.subtree) c' := by
  cases p with
  | tower | factor => exact h
  | chain rank =>
    refine h _ _ (.tail_ends fun op hop hrank => ?_)
    obtain ⟨d, hd⟩ | ⟨op', hop', hlt⟩ := hf _ hop
    · contradiction
    · cases hop'
      simp [hrank, Phrase.level] at hlt

/-- Reading the phrase from `c` comes to `c'` if the room and the tree allow it, and else stops at a
limit. -/
structure Decides (settings : Settings) (bindings : Bindings) (room : Nat) (p : Phrase)
    (c c' : Cursor) (t : Tree) (n : Nat) : Prop where
  leads : n ≤ room → t.Fits settings → p.Leads settings bindings room c c' t
  refuses : ¬(n ≤ room ∧ t.Fits settings) → Refuses settings bindings room (.phrase p) c

theorem Decides.reads {p : Phrase} {t : Tree} {n : Nat}
    (h : Decides settings bindings room p c c' t n) (hf : Follows p.level c'.next?) (hn : n ≤ room)
    (ht : t.Fits settings) : Reads settings bindings room (.phrase p) c (.ok t.subtree) c' :=
  (h.leads hn ht).reads hf

section Deeper

variable {t : Tree} {n : Nat}

/-- One level deeper there has to be one level of room more. -/
theorem deeper_reads {goal : Goal}
    (h : ∀ room, Decides settings bindings room (goal.phrase settings) c c' t n)
    (hf : Follows (goal.phrase settings).level c'.next?) (hn : n < room) (ht : t.Fits settings) :
    Reads settings bindings room (.deeper goal) c (.ok t.subtree) c' := by
  cases room with
  | zero => omega
  | succ room => exact .deeper ((h room).reads hf (by omega) ht)

theorem deeper_refuses {goal : Goal}
    (h : ∀ room, Decides settings bindings room (goal.phrase settings) c c' t n)
    (hn : ¬(n < room ∧ t.Fits settings)) : Refuses settings bindings room (.deeper goal) c := by
  cases room with
  | zero => exact ⟨_, _, _, .inl rfl, .too_deep⟩
  | succ room =>
    exact ((h room).refuses fun hfit => hn ⟨by omega, hfit.2⟩).imp fun _ _ => .deeper

end Deeper

theorem fitted_eq_subtree {t : Tree} (location : Location) (hb : t.isBare = false)
    (ht : t.Fits settings) : fitted settings location t.subtree = .ok t.subtree :=
  fitted_eq_ok.mpr ⟨ht.depth_le hb, rfl⟩

theorem fitted_of_not_fits {t : Tree} (location : Location) (ht : ¬t.Fits settings) :
    fitted settings location t.subtree =
      .error (.nestingTooDeep settings.maxTreeDepth location) :=
  fitted_eq_error.mpr ⟨by simpa [Tree.Fits, Tree.subtree] using fun h => ht (.inr h), rfl⟩

/-- A task that ends with the check of a tree reads the tree if it fits. -/
theorem Reads.of_fitted {t : Tree} {location : Location}
    (h : Reads settings bindings room task c (fitted settings location t.subtree) c')
    (hb : t.isBare = false) (ht : t.Fits settings) :
    Reads settings bindings room task c (.ok t.subtree) c' := by
  rwa [fitted_eq_subtree _ hb ht] at h

theorem Refuses.of_fitted {t : Tree} {location : Location}
    (h : Reads settings bindings room task c (fitted settings location t.subtree) c')
    (ht : ¬t.Fits settings) : Refuses settings bindings room task c := by
  rw [fitted_of_not_fits _ ht] at h
  exact ⟨_, _, _, .inr rfl, h⟩

theorem Decides.first {rank : Rank} {t : Tree} {n : Nat}
    (h : Decides settings bindings room (.operand settings rank) c c' t n)
    (hf : Follows (rank.level + 1) c'.next?) :
    Decides settings bindings room (.chain rank) c c' t n where
  leads hn ht _ _ htail := .chain (h.reads (by rwa [Phrase.level_operand]) hn ht) htail
  refuses hne := (h.refuses hne).imp fun _ _ => .chain_fails

theorem Decides.more {rank : Rank} {op : BinaryOperator} {taken rest : List Token} {o : Token}
    {l r : Tree} {m n : Nat} (hk : o.kind = .operator op) (hrank : op.rank = rank)
    (hl : Decides settings bindings room (.chain rank) c ⟨taken, o :: rest⟩ l m)
    (hr : Decides settings bindings room (.operand settings rank) ⟨o :: taken, rest⟩ c' r n)
    (hf : Follows (rank.level + 1) c'.next?) :
    Decides settings bindings room (.chain rank) c c' (.binary op l r) (max m n) := by
  have hf' : Follows (Phrase.operand settings rank).level c'.next? := by
    rwa [Phrase.level_operand]
  constructor
  · intro hn ht r' c'' htail
    have hd := ht.depth_le rfl
    simp only [Tree.depth] at hd
    exact hl.leads (by omega) (.inr (by omega)) _ _ (.tail_goes_on hk hrank
      (hr.reads hf' (by omega) (.inr (by omega))) (fitted_eq_subtree _ rfl ht) htail)
  · intro hne
    -- The limit is met in the left operand, in the right one, or where they are joined.
    by_cases hlfits : m ≤ room ∧ l.Fits settings
    · have hleads := hl.leads hlfits.1 hlfits.2
      by_cases hrfits : n ≤ room ∧ r.Fits settings
      · have htoo : ¬(Tree.binary op l r).Fits settings := fun ht => hne ⟨by omega, ht⟩
        have hright := hr.reads hf' hrfits.1 hrfits.2
        exact ⟨_, _, _, .inr rfl,
          hleads _ _ (.tail_refused hk hrank hright (fitted_of_not_fits _ htoo))⟩
      · exact (hr.refuses hrfits).imp fun _ _ h => hleads _ _ (.tail_fails hk hrank h)
    · exact (hl.refuses hlfits).imp fun _ _ => id

theorem Decides.base {t : Tree} {n : Nat} (hp : settings.power = .right)
    (h : Decides settings bindings room .factor c c' t n) (hf : Follows 2 c'.next?) :
    Decides settings bindings room .tower c c' t n where
  leads hn ht := by
    refine .tower_ends hp (h.leads hn ht) fun hk => ?_
    obtain ⟨d, hd⟩ | ⟨op, hop, hlt⟩ := hf _ hk
    · contradiction
    · cases hop
      simp [BinaryOperator.rank, Rank.level] at hlt
  refuses hne := (h.refuses hne).imp fun _ _ => .tower_fails hp

theorem Decides.exponent {taken rest : List Token} {o : Token} {l r : Tree} {m n : Nat}
    (hp : settings.power = .right) (hk : o.kind = .operator .power)
    (hl : Decides settings bindings room .factor c ⟨taken, o :: rest⟩ l m)
    (hr : ∀ room, Decides settings bindings room .tower ⟨o :: taken, rest⟩ c' r n)
    (hf : Follows 2 c'.next?) :
    Decides settings bindings room .tower c c' (.binary .power l r) (max m (n + 1)) := by
  have hgoal : Goal.power.phrase settings = .tower := by
    simp [Goal.phrase, Phrase.powers, hp]
  rw [← hgoal] at hr
  have hf' : Follows (Goal.power.phrase settings).level c'.next? := by rwa [hgoal]
  constructor
  · intro hn ht
    have hd := ht.depth_le rfl
    simp only [Tree.depth] at hd
    have hbase := hl.leads (by omega) (.inr (by omega))
    have hexponent : Reads settings bindings room (.deeper .power) _ _ c' :=
      deeper_reads hr hf' (by omega) (.inr (by omega))
    exact .of_fitted (t := .binary .power l r) (.tower hp hbase hk hexponent) rfl ht
  · intro hne
    by_cases hlfits : m ≤ room ∧ l.Fits settings
    · have hbase := hl.leads hlfits.1 hlfits.2
      by_cases hrfits : n < room ∧ r.Fits settings
      · have htoo : ¬(Tree.binary .power l r).Fits settings := fun ht => hne ⟨by omega, ht⟩
        have hexponent := deeper_reads hr hf' hrfits.1 hrfits.2
        exact .of_fitted (.tower hp hbase hk hexponent) htoo
      · exact (deeper_refuses hr hrfits).imp fun _ _ h => .exponent_fails hp hbase hk h
    · exact (hl.refuses hlfits).imp fun _ _ => .tower_fails hp

theorem Decides.group {taken rest taken1 rest1 : List Token} {o u : Token} {delimiter : Delimiter}
    {t : Tree} {n : Nat} (ho : o.kind = .opening delimiter) (hu : u.kind = .closing delimiter)
    (h : ∀ room, Decides settings bindings room .expression ⟨o :: taken, rest⟩
      ⟨taken1, u :: rest1⟩ t n) :
    Decides settings bindings room .factor ⟨taken, o :: rest⟩ ⟨u :: taken1, rest1⟩ t (n + 1) := by
  have hf : Follows (Goal.expression.phrase settings).level
      (Cursor.mk taken1 (u :: rest1)).next? := by
    simp [Follows, Cursor.next?, hu]
  constructor
  · intro hn ht
    have hinner : Reads settings bindings room (.deeper .expression) _ _ _ :=
      deeper_reads h hf (by omega) ht
    exact .group ho hinner hu
  · intro hne
    have hinner : Refuses settings bindings room (.deeper .expression) _ :=
      deeper_refuses h fun hfit => hne ⟨by omega, hfit.2⟩
    exact hinner.imp fun _ _ => .group_fails ho

theorem Decides.prefixed {taken rest : List Token} {o : Token} {op : UnaryOperator}
    {t : Tree} {n : Nat} (ho : o.kind = op.kind)
    (h : ∀ room, Decides settings bindings room .factor ⟨o :: taken, rest⟩ c' t n)
    (hf : Follows 3 c'.next?) :
    Decides settings bindings room .factor ⟨taken, o :: rest⟩ c' (.unary op t) (n + 1) := by
  constructor
  · intro hn ht
    have hd := ht.depth_le rfl
    simp only [Tree.depth] at hd
    have hoperand : Reads settings bindings room (.deeper .factor) _ _ c' :=
      deeper_reads h hf (by omega) (.inr (by omega))
    exact .of_fitted (t := .unary op t) (.prefixed ho hoperand) rfl ht
  · intro hne
    by_cases hfits : n < room ∧ t.Fits settings
    · have htoo : ¬(Tree.unary op t).Fits settings := fun ht => hne ⟨by omega, ht⟩
      have hoperand : Reads settings bindings room (.deeper .factor) _ _ c' :=
        deeper_reads h hf hfits.1 hfits.2
      exact .of_fitted (.prefixed ho hoperand) htoo
    · have hoperand : Refuses settings bindings room (.deeper .factor) _ := deeper_refuses h hfits
      exact hoperand.imp fun _ _ => .prefixed_fails ho

/-- A factor of one token without index is always read. -/
theorem Decides.bare {t : Tree} (hb : t.isBare = true)
    (h : Reads settings bindings room (.phrase .factor) c (.ok (leaf t)) c') :
    Decides settings bindings room .factor c c' t 0 where
  leads _ _ := by
    have hd : t.depth = 1 := by cases t <;> simp_all [Tree.isBare, Tree.depth]
    rwa [leaf, ← hd] at h
  refuses hne := absurd ⟨Nat.zero_le _, .inl hb⟩ hne

/-- What the grammar derives is read within the limits and refused beyond them. -/
theorem Derives.decides {p : Phrase} {ks : List Token.Kind} {t : Tree} {n : Nat}
    (h : Derives settings bindings p ks t n) (hp : p.Occurs settings) {used : List Token}
    (hu : c.Takes used c') (hk : used.map Token.kind = ks) (hf : Follows p.reach c'.next?)
    (room : Nat) : Decides settings bindings room p c c' t n := by
  -- The tokens are split as the rule splits their kinds; what follows each part then is a token of
  -- the rule or what follows the whole, and keeps the part from going on.
  induction h generalizing c c' used room with
  | @first rank _ _ _ _ ih =>
    have hf' := hf.mono (Phrase.lt_reach_operand settings rank)
    exact .first (ih (Phrase.occurs_operand settings rank) hu hk hf' room) hf
  | @more rank op _ _ _ _ _ _ hrank _ _ ihl ihr =>
    obtain ⟨left, _, rfl, hl, ho⟩ := List.map_eq_append_iff.mp hk
    obtain ⟨o, right, rfl, hop, hr⟩ := List.map_eq_cons_iff.mp ho
    obtain ⟨taken, rest, hu1, hu2⟩ := hu.split
    have hnext : Follows (rank.level + 1) (Cursor.mk taken (o :: rest)).next? := by
      simpa [Cursor.next?, hop] using Follows.operator (by simp [hrank])
    have hf' := hf.mono (Phrase.lt_reach_operand settings rank)
    exact .more hop hrank (ihl hp hu1 hl hnext room)
      (ihr (Phrase.occurs_operand settings rank) hu2 hr hf' room) hf
  | base _ ih =>
    exact .base (hp rfl) (ih (by simp [Phrase.Occurs]) hu hk (hf.mono (by decide)) room) hf
  | exponent _ _ ih ih' =>
    obtain ⟨left, _, rfl, hl, ho⟩ := List.map_eq_append_iff.mp hk
    obtain ⟨o, right, rfl, hop, hr⟩ := List.map_eq_cons_iff.mp ho
    obtain ⟨taken, rest, hu1, hu2⟩ := hu.split
    have hnext : Follows 3 (Cursor.mk taken (o :: rest)).next? := by
      simpa [Cursor.next?, hop] using Follows.operator (by decide)
    exact .exponent (hp rfl) hop (ih (by simp [Phrase.Occurs]) hu1 hl hnext room)
      (ih' hp hu2 hr hf) hf
  | group delimiter _ ih =>
    obtain ⟨o, used, rfl, ho, hk⟩ := List.map_eq_cons_iff.mp hk
    obtain ⟨inner, last, rfl, hin, hlast⟩ := List.map_eq_append_iff.mp hk
    obtain ⟨u, rfl, hclose⟩ := List.map_eq_singleton_iff.mp hlast
    obtain ⟨taken, rest, rfl, hu'⟩ := hu.uncons
    obtain ⟨taken1, rest1, hu1, hu2⟩ := hu'.split
    obtain rfl := hu2.eq
    have hnext : Follows 1 (Cursor.mk taken1 (u :: rest1)).next? := by
      simp [Follows, Cursor.next?, hclose]
    exact .group ho hclose (ih (by simp [Phrase.Occurs]) hu1 hin hnext)
  | number value =>
    obtain ⟨o, rfl, ho⟩ := List.map_eq_singleton_iff.mp hk
    obtain ⟨taken, rest, rfl, hu'⟩ := hu.uncons
    obtain rfl := hu'.eq
    exact .bare rfl (.number ho)
  | letter name =>
    obtain ⟨o, rfl, ho⟩ := List.map_eq_singleton_iff.mp hk
    obtain ⟨taken, rest, rfl, hu'⟩ := hu.uncons
    obtain rfl := hu'.eq
    exact .bare (isBare_leaf bindings name) (.letter ho fun _ => hf.ne_number)
  | indexed name value hi =>
    obtain ⟨o, used, rfl, ho, hk⟩ := List.map_eq_cons_iff.mp hk
    obtain ⟨i, rfl, hv⟩ := List.map_eq_singleton_iff.mp hk
    obtain ⟨taken, rest, rfl, hu'⟩ := hu.uncons
    obtain ⟨taken1, rest1, hc, hu''⟩ := hu'.uncons
    obtain ⟨rfl, rfl⟩ := Cursor.mk.inj hc
    obtain rfl := hu''.eq
    have h : Reads settings bindings room (.phrase .factor) ⟨taken, o :: i :: rest1⟩ _ _ :=
      .indexed ho hi hv
    exact ⟨fun _ ht => .of_fitted (t := .indexed name (.number value)) h rfl ht,
      fun hne => .of_fitted (t := .indexed name (.number value)) h fun ht => hne ⟨by omega, ht⟩⟩
  | prefixed op _ ih =>
    obtain ⟨o, used, rfl, ho, hk⟩ := List.map_eq_cons_iff.mp hk
    obtain ⟨taken, rest, rfl, hu'⟩ := hu.uncons
    exact .prefixed ho (ih (by simp [Phrase.Occurs]) hu' hk hf) hf

/-! ### Whole sequences of tokens -/

theorem takes_ofList (tokens : List Token) :
    (Cursor.ofList tokens).Takes tokens ⟨tokens.reverse, []⟩ :=
  ⟨by simp [Cursor.ofList], by simp [Cursor.ofList]⟩

/-- A tree that is parsed is the tree of a derivation within the limits. -/
theorem derives_of_parse {tokens : List Token} {t : Tree}
    (h : parse settings bindings tokens = .ok (some t)) :
    ∃ n ≤ settings.maxDepth,
      Derives settings bindings .expression (tokens.map Token.kind) t n ∧ t.Fits settings := by
  obtain ⟨-, s, rfl, hreads⟩ := reads_of_parse h
  obtain ⟨used, hu, n, hn, hd⟩ := hreads.derives rfl
  have hused : tokens = used := by simpa [Cursor.ofList] using hu.rest
  exact ⟨n, hn, hused ▸ hd, (hreads.measured rfl (by simp)).fits⟩

/-- A derivation decides what becomes of its tokens: its tree within the limits, and beyond them an
error that tells of a limit. -/
theorem Derives.parse {tokens : List Token} {t : Tree} {n : Nat}
    (h : Derives settings bindings .expression (tokens.map Token.kind) t n) :
    (n ≤ settings.maxDepth → t.Fits settings →
      Grammar.parse settings bindings tokens = .ok (some t)) ∧
    (¬(n ≤ settings.maxDepth ∧ t.Fits settings) → ∃ limit location,
      (limit = settings.maxDepth ∨ limit = settings.maxTreeDepth) ∧
      Grammar.parse settings bindings tokens = .error (.nestingTooDeep limit location)) := by
  have hne : tokens ≠ [] := by
    rintro rfl
    exact h.ne_nil rfl
  have hd := h.decides (by simp [Phrase.Occurs]) (takes_ofList tokens) rfl
    (by simp [Follows, Cursor.next?]) settings.maxDepth
  constructor
  · intro hn ht
    exact parse_eq_finish hne (hd.reads (by simp [Follows, Cursor.next?]) hn ht)
  · intro hlim
    obtain ⟨limit, location, c', hl, hr⟩ := hd.refuses hlim
    exact ⟨limit, location, hl, parse_eq_finish hne hr⟩

theorem parse_eq_none_iff {tokens : List Token} :
    parse settings bindings tokens = .ok none ↔ tokens = [] := by
  constructor
  · intro h
    cases tokens with
    | nil => rfl
    | cons t tokens =>
      obtain ⟨r, c', -, hparse⟩ := exists_reads settings bindings (t :: tokens)
      rw [hparse (List.cons_ne_nil t tokens)] at h
      exact absurd h (finish_ne_none r c')
  · rintro rfl
    exact parse_nil

/-- A tree depends on the kinds of the tokens only. -/
theorem parse_eq_ok_of_kinds {tokens tokens' : List Token} {t : Option Tree}
    (hkinds : tokens.map Token.kind = tokens'.map Token.kind)
    (h : parse settings bindings tokens = .ok t) : parse settings bindings tokens' = .ok t := by
  cases t with
  | none =>
    obtain rfl := parse_eq_none_iff.mp h
    rw [List.map_eq_nil_iff.mp hkinds.symm]
    exact parse_nil
  | some t =>
    obtain ⟨n, hn, hderives, hfits⟩ := derives_of_parse h
    rw [hkinds] at hderives
    exact hderives.parse.1 hn hfits

/-- The parser returns no tree for the empty sequence only, and a tree for exactly those sequences
that the grammar derives with that tree within the limits. -/
theorem parse_eq_ok_iff (settings : Settings) (bindings : Bindings) (tokens : List Token) :
    (parse settings bindings tokens = .ok none ↔ tokens = []) ∧
    ∀ t, parse settings bindings tokens = .ok (some t) ↔
      ∃ n ≤ settings.maxDepth,
        Derives settings bindings .expression (tokens.map Token.kind) t n ∧ t.Fits settings := by
  refine ⟨parse_eq_none_iff, fun t => ⟨derives_of_parse, ?_⟩⟩
  rintro ⟨n, hn, hd, ht⟩
  exact hd.parse.1 hn ht

end Grammar

end Formula
