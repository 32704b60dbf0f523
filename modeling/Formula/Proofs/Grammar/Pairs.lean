import Formula.Proofs.Grammar.Groups

/-! Parentheses and brackets group alike.  Tokens that differ in the kinds of their delimiters only
are derived alike as long as in both every group is closed by its own closing symbol; so a pair of
delimiters may be exchanged for one of the other kind, wherever it stands and whatever it groups. -/

namespace Formula

/-- The tokens close the groups that they open, each by its own closing symbol, and no others. -/
def Matched (tokens : List Token) : Prop := openAfter [] tokens = some []

/-- The kind of a token, but for the kind of its delimiter. -/
def Token.Kind.shape : Kind → Kind
  | .opening _ => .opening .paren
  | .closing _ => .closing .paren
  | k => k

def Token.shape (t : Token) : Kind := t.kind.shape

namespace Token.Kind

theorem eq_of_shape_eq {k k' : Kind} (h : k.shape = k'.shape) (hk : k'.isDelimiter = false) :
    k = k' := by
  cases k <;> cases k' <;> simp_all [shape, isDelimiter]

theorem opening_of_shape_eq {k : Kind} (h : k.shape = .opening .paren) : ∃ d, k = .opening d := by
  cases k <;> simp_all [shape]

theorem closing_of_shape_eq {k : Kind} (h : k.shape = .closing .paren) : ∃ d, k = .closing d := by
  cases k <;> simp_all [shape]

end Token.Kind

/-- Groups further out play no part in what tokens open and close. -/
theorem Token.regroup_outer {t : Token} {groups groups' : List OpenGroup}
    (h : t.regroup groups = some groups') (outer : List OpenGroup) :
    t.regroup (groups ++ outer) = some (groups' ++ outer) := by
  unfold regroup at h ⊢
  split at h
  · cases h
    rfl
  · split at h
    · contradiction
    · next group rest =>
      split at h
      · next hd =>
        cases h
        simp [hd]
      · contradiction
  · cases h
    rfl

theorem Token.regroup_of_shape {t : Token} {k : Kind} (h : t.shape = k.shape)
    (hk : k.isDelimiter = false) (groups : List OpenGroup) :
    t.kind = k ∧ t.regroup groups = some groups := by
  have hkind : t.kind = k := Kind.eq_of_shape_eq h hk
  exact ⟨hkind, regroup_of_not_isDelimiter (hkind ▸ hk) groups⟩

theorem openAfter_outer {tokens : List Token} {groups groups' : List OpenGroup}
    (h : openAfter groups tokens = some groups') (outer : List OpenGroup) :
    openAfter (groups ++ outer) tokens = some (groups' ++ outer) := by
  induction tokens generalizing groups with
  | nil =>
    cases h
    rfl
  | cons t tokens ih =>
    rw [openAfter_cons] at h
    obtain ⟨middle, ht, htokens⟩ := Option.bind_eq_some_iff.mp h
    rw [openAfter_cons, Token.regroup_outer ht outer]
    exact ih htokens

theorem Matched.openAfter_eq {tokens : List Token} (h : Matched tokens)
    (groups : List OpenGroup) : openAfter groups tokens = some groups :=
  openAfter_outer h groups

/-- A pair of delimiters around matched tokens leaves no trace. -/
theorem openAfter_pair {u s v : List Token} {o c : Token} {d : Delimiter}
    (ho : o.kind = .opening d) (hc : c.kind = .closing d) (hs : Matched s) :
    openAfter [] (u ++ [o] ++ s ++ [c] ++ v) = openAfter [] (u ++ v) := by
  have hpair : ∀ groups, openAfter groups ([o] ++ s ++ [c]) = some groups := by
    intro groups
    simp [Token.regroup_opening ho, hs.openAfter_eq, Token.regroup_closing hc]
  have hsplit : u ++ [o] ++ s ++ [c] ++ v = u ++ (([o] ++ s ++ [c]) ++ v) := by simp
  rw [hsplit, openAfter_append, openAfter_append]
  congr 1
  funext groups
  rw [openAfter_append, hpair]
  rfl

namespace Grammar

variable {settings : Settings} {bindings : Bindings}

/-- Tokens of the shape of tokens without delimiters are of their kinds. -/
theorem kinds_of_shape {tokens : List Token} {ks : List Token.Kind}
    {groups groups' : List OpenGroup}
    (hshape : tokens.map Token.shape = ks.map Token.Kind.shape)
    (hks : ∀ k ∈ ks, k.isDelimiter = false) (hopen : openAfter groups tokens = some groups') :
    groups' = groups ∧ tokens.map Token.kind = ks := by
  induction ks generalizing tokens with
  | nil =>
    obtain rfl := List.map_eq_nil_iff.mp hshape
    cases hopen
    exact ⟨rfl, rfl⟩
  | cons k ks ih =>
    obtain ⟨o, rest, rfl, ho, hrest⟩ := List.map_eq_cons_iff.mp hshape
    obtain ⟨hk, hregroup⟩ := Token.regroup_of_shape ho (hks k List.mem_cons_self) groups
    rw [openAfter_cons, hregroup] at hopen
    obtain ⟨hgroups, hrest⟩ := ih hrest (fun k hk => hks k (List.mem_cons_of_mem _ hk)) hopen
    exact ⟨hgroups, by rw [List.map_cons, hk, hrest]⟩

/-- Tokens of the shape of two operands and an operator are such themselves. -/
theorem exists_operator_of_shape {tokens : List Token} {ks ls : List Token.Kind}
    {op : BinaryOperator} {groups groups' : List OpenGroup}
    (hshape : tokens.map Token.shape = (ks ++ .operator op :: ls).map Token.Kind.shape)
    (hopen : openAfter groups tokens = some groups') :
    ∃ left o right middle, tokens = left ++ o :: right ∧ o.kind = .operator op ∧
      left.map Token.shape = ks.map Token.Kind.shape ∧
      right.map Token.shape = ls.map Token.Kind.shape ∧
      openAfter groups left = some middle ∧ openAfter middle right = some groups' := by
  rw [List.map_append, List.map_cons] at hshape
  obtain ⟨left, _, rfl, hl, hrest⟩ := List.map_eq_append_iff.mp hshape
  obtain ⟨o, right, rfl, ho, hr⟩ := List.map_eq_cons_iff.mp hrest
  rw [openAfter_append] at hopen
  obtain ⟨middle, hleft, hopen⟩ := Option.bind_eq_some_iff.mp hopen
  obtain ⟨hop, hregroup⟩ := Token.regroup_of_shape ho rfl middle
  rw [openAfter_cons, hregroup] at hopen
  exact ⟨left, o, right, middle, rfl, hop, hl, hr, hleft, hopen⟩

/-- What is derived is derived with other delimiters too, as long as these match. -/
theorem Derives.reshape {p : Phrase} {ks : List Token.Kind} {t : Tree} {n : Nat}
    (h : Derives settings bindings p ks t n) {tokens : List Token}
    (hshape : tokens.map Token.shape = ks.map Token.Kind.shape)
    {groups groups' : List OpenGroup} (hopen : openAfter groups tokens = some groups') :
    groups' = groups ∧ Derives settings bindings p (tokens.map Token.kind) t n := by
  -- Each part leaves the groups as they were, so the closing symbol of a group meets the symbol
  -- that opened it.
  induction h generalizing tokens groups groups' with
  | first _ ih =>
    obtain ⟨hgroups, hd⟩ := ih hshape hopen
    exact ⟨hgroups, .first hd⟩
  | base _ ih =>
    obtain ⟨hgroups, hd⟩ := ih hshape hopen
    exact ⟨hgroups, .base hd⟩
  | more hrank _ _ ih ih' =>
    obtain ⟨left, o, right, middle, rfl, ho, hl, hr, hleft, hright⟩ :=
      exists_operator_of_shape hshape hopen
    obtain ⟨rfl, hdl⟩ := ih hl hleft
    obtain ⟨rfl, hdr⟩ := ih' hr hright
    exact ⟨rfl, by simpa [ho] using Derives.more hrank hdl hdr⟩
  | exponent _ _ ih ih' =>
    obtain ⟨left, o, right, middle, rfl, ho, hl, hr, hleft, hright⟩ :=
      exists_operator_of_shape hshape hopen
    obtain ⟨rfl, hdl⟩ := ih hl hleft
    obtain ⟨rfl, hdr⟩ := ih' hr hright
    exact ⟨rfl, by simpa [ho] using Derives.exponent hdl hdr⟩
  | group delimiter _ ih =>
    rw [List.map_append, List.map_cons] at hshape
    obtain ⟨_, last, rfl, hrest, hlast⟩ := List.map_eq_append_iff.mp hshape
    obtain ⟨o, inner, rfl, ho, hin⟩ := List.map_eq_cons_iff.mp hrest
    obtain ⟨u, rfl, hu⟩ := List.map_eq_singleton_iff.mp hlast
    obtain ⟨d, ho⟩ := Token.Kind.opening_of_shape_eq ho
    obtain ⟨d', hu⟩ := Token.Kind.closing_of_shape_eq hu
    rw [List.cons_append, openAfter_cons, Token.regroup_opening ho, Option.bind_some,
      openAfter_append] at hopen
    obtain ⟨middle, hinner, hopen⟩ := Option.bind_eq_some_iff.mp hopen
    obtain ⟨rfl, hd⟩ := ih hin hinner
    rw [openAfter_cons, Token.regroup_closing hu] at hopen
    by_cases hsame : d = d'
    · subst hsame
      simp at hopen
      exact ⟨hopen.symm, by simpa [ho, hu] using Derives.group d hd⟩
    · simp [hsame] at hopen
  | number value =>
    obtain ⟨rfl, hkinds⟩ := kinds_of_shape hshape (by simp [Token.Kind.isDelimiter]) hopen
    exact ⟨rfl, hkinds ▸ .number value⟩
  | letter name =>
    obtain ⟨rfl, hkinds⟩ := kinds_of_shape hshape (by simp [Token.Kind.isDelimiter]) hopen
    exact ⟨rfl, hkinds ▸ .letter name⟩
  | indexed name value hi =>
    obtain ⟨rfl, hkinds⟩ := kinds_of_shape hshape (by simp [Token.Kind.isDelimiter]) hopen
    exact ⟨rfl, hkinds ▸ .indexed name value hi⟩
  | prefixed op _ ih =>
    obtain ⟨o, used, rfl, ho, hused⟩ := List.map_eq_cons_iff.mp hshape
    obtain ⟨ho, hregroup⟩ := Token.regroup_of_shape ho op.isDelimiter_kind groups
    rw [openAfter_cons, hregroup] at hopen
    obtain ⟨rfl, hd⟩ := ih hused hopen
    exact ⟨rfl, by simpa [ho] using Derives.prefixed op hd⟩

/-- Tokens of the same shape are parsed to the same tree if their delimiters match. -/
theorem parse_eq_ok_of_shape {tokens tokens' : List Token} {t : Tree}
    (hshape : tokens'.map Token.shape = tokens.map Token.shape) (hmatched : Matched tokens')
    (h : parse settings bindings tokens = .ok (some t)) :
    parse settings bindings tokens' = .ok (some t) := by
  obtain ⟨n, hn, hd, hfits⟩ := derives_of_parse h
  have hshape' : tokens'.map Token.shape = (tokens.map Token.kind).map Token.Kind.shape := by
    rw [hshape, List.map_map]
    rfl
  obtain ⟨-, hd'⟩ := hd.reshape hshape' hmatched
  exact hd'.parse.1 hn hfits

theorem matched_of_parse {tokens : List Token} {t : Tree}
    (h : parse settings bindings tokens = .ok (some t)) : Matched tokens := by
  obtain ⟨n, -, hd, -⟩ := derives_of_parse h
  exact hd.openAfter_eq rfl []

section Pair

variable {u s v : List Token} {o c o' c' : Token} {d d' : Delimiter}

theorem parse_pair (ho : o.kind = .opening d) (hc : c.kind = .closing d)
    (ho' : o'.kind = .opening d') (hc' : c'.kind = .closing d') (hs : Matched s) {t : Tree}
    (h : parse settings bindings (u ++ [o] ++ s ++ [c] ++ v) = .ok (some t)) :
    parse settings bindings (u ++ [o'] ++ s ++ [c'] ++ v) = .ok (some t) := by
  apply parse_eq_ok_of_shape _ _ h
  · simp [Token.shape, ho, hc, ho', hc', Token.Kind.shape]
  · have hmatched : openAfter [] (u ++ [o] ++ s ++ [c] ++ v) = some [] := matched_of_parse h
    rw [openAfter_pair ho hc hs] at hmatched
    rwa [Matched, openAfter_pair ho' hc' hs]

/-- A pair of delimiters around matched tokens may be exchanged for a pair of another kind: the
tokens are parsed to the same trees. -/
theorem parse_pair_iff (settings : Settings) (bindings : Bindings) (ho : o.kind = .opening d)
    (hc : c.kind = .closing d) (ho' : o'.kind = .opening d') (hc' : c'.kind = .closing d')
    (hs : Matched s) (t : Tree) :
    parse settings bindings (u ++ [o] ++ s ++ [c] ++ v) = .ok (some t) ↔
      parse settings bindings (u ++ [o'] ++ s ++ [c'] ++ v) = .ok (some t) := by
  constructor
  · intro h
    exact parse_pair ho hc ho' hc' hs h
  · intro h
    exact parse_pair ho' hc' ho hc hs h

end Pair

/-- The inner pair of `[-((x)+[y])]`, around a group of each kind. -/
theorem parse_pair_iff_nested :
    let u := [.opening .bracket, .operator .subtract].map Token.synthetic
    let s := [.opening .paren, .letter "x", .closing .paren, .operator .add, .opening .bracket,
      .letter "y", .closing .bracket].map Token.synthetic
    let v := [.closing .bracket].map Token.synthetic
    let pair (d : Delimiter) :=
      u ++ [.synthetic (.opening d)] ++ s ++ [.synthetic (.closing d)] ++ v
    let t : Tree := .unary .minus (.binary .add (.letter "x") (.letter "y"))
    Matched s ∧ parse {} {} (pair .paren) = .ok (some t) ∧
      parse {} {} (pair .bracket) = .ok (some t) := by
  intro u s v pair t
  have hs : Matched s := rfl
  have hletter : ∀ name, Derives {} {} .expression [.letter name] (.letter name) 0 :=
    fun name => .first (.first (.first (.letter name)))
  have hx : Derives {} {} .expression _ (.letter "x") 1 :=
    .first (.first (.first (.group .paren (hletter "x"))))
  have hy : Derives {} {} (.chain .product) _ (.letter "y") 1 :=
    .first (.first (.group .bracket (hletter "y")))
  have hrank : BinaryOperator.add.rank = .sum := rfl
  have hsum := Derives.more hrank hx hy
  have hminus : Derives {} {} .expression _ t 3 :=
    .first (.first (.first (.prefixed .minus (.group .paren hsum))))
  have hderives : Derives {} {} .expression ((pair .paren).map Token.kind) t 4 :=
    .first (.first (.first (.group .bracket hminus)))
  have h : parse {} {} (pair .paren) = .ok (some t) :=
    hderives.parse.1 (by decide) (.inr (by decide))
  exact ⟨hs, h, (parse_pair_iff {} {} rfl rfl rfl rfl hs t).mp h⟩

end Grammar

end Formula
