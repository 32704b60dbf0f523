import Formula.Grammar.Cursor
import Formula.Stream
import Mathlib.Data.ENat.Lattice
import Mathlib.Data.Seq.Basic

/-! A stream over a source is a cursor over the tokens that the source has up to its first end, of
which there may be infinitely many.  What the source would answer after that is never asked for. -/

namespace Formula

open Stream' (Seq)

/-! ### Finite parts of a sequence -/

namespace Sequence

variable {α : Type} {s : Seq α} {n : Nat} {x : α}

theorem take_succ_of_some (h : s.get? n = some x) : s.take (n + 1) = s.take n ++ [x] := by
  induction n generalizing s with
  | zero =>
    obtain ⟨s', rfl⟩ : ∃ s', s = Seq.cons x s' := ⟨_, Seq.head_eq_some h⟩
    simp
  | succ n ih =>
    cases s using Stream'.Seq.recOn with
    | nil => simp at h
    | cons y s =>
      rw [Seq.get?_cons_succ] at h
      rw [Seq.take_succ_cons, ih h, Seq.take_succ_cons, List.cons_append]

theorem take_succ_of_none (h : s.get? n = none) : s.take (n + 1) = s.take n := by
  induction n generalizing s with
  | zero =>
    obtain rfl : s = Seq.nil := Seq.get?_zero_eq_none.mp h
    simp
  | succ n ih =>
    cases s using Stream'.Seq.recOn with
    | nil => simp
    | cons y s =>
      rw [Seq.get?_cons_succ] at h
      rw [Seq.take_succ_cons, ih h, Seq.take_succ_cons]

theorem length_take (s : Seq α) (n : Nat) :
    ((s.take n).length : ℕ∞) = min (n : ℕ∞) s.length' := by
  induction n generalizing s with
  | zero => simp
  | succ n ih =>
    cases s using Stream'.Seq.recOn with
    | nil => simp
    | cons y s =>
      rw [Seq.take_succ_cons, List.length_cons, Seq.length'_cons, Nat.cast_add, Nat.cast_add, ih s]
      exact (min_add_add_right _ _ _).symm

theorem length_take_of_some (h : s.get? n = some x) : (s.take n).length = n := by
  have hlt : (n : ℕ∞) < s.length' := Seq.lt_length'_iff.mpr ⟨x, h⟩
  have hlen := length_take s n
  rw [min_eq_left hlt.le] at hlen
  exact Nat.cast_injective hlen

theorem get?_length_take (s : Seq α) (n : Nat) : s.get? (s.take n).length = s.get? n := by
  induction n generalizing s with
  | zero => simp
  | succ n ih =>
    cases s using Stream'.Seq.recOn with
    | nil => simp
    | cons y s => simpa using ih s

theorem take_length_take (s : Seq α) (n : Nat) : s.take (s.take n).length = s.take n := by
  induction n generalizing s with
  | zero => simp
  | succ n ih =>
    cases s using Stream'.Seq.recOn with
    | nil => simp
    | cons y s => simpa using ih s

theorem map_get?_range (s : Seq α) (n : Nat) :
    (List.range n).map s.get? =
      (s.take n).map some ++ List.replicate (n - (s.take n).length) none := by
  induction n with
  | zero => simp
  | succ n ih =>
    rw [List.range_succ, List.map_append, ih]
    cases h : s.get? n with
    | none =>
      have hle : (s.take n).length ≤ n := Seq.length_take_le
      rw [take_succ_of_none h, Nat.succ_sub hle, List.replicate_succ']
      simp [h]
    | some x =>
      have hlen := length_take_of_some h
      simp [take_succ_of_some h, hlen, h]

end Sequence

/-! ### Calls and what answers them -/

namespace Stream

/-- What can be asked of a stream. -/
inductive Call where
  | peek
  | peekKind
  | advance
  | check (kind : Token.Kind)
  | isEmpty
  | lastLocation
  | location
  | position
deriving DecidableEq

inductive Reply where
  | seen (token? : Option Token)
  | handed (token? : Option Token)
  | kind (kind? : Option Token.Kind)
  | answer (yes : Bool)
  | lastLocation (location? : Option Location)
  | location (location : Location)
  | position (n : Nat)

/-- What an advance hands out. -/
def Reply.handed? : Reply → Option (Option Token)
  | .handed token? => some token?
  | _ => none

/-- Makes calls one after the other. -/
def respond {S : Type} (perform : S → Call → Reply × S) (s : S) : List Call → List Reply × S
  | [] => ([], s)
  | call :: calls =>
    let (reply, s) := perform s call
    let (replies, s) := respond perform s calls
    (reply :: replies, s)

def perform {σ : Type} (s : Stream σ) : Call → Reply × Stream σ
  | .peek => (.seen s.current, s)
  | .peekKind => (.kind s.peekKind, s)
  | .advance => (.handed s.advance.1, s.advance.2)
  | .check kind => (.answer (s.check kind), s)
  | .isEmpty => (.answer s.isEmpty, s)
  | .lastLocation => (.lastLocation s.lastLocation, s)
  | .location => (.location s.location, s)
  | .position => (.position s.position, s)

end Stream

/-- The calls on a stream, made on a cursor. -/
def Cursor.perform (c : Cursor) : Stream.Call → Stream.Reply × Cursor
  | .peek => (.seen c.rest.head?, c)
  | .peekKind => (.kind c.next?, c)
  | .advance =>
    match c.advance? with
    | none => (.handed none, c)
    | some (token, c) => (.handed (some token), c)
  | .check kind => (.answer (c.next?.any (·.same kind)), c)
  | .isEmpty => (.answer c.rest.isEmpty, c)
  | .lastLocation => (.lastLocation (c.taken.head?.map (·.location)), c)
  | .location => (.location c.location, c)
  | .position => (.position c.position, c)

theorem Cursor.location_eq (c : Cursor) :
    c.location = ((c.rest.head?.map (·.location)).or (c.taken.head?.map (·.location))).getD {} := by
  obtain ⟨_ | ⟨t, taken⟩, _ | ⟨u, rest⟩⟩ := c <;> rfl

/-! ### The tokens of a source -/

namespace Stream

section Source

variable {σ : Type} (poll : σ → Option Token × σ) (source : σ)

/-- The tokens that the source has up to its first end. -/
def tokens : Seq Token :=
  Seq.corec (fun source =>
    match poll source with
    | (none, _) => none
    | (some token, source) => some (token, source)) source

/-- The source when it has been polled `n` times. -/
def polled (n : Nat) : σ := (fun source => (poll source).2)^[n] source

/-- A source that keeps what it has answered, the first answer first. -/
def logged : σ × List (Option Token) → Option Token × σ × List (Option Token)
  | (source, log) =>
    let (token?, source) := poll source
    (token?, source, log ++ [token?])

end Source

variable {σ : Type} {poll : σ → Option Token × σ} {source source' : σ} {token : Token}
  {token? : Option Token} {log : List (Option Token)} {a n : Nat}

theorem tokens_of_none (h : poll source = (none, source')) : tokens poll source = Seq.nil := by
  refine Seq.corec_nil _ _ ?_
  simp only [h]

theorem tokens_of_some (h : poll source = (some token, source')) :
    tokens poll source = Seq.cons token (tokens poll source') := by
  refine Seq.corec_cons ?_
  simp only [h]

theorem polled_succ (n : Nat) :
    polled poll source (n + 1) = polled poll (poll source).2 n := rfl

theorem polled_succ' (n : Nat) :
    polled poll source (n + 1) = (poll (polled poll source n)).2 :=
  Function.iterate_succ_apply' _ _ _

/-- As long as there have been tokens only, the next answer is the next token. -/
theorem poll_polled (h : ((tokens poll source).take n).length = n) :
    (poll (polled poll source n)).1 = (tokens poll source).get? n := by
  induction n generalizing source with
  | zero =>
    show (poll source).1 = _
    rcases hpoll : poll source with ⟨_ | token, source'⟩
    · rw [tokens_of_none hpoll, Seq.get?_nil]
    · rw [tokens_of_some hpoll, Seq.get?_cons_zero]
  | succ n ih =>
    rcases hpoll : poll source with ⟨_ | token, source'⟩
    · rw [tokens_of_none hpoll, Seq.take_nil] at h
      contradiction
    · rw [tokens_of_some hpoll, Seq.take_succ_cons, List.length_cons] at h
      rw [tokens_of_some hpoll, Seq.get?_cons_succ, ← ih (Nat.succ.inj h), polled_succ, hpoll]

theorem logged_eq (h : poll source = (token?, source')) (log : List (Option Token)) :
    logged poll (source, log) = (token?, source', log ++ [token?]) := by
  simp only [logged, h]

theorem tokens_logged (source : σ) (log : List (Option Token)) :
    tokens (logged poll) (source, log) = tokens poll source := by
  refine Seq.ext fun n => ?_
  induction n generalizing source log with
  | zero =>
    rcases hpoll : poll source with ⟨_ | token, source'⟩
    · rw [tokens_of_none hpoll, tokens_of_none (logged_eq hpoll log)]
    · rw [tokens_of_some hpoll, tokens_of_some (logged_eq hpoll log)]
      rfl
  | succ n ih =>
    rcases hpoll : poll source with ⟨_ | token, source'⟩
    · rw [tokens_of_none hpoll, tokens_of_none (logged_eq hpoll log)]
    · rw [tokens_of_some hpoll, tokens_of_some (logged_eq hpoll log), Seq.get?_cons_succ,
        Seq.get?_cons_succ, ih]

/-- A source that has answered with `n` tokens has kept just those. -/
theorem polled_logged (log : List (Option Token))
    (h : ((tokens poll source).take n).length = n) :
    polled (logged poll) (source, log) n =
      (polled poll source n, log ++ ((tokens poll source).take n).map some) := by
  induction n generalizing source log with
  | zero => simp [polled]
  | succ n ih =>
    rcases hpoll : poll source with ⟨_ | token, source'⟩
    · rw [tokens_of_none hpoll, Seq.take_nil] at h
      contradiction
    · rw [tokens_of_some hpoll, Seq.take_succ_cons, List.length_cons] at h
      rw [polled_succ, polled_succ, logged_eq hpoll, hpoll, ih _ (Nat.succ.inj h),
        tokens_of_some hpoll, Seq.take_succ_cons, List.map_cons, List.append_assoc]
      rfl

/-! ### The stream after some advances -/

variable (poll source) in
/-- The stream when `a` advances have been made. -/
def after (a : Nat) : Stream σ where
  poll := poll
  source := polled poll source (((tokens poll source).take a).length + 1)
  current := (tokens poll source).get? a
  lastLocation := ((tokens poll source).take a).getLast?.map (·.location)
  position := ((tokens poll source).take a).length

theorem start_eq_after : start poll source = after poll source 0 := by
  have hcurrent : (poll source).1 = (tokens poll source).get? 0 := poll_polled (n := 0) rfl
  simp [start, after, ← hcurrent, polled]

theorem advance_after :
    (after poll source a).advance = ((tokens poll source).get? a, after poll source (a + 1)) := by
  cases h : (tokens poll source).get? a with
  | none =>
    have hnext : (tokens poll source).get? (a + 1) = none := Seq.le_stable _ (Nat.le_succ a) h
    simp [advance, after, h, hnext, Sequence.take_succ_of_none h]
  | some token =>
    have hlen := Sequence.length_take_of_some h
    have hlen' : ((tokens poll source).take (a + 1)).length = a + 1 := by
      simp [Sequence.take_succ_of_some h, hlen]
    have hanswer := poll_polled hlen'
    have hlast : ((tokens poll source).take (a + 1)).getLast? = some token := by
      simp [Sequence.take_succ_of_some h]
    simp only [advance, after, h, hlen, hlen', hanswer, hlast, polled_succ' (a + 1),
      Option.map_some]

/-- A source that keeps its answers keeps the tokens handed out and the one in view, or the end. -/
theorem source_after_logged :
    (after (logged poll) (source, []) a).source =
      ((after poll source a).source,
        ((tokens poll source).take a).map some ++ [(tokens poll source).get? a]) := by
  have hlen : ((tokens poll source).take ((tokens poll source).take a).length).length =
      ((tokens poll source).take a).length := by rw [Sequence.take_length_take]
  simp only [after, tokens_logged, polled_succ', polled_logged [] hlen, logged,
    Sequence.take_length_take, List.nil_append, poll_polled hlen, Sequence.get?_length_take]

theorem perform_after (call : Call) :
    ((after poll source a).perform call).2 =
      after poll source (a + if call = .advance then 1 else 0) := by
  cases call with
  | advance => simp [perform, advance_after]
  | peek | peekKind | check | isEmpty | lastLocation | location | position => rfl

/-! ### The cursor over a part of the tokens -/

variable (poll source) in
/-- The cursor over the first `n` tokens when `a` advances have been made. -/
def cursorAfter (n a : Nat) : Cursor :=
  ⟨((tokens poll source).take a).reverse, ((tokens poll source).take n).drop a⟩

theorem head?_rest (h : a < n) :
    (cursorAfter poll source n a).rest.head? = (after poll source a).current := by
  simp [cursorAfter, after, List.head?_drop, Seq.getElem?_take, h]

theorem head?_taken :
    (cursorAfter poll source n a).taken.head?.map (·.location) =
      (after poll source a).lastLocation := by
  simp [cursorAfter, after]

theorem advance_cursorAfter (h : a < n) :
    (cursorAfter poll source n a).perform .advance =
      (.handed ((tokens poll source).get? a), cursorAfter poll source n (a + 1)) := by
  have hrest : ((tokens poll source).take n)[a]? = (tokens poll source).get? a := by
    simp [Seq.getElem?_take, h]
  cases hget : (tokens poll source).get? a with
  | none =>
    have hle : ((tokens poll source).take n).length ≤ a :=
      List.getElem?_eq_none_iff.mp (hrest.trans hget)
    simp [Cursor.perform, Cursor.advance?, cursorAfter, Sequence.take_succ_of_none hget,
      List.drop_eq_nil_of_le hle, List.drop_eq_nil_of_le (Nat.le_succ_of_le hle)]
  | some token =>
    obtain ⟨hlt, heq⟩ := List.getElem?_eq_some_iff.mp (hrest.trans hget)
    simp [Cursor.perform, Cursor.advance?, cursorAfter, Sequence.take_succ_of_some hget,
      List.drop_eq_getElem_cons hlt, heq]

theorem perform_cursorAfter (h : a < n) (call : Call) :
    (cursorAfter poll source n a).perform call =
      (((after poll source a).perform call).1,
        cursorAfter poll source n (a + if call = .advance then 1 else 0)) := by
  have hnext : (cursorAfter poll source n a).next? = (after poll source a).peekKind :=
    congrArg (Option.map _) (head?_rest h)
  cases call with
  | advance =>
    rw [advance_cursorAfter h]
    simp [perform, advance_after]
  | peek => simp [Cursor.perform, perform, head?_rest h]
  | peekKind => simp [Cursor.perform, perform, hnext]
  | check kind => simp [Cursor.perform, perform, hnext, check]
  | isEmpty =>
    simp only [Cursor.perform, perform, isEmpty, ← head?_rest h]
    cases (cursorAfter poll source n a).rest <;> rfl
  | lastLocation => simp [Cursor.perform, perform, head?_taken]
  | location =>
    simp [Cursor.perform, perform, Cursor.location_eq, head?_rest h, head?_taken, location]
  | position => simp [Cursor.perform, perform, Cursor.position, cursorAfter, after]

/-! ### Runs -/

theorem count_advance (call : Call) (calls : List Call) :
    (call :: calls).count .advance = (if call = .advance then 1 else 0) + calls.count .advance := by
  rw [List.count_cons, Nat.add_comm]
  simp

theorem respond_after (calls : List Call) :
    (respond perform (after poll source a) calls).2 =
      after poll source (a + calls.count .advance) := by
  induction calls generalizing a with
  | nil => rfl
  | cons call calls ih =>
    simp only [respond, perform_after, ih, count_advance, Nat.add_assoc]

/-- The advances hand out the tokens in their order, and nothing after the last one. -/
theorem handed_after (calls : List Call) :
    (respond perform (after poll source a) calls).1.filterMap Reply.handed? =
      (List.range' a (calls.count .advance)).map (tokens poll source).get? := by
  induction calls generalizing a with
  | nil => rfl
  | cons call calls ih =>
    simp only [respond, perform_after]
    cases call with
    | advance =>
      simp only [count_advance, if_true, Nat.add_comm 1, List.range'_succ, List.map_cons, ← ih]
      simp [perform, advance_after, Reply.handed?]
    | peek | peekKind | check | isEmpty | lastLocation | location | position =>
      rw [List.filterMap_cons_none rfl]
      simpa [count_advance] using ih

theorem respond_cursorAfter (calls : List Call) (h : a + calls.count .advance < n) :
    (respond Cursor.perform (cursorAfter poll source n a) calls).1 =
      (respond perform (after poll source a) calls).1 := by
  induction calls generalizing a with
  | nil => rfl
  | cons call calls ih =>
    rw [count_advance] at h
    simp only [respond, perform_after, perform_cursorAfter (show a < n by omega)]
    rw [ih (by omega)]

theorem respond_ofList (calls : List Call) (h : calls.count .advance < n) :
    (respond Cursor.perform (.ofList ((tokens poll source).take n)) calls).1 =
      (respond perform (start poll source) calls).1 := by
  rw [start_eq_after, ← respond_cursorAfter calls (by rwa [Nat.zero_add])]
  rfl

/-- Whatever calls are made on a stream, `a` of them advances, and whatever the source does after
its first end: with `p` for the tokens up to there, the advances hand out the first `a` tokens of
`p` in order and then nothing; the position counts them; the next token of `p` is in view; the last
token handed out gives the last location, and the one in view, if there is one, the location.  A
source that keeps its answers shows that it has been polled for these tokens and once more.  All
replies are those of the cursor over a finite part of `p` that goes further than the advances. -/
theorem refines_cursor {σ : Type} (poll : σ → Option Token × σ) (source : σ) (calls : List Call) :
    let p := tokens poll source
    let a := calls.count .advance
    let run := respond perform (start poll source) calls
    let s := run.2
    run.1.filterMap Reply.handed? =
        (p.take a).map some ++ List.replicate (a - s.position) none ∧
      (s.position : ℕ∞) = min (a : ℕ∞) p.length' ∧
      s.current = p.get? s.position ∧
      s.lastLocation = (p.take a).getLast?.map (·.location) ∧
      s.location = (((p.get? s.position).or (p.take a).getLast?).map (·.location)).getD {} ∧
      (let watched := respond perform (start (logged poll) (source, [])) calls
      watched.1 = run.1 ∧
        watched.2.source = (s.source, (p.take a).map some ++ [p.get? s.position])) ∧
      ∀ n > a, (respond Cursor.perform (.ofList (p.take n)) calls).1 = run.1 := by
  intro p a run s
  have hs : s = after poll source a := by
    show (respond perform (start poll source) calls).2 = _
    rw [start_eq_after, respond_after, Nat.zero_add]
  have hposition : s.position = (p.take a).length := congrArg position hs
  have hget : p.get? s.position = p.get? a := by rw [hposition, Sequence.get?_length_take]
  have hcursor : ∀ n > a, (respond Cursor.perform (.ofList (p.take n)) calls).1 = run.1 :=
    fun n hn => respond_ofList calls hn
  refine ⟨?_, ?_, ?_, ?_, ?_, ⟨?_, ?_⟩, hcursor⟩
  · show (respond perform (start poll source) calls).1.filterMap Reply.handed? = _
    rw [start_eq_after, handed_after, ← List.range_eq_range', Sequence.map_get?_range, hposition]
  · rw [hposition, Sequence.length_take]
  · rw [hget, hs]
    rfl
  · rw [hs]
    rfl
  · rw [hget, Option.map_or, hs]
    rfl
  · rw [← hcursor (a + 1) (Nat.lt_succ_self a), ← respond_ofList calls (Nat.lt_succ_self a),
      tokens_logged]
  · rw [hget, hs, start_eq_after, respond_after, Nat.zero_add, source_after_logged]

/-- A source with a token after its end, which is not asked for it. -/
example :
    let poll (n : Nat) := (if n = 1 then none else some (Token.synthetic (.letter "x")), n + 1)
    (respond perform (start poll 0) [.advance, .advance, .isEmpty, .advance]).2.source = 2 := by
  rfl

end Stream

end Formula
