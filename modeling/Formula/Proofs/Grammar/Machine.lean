import Formula.Proofs.Grammar.Acceptance
import Mathlib.Logic.Relation

/-! Reading as a machine with a stack of calls.  The parsers leave their calls to the language that
they are written in.  Here a call that waits for another is a frame on a stack, and the depth is a
counter, which a descent raises before it goes on and lowers when it is done.  `Reads.steps` says
that the machine answers every call as the parsers do. -/

namespace Formula.Grammar

/-! ### The machine -/

/-- A call that is about to be made. -/
inductive Call where
  | phrase (p : Phrase)
  | group (delimiter : Delimiter) (openedAt : Location)
  | prefixed (op : UnaryOperator) (location : Location)
  | letter (name : String) (location : Location)
  | descent (goal : Goal)

/-- A call that waits for another one, with what it needs to go on after that. -/
inductive Frame where
  /-- A chain before its first operand. -/
  | first (rank : Rank)
  /-- A chain before the operand to the right of an operator. -/
  | more (rank : Rank) (left : Subtree) (op : BinaryOperator) (location : Location)
  /-- A tower before its first factor. -/
  | base
  /-- A tower before what stands after its first `^`. -/
  | exponent (base : Subtree) (location : Location)
  | factor
  | group (delimiter : Delimiter) (openedAt : Location)
  | prefixed (op : UnaryOperator) (location : Location)
  /-- A letter before its index. -/
  | indexed (name : String) (location : Location)
  | descent

/-- What the machine is about to do: to make a call, or to go on with the answer of one. -/
inductive Control where
  | call (call : Call)
  | answer (r : Except SyntaxError Subtree)

structure Machine where
  control : Control
  cursor : Cursor
  /-- The counter that is held against the limit on nesting. -/
  depth : Nat
  /-- The calls that wait, the innermost first. -/
  frames : List Frame

namespace Machine

section Steps

variable (settings : Settings) (bindings : Bindings)

def enter (c : Cursor) (depth : Nat) (frames : List Frame) : Call → Machine
  | .phrase (.chain rank) =>
    ⟨.call (.phrase (.operand settings rank)), c, depth, .first rank :: frames⟩
  | .phrase .tower => ⟨.call (.phrase .factor), c, depth, .base :: frames⟩
  | .phrase .factor =>
    match c.advance? with
    | none => ⟨.answer (.error (.unexpectedEnd c.location)), c, depth, frames⟩
    | some (t, c) =>
      match t.kind with
      | .opening delimiter => ⟨.call (.group delimiter t.location), c, depth, .factor :: frames⟩
      | .number value => ⟨.answer (.ok (leaf (.number value))), c, depth, frames⟩
      | .letter name => ⟨.call (.letter name t.location), c, depth, .factor :: frames⟩
      | kind =>
        match unary? kind with
        | some op => ⟨.call (.prefixed op t.location), c, depth, .factor :: frames⟩
        | none => ⟨.answer (.error (.unexpectedToken kind t.location)), c, depth, frames⟩
  | .group delimiter openedAt =>
    ⟨.call (.descent .expression), c, depth, .group delimiter openedAt :: frames⟩
  | .prefixed op location =>
    ⟨.call (.descent .factor), c, depth, .prefixed op location :: frames⟩
  | .letter name location =>
    match settings.indexedLetters, c.next? with
    | true, some (.number _) =>
      -- An index is read by a factor that no descent leads to.
      ⟨.call (.phrase .factor), c, depth, .indexed name location :: frames⟩
    | _, _ => ⟨.answer (.ok (leaf (bindings.leaf name))), c, depth, frames⟩
  | .descent goal =>
    if settings.maxDepth ≤ depth then
      ⟨.answer (.error (.nestingTooDeep settings.maxDepth c.location)), c, depth, frames⟩
    else ⟨.call (.phrase (goal.phrase settings)), c, depth + 1, .descent :: frames⟩

/-- Goes on with a chain that has read `left`. -/
def goOn (rank : Rank) (left : Subtree) (c : Cursor) (depth : Nat) (frames : List Frame) :
    Machine :=
  match c.rest with
  | [] => ⟨.answer (.ok left), c, depth, frames⟩
  | t :: rest =>
    match rank.operator? t.kind with
    | none => ⟨.answer (.ok left), c, depth, frames⟩
    | some op =>
      ⟨.call (.phrase (.operand settings rank)), ⟨t :: c.taken, rest⟩, depth,
        .more rank left op t.location :: frames⟩

/-- Goes on with a call that has waited for `s`. -/
def resume (s : Subtree) (c : Cursor) (depth : Nat) (frames : List Frame) : Frame → Machine
  | .first rank => goOn settings rank s c depth frames
  | .more rank left op location =>
    match fitted settings location (.binary op left s) with
    | .error e => ⟨.answer (.error e), c, depth, frames⟩
    | .ok joined => goOn settings rank joined c depth frames
  | .base =>
    match c.rest with
    | [] => ⟨.answer (.ok s), c, depth, frames⟩
    | t :: rest =>
      if t.kind = .operator .power then
        ⟨.call (.descent .power), ⟨t :: c.taken, rest⟩, depth, .exponent s t.location :: frames⟩
      else ⟨.answer (.ok s), c, depth, frames⟩
  | .exponent base location =>
    ⟨.answer (fitted settings location (.binary .power base s)), c, depth, frames⟩
  | .factor => ⟨.answer (.ok s), c, depth, frames⟩
  | .group delimiter openedAt =>
    match c.advance? with
    | none => ⟨.answer (.error (.unclosedDelimiter delimiter openedAt)), c, depth, frames⟩
    | some (t, c) =>
      if t.kind = .closing delimiter then ⟨.answer (.ok s), c, depth, frames⟩
      else
        ⟨.answer (.error (.mismatchedDelimiter delimiter t.kind t.location)), c, depth, frames⟩
  | .prefixed op location => ⟨.answer (fitted settings location (.unary op s)), c, depth, frames⟩
  | .indexed name location =>
    ⟨.answer (fitted settings location ⟨.indexed name s.tree, 1 + s.height⟩), c, depth, frames⟩
  | .descent => ⟨.answer (.ok s), c, depth - 1, frames⟩

/-- One step; there is none once the outermost call has answered.  An error is the answer of every
call that waits. -/
def step : Machine → Option Machine
  | ⟨.call call, c, depth, frames⟩ => some (enter settings bindings c depth frames call)
  | ⟨.answer _, _, _, []⟩ => none
  | ⟨.answer (.ok s), c, depth, frame :: frames⟩ => some (resume settings s c depth frames frame)
  | ⟨.answer (.error e), c, depth, .descent :: frames⟩ =>
    some ⟨.answer (.error e), c, depth - 1, frames⟩
  | ⟨.answer (.error e), c, depth, _ :: frames⟩ => some ⟨.answer (.error e), c, depth, frames⟩

abbrev Steps : Machine → Machine → Prop :=
  Relation.ReflTransGen fun m m' => step settings bindings m = some m'

/-- The machine before an expression at the start of the tokens. -/
def start (tokens : List Token) : Machine := ⟨.call (.phrase .expression), .ofList tokens, 0, []⟩

end Steps

end Machine


/-! ### The machine reads as the rules say -/

/-- The machine before a task. -/
def Task.machine (settings : Settings) (c : Cursor) (depth : Nat) (frames : List Frame) :
    Task → Machine
  | .phrase p => ⟨.call (.phrase p), c, depth, frames⟩
  | .tail rank left => Machine.goOn settings rank left c depth frames
  | .deeper goal => ⟨.call (.descent goal), c, depth, frames⟩

namespace Machine

variable {settings : Settings} {bindings : Bindings} {c : Cursor} {depth : Nat}
  {frames : List Frame} {frame : Frame} {call : Call} {m : Machine} {s : Subtree} {e : SyntaxError}
  {r : Except SyntaxError Subtree}

/-- What a step can do: make a call, pass on an error, or go on with an answer. -/
theorem step_cases {m' : Machine} (h : step settings bindings m = some m') :
    (∃ call c depth frames, m = ⟨.call call, c, depth, frames⟩ ∧
      m' = enter settings bindings c depth frames call) ∨
    (∃ e c depth frame frames, m = ⟨.answer (.error e), c, depth, frame :: frames⟩ ∧
      (frame = .descent ∧ m' = ⟨.answer (.error e), c, depth - 1, frames⟩ ∨
        frame ≠ .descent ∧ m' = ⟨.answer (.error e), c, depth, frames⟩)) ∨
    ∃ s c depth frame frames, m = ⟨.answer (.ok s), c, depth, frame :: frames⟩ ∧
      m' = resume settings s c depth frames frame := by
  obtain ⟨call | e | s, c, depth, frames⟩ := m
  · exact .inl ⟨call, c, depth, frames, rfl, (Option.some.inj h).symm⟩
  · obtain _ | ⟨frame, frames⟩ := frames
    · contradiction
    · refine .inr (.inl ⟨e, c, depth, frame, frames, rfl, ?_⟩)
      cases frame with
      | descent => exact .inl ⟨rfl, (Option.some.inj h).symm⟩
      | first | more | base | exponent | factor | group | prefixed | indexed =>
        exact .inr ⟨by simp, (Option.some.inj h).symm⟩
  · obtain _ | ⟨frame, frames⟩ := frames
    · contradiction
    · exact .inr (.inr ⟨s, c, depth, frame, frames, rfl, (Option.some.inj h).symm⟩)

theorem Steps.enters (h : Steps settings bindings (enter settings bindings c depth frames call) m) :
    Steps settings bindings ⟨.call call, c, depth, frames⟩ m :=
  .head rfl h

theorem Steps.resumes
    (h : Steps settings bindings m ⟨.answer (.ok s), c, depth, frame :: frames⟩) :
    Steps settings bindings m (resume settings s c depth frames frame) :=
  .tail h rfl

/-- An error goes through every call that waits. -/
theorem Steps.fails
    (h : Steps settings bindings m ⟨.answer (.error e), c, depth, frame :: frames⟩)
    (hframe : frame ≠ .descent) :
    Steps settings bindings m ⟨.answer (.error e), c, depth, frames⟩ := by
  refine .tail h ?_
  cases frame with
  | descent => contradiction
  | first | more | base | exponent | factor | group | prefixed | indexed => rfl

/-- A factor has nothing to add to what its first token has started. -/
theorem Steps.passes (h : Steps settings bindings m ⟨.answer r, c, depth, .factor :: frames⟩) :
    Steps settings bindings m ⟨.answer r, c, depth, frames⟩ := by
  cases r with
  | error e => exact h.fails (by simp)
  | ok s => exact h.resumes

theorem Steps.ascends
    (h : Steps settings bindings m ⟨.answer r, c, depth + 1, .descent :: frames⟩) :
    Steps settings bindings m ⟨.answer r, c, depth, frames⟩ := by
  cases r with
  | error e => exact .tail h rfl
  | ok s => exact h.resumes

theorem goOn_ends {rank : Rank} {left : Subtree}
    (h : ∀ op, c.next? = some (.operator op) → op.rank ≠ rank) :
    goOn settings rank left c depth frames = ⟨.answer (.ok left), c, depth, frames⟩ := by
  obtain ⟨taken, _ | ⟨t, rest⟩⟩ := c
  · rfl
  have hnone : rank.operator? t.kind = none := bind_operator?_eq_none h
  simp only [goOn, hnone]

theorem goOn_operator {rank : Rank} {left : Subtree} {op : BinaryOperator} {taken rest : List Token}
    {t : Token} (hk : t.kind = .operator op) (hrank : op.rank = rank) :
    goOn settings rank left ⟨taken, t :: rest⟩ depth frames =
      ⟨.call (.phrase (.operand settings rank)), ⟨t :: taken, rest⟩, depth,
        .more rank left op t.location :: frames⟩ := by
  have hsome : rank.operator? t.kind = some op := Rank.operator?_eq_some.mpr ⟨hk, hrank⟩
  simp only [goOn, hsome]

theorem resume_base_ends (h : c.next? ≠ some (.operator .power)) :
    resume settings s c depth frames .base = ⟨.answer (.ok s), c, depth, frames⟩ := by
  obtain ⟨taken, _ | ⟨t, rest⟩⟩ := c
  · rfl
  have hk : t.kind ≠ .operator .power := fun hk => h (congrArg some hk)
  simp only [resume, hk, if_false]

theorem resume_base_power {taken rest : List Token} {t : Token}
    (hk : t.kind = .operator .power) :
    resume settings s ⟨taken, t :: rest⟩ depth frames .base =
      ⟨.call (.descent .power), ⟨t :: taken, rest⟩, depth, .exponent s t.location :: frames⟩ := by
  simp only [resume, hk, if_true]

section Factor

variable {taken rest : List Token} {t : Token}

theorem enter_number {value : Double} (hk : t.kind = .number value) :
    enter settings bindings ⟨taken, t :: rest⟩ depth frames (.phrase .factor) =
      ⟨.answer (.ok (leaf (.number value))), ⟨t :: taken, rest⟩, depth, frames⟩ := by
  simp only [enter, Cursor.advance?, hk]

theorem enter_unexpected (h : t.kind.startsFactor = false) :
    enter settings bindings ⟨taken, t :: rest⟩ depth frames (.phrase .factor) =
      ⟨.answer (.error (.unexpectedToken t.kind t.location)), ⟨t :: taken, rest⟩, depth,
        frames⟩ := by
  cases hk : t.kind with
  | number | letter | opening | function => simp [hk, Token.Kind.startsFactor] at h
  | closing => simp only [enter, Cursor.advance?, hk, unary?]
  | operator op =>
    cases op with
    | add | subtract => simp [hk, Token.Kind.startsFactor, BinaryOperator.rank] at h
    | multiply | divide | power => simp only [enter, Cursor.advance?, hk, unary?]

theorem Steps.names {name : String} (hk : t.kind = .letter name)
    (h : Steps settings bindings ⟨.call (.letter name t.location), ⟨t :: taken, rest⟩, depth,
      .factor :: frames⟩ m) :
    Steps settings bindings ⟨.call (.phrase .factor), ⟨taken, t :: rest⟩, depth, frames⟩ m := by
  refine .enters ?_
  simp only [enter, Cursor.advance?, hk]
  exact h

/-- A factor that starts with an opening symbol waits for what is inside. -/
theorem Steps.opens {delimiter : Delimiter} (hk : t.kind = .opening delimiter)
    (h : Steps settings bindings ⟨.call (.descent .expression), ⟨t :: taken, rest⟩, depth,
      .group delimiter t.location :: .factor :: frames⟩ m) :
    Steps settings bindings ⟨.call (.phrase .factor), ⟨taken, t :: rest⟩, depth, frames⟩ m := by
  refine .enters ?_
  simp only [enter, Cursor.advance?, hk]
  exact .enters h

/-- A factor that starts with a sign or a function waits for the operand. -/
theorem Steps.applies {op : UnaryOperator} (hk : t.kind = op.kind)
    (h : Steps settings bindings ⟨.call (.descent .factor), ⟨t :: taken, rest⟩, depth,
      .prefixed op t.location :: .factor :: frames⟩ m) :
    Steps settings bindings ⟨.call (.phrase .factor), ⟨taken, t :: rest⟩, depth, frames⟩ m := by
  refine .enters ?_
  cases op <;> simp only [enter, Cursor.advance?, hk, UnaryOperator.kind, unary?] <;>
    exact .enters h

end Factor

end Machine

open Machine in
/-- What is read is what the machine answers, at the depth and before the frames where it began. -/
theorem Reads.steps {settings : Settings} {bindings : Bindings} {room : Nat} {task : Task}
    {c c' : Cursor} {r : Except SyntaxError Subtree} (h : Reads settings bindings room task c r c')
    (depth : Nat) (frames : List Frame) (hdepth : depth + room = settings.maxDepth) :
    Steps settings bindings (task.machine settings c depth frames)
      ⟨.answer r, c', depth, frames⟩ := by
  -- The room that the rules have is what the depth leaves of its limit.
  induction h generalizing depth frames with
  | chain_fails _ ih => exact .enters ((ih depth _ hdepth).fails (by simp))
  | chain _ _ ih ih' =>
    exact .enters ((ih depth _ hdepth).resumes.trans (ih' depth frames hdepth))
  | tail_ends hnext =>
    simp only [Task.machine, goOn_ends hnext]
    exact .refl
  | tail_fails hk hrank _ ih =>
    simp only [Task.machine, goOn_operator hk hrank]
    exact (ih depth _ hdepth).fails (by simp)
  | @tail_refused _ rank left _ t _ op _ _ _ hk hrank _ hfit ih =>
    simp only [Task.machine, goOn_operator hk hrank]
    have hright := (ih depth (.more rank left op t.location :: frames) hdepth).resumes
    simp only [resume, hfit] at hright
    exact hright
  | @tail_goes_on _ rank left _ t _ op _ _ _ _ hk hrank _ hfit _ ih ih' =>
    simp only [Task.machine, goOn_operator hk hrank]
    have hright := (ih depth (.more rank left op t.location :: frames) hdepth).resumes
    simp only [resume, hfit] at hright
    exact hright.trans (ih' depth frames hdepth)
  | tower_fails _ _ ih => exact .enters ((ih depth _ hdepth).fails (by simp))
  | tower_ends _ _ hnext ih =>
    have hbase := (ih depth (.base :: frames) hdepth).resumes
    rw [resume_base_ends hnext] at hbase
    exact .enters hbase
  | exponent_fails _ _ hk _ ih ih' =>
    have hbase := (ih depth (.base :: frames) hdepth).resumes
    rw [resume_base_power hk] at hbase
    exact .enters (hbase.trans ((ih' depth _ hdepth).fails (by simp)))
  | tower _ _ hk _ ih ih' =>
    have hbase := (ih depth (.base :: frames) hdepth).resumes
    rw [resume_base_power hk] at hbase
    exact .enters (hbase.trans (ih' depth _ hdepth).resumes)
  | too_deep =>
    refine .enters ?_
    simp only [enter, show settings.maxDepth ≤ depth by omega, if_true]
    exact .refl
  | deeper _ ih =>
    refine .enters ?_
    simp only [enter, show ¬settings.maxDepth ≤ depth by omega, if_false]
    exact (ih (depth + 1) _ (by omega)).ascends
  | ended => exact .enters .refl
  | unexpected hk =>
    refine .enters ?_
    rw [enter_unexpected hk]
  | number hk =>
    refine .enters ?_
    rw [enter_number hk]
  | letter hk hnext =>
    refine .names hk (.passes (.enters ?_))
    simp only [enter]
    split
    · next value hi hnumber => exact absurd hnumber (hnext hi value)
    · exact .refl
  | @indexed _ _ t _ _ name value hk hi hv =>
    refine .names hk (.passes (.enters ?_))
    simp only [enter, hi, Cursor.next?, List.head?_cons, Option.map_some, hv]
    refine .enters ?_
    rw [enter_number hv]
    exact Steps.resumes .refl
  | group_fails hk _ ih =>
    exact .opens hk (((ih depth _ hdepth).fails (by simp)).fails (by simp))
  | unclosed hk _ ih =>
    exact .opens hk ((ih depth _ hdepth).resumes.fails (by simp))
  | @mismatched _ _ t _ delimiter _ _ _ _ hk _ hu ih =>
    have hinner := (ih depth (.group delimiter t.location :: .factor :: frames) hdepth).resumes
    simp only [resume, Cursor.advance?, hu, if_false] at hinner
    exact .opens hk (hinner.fails (by simp))
  | @group _ _ t _ delimiter _ _ _ _ hk _ hu ih =>
    have hinner := (ih depth (.group delimiter t.location :: .factor :: frames) hdepth).resumes
    simp only [resume, Cursor.advance?, hu, if_true] at hinner
    exact .opens hk hinner.resumes
  | prefixed_fails hk _ ih =>
    exact .applies hk (((ih depth _ hdepth).fails (by simp)).fails (by simp))
  | prefixed hk _ ih => exact .applies hk (ih depth _ hdepth).resumes.passes

end Formula.Grammar
