import Formula.Proofs.Grammar.Machine

/-! How many calls there are at one time.  The depth of the machine counts the descents that wait.
Between two descents there is at most one power and one factor, which is what it takes for a call to
have room; the index of a letter is the one call without room, and it calls nothing. -/

namespace Formula.Grammar

/-- What is called in the course of reading: the productions, and the descents by which they get to
what is nested in them. -/
inductive Production where
  | expression
  | term
  | power
  | factor
  | group
  | prefixed
  | letter
  | descent
deriving DecidableEq

def Phrase.production : Phrase → Production
  | .chain .sum => .expression
  | .chain .product => .term
  | .chain .power => .power
  | .tower => .power
  | .factor => .factor

@[simp]
def Call.production : Call → Production
  | .phrase p => p.production
  | .group _ _ => .group
  | .prefixed _ _ => .prefixed
  | .letter _ _ => .letter
  | .descent _ => .descent

@[simp]
def Frame.production : Frame → Production
  | .first rank => (Phrase.chain rank).production
  | .more rank _ _ _ => (Phrase.chain rank).production
  | .base => .power
  | .exponent _ _ => .power
  | .factor => .factor
  | .group _ _ => .group
  | .prefixed _ _ => .prefixed
  | .indexed _ _ => .letter
  | .descent => .descent

namespace Machine

/-- The productions that wait for others, the innermost first. -/
def waiting (m : Machine) : List Production := m.frames.map Frame.production

/-- The productions at work: those that wait, and the one that is called. -/
def active (m : Machine) : List Production :=
  match m.control with
  | .call call => call.production :: m.waiting
  | .answer _ => m.waiting

end Machine

/-! ### How calls stand on each other -/

namespace Production

/-- What a production calls, the index of a letter aside. -/
@[simp]
def calls : Production → List Production
  | .expression => [.term]
  | .term => [.power]
  | .power => [.factor, .descent]
  | .factor => [.group, .prefixed, .letter]
  | .group => [.descent]
  | .prefixed => [.descent]
  | .letter => []
  | .descent => [.expression, .power, .factor]

/-- How many powers a call of the production comes to before it descends. -/
def powers : Production → Nat
  | .expression | .term | .power => 1
  | _ => 0

/-- How many factors a call of the production comes to before it descends. -/
def factors : Production → Nat
  | .expression | .term | .power | .factor => 1
  | _ => 0

/-- There is room for a call of the production: for every descent that waits, and once without any,
there is at most one power and one factor. -/
structure Fits (p : Production) (waiting : List Production) : Prop where
  powers : waiting.count .power + p.powers ≤ waiting.count .descent + 1
  factors : waiting.count .factor + p.factors ≤ waiting.count .descent + 1

theorem calls_le (p : Production) : ∀ q ∈ p.calls,
    [p].count .power + q.powers ≤ p.powers + [p].count .descent ∧
      [p].count .factor + q.factors ≤ p.factors + [p].count .descent := by
  cases p <;> decide

theorem count_le (p : Production) :
    [p].count .power ≤ p.powers ∧ [p].count .factor ≤ p.factors := by
  cases p <;> decide

theorem count_cons (p x : Production) (waiting : List Production) :
    (p :: waiting).count x = [p].count x + waiting.count x := by
  show ([p] ++ waiting).count x = _
  exact List.count_append

variable {p q : Production} {waiting : List Production}

theorem Fits.push (h : p.Fits waiting) (hq : q ∈ p.calls) : q.Fits (p :: waiting) := by
  obtain ⟨hpowers, hfactors⟩ := h
  obtain ⟨hle, hle'⟩ := p.calls_le q hq
  constructor
  · rw [p.count_cons .power, p.count_cons .descent]
    omega
  · rw [p.count_cons .factor, p.count_cons .descent]
    omega

/-- Each call that waits had room where it was made. -/
def Layered : List Production → Prop
  | [] => True
  | p :: waiting => p.Fits waiting ∧ Layered waiting

theorem Fits.count_le (h : p.Fits waiting) :
    (p :: waiting).count .power ≤ waiting.count .descent + 1 ∧
      (p :: waiting).count .factor ≤ waiting.count .descent + 1 := by
  obtain ⟨hpowers, hfactors⟩ := h
  obtain ⟨hle, hle'⟩ := p.count_le
  rw [p.count_cons .power, p.count_cons .factor]
  omega

theorem Layered.count_le (h : Layered waiting) :
    waiting.count .power ≤ waiting.count .descent + 1 ∧
      waiting.count .factor ≤ waiting.count .descent + 1 := by
  cases waiting with
  | nil => simp
  | cons p waiting =>
    obtain ⟨hpowers, hfactors⟩ := h.1.count_le
    have hmore : waiting.count .descent ≤ (p :: waiting).count .descent := List.count_le_count_cons
    omega

end Production

theorem Phrase.production_ne_descent (p : Phrase) : p.production ≠ .descent := by
  cases p with
  | chain rank => cases rank <;> decide
  | tower | factor => decide

theorem Frame.production_ne_descent {frame : Frame} (h : frame ≠ .descent) :
    frame.production ≠ .descent := by
  cases frame with
  | descent => contradiction
  | first rank => exact Phrase.production_ne_descent (.chain rank)
  | more rank => exact Phrase.production_ne_descent (.chain rank)
  | base | exponent | factor | group | prefixed | indexed => simp

theorem Phrase.production_powers (settings : Settings) :
    (Phrase.powers settings).production = .power := by
  unfold Phrase.powers
  split <;> rfl

theorem Phrase.production_operand (settings : Settings) (rank : Rank) :
    (Phrase.operand settings rank).production ∈ (Phrase.chain rank).production.calls := by
  cases rank with
  | sum | power => exact List.mem_cons_self
  | product => exact List.mem_singleton.mpr (Phrase.production_powers settings)

theorem Goal.production_phrase (settings : Settings) (goal : Goal) :
    (goal.phrase settings).production ∈ Production.descent.calls := by
  cases goal with
  | expression | factor => simp [Goal.phrase, Phrase.production]
  | power => simp [Goal.phrase, Phrase.production_powers]

/-! ### Steps keep it so -/

/-- A call that the machine may make at the cursor.  The index of a letter is the one for which
there need be no room, and it is a number. -/
inductive Call.Admitted (settings : Settings) (c : Cursor) (frames : List Frame) : Call → Prop
  | room {call} : call.production.Fits (frames.map Frame.production) →
      (∀ p, call = .phrase p → p.Occurs settings) → Admitted settings c frames call
  | index {name location outer value} : frames = .indexed name location :: outer →
      c.next? = some (.number value) → Admitted settings c frames (.phrase .factor)

/-- What holds of the machine all the time. -/
structure Machine.Sound (settings : Settings) (m : Machine) : Prop where
  depth_eq : m.depth = m.waiting.count .descent
  depth_le : m.depth ≤ settings.maxDepth
  layered : Production.Layered m.waiting
  admitted : ∀ call, m.control = .call call → call.Admitted settings m.cursor m.frames

namespace Machine.Sound

variable {settings : Settings} {bindings : Bindings} {control : Control} {c c' : Cursor}
  {depth : Nat} {frames : List Frame} {frame : Frame} {call : Call} {m m' : Machine}

theorem answer (h : Sound settings ⟨control, c, depth, frames⟩) (r : Except SyntaxError Subtree)
    (c' : Cursor) : Sound settings ⟨.answer r, c', depth, frames⟩ :=
  ⟨h.depth_eq, h.depth_le, h.layered, by rintro call ⟨⟩⟩

theorem push (h : Sound settings ⟨control, c, depth, frames⟩) (frame : Frame) (call : Call)
    (c' : Cursor) (hfits : frame.production.Fits (frames.map Frame.production))
    (hframe : frame ≠ .descent) (hcall : call.production ∈ frame.production.calls)
    (hoccurs : ∀ p, call = .phrase p → p.Occurs settings) :
    Sound settings ⟨.call call, c', depth, frame :: frames⟩ where
  depth_eq := by
    show depth = (frame.production :: frames.map Frame.production).count .descent
    rw [List.count_cons_of_ne (Frame.production_ne_descent hframe)]
    exact h.depth_eq
  depth_le := h.depth_le
  layered := ⟨hfits, h.layered⟩
  admitted := by
    rintro _ ⟨rfl⟩
    exact .room (hfits.push hcall) hoccurs

theorem push_operand (h : Sound settings ⟨control, c, depth, frames⟩) (frame : Frame) {rank : Rank}
    (hframe : frame.production = (Phrase.chain rank).production) (c' : Cursor)
    (hfits : (Phrase.chain rank).production.Fits (frames.map Frame.production)) :
    Sound settings ⟨.call (.phrase (.operand settings rank)), c', depth, frame :: frames⟩ := by
  have hne : frame ≠ .descent := by
    rintro rfl
    exact Phrase.production_ne_descent (.chain rank) hframe.symm
  refine h.push frame _ c' (hframe ▸ hfits) hne ?_ ?_
  · rw [hframe]
    exact Phrase.production_operand settings rank
  · rintro p ⟨rfl⟩
    exact Phrase.occurs_operand settings rank

theorem pop (h : Sound settings ⟨control, c, depth, frame :: frames⟩)
    (hframe : frame ≠ .descent) (r : Except SyntaxError Subtree) (c' : Cursor) :
    Sound settings ⟨.answer r, c', depth, frames⟩ where
  depth_eq := by
    have hdepth : depth = (frame.production :: frames.map Frame.production).count .descent :=
      h.depth_eq
    rwa [List.count_cons_of_ne (Frame.production_ne_descent hframe)] at hdepth
  depth_le := h.depth_le
  layered := h.layered.2
  admitted := by rintro call ⟨⟩

theorem goOn {r : Except SyntaxError Subtree} (h : Sound settings ⟨.answer r, c, depth, frames⟩)
    {rank : Rank} (hfits : (Phrase.chain rank).production.Fits (frames.map Frame.production))
    (left : Subtree) : Sound settings (goOn settings rank left c depth frames) := by
  unfold Machine.goOn
  split
  · exact h.answer _ _
  · split
    · exact h.answer _ _
    · exact h.push_operand (.more rank left _ _) rfl _ hfits

theorem enter_factor (h : Sound settings ⟨control, c, depth, frames⟩)
    (hfits : Production.factor.Fits (frames.map Frame.production)) :
    Sound settings (enter settings bindings c depth frames (.phrase .factor)) := by
  have hpush : ∀ call c', call.production ∈ Production.factor.calls →
      (∀ p, call ≠ .phrase p) → Sound settings ⟨.call call, c', depth, .factor :: frames⟩ := by
    intro call c' hcall hp
    exact h.push .factor call c' hfits (by simp) hcall fun p heq => absurd heq (hp p)
  obtain ⟨taken, _ | ⟨t, rest⟩⟩ := c
  · exact h.answer _ _
  simp only [Machine.enter, Cursor.advance?]
  split
  · exact hpush _ _ (by simp) (by simp)
  · exact h.answer _ _
  · exact hpush _ _ (by simp) (by simp)
  · split
    · exact hpush _ _ (by simp) (by simp)
    · exact h.answer _ _

theorem enter (h : Sound settings ⟨.call call, c, depth, frames⟩) :
    Sound settings (enter settings bindings c depth frames call) := by
  cases h.admitted call rfl with
  | @index name location outer value hframes hnext =>
    obtain ⟨taken, _ | ⟨t, rest⟩⟩ := c
    · contradiction
    have hk : t.kind = .number value := Option.some.inj hnext
    simp only [Machine.enter, Cursor.advance?, hk]
    exact h.answer _ _
  | room hfits hoccurs =>
    cases call with
    | phrase p =>
      cases p with
      | chain rank => exact h.push_operand (.first rank) rfl c hfits
      | tower =>
        refine h.push .base _ c hfits (by simp) (by simp [Phrase.production]) ?_
        rintro p ⟨rfl⟩
        simp [Phrase.Occurs]
      | factor => exact h.enter_factor hfits
    | group delimiter openedAt =>
      exact h.push (.group delimiter openedAt) _ c hfits (by simp) (by simp) (by simp)
    | prefixed op location =>
      exact h.push (.prefixed op location) _ c hfits (by simp) (by simp) (by simp)
    | letter name location =>
      simp only [Machine.enter]
      split
      · next hnext =>
        refine ⟨h.depth_eq, h.depth_le, ⟨hfits, h.layered⟩, ?_⟩
        rintro _ ⟨rfl⟩
        exact .index rfl hnext
      · exact h.answer _ _
    | descent goal =>
      simp only [Machine.enter]
      split
      · exact h.answer _ _
      · next hroom =>
        refine ⟨?_, Nat.lt_of_not_le hroom, ⟨hfits, h.layered⟩, ?_⟩
        · have hdepth : depth = (frames.map Frame.production).count .descent := h.depth_eq
          simp [waiting, Frame.production, hdepth]
        · rintro _ ⟨rfl⟩
          refine .room (hfits.push (Goal.production_phrase settings goal)) ?_
          rintro p ⟨rfl⟩
          exact Goal.occurs settings goal

theorem ascend (h : Sound settings ⟨control, c, depth, .descent :: frames⟩)
    (r : Except SyntaxError Subtree) (c' : Cursor) :
    Sound settings ⟨.answer r, c', depth - 1, frames⟩ where
  depth_eq := by
    have hdepth : depth = (Production.descent :: frames.map Frame.production).count .descent :=
      h.depth_eq
    rw [List.count_cons_self] at hdepth
    show depth - 1 = (frames.map Frame.production).count .descent
    omega
  depth_le := by
    have hle : depth ≤ settings.maxDepth := h.depth_le
    show depth - 1 ≤ settings.maxDepth
    omega
  layered := h.layered.2
  admitted := by rintro call ⟨⟩

theorem resume {s : Subtree} (h : Sound settings ⟨.answer (.ok s), c, depth, frame :: frames⟩) :
    Sound settings (resume settings s c depth frames frame) := by
  have hfits := h.layered.1
  cases frame with
  | first rank => exact (h.pop (by simp) (.ok s) c).goOn hfits s
  | more rank left op location =>
    have hpop := h.pop (by simp)
    simp only [Machine.resume]
    split
    · exact hpop _ _
    · exact (hpop (.ok s) c).goOn hfits _
  | base =>
    have hpop := h.pop (by simp)
    simp only [Machine.resume]
    split
    · exact hpop _ _
    · next t rest _ =>
      split
      · exact (hpop (.ok s) c).push (.exponent s t.location) (.descent .power) _ hfits (by simp)
          (by simp) (by simp)
      · exact hpop _ _
  | group delimiter openedAt =>
    have hpop := h.pop (by simp)
    simp only [Machine.resume]
    split
    · exact hpop _ _
    · split
      · exact hpop _ _
      · exact hpop _ _
  | exponent | factor | prefixed | indexed => exact h.pop (by simp) _ _
  | descent => exact h.ascend _ _

theorem step (h : Sound settings m) (hstep : step settings bindings m = some m') :
    Sound settings m' := by
  obtain ⟨call, c, depth, frames, rfl, rfl⟩ |
    ⟨e, c, depth, frame, frames, rfl, ⟨rfl, rfl⟩ | ⟨hframe, rfl⟩⟩ |
    ⟨s, c, depth, frame, frames, rfl, rfl⟩ := step_cases hstep
  · exact h.enter
  · exact h.ascend _ _
  · exact h.pop hframe _ _
  · exact h.resume

theorem steps (h : Sound settings m) (hsteps : Steps settings bindings m m') :
    Sound settings m' := by
  induction hsteps with
  | refl => exact h
  | tail _ hstep ih => exact ih.step hstep

theorem start (tokens : List Token) : Sound settings (start tokens) where
  depth_eq := rfl
  depth_le := Nat.zero_le _
  layered := trivial
  admitted := by
    rintro _ ⟨rfl⟩
    refine .room ⟨Nat.le_refl 1, Nat.le_refl 1⟩ ?_
    rintro p ⟨rfl⟩
    simp [Phrase.Occurs]

end Machine.Sound

/-! ### Every call answers -/

/-- What the parsers do for the call when `room` levels are left. -/
def Call.parser (settings : Settings) (bindings : Bindings) (room : Nat) : Call → Parser Subtree
  | .phrase p => p.parser settings bindings (descend settings bindings room)
  | .group delimiter openedAt => Grammar.group (descend settings bindings room) delimiter openedAt
  | .prefixed op location =>
    descend settings bindings room .factor >>= fun operand => wrap settings op location operand
  | .letter name location => letterOrIndexed settings bindings name location
  | .descent goal => descend settings bindings room goal

namespace Machine

/-- The call that the machine is about to make answers, and leaves the depth and the calls that wait
as they are. -/
def Answers (settings : Settings) (bindings : Bindings) (m : Machine) : Prop :=
  ∃ r c, Steps settings bindings m ⟨.answer r, c, m.depth, m.frames⟩

/-- The machine answers the call as the parser of the call does, and is back where it made it. -/
structure Agrees (settings : Settings) (bindings : Bindings) (call : Call) (c : Cursor)
    (depth : Nat) (frames : List Frame) (r : Except SyntaxError Subtree) (c' : Cursor) : Prop where
  steps : Steps settings bindings ⟨.call call, c, depth, frames⟩ ⟨.answer r, c', depth, frames⟩
  runs : (call.parser settings bindings (settings.maxDepth - depth)).Runs c r c'

variable {settings : Settings} {bindings : Bindings} {c : Cursor} {depth : Nat}
  {frames : List Frame} {frame : Frame} {call : Call} {m : Machine}

theorem agrees_phrase (bindings : Bindings) {p : Phrase} (hp : p.Occurs settings)
    (hdepth : depth ≤ settings.maxDepth) (c : Cursor) (frames : List Frame) :
    ∃ r c', Agrees settings bindings (.phrase p) c depth frames r c' := by
  have hends : Ends settings bindings (settings.maxDepth - depth) (.phrase p) :=
    ends_phrase hp ends_deeper
  obtain ⟨r, c', h⟩ := hends c
  exact ⟨r, c', h.steps depth frames (by omega), h.runs⟩

theorem agrees_descent (bindings : Bindings) (hdepth : depth ≤ settings.maxDepth) (goal : Goal)
    (c : Cursor) (frames : List Frame) :
    ∃ r c', Agrees settings bindings (.descent goal) c depth frames r c' := by
  have hends : Ends settings bindings (settings.maxDepth - depth) (.deeper goal) :=
    ends_deeper goal
  obtain ⟨r, c', h⟩ := hends c
  exact ⟨r, c', h.steps depth frames (by omega), h.runs⟩

theorem agrees_group (bindings : Bindings) (hdepth : depth ≤ settings.maxDepth)
    (delimiter : Delimiter) (openedAt : Location) (c : Cursor) (frames : List Frame) :
    ∃ r c', Agrees settings bindings (.group delimiter openedAt) c depth frames r c' := by
  obtain ⟨r, c', hsteps, hruns⟩ :=
    agrees_descent bindings hdepth .expression c (.group delimiter openedAt :: frames)
  obtain e | s := r
  · exact ⟨_, _, .enters (hsteps.fails (by simp)), hruns.bind_error⟩
  obtain ⟨taken, _ | ⟨t, rest⟩⟩ := c'
  · exact ⟨_, _, .enters hsteps.resumes, hruns.bind (.bind ⟨rfl, rfl⟩ ⟨rfl, rfl⟩)⟩
  have hresumes := hsteps.resumes
  by_cases ht : t.kind = .closing delimiter
  · simp only [resume, Cursor.advance?, ht, if_true] at hresumes
    refine ⟨_, _, .enters hresumes, hruns.bind (.bind (Parser.runs_advance _ _ _) ?_)⟩
    simp only [ht, if_true]
    exact ⟨rfl, rfl⟩
  · simp only [resume, Cursor.advance?, ht, if_false] at hresumes
    refine ⟨_, _, .enters hresumes, hruns.bind (.bind (Parser.runs_advance _ _ _) ?_)⟩
    simp only [ht, if_false]
    exact ⟨rfl, rfl⟩

theorem agrees_prefixed (bindings : Bindings) (hdepth : depth ≤ settings.maxDepth)
    (op : UnaryOperator) (location : Location) (c : Cursor) (frames : List Frame) :
    ∃ r c', Agrees settings bindings (.prefixed op location) c depth frames r c' := by
  obtain ⟨r, c', hsteps, hruns⟩ :=
    agrees_descent bindings hdepth .factor c (.prefixed op location :: frames)
  obtain e | s := r
  · exact ⟨_, _, .enters (hsteps.fails (by simp)), hruns.bind_error⟩
  · exact ⟨_, _, .enters hsteps.resumes, hruns.bind (runs_checked _ _ _ _)⟩

/-- The index is a number, which takes one step and no room. -/
theorem agrees_letter (bindings : Bindings) (name : String) (location : Location) (c : Cursor)
    (depth : Nat) (frames : List Frame) :
    ∃ r c', Agrees settings bindings (.letter name location) c depth frames r c' := by
  by_cases hindex : settings.indexedLetters = true ∧ ∃ value, c.next? = some (.number value)
  · obtain ⟨hi, value, hnext⟩ := hindex
    obtain ⟨taken, _ | ⟨t, rest⟩⟩ := c
    · contradiction
    have hk : t.kind = .number value := Option.some.inj hnext
    refine ⟨fitted settings location (.indexed name value), ⟨t :: taken, rest⟩, ?_, ?_⟩
    · refine .enters ?_
      simp only [enter, hi, hnext]
      refine .enters ?_
      rw [enter_number hk]
      exact Steps.resumes .refl
    · have hhere : Parser.here.Runs ⟨taken, t :: rest⟩ (.ok _) _ := ⟨rfl, rfl⟩
      refine hhere.bind ?_
      simp only [hi, hnext]
      exact .bind (Parser.runs_advance _ _ _) (.bind ⟨rfl, rfl⟩ (runs_checked _ _ _ _))
  · have hnext : settings.indexedLetters = true → ∀ value, c.next? ≠ some (.number value) :=
      fun hi value hnext => hindex ⟨hi, value, hnext⟩
    refine ⟨.ok (leaf (bindings.leaf name)), c, .enters ?_, runs_unindexed hnext⟩
    simp only [enter]
    split
    · next value hi hnumber => exact absurd hnumber (hnext hi value)
    · exact .refl

theorem Sound.agrees (h : Sound settings ⟨.call call, c, depth, frames⟩) (bindings : Bindings) :
    ∃ r c', Agrees settings bindings call c depth frames r c' := by
  have hdepth : depth ≤ settings.maxDepth := h.depth_le
  cases h.admitted call rfl with
  | index => exact agrees_phrase bindings (by simp [Phrase.Occurs]) hdepth c frames
  | room _ hoccurs =>
    cases call with
    | phrase p => exact agrees_phrase bindings (hoccurs p rfl) hdepth c frames
    | group delimiter openedAt => exact agrees_group bindings hdepth delimiter openedAt c frames
    | prefixed op location => exact agrees_prefixed bindings hdepth op location c frames
    | letter name location => exact agrees_letter bindings name location c depth frames
    | descent goal => exact agrees_descent bindings hdepth goal c frames

theorem Sound.answers (h : Sound settings ⟨.call call, c, depth, frames⟩) :
    Answers settings bindings ⟨.call call, c, depth, frames⟩ := by
  obtain ⟨r, c', hagrees⟩ := h.agrees bindings
  exact ⟨r, c', hagrees.steps⟩

/-! ### The bounds -/

theorem Sound.count_power (h : Sound settings m) :
    m.active.count .power ≤ settings.maxDepth + 1 := by
  obtain ⟨hdepth, hle, hlayered, hadmitted⟩ := h
  have hwaiting := hlayered.count_le.1
  obtain ⟨call | r, c, depth, frames⟩ := m
  · cases hadmitted call rfl with
    | room hfits =>
      have hactive := hfits.count_le.1
      simp only [active, waiting] at *
      omega
    | index =>
      simp only [active, waiting, Call.production, Phrase.production] at *
      rw [List.count_cons_of_ne (by decide)]
      omega
  · simp only [active, waiting] at *
    omega

theorem Sound.count_factor (h : Sound settings m) :
    m.active.count .factor ≤ settings.maxDepth + 1 ∨
      m.active.count .factor ≤ settings.maxDepth + 2 ∧
      ∃ outer, m.active = .factor :: .letter :: outer := by
  obtain ⟨hdepth, hle, hlayered, hadmitted⟩ := h
  have hwaiting := hlayered.count_le.2
  obtain ⟨call | r, c, depth, frames⟩ := m
  · cases hadmitted call rfl with
    | room hfits =>
      have hactive := hfits.count_le.2
      simp only [active, waiting] at *
      omega
    | @index name location outer value hframes =>
      obtain rfl : frames = .indexed name location :: outer := hframes
      refine .inr ⟨?_, _, rfl⟩
      simp only [active, waiting, Call.production, Phrase.production] at *
      rw [List.count_cons_self]
      omega
  · simp only [active, waiting] at *
    omega

end Machine

/-- At every moment of a run the depth is within its limit and counts the descents that wait; every
call answers, whether with a subtree or with an error, and leaves it as it was; there are at most
`maxDepth + 1` powers and as many factors, but for the index of a letter.  The run answers what the
parser returns, which bounds its recursion by the limit. -/
theorem calls_bounded (settings : Settings) (bindings : Bindings) (tokens : List Token) :
    (∀ m, Machine.Steps settings bindings (.start tokens) m →
      m.depth ≤ settings.maxDepth ∧ m.depth = m.waiting.count .descent ∧
      m.active.count .power ≤ settings.maxDepth + 1 ∧
      (m.active.count .factor ≤ settings.maxDepth + 1 ∨
        m.active.count .factor ≤ settings.maxDepth + 2 ∧
        ∃ outer, m.active = .factor :: .letter :: outer) ∧
      ∀ call, m.control = .call call → m.Answers settings bindings) ∧
    ∃ r c, Machine.Steps settings bindings (.start tokens) ⟨.answer r, c, 0, []⟩ ∧
      parse settings bindings tokens = if tokens = [] then .ok none else finish r c := by
  constructor
  · intro m hsteps
    have hsound := (Machine.Sound.start tokens).steps hsteps
    refine ⟨hsound.depth_le, hsound.depth_eq, hsound.count_power, hsound.count_factor, ?_⟩
    rintro call hcall
    obtain ⟨control, c, depth, frames⟩ := m
    obtain rfl : control = .call call := hcall
    exact hsound.answers
  · obtain ⟨r, c, hreads, hparse⟩ := exists_reads settings bindings tokens
    refine ⟨r, c, hreads.steps 0 [] (Nat.zero_add _), ?_⟩
    split
    · next hnil => rw [hnil, parse_nil]
    · next hne => exact hparse hne

end Formula.Grammar
