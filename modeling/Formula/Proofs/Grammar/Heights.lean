import Formula.Proofs.Grammar.Calls

/-! The heights that the parser keeps beside its trees.  At every moment of a run the subtrees in
hand are those that the calls which wait hold, and the one that a call has just answered.
`Measured` says of a subtree that its height is that of its tree and that it has passed the check; a
step of the machine keeps this, whether the run is going to fail or not. -/

namespace Formula

/-- A subtree that knows its height, which is within the limit.  A leaf is allowed whatever the
limit is. -/
structure Subtree.Tracked (settings : Settings) (s : Subtree) : Prop where
  height_eq : s.height = s.tree.depth
  height_le : s.height ≤ max 1 settings.maxTreeDepth

theorem Subtree.Measured.tracked {settings : Settings} {s : Subtree} (h : s.Measured settings) :
    s.Tracked settings := by
  refine ⟨h.height, ?_⟩
  rw [h.height]
  obtain hbare | hfits := h.fits
  · obtain ⟨tree, height⟩ := s
    cases tree with
    | number | letter => exact Nat.le_max_left _ _
    | indexed | binary | unary => contradiction
  · omega

section Nodes

variable {settings : Settings} {left right s : Subtree}

theorem Subtree.Measured.binary (op : BinaryOperator) (hl : left.Measured settings)
    (hr : right.Measured settings) :
    Subtree.binary op left right = (Tree.binary op left.tree right.tree).subtree := by
  simp [Subtree.binary, Tree.subtree, Tree.depth, hl.height, hr.height]

theorem Subtree.Measured.unary (op : UnaryOperator) (h : s.Measured settings) :
    Subtree.unary op s = (Tree.unary op s.tree).subtree := by
  simp [Subtree.unary, Tree.subtree, Tree.depth, h.height]

theorem Subtree.Measured.indexed (name : String) (h : s.Measured settings) :
    ⟨.indexed name s.tree, 1 + s.height⟩ = (Tree.indexed name s.tree).subtree := by
  simp [Tree.subtree, Tree.depth, h.height]

end Nodes

namespace Grammar

/-! ### The subtrees in hand -/

/-- What a call that waits has read so far. -/
@[simp]
def Frame.held : Frame → List Subtree
  | .more _ left _ _ => [left]
  | .exponent left _ => [left]
  | _ => []

/-- What a call has just answered. -/
@[simp]
def Control.held : Control → List Subtree
  | .answer (.ok s) => [s]
  | _ => []

/-- Where a limit is exceeded, if that is the error. -/
@[simp]
def Control.complaint? : Control → Option Location
  | .answer (.error (.nestingTooDeep _ location)) => some location
  | _ => none

/-- The node that a call which waits is about to build on the answer `s`, and the location that a
complaint about its height would name. -/
@[simp]
def Frame.builds? (s : Subtree) : Frame → Option (Tree × Location)
  | .more _ left op location => some (.binary op left.tree s.tree, location)
  | .exponent left location => some (.binary .power left.tree s.tree, location)
  | .prefixed op location => some (.unary op s.tree, location)
  | .indexed name location => some (.indexed name s.tree, location)
  | _ => none

namespace Machine

/-- All subtrees in hand. -/
def held (m : Machine) : List Subtree := m.control.held ++ m.frames.flatMap Frame.held

/-- The node that the next step builds unless it is too high. -/
def building? (m : Machine) : Option (Tree × Location) :=
  match m.control, m.frames with
  | .answer (.ok s), frame :: _ => frame.builds? s
  | _, _ => none

/-- Every subtree in hand knows its height and has passed the check. -/
def Measured (settings : Settings) (m : Machine) : Prop := ∀ s ∈ m.held, s.Measured settings

variable {settings : Settings} {bindings : Bindings} {control : Control} {c c' : Cursor}
  {depth depth' : Nat} {frames : List Frame} {frame : Frame} {call : Call} {m m' : Machine}
  {s : Subtree} {location : Location}

/-! ### A step keeps the heights -/

theorem measured_iff : Measured settings ⟨control, c, depth, frames⟩ ↔
    (∀ s ∈ control.held, s.Measured settings) ∧
      ∀ frame ∈ frames, ∀ s ∈ frame.held, s.Measured settings := by
  simp only [Measured, held, List.mem_append, List.mem_flatMap]
  constructor
  · intro h
    exact ⟨fun s hs => h s (.inl hs), fun frame hframe s hs => h s (.inr ⟨frame, hframe, hs⟩)⟩
  · rintro ⟨hcontrol, hframes⟩ s (hs | ⟨frame, hframe, hs⟩)
    · exact hcontrol s hs
    · exact hframes frame hframe s hs

namespace Measured

theorem answer (h : Measured settings ⟨control, c, depth, frames⟩)
    {r : Except SyntaxError Subtree} (hr : ∀ s, r = .ok s → s.Measured settings) (c' : Cursor)
    (depth' : Nat) : Measured settings ⟨.answer r, c', depth', frames⟩ := by
  rw [measured_iff] at h ⊢
  refine ⟨?_, h.2⟩
  cases r with
  | error e => simp
  | ok s => simpa using hr s rfl

theorem push (h : Measured settings ⟨control, c, depth, frames⟩) {frame : Frame}
    (hframe : ∀ s ∈ frame.held, s.Measured settings) (call : Call) (c' : Cursor) (depth' : Nat) :
    Measured settings ⟨.call call, c', depth', frame :: frames⟩ := by
  rw [measured_iff] at h ⊢
  exact ⟨by simp, List.forall_mem_cons.mpr ⟨hframe, h.2⟩⟩

theorem pop (h : Measured settings ⟨control, c, depth, frame :: frames⟩) :
    Measured settings ⟨control, c, depth, frames⟩ := by
  rw [measured_iff] at h ⊢
  exact ⟨h.1, fun frame hframe => h.2 frame (List.mem_cons_of_mem _ hframe)⟩

theorem of_answer (h : Measured settings ⟨.answer (.ok s), c, depth, frames⟩) :
    s.Measured settings :=
  (measured_iff.mp h).1 s (by simp)

theorem of_frame (h : Measured settings ⟨control, c, depth, frame :: frames⟩) :
    ∀ s ∈ frame.held, s.Measured settings :=
  (measured_iff.mp h).2 frame List.mem_cons_self

theorem goOn (h : Measured settings ⟨control, c, depth, frames⟩) (rank : Rank)
    (hs : s.Measured settings) : Measured settings (goOn settings rank s c depth frames) := by
  have hanswer : Measured settings ⟨.answer (.ok s), c, depth, frames⟩ :=
    h.answer (by rintro _ ⟨rfl⟩; exact hs) c depth
  unfold Machine.goOn
  split
  · exact hanswer
  · split
    · exact hanswer
    · exact h.push (by simpa using hs) _ _ _

theorem enter (h : Measured settings ⟨control, c, depth, frames⟩) (call : Call) :
    Measured settings (enter settings bindings c depth frames call) := by
  have herror : ∀ e c', Measured settings ⟨.answer (.error e), c', depth, frames⟩ :=
    fun e c' => h.answer (by simp) c' depth
  have hnumber : ∀ value c',
      Measured settings ⟨.answer (.ok (leaf (.number value))), c', depth, frames⟩ :=
    fun value c' => h.answer (by rintro _ ⟨rfl⟩; exact ⟨rfl, .inl rfl⟩) c' depth
  have hpush : ∀ {frame : Frame}, frame.held = [] → ∀ call c' depth',
      Measured settings ⟨.call call, c', depth', frame :: frames⟩ :=
    fun hheld => h.push (by rw [hheld]; simp)
  cases call with
  | phrase p =>
    cases p with
    | chain rank => exact hpush rfl _ _ _
    | tower => exact hpush rfl _ _ _
    | factor =>
      obtain ⟨taken, _ | ⟨t, rest⟩⟩ := c
      · exact herror _ _
      simp only [Machine.enter, Cursor.advance?]
      split
      · exact hpush rfl _ _ _
      · exact hnumber _ _
      · exact hpush rfl _ _ _
      · split
        · exact hpush rfl _ _ _
        · exact herror _ _
  | group | prefixed => exact hpush rfl _ _ _
  | letter name location =>
    simp only [Machine.enter]
    split
    · exact hpush rfl _ _ _
    · refine h.answer ?_ _ _
      rintro _ ⟨rfl⟩
      exact ⟨(depth_leaf _ _).symm, .inl (isBare_leaf _ _)⟩
  | descent goal =>
    simp only [Machine.enter]
    split
    · exact herror _ _
    · exact hpush rfl _ _ _

theorem resume (h : Measured settings ⟨.answer (.ok s), c, depth, frame :: frames⟩) :
    Measured settings (resume settings s c depth frames frame) := by
  have hs := h.of_answer
  have hframe := h.of_frame
  have hpop := h.pop
  have herror : ∀ e c', Measured settings ⟨.answer (.error e), c', depth, frames⟩ :=
    fun e c' => hpop.answer (by simp) c' depth
  cases frame with
  | first rank => exact hpop.goOn rank hs
  | more rank left op location =>
    have hleft : left.Measured settings := by simpa using hframe
    simp only [Machine.resume, hleft.binary op hs]
    split
    · exact herror _ _
    · next joined hfit => exact hpop.goOn rank (measured_fitted hfit rfl)
  | base =>
    simp only [Machine.resume]
    split
    · exact hpop
    · split
      · exact hpop.push (by simpa using hs) _ _ _
      · exact hpop
  | exponent left location =>
    have hleft : left.Measured settings := by simpa using hframe
    simp only [Machine.resume, hleft.binary .power hs]
    exact hpop.answer (fun joined hfit => measured_fitted hfit rfl) _ _
  | factor => exact hpop
  | group delimiter openedAt =>
    obtain ⟨taken, _ | ⟨t, rest⟩⟩ := c
    · exact herror _ _
    simp only [Machine.resume, Cursor.advance?]
    split
    · exact hpop.answer (by rintro _ ⟨rfl⟩; exact hs) _ _
    · exact herror _ _
  | prefixed op location =>
    simp only [Machine.resume, hs.unary op]
    exact hpop.answer (fun wrapped hfit => measured_fitted hfit rfl) _ _
  | indexed name location =>
    simp only [Machine.resume, hs.indexed name]
    exact hpop.answer (fun indexed hfit => measured_fitted hfit rfl) _ _
  | descent => exact hpop.answer (by rintro _ ⟨rfl⟩; exact hs) _ _

theorem step (h : Measured settings m) (hstep : step settings bindings m = some m') :
    Measured settings m' := by
  obtain ⟨call, c, depth, frames, rfl, rfl⟩ |
    ⟨e, c, depth, frame, frames, rfl, ⟨-, rfl⟩ | ⟨-, rfl⟩⟩ |
    ⟨s, c, depth, frame, frames, rfl, rfl⟩ := step_cases hstep
  · exact h.enter call
  · exact h.pop.answer (by simp) _ _
  · exact h.pop
  · exact h.resume

theorem steps (h : Measured settings m) (hsteps : Steps settings bindings m m') :
    Measured settings m' := by
  induction hsteps with
  | refl => exact h
  | tail _ hstep ih => exact ih.step hstep

theorem start (tokens : List Token) : Measured settings (start tokens) := by
  simp [Measured, held, Machine.start]

end Measured

/-! ### The check of a height -/

/-- The step after `m` takes `tree` in hand or complains of its height at `location`, and nothing
but the height of `tree` decides which. -/
structure Checks (settings : Settings) (bindings : Bindings) (m : Machine) (tree : Tree)
    (location : Location) (m' : Machine) : Prop where
  step : Machine.step settings bindings m = some m'
  refused : m'.control = .answer (.error (.nestingTooDeep settings.maxTreeDepth location)) ↔
    settings.maxTreeDepth < tree.depth
  accepted : tree.depth ≤ settings.maxTreeDepth → tree.subtree ∈ m'.held

theorem mem_held_goOn (settings : Settings) (rank : Rank) (s : Subtree) (c : Cursor) (depth : Nat)
    (frames : List Frame) : s ∈ (goOn settings rank s c depth frames).held := by
  unfold goOn
  split
  · simp [held]
  · split <;> simp [held]

theorem complaint?_goOn (rank : Rank) :
    (goOn settings rank s c depth frames).control.complaint? = none := by
  unfold goOn
  split
  · rfl
  · split <;> rfl

/-- What a chain does with the result of the check. -/
def goOnWith (settings : Settings) (rank : Rank) (c : Cursor) (depth : Nat) (frames : List Frame) :
    Except SyntaxError Subtree → Machine
  | .error e => ⟨.answer (.error e), c, depth, frames⟩
  | .ok joined => goOn settings rank joined c depth frames

/-- What the step makes of the result of the check is `next`, which passes a complaint on. -/
theorem exists_checks (next : Except SyntaxError Subtree → Machine) {tree : Tree}
    (hstep : Machine.step settings bindings m =
      some (next (fitted settings location tree.subtree)))
    (herror : ∀ e, (next (.error e)).control = .answer (.error e))
    (hok : ∀ s, s ∈ (next (.ok s)).held)
    (hne : ∀ s, (next (.ok s)).control.complaint? = none) :
    ∃ m', Checks settings bindings m tree location m' := by
  by_cases hlt : settings.maxTreeDepth < tree.depth
  · have hfit : fitted settings location tree.subtree =
        .error (.nestingTooDeep settings.maxTreeDepth location) := fitted_eq_error.mpr ⟨hlt, rfl⟩
    rw [hfit] at hstep
    exact ⟨_, hstep, iff_of_true (herror _) hlt, fun hle => absurd hlt (Nat.not_lt.mpr hle)⟩
  · have hfit : fitted settings location tree.subtree = .ok tree.subtree :=
      fitted_eq_ok.mpr ⟨Nat.not_lt.mp hlt, rfl⟩
    rw [hfit] at hstep
    refine ⟨_, hstep, iff_of_false (fun hcontrol => ?_) hlt, fun _ => hok _⟩
    have hnone := hne tree.subtree
    rw [hcontrol] at hnone
    contradiction

/-- A call that answers what the check answers. -/
theorem exists_checks_answer (c : Cursor) (depth : Nat) (frames : List Frame) {tree : Tree}
    (hstep : Machine.step settings bindings m =
      some ⟨.answer (fitted settings location tree.subtree), c, depth, frames⟩) :
    ∃ m', Checks settings bindings m tree location m' :=
  exists_checks (fun r => ⟨.answer r, c, depth, frames⟩) hstep (fun e => rfl)
    (fun s => by simp [held]) (fun s => rfl)

theorem Measured.checks (h : Measured settings m) {tree : Tree}
    (hbuild : m.building? = some (tree, location)) :
    ∃ m', Checks settings bindings m tree location m' := by
  obtain ⟨call | e | s, c, depth, _ | ⟨frame, frames⟩⟩ := m
  iterate 5 contradiction
  have hs := h.of_answer
  have hframe := h.of_frame
  cases frame with
  | first | base | factor | group | descent => contradiction
  | more rank left op opAt =>
    cases hbuild
    have hleft : left.Measured settings := by simpa using hframe
    refine exists_checks (goOnWith settings rank c depth frames) ?_ (fun e => rfl)
      (fun joined => mem_held_goOn settings rank joined c depth frames)
      (fun joined => complaint?_goOn rank)
    rw [← hleft.binary op hs]
    rfl
  | exponent left opAt =>
    cases hbuild
    have hleft : left.Measured settings := by simpa using hframe
    refine exists_checks_answer c depth frames ?_
    rw [← hleft.binary .power hs]
    rfl
  | prefixed op opAt =>
    cases hbuild
    refine exists_checks_answer c depth frames ?_
    rw [← hs.unary op]
    rfl
  | indexed name nameAt =>
    cases hbuild
    refine exists_checks_answer c depth frames ?_
    rw [← hs.indexed name]
    rfl

theorem descends_of_enter
    (h : (enter settings bindings c depth frames call).control.complaint? = some location) :
    ∃ goal, call = .descent goal := by
  cases call with
  | descent goal => exact ⟨goal, rfl⟩
  | group | prefixed => contradiction
  | letter name nameAt =>
    simp only [enter] at h
    split at h <;> contradiction
  | phrase p =>
    cases p with
    | chain | tower => contradiction
    | factor =>
      obtain ⟨taken, _ | ⟨t, rest⟩⟩ := c
      · contradiction
      simp only [enter, Cursor.advance?] at h
      split at h
      · contradiction
      · contradiction
      · contradiction
      · split at h <;> contradiction

theorem builds_of_resume
    (h : (resume settings s c depth frames frame).control.complaint? = some location) :
    ∃ tree, frame.builds? s = some (tree, location) := by
  have hfitted : ∀ at' s', (Control.answer (fitted settings at' s')).complaint? = some location →
      at' = location := by
    intro at' s' h
    unfold fitted at h
    split at h
    · exact Option.some.inj h
    · contradiction
  cases frame with
  | first rank =>
    simp only [resume, complaint?_goOn, reduceCtorEq] at h
  | more rank left op opAt =>
    simp only [resume] at h
    split at h
    · next e hfit =>
      obtain ⟨-, rfl⟩ := fitted_eq_error.mp hfit
      exact ⟨_, congrArg (fun l => some (_, l)) (Option.some.inj h)⟩
    · simp only [complaint?_goOn, reduceCtorEq] at h
  | base =>
    simp only [resume] at h
    split at h
    · contradiction
    · split at h <;> contradiction
  | exponent | prefixed | indexed => exact ⟨_, congrArg (fun l => some (_, l)) (hfitted _ _ h)⟩
  | factor | descent => contradiction
  | group delimiter openedAt =>
    obtain ⟨taken, _ | ⟨t, rest⟩⟩ := c
    · contradiction
    simp only [resume, Cursor.advance?] at h
    split at h <;> contradiction

theorem complaint_of_step (hstep : Machine.step settings bindings m = some m')
    (h : m'.control.complaint? = some location) :
    m.control.complaint? = some location ∨ (∃ goal, m.control = .call (.descent goal)) ∨
      ∃ tree, m.building? = some (tree, location) := by
  obtain ⟨call, c, depth, frames, rfl, rfl⟩ |
    ⟨e, c, depth, frame, frames, rfl, ⟨-, rfl⟩ | ⟨-, rfl⟩⟩ |
    ⟨s, c, depth, frame, frames, rfl, rfl⟩ := step_cases hstep
  · obtain ⟨goal, rfl⟩ := descends_of_enter h
    exact .inr (.inl ⟨goal, rfl⟩)
  · exact .inl h
  · exact .inl h
  · exact .inr (.inr (builds_of_resume h))

end Machine

/-- At every moment of a run, successful or not, the subtrees in hand know their heights, and so
does the subtree that the parser of the call at hand returns.  The step that is to build a node
complains of its height exactly when that exceeds the limit, and has the node in hand otherwise; the
only other steps to complain of a limit are descents, and those that pass a complaint on.  The run
answers what the parser returns. -/
theorem heights_tracked (settings : Settings) (bindings : Bindings) (tokens : List Token) :
    (∀ m, Machine.Steps settings bindings (.start tokens) m →
      (∀ s ∈ m.held, s.Tracked settings) ∧
      (∀ call, m.control = .call call →
        let out := call.parser settings bindings (settings.maxDepth - m.depth) m.cursor
        Machine.Steps settings bindings m ⟨.answer out.result, out.cursor, m.depth, m.frames⟩ ∧
          ∀ s, out.result = .ok s → s.Tracked settings) ∧
      (∀ tree location, m.building? = some (tree, location) →
        ∃ m', m.Checks settings bindings tree location m') ∧
      ∀ m' location, Machine.step settings bindings m = some m' →
        m'.control.complaint? = some location →
        m.control.complaint? = some location ∨ (∃ goal, m.control = .call (.descent goal)) ∨
          ∃ tree, m.building? = some (tree, location)) ∧
    ∃ r c, Machine.Steps settings bindings (.start tokens) ⟨.answer r, c, 0, []⟩ ∧
      parse settings bindings tokens = if tokens = [] then .ok none else finish r c := by
  constructor
  · intro m hsteps
    have hmeasured : m.Measured settings := (Machine.Measured.start tokens).steps hsteps
    refine ⟨fun s hs => (hmeasured s hs).tracked, ?_, fun _ _ => hmeasured.checks,
      fun _ _ => Machine.complaint_of_step⟩
    rintro call hcall out
    have hsound := (Machine.Sound.start tokens).steps hsteps
    obtain ⟨control, c, depth, frames⟩ := m
    obtain rfl : control = .call call := hcall
    obtain ⟨r, c', hsteps', rfl, rfl⟩ := hsound.agrees bindings
    refine ⟨hsteps', fun s hs => ?_⟩
    have hanswer := hmeasured.steps hsteps'
    exact (hanswer s (by simp [Machine.held, hs, out])).tracked
  · obtain ⟨r, c, hreads, hparse⟩ := exists_reads settings bindings tokens
    refine ⟨r, c, hreads.steps 0 [] (Nat.zero_add _), ?_⟩
    split
    · next hnil => rw [hnil, parse_nil]
    · next hne => exact hparse hne

/-- The sum of the first two is as high as the limit, so it cannot be joined to the third. -/
example :
    parse { maxTreeDepth := 2 } {}
        ([.letter "x", .operator .add, .letter "y", .operator .subtract, .letter "z"].map
          Token.synthetic) =
      .error (.nestingTooDeep 2 {}) := by
  rfl

end Grammar

end Formula
