import Formula.Token

/-! A stream of tokens over any source that can be polled, with one token in view.  The source may
do anything when polled again after its end; the stream never does that. -/

namespace Formula

/-- A stream over a source with states `σ`. -/
structure Stream (σ : Type) where
  /-- Asks the source for its next token. -/
  poll : σ → Option Token × σ
  /-- The source as it stands. -/
  source : σ
  /-- The token in view; none once the source has ended. -/
  current : Option Token
  /-- Where the last token taken stands. -/
  lastLocation : Option Location
  /-- How many tokens have been taken. -/
  position : Nat

namespace Stream

variable {σ : Type}

/-- The stream with the first token in view. -/
def start (poll : σ → Option Token × σ) (source : σ) : Stream σ :=
  let (current, source) := poll source
  ⟨poll, source, current, none, 0⟩

/-- Takes the token in view and brings the next one into view. -/
def advance (s : Stream σ) : Option Token × Stream σ :=
  match s.current with
  | none => (none, s)
  | some token =>
    let (current, source) := s.poll s.source
    (some token, ⟨s.poll, source, current, some token.location, s.position + 1⟩)

def peekKind (s : Stream σ) : Option Token.Kind := s.current.map (·.kind)

/-- Whether the token in view is of the given kind, numbers being compared as numbers. -/
def check (s : Stream σ) (kind : Token.Kind) : Bool := s.peekKind.any (·.same kind)

def isEmpty (s : Stream σ) : Bool := s.current.isNone

/-- The location to report here: that of the token in view, else that of the last one taken. -/
def location (s : Stream σ) : Location :=
  ((s.current.map (·.location)).or s.lastLocation).getD {}

end Stream

end Formula
