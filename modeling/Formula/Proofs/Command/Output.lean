import Formula.Command.Run
import Formula.Proofs.Grammar.Agreement
import Formula.Proofs.Numeral.Signed
import Formula.Proofs.Token.Placement
import Formula.Proofs.Tree.Reprint

/-! What the two commands write and how they end, on every source text and with every writer.
`tokens` writes while it reads and stops at whatever fails first; `parse` reads all of the text
before it writes, and then writes once.  They report the same lexical error, since both stop at the
first one. -/

namespace Formula

/-! ### Lines of tokens -/

theorem newline_not_mem_of_isDigit {cs : List Char} (h : ∀ c ∈ cs, c.isDigit = true) :
    '\n' ∉ cs := by
  intro hmem
  have hdigit := h _ hmem
  contradiction

theorem Location.newline_not_mem_text (here : Location) : '\n' ∉ here.text.toList := by
  have hline := newline_not_mem_of_isDigit (Numeral.isDigit_toDigits here.line)
  have hcolumn := newline_not_mem_of_isDigit (Numeral.isDigit_toDigits here.column)
  simpa [text] using ⟨hline, hcolumn⟩

theorem Token.Kind.newline_not_mem_text {kind : Kind} (h : kind.isWritten = true) :
    '\n' ∉ kind.text.toList := by
  cases kind with
  | number value => simpa [text] using value.newline_not_mem_text
  | letter name =>
    obtain ⟨c, hc, rfl⟩ := exists_char_of_isLetterName h
    have hne : '\n' ≠ c := by
      rintro rfl
      contradiction
    simpa [text] using hne
  | operator op => cases op <;> decide
  | opening d => cases d <;> decide
  | closing d => cases d <;> decide
  | function f => cases f <;> decide

/-- What is shown of a token of the given kind that was read from `lexeme`: a number as a literal of
its value, everything else as it stands in the text. -/
inductive Token.Kind.Shown (lexeme : String) : Kind → String → Prop
  | number {value : Double} {literal : String} : Double.IsLiteral literal.toList value →
      Shown lexeme (.number value) ("number " ++ literal)
  | letter (name : String) : Shown lexeme (.letter name) ("letter '" ++ lexeme ++ "'")
  | fixed {kind : Kind} : kind ∈ Kind.fixed → Shown lexeme kind ("'" ++ lexeme ++ "'")

theorem Lexer.shown_of_mem_items {source : String} {t : Token} (h : .ok t ∈ items source) :
    t.kind.Shown t.lexeme t.kind.text := by
  have htoken := isToken_of_mem_items h
  obtain ⟨kind, lexeme, location⟩ := t
  dsimp only at htoken ⊢
  generalize hcs : lexeme.toList = cs at htoken
  cases htoken with
  | number _ hm => exact .number (Double.isLiteral_text (hm.isNaN_eq_false false))
  | @letter c =>
    obtain rfl : lexeme = c.toString := String.toList_inj.mp (by simpa using hcs)
    exact .letter _
  | fixed hfixed =>
    obtain rfl : lexeme = kind.symbol := String.toList_inj.mp hcs
    have htext : kind.text = "'" ++ kind.symbol ++ "'" := by
      cases kind with
      | number | letter => simp [Token.Kind.fixed] at hfixed
      | operator | opening | closing | function => rfl
    rw [htext]
    exact .fixed hfixed

theorem LexicalError.message_eq (e : LexicalError) :
    e.message = "unexpected character '" ++ e.character.toString ++ "' at " ++
      (e.location.line.repr ++ ":" ++ e.location.column.repr) := rfl

/-! ### Texts without tokens -/

theorem Lexer.items_eq_nil_iff {source : String} :
    Lexer.items source = [] ↔ IsGap source.toList := by
  constructor
  · intro h
    have hdivided := divided_items source
    rw [h] at hdivided
    exact hdivided.isGap
  · intro h
    have hall := itemsFrom_gap h [] .start
    rwa [List.append_nil] at hall

/-- There is no tree, and no error either, exactly if the text is all separators. -/
theorem Source.parse_eq_none_iff {settings : Settings} {bindings : Bindings} {source : String} :
    parse settings bindings source = .ok none ↔ Lexer.IsGap source.toList := by
  rw [← Lexer.items_eq_nil_iff, parse_eq_ok_iff_exists]
  constructor
  · rintro ⟨tokens, hitems, h⟩
    rw [hitems, Grammar.parse_eq_none_iff.mp h]
    rfl
  · intro h
    exact ⟨[], h, Grammar.parse_nil⟩

/-- A lexical error that parsing ends with is the first one. -/
theorem Source.parse_eq_lexical_iff {settings : Settings} {bindings : Bindings} {source : String}
    {tokens : List Token} {stop : Option LexicalError} {e : LexicalError}
    (h : Lexer.untilError (Lexer.items source) = (tokens, stop)) :
    parse settings bindings source = .error (.lexical e) ↔ stop = some e := by
  cases stop with
  | none => simp [parse_eq_error_of_untilError h]
  | some first => simp [parse_of_untilError_error settings bindings h]

namespace Command

/-- A text that is one line. -/
def IsLine (text : String) : Prop := ∃ line, text = line ++ "\n" ∧ '\n' ∉ line.toList

theorem isLine_tokenLine {source : String} {t : Token} (h : .ok t ∈ Lexer.items source) :
    IsLine (tokenLine t) := by
  refine ⟨t.location.text ++ "\t" ++ t.kind.text, rfl, ?_⟩
  have hlocation := t.location.newline_not_mem_text
  have hkind := Token.Kind.newline_not_mem_text (Lexer.isWritten_of_mem_items h)
  simp [hlocation, hkind]

/-! ### Writers -/

namespace Writer

variable (writer : Writer)

/-- The writer after some writes. -/
def after (done : Nat) : Writer := { writer with capacity := writer.capacity.map (· - done) }

/-- What a writer takes of some texts, each one in a write of its own. -/
def taken (texts : List String) : List String :=
  match writer.capacity with
  | none => texts
  | some capacity => texts.take capacity

/-- Whether a writer fails before it has taken so many writes. -/
def Refuses (count : Nat) : Prop := ∃ capacity, writer.capacity = some capacity ∧ capacity < count

theorem after_zero : writer.after 0 = writer := by
  obtain ⟨capacity, reason⟩ := writer
  cases capacity <;> rfl

theorem taken_nil : writer.taken [] = [] := by
  unfold taken
  split
  · rfl
  · exact List.take_nil

theorem not_refuses_zero : ¬writer.Refuses 0 := by
  rintro ⟨capacity, -, h⟩
  exact Nat.not_lt_zero capacity h

variable {writer} {done : Nat}

theorem mem_of_mem_taken {text : String} {texts : List String} (h : text ∈ writer.taken texts) :
    text ∈ texts := by
  unfold taken at h
  split at h
  · exact h
  · exact List.mem_of_mem_take h

/-- A write that is accepted is taken, and leaves room for one write less. -/
theorem taken_after (h : writer.accepts done = true) (text : String) (texts : List String) :
    (writer.after done).taken (text :: texts) = text :: (writer.after (done + 1)).taken texts := by
  obtain ⟨_ | capacity, reason⟩ := writer
  · rfl
  · have hlt : done < capacity := by simpa [accepts] using h
    have hsucc : capacity - done = capacity - (done + 1) + 1 := by omega
    simp [after, taken, hsucc]

theorem refuses_after (h : writer.accepts done = true) (count : Nat) :
    (writer.after done).Refuses (count + 1) ↔ (writer.after (done + 1)).Refuses count := by
  obtain ⟨_ | capacity, reason⟩ := writer
  · simp [after, Refuses]
  · have hlt : done < capacity := by simpa [accepts] using h
    simp only [after, Refuses, Option.map_some, Option.some.injEq, exists_eq_left']
    omega

/-- Once a write is not accepted, nothing more is taken. -/
theorem taken_after_of_not_accepts (h : ¬writer.accepts done = true) (texts : List String) :
    (writer.after done).taken texts = [] := by
  obtain ⟨_ | capacity, reason⟩ := writer
  · simp [accepts] at h
  · have hle : capacity ≤ done := by simpa [accepts] using h
    simp [after, taken, Nat.sub_eq_zero_of_le hle]

theorem refuses_after_of_not_accepts (h : ¬writer.accepts done = true) (count : Nat) :
    (writer.after done).Refuses (count + 1) := by
  obtain ⟨_ | capacity, reason⟩ := writer
  · simp [accepts] at h
  · have hle : capacity ≤ done := by simpa [accepts] using h
    exact ⟨capacity - done, rfl, by omega⟩

end Writer

/-! ### The list of tokens -/

/-- What `tokens` leaves behind when it finds some tokens and then an error or the end: of the lines
with place and kind, one for each token, those that the writer takes, and the failure of the writer
or else the error. -/
structure Lists (writer : Writer) (source : String) (tokens : List Token)
    (stop : Option LexicalError) (report : Report) : Prop where
  written : report.written = writer.taken (tokens.map fun t =>
    t.location.line.repr ++ ":" ++ t.location.column.repr ++ "\t" ++ t.kind.text ++ "\n")
  refused : writer.Refuses tokens.length →
    report.failure = some (.transfer ("failed to write output: " ++ writer.reason))
  finished : ¬writer.Refuses tokens.length →
    report.failure = stop.map fun e => .source (e.diagnostic.render source)

/-- Where no token is left, nothing is written. -/
theorem listItems_of_head? (writer : Writer) (source : String) (done : Nat)
    {stop : Option LexicalError} {rest : List Lexer.Item} (h : rest.head? = stop.map .error) :
    (listItems writer source done rest).written = [] ∧
      (listItems writer source done rest).failure =
        stop.map fun e => .source (e.diagnostic.render source) := by
  cases stop with
  | none =>
    obtain rfl : rest = [] := List.head?_eq_none_iff.mp h
    exact ⟨rfl, rfl⟩
  | some e =>
    obtain ⟨more, rfl⟩ := List.head?_eq_some_iff.mp h
    exact ⟨rfl, rfl⟩

theorem lists_listItems (writer : Writer) (source : String) (done : Nat) {tokens : List Token}
    {stop : Option LexicalError} {rest : List Lexer.Item} (h : rest.head? = stop.map .error) :
    Lists (writer.after done) source tokens stop
      (listItems writer source done (tokens.map .ok ++ rest)) := by
  induction tokens generalizing done with
  | nil =>
    obtain ⟨hwritten, hfailure⟩ := listItems_of_head? writer source done h
    constructor
    · exact hwritten.trans (Writer.taken_nil _).symm
    · intro hrefuses
      exact absurd hrefuses (Writer.not_refuses_zero _)
    · intro _
      exact hfailure
  | cons t tokens ih =>
    rw [List.map_cons, List.cons_append, listItems]
    by_cases haccepts : writer.accepts done = true
    · obtain ⟨hwritten, hrefused, hfinished⟩ := ih (done + 1)
      have hrefuses := Writer.refuses_after haccepts tokens.length
      rw [if_pos haccepts]
      constructor
      · rw [List.map_cons, Writer.taken_after haccepts, ← hwritten]
        rfl
      · intro h
        exact hrefused (hrefuses.mp h)
      · intro h
        exact hfinished fun hlater => h (hrefuses.mpr hlater)
    · have hrefuses := Writer.refuses_after_of_not_accepts haccepts tokens.length
      rw [if_neg haccepts]
      constructor
      · rw [Writer.taken_after_of_not_accepts haccepts]
      · intro _
        rfl
      · intro h
        exact absurd hrefuses h

/-! ### The tree -/

section Parse

variable {options : ParseOptions} (writer : Writer) {source : String}

theorem runParse_of_error {e : SourceError}
    (h : Source.parse options.settings options.bindings source = .error e) :
    (runParse options writer source).written = [] ∧
      (runParse options writer source).failure = some (.source (e.diagnostic.render source)) := by
  rcases hrun : Source.run options.settings options.bindings source with ⟨result, events⟩
  obtain rfl : result = .error e := by simpa [Source.parse, hrun] using h
  simp [runParse, hrun]

theorem runParse_of_none (h : Source.parse options.settings options.bindings source = .ok none) :
    (runParse options writer source).written = [] ∧
      (runParse options writer source).failure = none := by
  rcases hrun : Source.run options.settings options.bindings source with ⟨result, events⟩
  obtain rfl : result = .ok none := by simpa [Source.parse, hrun] using h
  simp [runParse, hrun]

theorem runParse_of_tree {t : Tree}
    (h : Source.parse options.settings options.bindings source = .ok (some t)) :
    (runParse options writer source).written = writer.taken [options.mode.print t] ∧
      (runParse options writer source).failure =
        if writer.capacity = some 0 then some writer.failure else none := by
  rcases hrun : Source.run options.settings options.bindings source with ⟨result, events⟩
  obtain rfl : result = .ok (some t) := by simpa [Source.parse, hrun] using h
  obtain ⟨_ | _ | capacity, reason⟩ := writer <;>
    simp [runParse, hrun, Writer.accepts, Writer.taken]

end Parse

/-! ### Both commands -/

/-- What `parse` leaves behind for a text that has a first lexical error or none: nothing and that
error, whatever the options; nothing and the error of the grammar; nothing at all for a text of
separators only; or one text for a tree, as the mode asks, if the writer takes a write. -/
structure Prints (options : ParseOptions) (writer : Writer) (source : String)
    (stop : Option LexicalError) (report : Report) : Prop where
  first : ∀ e, Source.parse options.settings options.bindings source = .error (.lexical e) ↔
    stop = some e
  lexical : ∀ e, stop = some e →
    report.written = [] ∧ report.failure = some (.source (e.diagnostic.render source))
  grammatical : ∀ e,
    Source.parse options.settings options.bindings source = .error (.grammatical e) →
    report.written = [] ∧ report.failure = some (.source (e.diagnostic.render source))
  blank : Lexer.IsGap source.toList → report.written = [] ∧ report.failure = none
  nothing : Source.parse options.settings options.bindings source = .ok none ↔
    Lexer.IsGap source.toList
  tree : ∀ t, Source.parse options.settings options.bindings source = .ok (some t) →
    (options.mode = .text → report.written = writer.taken [t.render ++ "\n"]) ∧
    (options.mode = .json → report.written = writer.taken [t.document ++ "\n"]) ∧
    (options.mode = .outline → report.written = writer.taken [t.outline 2]) ∧
    report.failure = if writer.capacity = some 0 then
      some (.transfer ("failed to write output: " ++ writer.reason)) else none

/-- On every text and with every writer, the two commands stop at the same lexical error.  Before it
`tokens` writes one line for each token as long as the writer takes them, and `parse` writes
nothing. -/
theorem runs_agree (options : ParseOptions) (writer : Writer) (source : String) :
    ∃ tokens stop rest, Lexer.items source = tokens.map .ok ++ rest ∧
      rest.head? = stop.map .error ∧
      (∀ t ∈ tokens, t.kind.Shown t.lexeme t.kind.text) ∧
      (∀ e, stop = some e → e.diagnostic.location = e.location ∧
        e.diagnostic.message = "unexpected character '" ++ e.character.toString ++ "' at " ++
          (e.location.line.repr ++ ":" ++ e.location.column.repr)) ∧
      (∀ text ∈ (runTokens writer source).written, IsLine text) ∧
      Lists writer source tokens stop (runTokens writer source) ∧
      Prints options writer source stop (runParse options writer source) := by
  rcases hread : Lexer.untilError (Lexer.items source) with ⟨tokens, stop⟩
  obtain ⟨rest, hitems, hhead⟩ := Lexer.items_of_untilError hread
  have hlists : Lists writer source tokens stop (runTokens writer source) := by
    have h : Lists (writer.after 0) source tokens stop
        (listItems writer source 0 (tokens.map .ok ++ rest)) :=
      lists_listItems writer source 0 hhead
    rwa [writer.after_zero, ← hitems] at h
  refine ⟨tokens, stop, rest, hitems, hhead, ?_, ?_, ?_, hlists, ?_⟩
  · intro t ht
    exact Lexer.shown_of_mem_items (Lexer.mem_of_untilError hread ht)
  · intro e _
    exact ⟨rfl, e.message_eq⟩
  · intro text htext
    rw [hlists.written] at htext
    obtain ⟨t, ht, rfl⟩ := List.mem_map.mp (Writer.mem_of_mem_taken htext)
    exact isLine_tokenLine (Lexer.mem_of_untilError hread ht)
  · have hfirst : ∀ e, Source.parse options.settings options.bindings source =
        .error (.lexical e) ↔ stop = some e := fun e => Source.parse_eq_lexical_iff hread
    constructor
    · exact hfirst
    · intro e h
      have hrun := runParse_of_error writer ((hfirst e).mpr h)
      exact hrun
    · intro e h
      have hrun := runParse_of_error writer h
      exact hrun
    · intro hblank
      exact runParse_of_none writer (Source.parse_eq_none_iff.mpr hblank)
    · exact Source.parse_eq_none_iff
    · intro t h
      obtain ⟨hwritten, hfailure⟩ := runParse_of_tree writer h
      rw [hwritten]
      refine ⟨?_, ?_, ?_, hfailure⟩ <;> intro hmode <;> rw [hmode] <;> rfl

end Command

end Formula
