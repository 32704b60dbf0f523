import Formula.Proofs.Grammar.Kinds
import Formula.Proofs.Token.Placement
import Formula.Source

/-! What the report about a source text quotes.  Every error is at an item of the source.  Its line
is counted with the lone carriage returns before it, which end no line of the text that is quoted;
so each of them moves the quotation down by one, and without them the mark is under the first
character of the item. -/

namespace Formula

/-! ### Errors are at items -/

namespace Source

theorem exists_item_of_error {settings : Settings} {bindings : Bindings} {source : String}
    {e : SourceError} (h : parse settings bindings source = .error e) :
    ∃ item ∈ Lexer.items source, Lexer.Item.location item = e.diagnostic.location := by
  rcases hread : Lexer.untilError (Lexer.items source) with ⟨tokens, _ | stop⟩
  · obtain ⟨e', hparse, rfl⟩ := (parse_eq_error_of_untilError hread).mp h
    obtain ⟨t, ht, hlocation⟩ := Grammar.exists_location_of_parse hparse
    exact ⟨.ok t, Lexer.mem_of_untilError hread ht, hlocation⟩
  · obtain ⟨rest, hitems, hhead⟩ := Lexer.items_of_untilError hread
    rw [parse_of_untilError_error settings bindings hread] at h
    obtain rfl : SourceError.lexical stop = e := Except.error.inj h
    refine ⟨.error stop, ?_, rfl⟩
    rw [hitems]
    exact List.mem_append_right _ (List.mem_of_head? hhead)

end Source

/-! ### The rows of a report -/

namespace Diagnostic

variable (d : Diagnostic)

/-- The space that the rows of an excerpt leave for the number of the line. -/
def margin : String := Text.spaces d.location.line.repr.length

/-- The row that shows the text of a line after its number. -/
def quotation (text : List Char) : String :=
  d.location.line.repr ++ " | " ++ String.ofList text

/-- The row with the mark, which stands below the quotation. -/
def markRow : String := d.margin ++ " | " ++ Text.spaces (d.location.column - 1) ++ "^"

/-- The excerpt that quotes a line, if there is one to quote. -/
def quoting : Option (List Char) → String
  | none => ""
  | some text =>
    "\n" ++ d.margin ++ " --> " ++ d.location.text ++ "\n" ++ d.margin ++ " |" ++
      "\n" ++ d.quotation text ++ "\n" ++ d.markRow

theorem quoting_some (text : List Char) : d.quoting (some text) =
    "\n" ++ d.margin ++ " --> " ++ d.location.text ++ "\n" ++ d.margin ++ " |" ++
      "\n" ++ d.quotation text ++ "\n" ++ d.markRow := rfl

/-- The report that quotes a line, if there is one to quote. -/
def report (text : Option (List Char)) : String :=
  "error: " ++ d.message ++ d.quoting text ++
    match d.help with
    | some help => "\n  = help: " ++ help
    | none => ""

theorem excerpt_eq_quoting {line : Nat} (h : d.location.line = 1 + line) (source : String) :
    d.excerpt source = d.quoting (Text.lines source.toList)[line]? := by
  unfold excerpt
  rw [Nat.add_comm] at h
  split
  · next hzero => omega
  · next number hnumber =>
    obtain rfl : number = line := by omega
    rw [← List.head?_drop]
    cases (Text.lines source.toList).drop number with
    | nil => rfl
    | cons text more =>
      rw [List.head?_cons, quoting_some, quotation, markRow, margin]
      simp only [String.append_assoc]

/-- The line that is quoted is the one whose number the location gives. -/
theorem render_eq_report {line : Nat} (h : d.location.line = 1 + line) (source : String) :
    d.render source = d.report (Text.lines source.toList)[line]? := by
  have hexcerpt := d.excerpt_eq_quoting h source
  cases hhelp : d.help <;> simp only [render, report, hexcerpt, hhelp]

/-- The character of a quotation above the mark is the one in the column of the location. -/
theorem getElem?_quotation (text : List Char) :
    (d.quotation text).toList[d.markRow.toList.idxOf '^']? = text[d.location.column - 1]? := by
  unfold quotation markRow margin
  generalize d.location.line.repr = number
  generalize d.location.column - 1 = width
  have hmark : (Text.spaces number.length ++ " | " ++ Text.spaces width ++ "^").toList =
      List.replicate number.length ' ' ++ [' ', '|', ' '] ++ List.replicate width ' ' ++ ['^'] := by
    simp [Text.spaces]
  have hquotation : (number ++ " | " ++ String.ofList text).toList =
      (number.toList ++ [' ', '|', ' ']) ++ text := by
    simp
  have hindex : (Text.spaces number.length ++ " | " ++ Text.spaces width ++ "^").toList.idxOf '^' =
      (number.toList ++ [' ', '|', ' ']).length + width := by
    rw [hmark, List.idxOf_append, if_neg (by simp [List.mem_replicate])]
    simp only [List.length_append, List.length_replicate, String.length_toList,
      List.idxOf_cons_self]
    omega
  rw [hquotation, hindex, List.getElem?_append_right (Nat.le_add_right _ _),
    Nat.add_sub_cancel_left]

end Diagnostic

/-- What a report quotes of a source text when the problem is at an item that starts at `place`. -/
structure Diagnostic.Quotes (d : Diagnostic) (source : String) (item : Lexer.Item)
    (place : Text.Place source.toList) : Prop where
  location : d.location = Lexer.Item.location item
  lexeme : (Lexer.Item.lexeme item).toList.head? = some place.char
  offset : d.location.offset = (String.ofList place.before).utf8ByteSize
  /-- The line of the place is the one that as many lines as rows stand above. -/
  index : (Text.lines source.toList)[place.earlier.length]? = some place.line
  /-- Every lone carriage return before the place counts as a line. -/
  line : d.location.line = 1 + (place.returns + place.earlier.length)
  render : d.render source =
    d.report (Text.lines source.toList)[place.returns + place.earlier.length]?
  /-- Without lone carriage returns the line of the place is quoted, and the mark is under the first
  character of the item. -/
  mark : place.returns = 0 →
    d.render source = d.report (some place.line) ∧
      (d.quotation place.line).toList[d.markRow.toList.idxOf '^']? = some place.char

theorem Diagnostic.quotes {d : Diagnostic} {source : String} {item : Lexer.Item}
    {place : Text.Place source.toList} (hitem : d.location = Lexer.Item.location item)
    (hplace : Lexer.Item.location item = place.location)
    (hlexeme : (Lexer.Item.lexeme item).toList.head? = some place.char)
    (hfeed : place.char ≠ '\n') (hreturn : place.char ≠ '\r') : d.Quotes source item place := by
  have hd : d.location = place.location := hitem.trans hplace
  have hline : d.location.line = 1 + (place.returns + place.earlier.length) := by
    rw [hd, place.line_location]
  have hrender := d.render_eq_report hline source
  refine ⟨hitem, hlexeme, ?_, place.getElem?_lines, hline, hrender, ?_⟩
  · rw [hd, place.offset_location]
  · intro hreturns
    constructor
    · rw [hrender, hreturns, Nat.zero_add, place.getElem?_lines]
    · rw [d.getElem?_quotation, hd, place.column_location hreturns hfeed, Nat.add_sub_cancel,
        place.getElem?_line hfeed hreturn]

namespace Source

/-- Every error is at an item of the source.  The report quotes the line of that item, moved down by
the lone carriage returns before it, and marks the first character of the item if there are none. -/
theorem quotes_of_error {settings : Settings} {bindings : Bindings} {source : String}
    {e : SourceError} (h : parse settings bindings source = .error e) :
    ∃ item ∈ Lexer.items source, ∃ place : Text.Place source.toList,
      e.diagnostic.Quotes source item place := by
  obtain ⟨item, hitem, hlocation⟩ := exists_item_of_error h
  obtain ⟨place, hplace, hlexeme, hseparator⟩ := Lexer.exists_place_of_mem_items hitem
  refine ⟨item, hitem, place, Diagnostic.quotes hlocation.symm hplace hlexeme ?_ ?_⟩
  · intro heq
    rw [heq] at hseparator
    contradiction
  · intro heq
    rw [heq] at hseparator
    contradiction

/-- A lone carriage return between the tokens, after which the error is in a line that the text does
not have. -/
theorem quotes_of_error_return :
    let source := "x\r+\n)"
    let e : SourceError := .grammatical (.unexpectedToken (.closing .paren) ⟨3, 1, 4⟩)
    parse {} {} source = .error e ∧
      ∃ item ∈ Lexer.items source, ∃ place : Text.Place source.toList,
        e.diagnostic.Quotes source item place := by
  intro source e
  have hread : Lexer.untilError (Lexer.items source) =
      ([⟨.letter "x", "x", ⟨1, 1, 0⟩⟩, ⟨.operator .add, "+", ⟨2, 1, 2⟩⟩,
        ⟨.closing .paren, ")", ⟨3, 1, 4⟩⟩], none) := by
    decide +kernel
  have h : parse {} {} source = .error e := by
    rw [parse_of_untilError _ _ hread]
    rfl
  exact ⟨h, quotes_of_error h⟩

end Source

end Formula
