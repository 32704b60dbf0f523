import Formula.Proofs.Text.Lines
import Formula.Proofs.Token.Munch

/-! Where the items of a source text stand.  The lexer counts lines and columns on the way; an item
is at the place that is reached through all that stands before it, and the line of that place can be
told from the line feeds and the lone carriage returns there. -/

namespace Formula

namespace Location

variable (here : Location)

theorem through_append (cs ds rest : List Char) :
    here.through (cs ++ ds) rest = (here.through cs (ds ++ rest)).through ds rest := by
  induction cs generalizing here with
  | nil => rfl
  | cons c cs ih =>
    rw [List.cons_append, through, through, ih, List.append_assoc]

theorem line_after (c : Char) (rest : List Char) :
    (here.after c rest).line = here.line + (if c = '\n' then 1 else 0) +
      (if c = '\r' ∧ rest.head? ≠ some '\n' then 1 else 0) := by
  unfold after
  by_cases hfeed : c = '\n'
  · simp [hfeed]
  · by_cases hlone : c = '\r' ∧ rest.head? ≠ some '\n'
    · simp [hlone]
    · have hends : (c = '\n' || c = '\r' && rest.head? ≠ some '\n') = false := by
        simpa [hfeed] using hlone
      rw [if_neg (Bool.eq_false_iff.mp hends), if_neg hfeed, if_neg hlone]
      split <;> rfl

theorem line_through (cs rest : List Char) :
    (here.through cs rest).line = here.line + cs.count '\n' + Text.loneReturns cs rest := by
  induction cs generalizing here with
  | nil => rfl
  | cons c cs ih =>
    rw [through, ih, line_after, Text.loneReturns, List.count_cons]
    simp only [beq_iff_eq]
    omega

/-- A line feed leads to the first column. -/
theorem column_through_newline (cs rest : List Char) :
    (here.through (cs ++ ['\n']) rest).column = 1 := by
  rw [through_append]
  rfl

theorem column_through {cs : List Char} (hfeed : '\n' ∉ cs) (hreturn : '\r' ∉ cs)
    (rest : List Char) : (here.through cs rest).column = here.column + cs.length := by
  induction cs generalizing here with
  | nil => rfl
  | cons c cs ih =>
    have hc : c ≠ '\n' ∧ c ≠ '\r' := by
      constructor
      · rintro rfl
        exact hfeed List.mem_cons_self
      · rintro rfl
        exact hreturn List.mem_cons_self
    rw [through, ih _ (fun h => hfeed (List.mem_cons_of_mem _ h))
      (fun h => hreturn (List.mem_cons_of_mem _ h))]
    simp [after, hc]
    omega

end Location

namespace Text.Place

variable {cs : List Char}

/-- The location of a place, counted from the start of the text. -/
def location (p : Place cs) : Location := Location.start.through p.before (p.char :: p.after)

/-- The line of a place is counted by the rows above it and by the lone carriage returns. -/
theorem line_location (p : Place cs) : p.location.line = 1 + (p.returns + p.earlier.length) := by
  rw [location, Location.line_through, p.count_before, returns]
  show 1 + p.earlier.length + _ = _
  omega

theorem offset_location (p : Place cs) :
    p.location.offset = (String.ofList p.before).utf8ByteSize := by
  rw [location, Location.offset_through]
  exact Nat.zero_add _

/-- Without lone carriage returns the column of a place is counted in its row. -/
theorem column_location (p : Place cs) (hreturns : p.returns = 0) (hfeed : p.char ≠ '\n') :
    p.location.column = p.start.length + 1 := by
  obtain ⟨-, hstart⟩ : _ ∧ loneReturns p.start (p.char :: p.after) = 0 := by
    rw [returns, before, loneReturns_append] at hreturns
    exact Nat.add_eq_zero_iff.mp hreturns
  have hreturn : '\r' ∉ p.start := by
    refine not_mem_of_loneReturns hstart p.not_mem_start ?_
    intro hhead
    exact hfeed (Option.some.inj hhead)
  have hcolumn : ∀ here : Location, here.column = 1 →
      (here.through p.start (p.char :: p.after)).column = p.start.length + 1 := by
    intro here hhere
    rw [here.column_through p.not_mem_start hreturn, hhere, Nat.add_comm]
  rw [location, before, Location.through_append]
  apply hcolumn
  rcases p.flatten_earlier with hnil | ⟨above, habove⟩
  · rw [hnil]
    rfl
  · rw [habove, Location.column_through_newline]

end Text.Place

namespace Lexer

/-- Where an item is. -/
def Item.location : Item → Location
  | .ok token => token.location
  | .error e => e.location

/-- What an item was read from. -/
def Item.lexeme : Item → String
  | .ok token => token.lexeme
  | .error e => e.lexeme

/-- An item starts with the character at its location, which is no separator. -/
theorem Scans.exists_of_mem {here : Location} {text : List Char} {items : List Item}
    (h : Scans here text items) {item : Item} (hitem : item ∈ items) :
    ∃ before c after, text = before ++ c :: after ∧
      Item.location item = here.through before (c :: after) ∧
      (Item.lexeme item).toList.head? = some c ∧ isSeparator c = false := by
  induction h with
  | done => exact absurd hitem List.not_mem_nil
  | @separator here c rest items _ _ ih =>
    obtain ⟨before, d, after, rfl, hlocation, hlexeme, hd⟩ := ih hitem
    exact ⟨c :: before, d, after, rfl, hlocation, hlexeme, hd⟩
  | @token here kind c lexeme rest items hc _ _ ih =>
    rcases List.mem_cons.mp hitem with rfl | hitem
    · exact ⟨[], c, lexeme ++ rest, rfl, rfl, by simp [Item.lexeme], hc⟩
    · obtain ⟨before, d, after, rfl, hlocation, hlexeme, hd⟩ := ih hitem
      refine ⟨c :: lexeme ++ before, d, after, by simp, ?_, hlexeme, hd⟩
      rw [hlocation, Location.through_append]
  | @error here c rest items hc _ _ ih =>
    rcases List.mem_cons.mp hitem with rfl | hitem
    · exact ⟨[], c, rest, rfl, rfl, by simp [Item.lexeme, LexicalError.lexeme], hc⟩
    · obtain ⟨before, d, after, rfl, hlocation, hlexeme, hd⟩ := ih hitem
      exact ⟨c :: before, d, after, rfl, hlocation, hlexeme, hd⟩

/-- Every item of a source text stands in one of its lines. -/
theorem exists_place_of_mem_items {source : String} {item : Item} (h : item ∈ items source) :
    ∃ p : Text.Place source.toList, Item.location item = p.location ∧
      (Item.lexeme item).toList.head? = some p.char ∧ isSeparator p.char = false := by
  obtain ⟨before, c, after, htext, hlocation, hlexeme, hc⟩ :=
    (scans_itemsFrom .start source.toList).exists_of_mem h
  obtain ⟨earlier, start, tail, later, hrows, hbefore⟩ := Text.exists_rows_eq before c after
  rw [← htext] at hrows
  let p : Text.Place source.toList := ⟨earlier, start, c, tail, later, hrows⟩
  have hp : p.before = before := hbefore
  have hafter : p.after = after := by
    have happend := p.before_append.trans htext
    rw [hp] at happend
    exact (List.cons.inj (List.append_cancel_left happend)).2
  refine ⟨p, ?_, hlexeme, hc⟩
  rw [hlocation, Text.Place.location, hp, hafter]

end Lexer

end Formula
