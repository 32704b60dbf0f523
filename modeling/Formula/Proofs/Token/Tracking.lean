import Formula.Proofs.Token.Placement
import Mathlib.Data.List.DropRight

/-! Where the items of a text stand, in two ways.  `Tracked` moves a location along from each item
to the next and sees no more of the text than lies between their starts.  `Location.counted` counts
the line breaks of all that stands before an item, and the characters after the last of them.  The
two agree because no item starts with a line feed, so that no start falls between a carriage return
and its line feed. -/

namespace Formula

namespace Text

/-- The line breaks of a text: a carriage return and a line feed after it are one, and so is either
of them alone. -/
def breaks : List Char → Nat
  | [] => 0
  | '\r' :: '\n' :: rest => breaks rest + 1
  | c :: rest => breaks rest + if c = '\r' ∨ c = '\n' then 1 else 0

/-- What a text has after its last line break. -/
def lastLine (cs : List Char) : List Char := cs.rtakeWhile fun c => c ≠ '\r' ∧ c ≠ '\n'

/-- Every line feed ends a line, and every carriage return that no line feed follows. -/
theorem breaks_eq (cs : List Char) : breaks cs = cs.count '\n' + loneReturns cs [] := by
  fun_induction breaks cs with
  | case1 => rfl
  | case2 rest ih =>
    simp [loneReturns, ih]
    omega
  | case3 c rest hpair ih =>
    have hlone : c = '\r' → rest.head? ≠ some '\n' := by
      rintro rfl hhead
      obtain ⟨rest', rfl⟩ := List.head?_eq_some_iff.mp hhead
      exact hpair rest' rfl rfl
    rw [ih, loneReturns, List.append_nil, List.count_cons]
    by_cases hreturn : c = '\r'
    · simp [hreturn, hlone hreturn]
      omega
    · by_cases hfeed : c = '\n'
      · simp [hfeed]
        omega
      · simp [hreturn, hfeed]

end Text

namespace Location

variable (here : Location)

/-- The place at the end of a text, counted from its start. -/
def counted (cs : List Char) : Location where
  line := 1 + Text.breaks cs
  column := 1 + (Text.lastLine cs).length
  offset := (String.ofList cs).utf8ByteSize

/-- What follows a text plays no part in passing it, unless it takes a carriage return at the end
for itself. -/
theorem through_eq_of_head? (cs rest : List Char)
    (h : cs.getLast? = some '\r' → rest.head? ≠ some '\n') :
    here.through cs rest = here.through cs [] := by
  induction cs generalizing here with
  | nil => rfl
  | cons c cs ih =>
    rw [through, through]
    cases cs with
    | nil =>
      have hlone : c = '\r' → rest.head? ≠ some '\n' := by simpa using h
      by_cases hc : c = '\r'
      · simp [through, after, hc, hlone hc]
      · simp [through, after, hc]
    | cons d cs => exact ih _ (by simpa using h)

theorem column_through_start (cs : List Char) :
    (start.through cs []).column = 1 + (Text.lastLine cs).length := by
  induction cs using List.reverseRecOn with
  | nil => rfl
  | append_singleton cs c ih =>
    rw [through_append, List.append_nil, through, through, List.append_nil]
    by_cases hfeed : c = '\n'
    · rw [Text.lastLine, List.rtakeWhile_concat_neg _ _ _ (by simp [hfeed])]
      simp [after, hfeed]
    · have hcs : start.through cs [c] = start.through cs [] :=
        start.through_eq_of_head? cs [c] (by simp [hfeed])
      by_cases hreturn : c = '\r'
      · rw [Text.lastLine, List.rtakeWhile_concat_neg _ _ _ (by simp [hreturn])]
        simp [after, hreturn]
      · rw [Text.lastLine, List.rtakeWhile_concat_pos _ _ _ (by simp [hfeed, hreturn]), hcs]
        rw [Text.lastLine] at ih
        simp [after, hfeed, hreturn, ih, Nat.add_assoc]

/-- Moving along a whole text is counting it. -/
theorem through_start (cs : List Char) : start.through cs [] = counted cs := by
  have hline := start.line_through cs []
  have hoffset := start.offset_through cs []
  have hcolumn := column_through_start cs
  rw [Nat.add_assoc, ← Text.breaks_eq] at hline
  simp only [start, Nat.zero_add] at hline hoffset hcolumn
  rw [counted, ← hline, ← hoffset, ← hcolumn]
  rfl

/-- Moving along goes on with a count, if what was counted ends outside a line break. -/
theorem counted_through {before cs : List Char}
    (h : before.getLast? = some '\r' → cs.head? ≠ some '\n') :
    (counted before).through cs [] = counted (before ++ cs) := by
  rw [← through_start before, ← start.through_eq_of_head? before cs h]
  have happend := start.through_append before cs []
  rw [List.append_nil] at happend
  rw [← happend, through_start]

end Location

namespace Lexer

/-- A text that starts as the item is written. -/
structure Item.Starts (item : Item) (text : List Char) : Prop where
  lexeme : (Item.lexeme item).toList <+: text
  /-- No item starts within a line break. -/
  head? : text.head? ≠ some '\n'

/-- The items of `text`, located by moving along from `here`, the start of the item before them. -/
inductive Tracked : (here : Location) → (text : List Char) → List Item → Prop
  | done {here text} : Tracked here text []
  | next {here segment text item items} :
      Item.Starts item text → Item.location item = here.through segment [] →
      Tracked (Item.location item) text items →
      Tracked here (segment ++ text) (item :: items)

theorem Tracked.next_of_through {last here : Location} {passed text : List Char} {item : Item}
    {items : List Item} (hhere : here = last.through passed text)
    (hlocation : Item.location item = here)
    (hstarts : Item.Starts item text) (h : Tracked here text items) :
    Tracked last (passed ++ text) (item :: items) := by
  subst hlocation
  refine .next hstarts ?_ h
  -- The two places agree, as no line feed at the start of `text` takes a carriage return away.
  rw [hhere]
  exact last.through_eq_of_head? passed text fun _ => hstarts.head?

theorem Scans.tracked {here : Location} {text : List Char} {items : List Item}
    (h : Scans here text items) (last : Location) (passed : List Char)
    (hhere : here = last.through passed text) : Tracked last (passed ++ text) items := by
  induction h generalizing last passed with
  | done => exact .done
  | @separator here c rest items _ _ ih =>
    have hmore : here.after c rest = last.through (passed ++ [c]) rest := by
      rw [Location.through_append, hhere]
      rfl
    simpa using ih last (passed ++ [c]) hmore
  | @token here kind c lexeme rest items hc _ _ ih =>
    -- From here on the passed characters are those of this item.
    refine .next_of_through hhere rfl ⟨?_, ?_⟩ (ih here (c :: lexeme) rfl)
    · simp [Item.lexeme]
    · rintro ⟨rfl⟩
      contradiction
  | @error here c rest items hc _ _ ih =>
    refine .next_of_through hhere rfl ⟨?_, ?_⟩ (ih here [c] rfl)
    · simp [Item.lexeme, LexicalError.lexeme]
    · rintro ⟨rfl⟩
      contradiction

/-- Items that are tracked from a count on are counted. -/
theorem Tracked.counted {before text : List Char} {items : List Item}
    (h : Tracked (.counted before) text items)
    (hcut : before.getLast? = some '\r' → text.head? ≠ some '\n') {item : Item}
    (hitem : item ∈ items) :
    ∃ passed after, before ++ text = passed ++ ((Item.lexeme item).toList ++ after) ∧
      Item.location item = .counted passed := by
  generalize hhere : Location.counted before = here at h
  induction h generalizing before with
  | done => simp at hitem
  | @next here segment text first items hstarts hlocation _ ih =>
    subst hhere
    have hsegment : before.getLast? = some '\r' → segment.head? ≠ some '\n' := by
      intro hlast hhead
      obtain ⟨more, rfl⟩ := List.head?_eq_some_iff.mp hhead
      exact hcut hlast rfl
    rw [Location.counted_through hsegment] at hlocation
    rcases List.mem_cons.mp hitem with rfl | hitem
    · obtain ⟨after, hafter⟩ := hstarts.lexeme
      exact ⟨before ++ segment, after, by simp [hafter], hlocation⟩
    · obtain ⟨passed, after, htext, hcounted⟩ :=
        ih (fun _ => hstarts.head?) hitem hlocation.symm
      exact ⟨passed, after, by simpa using htext, hcounted⟩

/-- The lexer tracks its items from the start of the text, and every item stands where counting
from there says. -/
theorem items_tracked (source : String) :
    Tracked .start source.toList (items source) ∧
      ∀ item ∈ items source, ∃ before after,
        source.toList = before ++ ((Item.lexeme item).toList ++ after) ∧
        Item.location item = .counted before := by
  have htracked : Tracked .start source.toList (items source) :=
    (scans_itemsFrom .start source.toList).tracked .start [] rfl
  refine ⟨htracked, fun item hitem => ?_⟩
  have hcounted : Tracked (.counted []) source.toList (items source) := htracked
  exact hcounted.counted (by simp) hitem

/-- A letter in the third line, after a pair and a lone carriage return and two characters, of
which the first takes two bytes. -/
theorem items_tracked_third_line :
    let source := "a\r\n\rπ b"
    let item : Item := .ok ⟨.letter "b", "b", ⟨3, 3, 7⟩⟩
    item ∈ items source ∧ ∃ before after,
      source.toList = before ++ ((Item.lexeme item).toList ++ after) ∧
      Item.location item = .counted before := by
  intro source item
  have hitems : items source =
      [.ok ⟨.letter "a", "a", ⟨1, 1, 0⟩⟩, .error ⟨'π', ⟨3, 1, 4⟩⟩, item] := by
    decide +kernel
  have hitem : item ∈ items source := by simp [hitems]
  exact ⟨hitem, (items_tracked source).2 item hitem⟩

end Lexer

end Formula
