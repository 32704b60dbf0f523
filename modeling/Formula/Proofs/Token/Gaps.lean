import Formula.Proofs.Token.Placement

/-! Separators cut a text in two.  No token has a separator in it, so the longest token at the start
of a text is the same when separators and other texts come after it, and the items of the two sides
are those that each side has by itself.  Without a separator between them the sides are read the
same only if no token at the end of the first goes on in the second. -/

namespace Formula

theorem Location.offset_through_add {place here : Location} {bytes : Nat}
    (h : place.offset = bytes + here.offset) (cs rest rest' : List Char) :
    (place.through cs rest).offset = bytes + (here.through cs rest').offset := by
  rw [offset_through, offset_through, h]
  omega

namespace Lexer

/-- The text is empty or starts with a separator. -/
def StartsGap (rest : List Char) : Prop := ∀ c ∈ rest.head?, isSeparator c = true

theorem startsGap_nil : StartsGap [] := by
  rintro c ⟨⟩

theorem startsGap_append {gap : List Char} (hgap : IsGap gap) (hne : gap ≠ []) (rest : List Char) :
    StartsGap (gap ++ rest) := by
  obtain ⟨c, gap, rfl⟩ := List.exists_cons_of_ne_nil hne
  rintro d ⟨rfl⟩
  exact hgap c List.mem_cons_self

/-! ### Tokens before a separator -/

section StartsGap

variable {text rest : List Char} {kind : Token.Kind} {lexeme : List Char}

/-- A token does not reach past a separator. -/
theorem IsToken.prefix_of_prefix_append (h : IsToken lexeme kind) (hrest : StartsGap rest)
    (hstart : lexeme <+: text ++ rest) : lexeme <+: text := by
  rcases List.prefix_or_prefix_of_prefix hstart (List.prefix_append text rest) with hp | ⟨more, rfl⟩
  · exact hp
  -- A token that reached into the rest would have the separator there in it.
  · obtain ⟨tail, rfl⟩ := (List.prefix_append_right_inj text).mp hstart
    cases more with
    | nil => simp
    | cons c more =>
      have hc : isSeparator c = false := h.isSeparator_eq_false c (by simp)
      rw [hrest c rfl] at hc
      contradiction

theorem Longest.append (h : Longest text lexeme kind) (hrest : StartsGap rest) :
    Longest (text ++ rest) lexeme kind where
  isToken := h.isToken
  start := h.start.trans (List.prefix_append text rest)
  length_le other k hstart hother :=
    h.length_le other k (hother.prefix_of_prefix_append hrest hstart) hother

theorem StartsNone.append (h : StartsNone text) (hrest : StartsGap rest) :
    StartsNone (text ++ rest) := by
  intro lexeme kind hstart htoken
  exact h lexeme kind (htoken.prefix_of_prefix_append hrest hstart) htoken

theorem longest?_append (hrest : StartsGap rest) : longest? (text ++ rest) = longest? text := by
  cases hbest : longest? text with
  | none => exact ((startsNone_of_longest? hbest).append hrest).longest?
  | some best => exact ((longest_of_longest? hbest).append hrest).longest?

end StartsGap

/-! ### Items on both sides -/

/-- What an item is and where it starts, when there are `bytes` more bytes before its text. -/
def Item.summaryAfter (bytes : Nat) (item : Item) : Option Token.Kind × String × Nat :=
  let (kind, lexeme, offset) := summary item
  (kind, lexeme, bytes + offset)

theorem Item.summaryAfter_zero : Item.summaryAfter 0 = Item.summary := by
  funext item
  cases item <;> simp [summaryAfter, summary]

/-- The items of a text are the same, but for their places, with other text before it and with a
separator after it. -/
theorem Scans.summary_append {here : Location} {text : List Char} {items : List Item}
    (h : Scans here text items) {rest : List Char} (hrest : StartsGap rest) {place : Location}
    {bytes : Nat} (hplace : place.offset = bytes + here.offset) :
    (itemsFrom 0 place (text ++ rest)).map Item.summary =
      items.map (Item.summaryAfter bytes) ++
        (itemsFrom 0 (place.through text rest) rest).map Item.summary := by
  induction h generalizing place with
  | done => rfl
  | @separator here c text items hc _ ih =>
    have hafter : (place.after c (text ++ rest)).offset = bytes + (here.after c text).offset :=
      Location.offset_through_add hplace [c] (text ++ rest) text
    rw [List.cons_append, itemsFrom_separator place hc, ih hafter]
    rfl
  | @token here kind c lexeme text items hc hlongest _ ih =>
    have hthrough := Location.offset_through_add hplace (c :: lexeme) (text ++ rest) text
    rw [← longest?_append hrest, List.append_assoc] at hlongest
    rw [Location.through_append, List.append_assoc, itemsFrom_token place hc hlongest,
      List.map_cons, ih hthrough, List.map_cons, List.cons_append]
    simp only [Item.summary, Item.summaryAfter, hplace]
  | @error here c text items hc hlongest _ ih =>
    have hafter : (place.after c (text ++ rest)).offset = bytes + (here.after c text).offset :=
      Location.offset_through_add hplace [c] (text ++ rest) text
    rw [← longest?_append hrest, List.cons_append] at hlongest
    rw [List.cons_append, itemsFrom_error place hc hlongest, List.map_cons, ih hafter,
      List.map_cons, List.cons_append]
    simp only [Item.summary, Item.summaryAfter, hplace]
    rfl

/-- The items of two texts with a gap between them are those of the one and then those of the other,
moved by what stands before it. -/
theorem items_append_gap (s t : String) {gap : String} (hgap : IsGap gap.toList) (hne : gap ≠ "") :
    (items (s ++ gap ++ t)).map Item.summary =
      (items s).map Item.summary ++
        (items t).map (Item.summaryAfter (s ++ gap).utf8ByteSize) := by
  have hchars : gap.toList ≠ [] := by simpa using hne
  have hmoved : ((Location.start.through s.toList (gap.toList ++ t.toList)).through gap.toList
      t.toList).offset = (s ++ gap).utf8ByteSize + Location.start.offset := by
    rw [← Location.through_append, Location.offset_through, ← String.toList_append,
      String.ofList_toList]
    exact Nat.add_comm _ _
  have hstart : Location.start.offset = 0 + Location.start.offset := rfl
  have hleft := (scans_itemsFrom .start s.toList).summary_append
    (startsGap_append hgap hchars t.toList) hstart
  have hright := (scans_itemsFrom .start t.toList).summary_append startsGap_nil hmoved
  rw [List.append_nil] at hright
  rw [itemsFrom_gap hgap, hright] at hleft
  simpa [items, Item.summaryAfter_zero, itemsFrom] using hleft

end Lexer

end Formula
