import Formula.Proofs.Json.Scalar

/-! The indented text of a JSON value is read as that value.  What the reader has to know of a text
is the same for items and for members: it starts with no space, and it is read whatever follows it,
as long as that could not go on with a number. -/

namespace Formula.Json

open Numeral (Ends)

/-- The values that have a text of their own: every string and every key spells something, and the
numbers have the form of JSON. -/
inductive Written : Json → Prop
  | null : Written .null
  | bool (value : Bool) : Written (.bool value)
  | number {n : Numeral} : n.Proper → Written (.number n)
  | string (text : String) : Written (.string (some text))
  | array {items : List Json} : (∀ item ∈ items, Written item) → Written (.array items)
  | object {members : List (Option String × Json)} :
      (∀ member ∈ members, ∃ key, member.1 = some key) → (∀ member ∈ members, Written member.2) →
      Written (.object members)

/-! ### The characters of a value -/

/-- The characters of a value whose first line is at `level`. -/
def chars (level : Nat) (json : Json) : List Char := (json.piecesAt level).flatMap String.toList

/-- The end of a line and the indentation of the next one. -/
def lineStart (level : Nat) : List Char := '\n' :: List.replicate (2 * level) ' '

/-- The characters of a member whose first line is at `level`. -/
def memberChars (level : Nat) (member : Option String × Json) : List Char :=
  (quote (member.1.getD "")).toList ++ ':' :: ' ' :: chars level member.2

/-- What comes after the first of several things, each one after a comma and on its own line. -/
def listing {α : Type} (level : Nat) (text : α → List Char) (items : List α) : List Char :=
  items.flatMap fun item => ',' :: (lineStart level ++ text item)

/-- What stands behind the opening character of a list at `level`: its items, a level deeper, and
the closing character. -/
def body {α : Type} (level : Nat) (close : Char) (text : α → List Char) (item : α)
    (items : List α) : List Char :=
  lineStart (level + 1) ++
    (text item ++ (listing (level + 1) text items ++ (lineStart level ++ [close])))

theorem toList_newLine (level : Nat) : (newLine level).toList = lineStart level := by
  simp [newLine, Text.spaces, lineStart]

theorem itemPieces_eq (level : Nat) (items : List Json) :
    (itemPieces level items).flatMap String.toList = listing level (chars level) items := by
  induction items with
  | nil => rfl
  | cons item items ih => simp [itemPieces, listing, toList_newLine, chars, ih]

theorem memberPieces_eq (level : Nat) (members : List (Option String × Json)) :
    (memberPieces level members).flatMap String.toList =
      listing level (memberChars level) members := by
  induction members with
  | nil => rfl
  | cons member members ih =>
    obtain ⟨key, value⟩ := member
    simp [memberPieces, listing, toList_newLine, memberChars, chars, ih]

theorem chars_array (level : Nat) (item : Json) (items : List Json) :
    chars level (.array (item :: items)) =
      '[' :: body level ']' (chars (level + 1)) item items := by
  simp [chars, piecesAt, toList_newLine, ← itemPieces_eq, body]

theorem chars_object (level : Nat) (member : Option String × Json)
    (members : List (Option String × Json)) :
    chars level (.object (member :: members)) =
      '\x7b' :: body level '\x7d' (memberChars (level + 1)) member members := by
  obtain ⟨key, value⟩ := member
  simp [chars, memberChars, piecesAt, toList_newLine, ← memberPieces_eq, body]

theorem toList_pretty (json : Json) : json.pretty.toList = chars 0 json := by
  rw [pretty, String.toList_join, chars]

/-! ### Where a value starts and ends -/

/-- The text starts with something that is neither a space nor the end of a list. -/
def Starts (cs : List Char) : Prop :=
  ∃ c rest, cs = c :: rest ∧ isSpace c = false ∧ c ≠ ']' ∧ c ≠ '\x7d'

theorem Starts.skipSpace {cs : List Char} (h : Starts cs) (rest : List Char) :
    skipSpace (cs ++ rest) = cs ++ rest := by
  obtain ⟨c, cs, rfl, hc, -⟩ := h
  simp [Json.skipSpace, hc]

theorem Starts.length_pos {cs : List Char} (h : Starts cs) : 0 < cs.length := by
  obtain ⟨c, rest, rfl, -⟩ := h
  exact Nat.zero_lt_succ _

theorem skipSpace_lineStart (level : Nat) (cs : List Char) :
    skipSpace (lineStart level ++ cs) = skipSpace cs := by
  refine List.dropWhile_append_of_pos fun c hc => ?_
  rcases List.mem_cons.mp hc with rfl | hc
  · rfl
  · rw [List.eq_of_mem_replicate hc]
    rfl

theorem ends_lineStart (level : Nat) (cs : List Char) : Ends (lineStart level ++ cs) := by
  rintro c ⟨⟩
  decide

theorem ends_comma (cs : List Char) : Ends (',' :: cs) := by
  rintro c ⟨⟩
  decide

theorem ne_of_isDigit {c d : Char} (hc : c.isDigit = true) (hd : d.isDigit = false) : c ≠ d := by
  rintro rfl
  rw [hc] at hd
  contradiction

theorem head_text {n : Numeral} (hn : n.Proper) :
    ∃ c rest, n.text.toList = c :: rest ∧ (c = '-' ∨ c.isDigit = true) := by
  obtain ⟨negative, whole, fraction, exponent⟩ := n
  obtain ⟨d, ds, rfl⟩ := List.exists_cons_of_ne_nil hn.digits.1
  cases negative with
  | false => exact ⟨d, _, by simp [Numeral.text]; rfl, .inr (hn.digits.2 d (by simp))⟩
  | true => exact ⟨'-', _, by simp [Numeral.text]; rfl, .inl rfl⟩

theorem Written.starts {json : Json} (h : json.Written) (level : Nat) :
    Starts (chars level json) := by
  cases h with
  | null => exact ⟨'n', _, rfl, by decide⟩
  | bool value => cases value <;> exact ⟨_, _, rfl, by decide⟩
  | number hn =>
    obtain ⟨c, rest, htext, hc⟩ := head_text hn
    refine ⟨c, rest, by simpa [chars, piecesAt] using htext, ?_⟩
    rcases hc with rfl | hc
    · decide
    · simp [isSpace, ne_of_isDigit hc]
  | string text => exact ⟨'"', _, by simp [chars, piecesAt, quote]; rfl, by decide⟩
  | @array items _ =>
    rcases items with _ | ⟨item, items⟩
    · exact ⟨'[', _, rfl, by decide⟩
    · exact ⟨'[', _, chars_array .., by decide⟩
  | @object members _ _ =>
    rcases members with _ | ⟨member, members⟩
    · exact ⟨'\x7b', _, rfl, by decide⟩
    · exact ⟨'\x7b', _, chars_object .., by decide⟩

theorem starts_memberChars (level : Nat) (member : Option String × Json) :
    Starts (memberChars level member) :=
  ⟨'"', _, by simp [memberChars, quote]; rfl, by decide⟩

/-! ### Reading lists -/

section Lists

variable {α : Type} {item? : Reader α} {text : α → List Char} {level outer : Nat} {close : Char}
  {item : α} {items : List α}

/-- The reader takes the text of `a`, whatever follows it. -/
def Reads (item? : Reader α) (text : α → List Char) (a : α) : Prop :=
  ∀ rest, Ends rest → item? (text a ++ rest) = some (a, rest)

theorem length_le_listing (level : Nat) (text : α → List Char) (items : List α) :
    items.length ≤ (listing level text items).length := by
  induction items with
  | nil => exact Nat.le_refl 0
  | cons item items ih =>
    simp only [listing, List.flatMap_cons, List.length_append, List.length_cons] at ih ⊢
    omega

theorem length_text_le_body {a : α} (h : a ∈ item :: items) (level : Nat) (close : Char)
    (text : α → List Char) : (text a).length ≤ (body level close text item items).length := by
  simp only [body, List.length_append]
  rcases List.mem_cons.mp h with rfl | h
  · omega
  · obtain ⟨before, after, rfl⟩ := List.append_of_mem h
    simp only [listing, List.flatMap_append, List.flatMap_cons, List.length_append,
      List.length_cons]
    omega

theorem sequence?_listing (hclose : close = ']' ∨ close = '\x7d')
    (hreads : ∀ a ∈ item :: items, Reads item? text a) (hstarts : ∀ a ∈ items, Starts (text a))
    {bound : List Char} (hbound : items.length < bound.length) (rest : List Char) :
    sequence? item? close bound
      (text item ++ (listing level text items ++ (lineStart outer ++ close :: rest))) =
        some (item :: items, rest) := by
  -- Each item costs one character of the bound, which is all that the bound is for.
  induction items generalizing item bound with
  | nil =>
    obtain ⟨b, bound, rfl⟩ := List.exists_cons_of_length_pos hbound
    have hitem := hreads item (by simp) _ (ends_lineStart outer (close :: rest))
    have hskip : skipSpace (close :: rest) = close :: rest := by
      rcases hclose with rfl | rfl <;> rfl
    simp only [listing, List.flatMap_nil, List.nil_append, sequence?, hitem]
    simp [skipSpace_lineStart, hskip]
  | cons next items ih =>
    obtain ⟨b, bound, rfl⟩ := List.exists_cons_of_length_pos (Nat.zero_lt_of_lt hbound)
    have hrest : listing level text (next :: items) ++ (lineStart outer ++ close :: rest) =
        ',' :: (lineStart level ++ (text next ++
          (listing level text items ++ (lineStart outer ++ close :: rest)))) := by
      simp [listing]
    have hitem := hreads item (by simp) _ (ends_comma (lineStart level ++ (text next ++
      (listing level text items ++ (lineStart outer ++ close :: rest)))))
    have hcomma : ',' ≠ close := by
      rcases hclose with rfl | rfl <;> decide
    have hnext := @ih next (fun a ha => hreads a (List.mem_cons_of_mem _ ha))
      (fun a ha => hstarts a (List.mem_cons_of_mem _ ha)) bound (Nat.lt_of_succ_lt_succ hbound)
    have hskip : ∀ cs, skipSpace (',' :: cs) = ',' :: cs := fun _ => rfl
    rw [hrest, sequence?, hitem]
    simp [hskip, hcomma, skipSpace_lineStart, (hstarts next (by simp)).skipSpace, hnext]

/-- A list is read as its items, if the reader takes the text of every one of them. -/
theorem listed?_body (hclose : close = ']' ∨ close = '\x7d')
    (hreads : ∀ a ∈ item :: items, Reads item? text a)
    (hstarts : ∀ a ∈ item :: items, Starts (text a)) (level : Nat) (rest : List Char) :
    listed? item? close (body level close text item items ++ rest) =
      some (item :: items, rest) := by
  have htext : body level close text item items ++ rest = lineStart (level + 1) ++ (text item ++
      (listing (level + 1) text items ++ (lineStart level ++ close :: rest))) := by
    simp [body]
  obtain ⟨c, cs, hitem, hspace, hc⟩ := hstarts item (by simp)
  have hne : c ≠ close := by
    rcases hclose with rfl | rfl
    · exact hc.1
    · exact hc.2
  have hsequence : ∀ bound : List Char, items.length < bound.length →
      sequence? item? close bound (text item ++ (listing (level + 1) text items ++
        (lineStart level ++ close :: rest))) = some (item :: items, rest) :=
    fun bound hbound => sequence?_listing hclose hreads
      (fun a ha => hstarts a (List.mem_cons_of_mem _ ha)) hbound rest
  have hlength := length_le_listing (level + 1) text items
  rw [htext, listed?, skipSpace_lineStart, (hstarts item (by simp)).skipSpace]
  simp only [hitem, List.cons_append, if_neg hne] at hsequence ⊢
  refine hsequence _ ?_
  simp only [lineStart, List.length_append, List.length_cons]
  omega

end Lists

/-! ### Reading values -/

theorem value?_number {n : Numeral} (hn : n.Proper) (depth : Nat) {rest : List Char}
    (hrest : Ends rest) : value? depth (n.text.toList ++ rest) = some (.number n, rest) := by
  have hnumber := number?_text hn hrest
  obtain ⟨c, cs, htext, hc⟩ := head_text hn
  have hother : ∀ d : Char, d ≠ '-' → d.isDigit = false → ∀ tail,
      n.text.toList ++ rest = d :: tail → False := by
    intro d hminus hdigit tail heq
    obtain rfl : c = d := by simp_all
    rcases hc with hc | hc
    · exact hminus hc
    · exact ne_of_isDigit hc hdigit rfl
  rw [value?, hnumber]
  · rfl
  all_goals exact fun tail => hother _ (by decide) (by decide) tail

theorem word?_append (word : String) (value : Json) (rest : List Char) :
    word? word value (word.toList ++ rest) = some (value, rest) := by
  have hdrop : (word.toList ++ rest).drop word.length = rest := by
    rw [← String.length_toList, List.drop_left]
  simp [word?, hdrop]

/-- A member is read as its key and its value. -/
theorem member?_memberChars {value? : Reader Json} {level : Nat} {key : String} {value : Json}
    (hread : Reads value? (chars level) value) (hstarts : Starts (chars level value)) :
    Reads (member? value?) (memberChars level) (some key, value) := by
  intro rest hrest
  have htext : memberChars level (some key, value) ++ rest =
      (quote key).toList ++ ':' :: ' ' :: (chars level value ++ rest) := by
    simp [memberChars]
  have hskip : skipSpace (' ' :: (chars level value ++ rest)) = chars level value ++ rest :=
    hstarts.skipSpace rest
  have hcolon : ∀ cs, skipSpace (':' :: cs) = ':' :: cs := fun _ => rfl
  rw [htext, member?, string?_quote]
  simp [hcolon, hskip, hread rest hrest]

/-- A value with a text is read as itself, in any depth that its text has room for. -/
theorem Written.reads {json : Json} (h : json.Written) {depth level : Nat}
    (hdepth : (chars level json).length ≤ depth) : Reads (value? depth) (chars level) json := by
  -- The text of a part is shorter than the whole, so the room left for it is enough.
  induction h generalizing depth level with
  | null =>
    intro rest _
    show value? depth ('n' :: ("ull".toList ++ rest)) = _
    rw [value?]
    exact word?_append "null" .null rest
  | bool value =>
    intro rest _
    cases value with
    | false =>
      show value? depth ('f' :: ("alse".toList ++ rest)) = _
      rw [value?]
      exact word?_append "false" (.bool false) rest
    | true =>
      show value? depth ('t' :: ("rue".toList ++ rest)) = _
      rw [value?]
      exact word?_append "true" (.bool true) rest
  | number hn =>
    intro rest hrest
    simpa [chars, piecesAt] using value?_number hn depth hrest
  | string text =>
    intro rest _
    have hquote : chars level (.string (some text)) = (quote text).toList := by
      simp [chars, piecesAt]
    have hstring := string?_quote text rest
    obtain ⟨cs, hcs⟩ : ∃ cs, (quote text).toList ++ rest = '"' :: cs := ⟨_, by simp [quote]; rfl⟩
    rw [hcs] at hstring
    rw [hquote, hcs, value?, hstring]
    rfl
  | @array items hitems ih =>
    intro rest _
    have hpos := ((Written.array hitems).starts level).length_pos
    obtain _ | depth := depth
    · omega
    rcases items with _ | ⟨item, items⟩
    · rfl
    rw [chars_array] at hdepth ⊢
    have hreads : ∀ a ∈ item :: items, Reads (value? depth) (chars (level + 1)) a := by
      intro a ha
      have hlength := length_text_le_body ha level ']' (chars (level + 1))
      simp only [List.length_cons] at hdepth
      exact ih a ha (by omega)
    have hlist := listed?_body (.inl rfl) hreads (fun a ha => (hitems a ha).starts _) level rest
    rw [List.cons_append, value?, hlist]
    rfl
  | @object members hkeys hvalues ih =>
    intro rest _
    have hpos := ((Written.object hkeys hvalues).starts level).length_pos
    obtain _ | depth := depth
    · omega
    rcases members with _ | ⟨member, members⟩
    · rfl
    rw [chars_object] at hdepth ⊢
    have hreads : ∀ a ∈ member :: members,
        Reads (member? (value? depth)) (memberChars (level + 1)) a := by
      rintro ⟨key, value⟩ ha
      obtain ⟨name, rfl⟩ := hkeys _ ha
      have hlength := length_text_le_body ha level '\x7d' (memberChars (level + 1))
      simp only [memberChars, List.length_append, List.length_cons] at hdepth hlength
      have hvalue : (chars (level + 1) value).length ≤ depth := by omega
      exact member?_memberChars (ih _ ha hvalue) ((hvalues _ ha).starts _)
    have hlist := listed?_body (.inr rfl) hreads (fun a _ => starts_memberChars _ a) level rest
    rw [List.cons_append, value?, hlist]
    rfl

/-- The text of a value is read as that value. -/
theorem parse?_pretty {json : Json} (h : json.Written) : parse? json.pretty = some json := by
  have hread := h.reads (Nat.le_refl (chars 0 json).length) [] (by simp [Ends])
  have hskip := (h.starts 0).skipSpace []
  rw [List.append_nil] at hread hskip
  rw [parse?, toList_pretty, hskip, hread]
  rfl

end Formula.Json
