import Formula.Text.Lines

/-! Places in the lines of a text.  `rows` are the lines as they stand in the text, each with the
line feed that ends it, so that all of them together are the text; `lines` are the rows without
their ends.  A `Place` is a character of a text together with the rows around it. -/

namespace Formula.Text

/-- The lines of a text, each with the line feed that ends it. -/
def rows : List Char → List (List Char)
  | [] => []
  | c :: rest =>
    if c = '\n' then [c] :: rows rest else (c :: (rows rest).headD []) :: (rows rest).tail

/-- A row without its end: the line feed, and a carriage return right before that. -/
def content (row : List Char) : List Char :=
  if row.getLast? = some '\n' then dropReturn row.dropLast else row

theorem flatten_rows (cs : List Char) : (rows cs).flatten = cs := by
  induction cs with
  | nil => rfl
  | cons c rest ih =>
    unfold rows
    split
    · rw [List.flatten_cons, ih, List.singleton_append]
    · rw [List.flatten_cons, List.cons_append]
      congr 1
      cases hrows : rows rest with
      | nil => rw [← ih, hrows]; rfl
      | cons row more => rw [← ih, hrows]; rfl

/-- A line feed ends the row of what stands before it. -/
theorem rows_append_newline {line : List Char} (h : '\n' ∉ line) (rest : List Char) :
    rows (line ++ '\n' :: rest) = (line ++ ['\n']) :: rows rest := by
  induction line with
  | nil => rw [List.nil_append, rows, if_pos rfl, List.nil_append]
  | cons c line ih =>
    have hc : c ≠ '\n' := fun heq => h (heq ▸ List.mem_cons_self)
    have hline : '\n' ∉ line := fun hmem => h (List.mem_cons_of_mem c hmem)
    rw [List.cons_append, rows, if_neg hc, ih hline, List.headD_cons, List.tail_cons,
      List.cons_append]

/-- Lines that each get a line feed are the rows of the text that they make up. -/
theorem rows_flatMap {lines : List (List Char)} (h : ∀ line ∈ lines, '\n' ∉ line) :
    rows (lines.flatMap (· ++ ['\n'])) = lines.map (· ++ ['\n']) := by
  induction lines with
  | nil => rfl
  | cons line lines ih =>
    have hrest := ih fun other hother => h other (List.mem_cons_of_mem line hother)
    rw [List.flatMap_cons, List.append_assoc, List.singleton_append,
      rows_append_newline (h line List.mem_cons_self), hrest, List.map_cons]

/-! ### The ends of rows -/

theorem content_concat (row : List Char) (d : Char) :
    content (row ++ [d]) = if d = '\n' then dropReturn row else row ++ [d] := by
  simp [content]

theorem dropReturn_concat (row : List Char) (d : Char) :
    dropReturn (row ++ [d]) = if d = '\r' then row else row ++ [d] := by
  simp [dropReturn]

theorem content_of_not_mem {row : List Char} (h : '\n' ∉ row) : content row = row := by
  refine if_neg fun hlast => h ?_
  exact List.mem_of_getLast? hlast

/-- What is cut off from a row stands behind every other character. -/
theorem exists_content_eq (start tail : List Char) {c : Char} (hfeed : c ≠ '\n')
    (hreturn : c ≠ '\r') : ∃ kept, content (start ++ c :: tail) = start ++ c :: kept := by
  have hdrop : ∀ tail : List Char,
      ∃ kept, dropReturn (start ++ c :: tail) = start ++ c :: kept := by
    intro tail
    rcases List.eq_nil_or_concat tail with rfl | ⟨tail, d, rfl⟩
    · exact ⟨[], by rw [dropReturn_concat, if_neg hreturn]⟩
    · rw [List.concat_eq_append, ← List.cons_append, ← List.append_assoc, dropReturn_concat]
      split
      · exact ⟨tail, rfl⟩
      · exact ⟨tail ++ [d], List.append_assoc ..⟩
  rcases List.eq_nil_or_concat tail with rfl | ⟨tail, d, rfl⟩
  · exact ⟨[], by rw [content_concat, if_neg hfeed]⟩
  · rw [List.concat_eq_append, ← List.cons_append, ← List.append_assoc, content_concat]
    split
    · exact hdrop tail
    · exact ⟨tail ++ [d], List.append_assoc ..⟩

/-- A line feed ends the row that it stands in. -/
theorem not_mem_dropLast {cs row : List Char} (h : row ∈ rows cs) : '\n' ∉ row.dropLast := by
  induction cs generalizing row with
  | nil => exact absurd h List.not_mem_nil
  | cons c rest ih =>
    unfold rows at h
    split at h
    · rcases List.mem_cons.mp h with rfl | h
      · exact List.not_mem_nil
      · exact ih h
    · next hc =>
      rcases List.mem_cons.mp h with rfl | h
      · cases hrows : rows rest with
        | nil => exact List.not_mem_nil
        | cons first more =>
          have hfirst : '\n' ∉ first.dropLast := ih (hrows ▸ List.mem_cons_self)
          cases first with
          | nil => exact List.not_mem_nil
          | cons d first =>
            intro hmem
            rcases List.mem_cons.mp hmem with heq | hmem
            · exact hc heq.symm
            · exact hfirst hmem
      · exact ih (List.mem_of_mem_tail h)

/-- Every row that another one follows ends with a line feed. -/
theorem getLast?_of_rows_eq {cs row : List Char} {earlier later : List (List Char)}
    (h : rows cs = earlier ++ row :: later) : ∀ above ∈ earlier, above.getLast? = some '\n' := by
  induction cs generalizing earlier with
  | nil => simp [rows] at h
  | cons c rest ih =>
    rcases earlier with _ | ⟨first, earlier⟩
    · exact fun above habove => absurd habove List.not_mem_nil
    · unfold rows at h
      split at h
      · next hc =>
        obtain ⟨hfirst, hrest⟩ := List.cons.inj h
        intro above habove
        rcases List.mem_cons.mp habove with rfl | habove
        · rw [← hfirst, hc]
          rfl
        · exact ih hrest above habove
      · obtain ⟨hfirst, hrest⟩ := List.cons.inj h
        cases hrows : rows rest with
        | nil => simp [hrows] at hrest
        | cons next more =>
          rw [hrows] at hfirst hrest
          have hends := @ih (next :: earlier) (by rw [hrows]; exact congrArg (next :: ·) hrest)
          intro above habove
          rcases List.mem_cons.mp habove with rfl | habove
          · have hnext := hends next List.mem_cons_self
            rw [← hfirst, List.headD_cons, List.getLast?_cons, hnext]
            rfl
          · exact hends above (List.mem_cons_of_mem _ habove)

/-! ### Lines -/

/-- Reading line by line goes through the rows; what is read already belongs to the first one. -/
theorem linesFrom_eq {line : List Char} (hline : '\n' ∉ line) (cs : List Char) :
    linesFrom line cs =
      match rows cs with
      | [] => if line.isEmpty then [] else [line.reverse]
      | row :: more => content (line.reverse ++ row) :: more.map content := by
  induction cs generalizing line with
  | nil => rfl
  | cons c rest ih =>
    by_cases hc : c = '\n'
    · have hrest : linesFrom [] rest = (rows rest).map content := by
        rw [ih List.not_mem_nil]
        cases rows rest <;> rfl
      simp only [linesFrom, rows, if_pos hc, hrest, content_concat]
    · have hnext : '\n' ∉ c :: line := by
        intro hmem
        rcases List.mem_cons.mp hmem with heq | hmem
        · exact hc heq.symm
        · exact hline hmem
      simp only [linesFrom, rows, if_neg hc]
      rw [ih hnext]
      cases rows rest with
      | nil =>
        have hlast : '\n' ∉ line.reverse ++ [c] := by simpa [or_comm, eq_comm] using hnext
        simp [content_of_not_mem hlast]
      | cons row more => simp

theorem lines_eq_map_rows (cs : List Char) : lines cs = (rows cs).map content := by
  rw [lines, linesFrom_eq List.not_mem_nil]
  cases rows cs <;> rfl

/-! ### Carriage returns -/

/-- How many of the characters `cs`, when `rest` follows them, are carriage returns that no line
feed follows. -/
def loneReturns : List Char → List Char → Nat
  | [], _ => 0
  | c :: cs, rest =>
    (if c = '\r' ∧ (cs ++ rest).head? ≠ some '\n' then 1 else 0) + loneReturns cs rest

theorem loneReturns_append (cs ds rest : List Char) :
    loneReturns (cs ++ ds) rest = loneReturns cs (ds ++ rest) + loneReturns ds rest := by
  induction cs with
  | nil => simp [loneReturns]
  | cons c cs ih => simp [loneReturns, ih, Nat.add_assoc]

/-- Where no line feed stands every carriage return is a lone one. -/
theorem not_mem_of_loneReturns {cs rest : List Char} (h : loneReturns cs rest = 0)
    (hfeed : '\n' ∉ cs) (hrest : rest.head? ≠ some '\n') : '\r' ∉ cs := by
  induction cs with
  | nil => exact List.not_mem_nil
  | cons c cs ih =>
    obtain ⟨hc, hcs⟩ : ¬(c = '\r' ∧ (cs ++ rest).head? ≠ some '\n') ∧ loneReturns cs rest = 0 := by
      simpa [loneReturns] using h
    have hfeed' : '\n' ∉ cs := fun hmem => hfeed (List.mem_cons_of_mem _ hmem)
    have hnext : (cs ++ rest).head? ≠ some '\n' := by
      cases cs with
      | nil => exact hrest
      | cons d cs =>
        intro heq
        obtain rfl : d = '\n' := Option.some.inj heq
        exact hfeed' List.mem_cons_self
    intro hmem
    rcases List.mem_cons.mp hmem with rfl | hmem
    · exact hc ⟨rfl, hnext⟩
    · exact ih hcs hfeed' hmem

/-! ### Places -/

/-- A character of a text: `start` stands before it in its row, `tail` after it, and `earlier` are
the rows above. -/
structure Place (cs : List Char) where
  earlier : List (List Char)
  start : List Char
  char : Char
  tail : List Char
  later : List (List Char)
  rows_eq : rows cs = earlier ++ (start ++ char :: tail) :: later

theorem exists_rows_eq (before : List Char) (c : Char) (after : List Char) :
    ∃ earlier start tail later,
      rows (before ++ c :: after) = earlier ++ (start ++ c :: tail) :: later ∧
      earlier.flatten ++ start = before := by
  induction before with
  | nil =>
    rw [List.nil_append, rows]
    by_cases hc : c = '\n'
    · exact ⟨[], [], [], rows after, if_pos hc, rfl⟩
    · exact ⟨[], [], (rows after).headD [], (rows after).tail, if_neg hc, rfl⟩
  | cons d before ih =>
    obtain ⟨earlier, start, tail, later, hrows, hbefore⟩ := ih
    rw [List.cons_append, rows, hrows]
    by_cases hd : d = '\n'
    · exact ⟨[d] :: earlier, start, tail, later, if_pos hd, congrArg (d :: ·) hbefore⟩
    · rw [if_neg hd]
      rcases earlier with _ | ⟨first, earlier⟩
      · exact ⟨[], d :: start, tail, later, rfl, congrArg (d :: ·) hbefore⟩
      · exact ⟨(d :: first) :: earlier, start, tail, later, rfl, congrArg (d :: ·) hbefore⟩

namespace Place

variable {cs : List Char}

/-- What the text has before the place. -/
def before (p : Place cs) : List Char := p.earlier.flatten ++ p.start

/-- What the text has after the place. -/
def after (p : Place cs) : List Char := p.tail ++ p.later.flatten

/-- The line of the place, which has no end. -/
def line (p : Place cs) : List Char := content (p.start ++ p.char :: p.tail)

/-- The carriage returns before the place that no line feed follows. -/
def returns (p : Place cs) : Nat := loneReturns p.before (p.char :: p.after)

theorem before_append (p : Place cs) : p.before ++ p.char :: p.after = cs := by
  have hrows := flatten_rows cs
  rw [p.rows_eq] at hrows
  simpa [before, after] using hrows

/-- There are as many lines above the line of a place as rows. -/
theorem getElem?_lines (p : Place cs) : (lines cs)[p.earlier.length]? = some p.line := by
  rw [lines_eq_map_rows, p.rows_eq]
  simp [line]

theorem getElem?_line (p : Place cs) (hfeed : p.char ≠ '\n') (hreturn : p.char ≠ '\r') :
    p.line[p.start.length]? = some p.char := by
  obtain ⟨kept, hkept⟩ := exists_content_eq p.start p.tail hfeed hreturn
  rw [line, hkept]
  simp

theorem not_mem_start (p : Place cs) : '\n' ∉ p.start := by
  have hmem : p.start ++ p.char :: p.tail ∈ rows cs := by
    rw [p.rows_eq]
    simp
  have hrow := not_mem_dropLast hmem
  rw [List.dropLast_append_cons] at hrow
  exact fun hstart => hrow (List.mem_append_left _ hstart)

/-- Each row above a place has one line feed, and that ends it. -/
theorem exists_of_mem_earlier (p : Place cs) {row : List Char} (h : row ∈ p.earlier) :
    ∃ kept, row = kept ++ ['\n'] ∧ '\n' ∉ kept := by
  have hmem : row ∈ rows cs := by
    rw [p.rows_eq]
    exact List.mem_append_left _ h
  have hlast := getLast?_of_rows_eq p.rows_eq row h
  have hkept := not_mem_dropLast hmem
  rcases List.eq_nil_or_concat row with rfl | ⟨kept, d, rfl⟩
  · simp at hlast
  · obtain rfl : d = '\n' := by simpa using hlast
    exact ⟨kept, List.concat_eq_append, by simpa using hkept⟩

theorem count_before (p : Place cs) : p.before.count '\n' = p.earlier.length := by
  have hrows : ∀ row ∈ p.earlier, row.count '\n' = 1 := by
    intro row hrow
    obtain ⟨kept, rfl, hkept⟩ := p.exists_of_mem_earlier hrow
    rw [List.count_append, List.count_eq_zero.mpr hkept]
    rfl
  rw [before, List.count_append, List.count_eq_zero.mpr p.not_mem_start, List.count_flatten,
    List.map_congr_left hrows, List.map_const', List.sum_replicate_nat, Nat.mul_one, Nat.add_zero]

/-- What stands above the row of a place is nothing, or ends with a line feed. -/
theorem flatten_earlier (p : Place cs) :
    p.earlier.flatten = [] ∨ ∃ above, p.earlier.flatten = above ++ ['\n'] := by
  rcases List.eq_nil_or_concat p.earlier with hnil | ⟨earlier, row, hconcat⟩
  · exact .inl (by rw [hnil]; rfl)
  · have hrow : row ∈ p.earlier := by
      rw [hconcat]
      simp
    obtain ⟨kept, rfl, -⟩ := p.exists_of_mem_earlier hrow
    exact .inr ⟨earlier.flatten ++ kept, by rw [hconcat]; simp⟩

end Place

end Formula.Text
