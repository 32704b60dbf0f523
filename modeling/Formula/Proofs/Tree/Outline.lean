import Formula.Proofs.Numeral.Signed
import Formula.Proofs.Text.Lines
import Formula.Tree.Visit
import Mathlib.Data.List.Basic

/-! The outline of a tree determines the tree.  Its lines are those of the nodes, and each tells its
node by the label and the level of the node by the spaces before that.  Where the operands of a node
end, and whether a letter has an index, is told by the levels alone: what is below a node stands
deeper than the node, and what follows that does not. -/

namespace Formula

namespace Tree

/-- The number or the name of a node is as asked. -/
def Entry.All (onNumber : Double → Prop) (onName : String → Prop) : Entry → Prop
  | .number value => onNumber value
  | .letter name => onName name
  | .binary _ => True
  | .unary _ => True

/-- Every number and every name in the tree is as asked, those inside indices too. -/
def All (onNumber : Double → Prop) (onName : String → Prop) : Tree → Prop
  | .number value => onNumber value
  | .letter name => onName name
  | .indexed name index => onName name ∧ index.All onNumber onName
  | .binary _ left right => left.All onNumber onName ∧ right.All onNumber onName
  | .unary _ operand => operand.All onNumber onName

/-- The number of nodes, those inside indices included. -/
def nodeCount : Tree → Nat
  | .number _ => 1
  | .letter _ => 1
  | .indexed _ index => 1 + index.nodeCount
  | .binary _ left right => 1 + left.nodeCount + right.nodeCount
  | .unary _ operand => 1 + operand.nodeCount

/-- A name that fits on a line. -/
def OnLine (name : String) : Prop := '\n' ∉ name.toList

instance (name : String) : Decidable (OnLine name) := inferInstanceAs (Decidable (_ ∉ _))

/-! ### The nodes with their levels -/

theorem length_entriesAt (t : Tree) (level : Nat) : (t.entriesAt level).length = t.nodeCount := by
  induction t generalizing level with
  | number | letter => rfl
  | indexed _ _ ih => rw [entriesAt, List.length_cons, ih, nodeCount, Nat.add_comm]
  | binary _ _ _ ihl ihr =>
    rw [entriesAt, List.length_cons, List.length_append, ihl, ihr, nodeCount]
    omega
  | unary _ _ ih => rw [entriesAt, List.length_cons, ih, nodeCount, Nat.add_comm]

/-- A tree begins with its root. -/
theorem exists_entriesAt_eq (t : Tree) (level : Nat) :
    ∃ entry below, t.entriesAt level = (level, entry) :: below := by
  cases t <;> exact ⟨_, _, rfl⟩

/-- What follows a tree of the given level does not stand below it. -/
def Ascends (level : Nat) (rest : List (Nat × Entry)) : Prop := ∀ e ∈ rest.head?, e.1 ≤ level

theorem Ascends.deeper {level : Nat} {rest : List (Nat × Entry)} (h : Ascends level rest) :
    Ascends (level + 1) rest :=
  fun e he => Nat.le_succ_of_le (h e he)

theorem ascends_append (t : Tree) (level : Nat) (rest : List (Nat × Entry)) :
    Ascends level (t.entriesAt level ++ rest) := by
  obtain ⟨entry, below, heq⟩ := t.exists_entriesAt_eq level
  rw [heq]
  rintro e ⟨rfl⟩
  exact Nat.le_refl level

/-- What stands below a node is not what follows it. -/
theorem Ascends.ne_append {level : Nat} {rest : List (Nat × Entry)} (h : Ascends level rest)
    (t : Tree) (more : List (Nat × Entry)) : rest ≠ t.entriesAt (level + 1) ++ more := by
  rintro rfl
  obtain ⟨entry, below, heq⟩ := t.exists_entriesAt_eq (level + 1)
  have hle : level + 1 ≤ level := h (level + 1, entry) (by rw [heq]; rfl)
  omega

/-- A tree is read off the nodes and their levels, whatever follows it that is not below it. -/
theorem entriesAt_append_inj {t u : Tree} {level : Nat} {rest rest' : List (Nat × Entry)}
    (hrest : Ascends level rest) (hrest' : Ascends level rest')
    (h : t.entriesAt level ++ rest = u.entriesAt level ++ rest') : t = u ∧ rest = rest' := by
  induction t generalizing u level rest rest' with
  | number value =>
    cases u with
    | number other =>
      obtain ⟨hentry, hmore⟩ := List.cons.inj h
      cases hentry
      exact ⟨rfl, hmore⟩
    | letter | indexed | binary | unary => simp [entriesAt] at h
  | letter name =>
    cases u with
    | letter other =>
      obtain ⟨hentry, hmore⟩ := List.cons.inj h
      cases hentry
      exact ⟨rfl, hmore⟩
    | indexed other index =>
      exact absurd (List.cons.inj h).2 (hrest.ne_append index rest')
    | number | binary | unary => simp [entriesAt] at h
  | indexed name index ih =>
    cases u with
    | letter other =>
      exact absurd (List.cons.inj h).2.symm (hrest'.ne_append index rest)
    | indexed other index' =>
      obtain ⟨hentry, hbelow⟩ := List.cons.inj h
      cases hentry
      obtain ⟨rfl, hmore⟩ := ih hrest.deeper hrest'.deeper hbelow
      exact ⟨rfl, hmore⟩
    | number | binary | unary => simp [entriesAt] at h
  | binary op left right ihl ihr =>
    cases u with
    | binary op' left' right' =>
      simp only [entriesAt, List.cons_append, List.append_assoc, List.cons.injEq] at h
      obtain ⟨hentry, hbelow⟩ := h
      cases hentry
      obtain ⟨rfl, hright⟩ := ihl (right.ascends_append _ _) (right'.ascends_append _ _) hbelow
      obtain ⟨rfl, hmore⟩ := ihr hrest.deeper hrest'.deeper hright
      exact ⟨rfl, hmore⟩
    | number | letter | indexed | unary => simp [entriesAt] at h
  | unary op operand ih =>
    cases u with
    | unary op' operand' =>
      obtain ⟨hentry, hbelow⟩ := List.cons.inj h
      cases hentry
      obtain ⟨rfl, hmore⟩ := ih hrest.deeper hrest'.deeper hbelow
      exact ⟨rfl, hmore⟩
    | number | letter | indexed | binary => simp [entriesAt] at h

theorem entriesAt_inj {t u : Tree} {level : Nat} (h : t.entriesAt level = u.entriesAt level) :
    t = u := by
  have hnil : Ascends level [] := by simp [Ascends]
  exact (entriesAt_append_inj hnil hnil (congrArg (· ++ []) h)).1

theorem All.entry {onNumber : Double → Prop} {onName : String → Prop} {t : Tree}
    (h : t.All onNumber onName) {level : Nat} :
    ∀ e ∈ t.entriesAt level, e.2.All onNumber onName := by
  induction t generalizing level with
  | number | letter => simpa [entriesAt, All, Entry.All] using h
  | indexed _ _ ih =>
    rw [entriesAt, List.forall_mem_cons]
    exact ⟨h.1, ih h.2⟩
  | binary _ _ _ ihl ihr =>
    rw [entriesAt, List.forall_mem_cons, List.forall_mem_append]
    exact ⟨trivial, ihl h.1, ihr h.2⟩
  | unary _ _ ih =>
    rw [entriesAt, List.forall_mem_cons]
    exact ⟨trivial, ih h⟩

theorem All.imp {onNumber onNumber' : Double → Prop} {onName : String → Prop} {t : Tree}
    (h : t.All onNumber onName) (himp : ∀ value, onNumber value → onNumber' value) :
    t.All onNumber' onName := by
  induction t with
  | number value => exact himp value h
  | letter => exact h
  | indexed _ _ ih => exact ⟨h.1, ih h.2⟩
  | binary _ _ _ ihl ihr => exact ⟨ihl h.1, ihr h.2⟩
  | unary _ _ ih => exact ih h

/-! ### Labels -/

namespace Entry

/-- The entries that are no leaves. -/
def operators : List Entry := BinaryOperator.all.map .binary ++ UnaryOperator.all.map .unary

/-- An entry is a number, a letter or one of the operators. -/
theorem cases_operators (entry : Entry) :
    (∃ value, entry = .number value) ∨ (∃ name, entry = .letter name) ∨ entry ∈ operators := by
  cases entry with
  | number value => exact .inl ⟨value, rfl⟩
  | letter name => exact .inr (.inl ⟨name, rfl⟩)
  | binary op => exact .inr (.inr (by cases op <;> decide))
  | unary op =>
    refine .inr (.inr ?_)
    cases op with
    | plus | minus => decide
    | function f => cases f <;> decide

theorem head?_label_number (value : Double) : (number value).label.toList.head? = some 'N' := by
  simp [label]

theorem head?_label_letter (name : String) : (letter name).label.toList.head? = some 'L' := by
  simp [label]

/-- The labels of operators are different words, which start like no other label. -/
theorem label_operators :
    (∀ entry ∈ operators, entry.label.toList.all Char.isAlpha = true ∧
      entry.label.toList.head?.any (fun c => c != 'N' && c != 'L') = true) ∧
    ∀ entry ∈ operators, ∀ other ∈ operators, entry.label = other.label → entry = other := by
  decide +kernel

theorem label_ne_of_mem_operators {entry : Entry} (h : entry ∈ operators) :
    (∀ value, entry.label ≠ (number value).label) ∧ ∀ name, entry.label ≠ (letter name).label := by
  have hhead := (label_operators.1 entry h).2
  constructor
  · intro value heq
    rw [heq, head?_label_number] at hhead
    contradiction
  · intro name heq
    rw [heq, head?_label_letter] at hhead
    contradiction

theorem newline_not_mem_label {entry : Entry} (h : entry.All (fun _ => True) OnLine) :
    '\n' ∉ entry.label.toList := by
  rcases entry.cases_operators with ⟨value, rfl⟩ | ⟨name, rfl⟩ | hmem
  · simpa [label] using value.newline_not_mem_text
  · have hname : '\n' ∉ name.toList := h
    simpa [label] using hname
  · intro hnewline
    have halpha := List.all_eq_true.mp (label_operators.1 entry hmem).1 _ hnewline
    contradiction

/-- No label starts with a space. -/
theorem head?_label (entry : Entry) : ∃ c, entry.label.toList.head? = some c ∧ c ≠ ' ' := by
  rcases entry.cases_operators with ⟨value, rfl⟩ | ⟨name, rfl⟩ | hmem
  · exact ⟨'N', head?_label_number value, by decide⟩
  · exact ⟨'L', head?_label_letter name, by decide⟩
  · obtain ⟨halpha, hhead⟩ := label_operators.1 entry hmem
    cases hlabel : entry.label.toList with
    | nil => simp [hlabel] at hhead
    | cons c rest =>
      refine ⟨c, rfl, ?_⟩
      rintro rfl
      have hc := List.all_eq_true.mp halpha ' ' (by rw [hlabel]; exact List.mem_cons_self)
      contradiction

theorem label_inj {entry other : Entry} (h : entry.All (·.isNaN = false) OnLine)
    (h' : other.All (·.isNaN = false) OnLine) (heq : entry.label = other.label) :
    entry = other := by
  rcases entry.cases_operators with ⟨value, rfl⟩ | ⟨name, rfl⟩ | hmem
  · rcases other.cases_operators with ⟨value', rfl⟩ | ⟨name', rfl⟩ | hmem'
    · have htext : value.text = value'.text := by simpa [label] using heq
      rw [Double.text_inj h h' htext]
    · have hhead := head?_label_number value
      rw [heq, head?_label_letter] at hhead
      contradiction
    · exact absurd heq.symm ((label_ne_of_mem_operators hmem').1 value)
  · rcases other.cases_operators with ⟨value', rfl⟩ | ⟨name', rfl⟩ | hmem'
    · have hhead := head?_label_letter name
      rw [heq, head?_label_number] at hhead
      contradiction
    · have hname : name = name' := by simpa [label] using heq
      rw [hname]
    · exact absurd heq.symm ((label_ne_of_mem_operators hmem').2 name)
  · rcases other.cases_operators with ⟨value', rfl⟩ | ⟨name', rfl⟩ | hmem'
    · exact absurd heq ((label_ne_of_mem_operators hmem).1 value')
    · exact absurd heq ((label_ne_of_mem_operators hmem).2 name')
    · exact label_operators.2 entry hmem other hmem' heq

end Entry

/-! ### Lines -/

/-- The line of a node. -/
def line (indent : Nat) (e : Nat × Entry) : List Char :=
  List.replicate (e.1 * indent) ' ' ++ e.2.label.toList

theorem toList_outline (indent : Nat) (t : Tree) :
    (t.outline indent).toList =
      ((t.entriesAt 0).map (line indent)).flatMap (· ++ ['\n']) := by
  rw [outline, String.toList_join, List.flatMap_map, List.flatMap_map]
  simp [line, Text.spaces]

theorem newline_not_mem_line {indent : Nat} {e : Nat × Entry}
    (h : e.2.All (fun _ => True) OnLine) : '\n' ∉ line indent e := by
  intro hmem
  rcases List.mem_append.mp hmem with hmem | hmem
  · have hspace := List.eq_of_mem_replicate hmem
    contradiction
  · exact Entry.newline_not_mem_label h hmem

/-- The spaces before a label tell its level. -/
theorem line_inj {indent : Nat} (hindent : 0 < indent) {e e' : Nat × Entry}
    (h : e.2.All (·.isNaN = false) OnLine) (h' : e'.2.All (·.isNaN = false) OnLine)
    (heq : line indent e = line indent e') : e = e' := by
  have hspaces : ∀ e : Nat × Entry,
      (line indent e).takeWhile (· = ' ') = List.replicate (e.1 * indent) ' ' := by
    intro e
    obtain ⟨c, hhead, hc⟩ := e.2.head?_label
    obtain ⟨rest, hlabel⟩ := List.head?_eq_some_iff.mp hhead
    have hall : ∀ c ∈ List.replicate (e.1 * indent) ' ', decide (c = ' ') = true := by simp
    rw [line, hlabel, List.takeWhile_append_of_pos hall, List.takeWhile_cons_of_neg (by simpa),
      List.append_nil]
  have hlevel : e.1 = e'.1 := by
    have hlength := congrArg (fun cs => (cs.takeWhile (· = ' ')).length) heq
    simp only [hspaces, List.length_replicate] at hlength
    exact Nat.eq_of_mul_eq_mul_right hindent hlength
  have hlabel : e.2.label = e'.2.label := by
    rw [line, line, hlevel] at heq
    exact String.toList_inj.mp (List.append_cancel_left heq)
  exact Prod.ext hlevel (Entry.label_inj h h' hlabel)

theorem map_line_inj {indent : Nat} (hindent : 0 < indent) {es es' : List (Nat × Entry)}
    (h : ∀ e ∈ es, e.2.All (·.isNaN = false) OnLine)
    (h' : ∀ e ∈ es', e.2.All (·.isNaN = false) OnLine)
    (heq : es.map (line indent) = es'.map (line indent)) : es = es' := by
  induction es generalizing es' with
  | nil => exact (List.map_eq_nil_iff.mp heq.symm).symm
  | cons e es ih =>
    obtain ⟨e', es', rfl, hline, hlines⟩ := List.map_eq_cons_iff.mp heq.symm
    rw [List.forall_mem_cons] at h h'
    rw [line_inj hindent h.1 h'.1 hline.symm, ih h.2 h'.2 hlines.symm]

/-- The rows of an outline are the lines of the nodes. -/
theorem rows_outline {t : Tree} (indent : Nat) (h : t.All (fun _ => True) OnLine) :
    Text.rows (t.outline indent).toList =
      ((t.entriesAt 0).map (line indent)).map (· ++ ['\n']) := by
  rw [toList_outline]
  refine Text.rows_flatMap fun line hline => ?_
  obtain ⟨e, he, rfl⟩ := List.mem_map.mp hline
  exact newline_not_mem_line (h.entry e he)

/-- The outlines of two trees are equal only if the trees are, whatever the width of an indent that
is one; and an outline has a line for each node.  No number of the trees is a NaN, which alone are
written alike, and no name goes over the end of a line. -/
theorem outline_determines (indent : Nat) :
    (0 < indent → ∀ t u : Tree, t.All (·.isNaN = false) OnLine → u.All (·.isNaN = false) OnLine →
      (t.outline indent = u.outline indent ↔ t = u)) ∧
    ∀ t : Tree, t.All (fun _ => True) OnLine →
      (Text.lines (t.outline indent).toList).length = t.nodeCount := by
  constructor
  · intro hindent t u ht hu
    refine ⟨fun heq => ?_, fun heq => heq ▸ rfl⟩
    have hrows := rows_outline indent (ht.imp fun _ _ => trivial)
    rw [heq, rows_outline indent (hu.imp fun _ _ => trivial)] at hrows
    have hlines := List.map_injective_iff.mpr (List.append_left_injective ['\n']) hrows
    exact (entriesAt_inj (map_line_inj hindent hu.entry ht.entry hlines)).symm
  · intro t ht
    rw [Text.lines_eq_map_rows, rows_outline indent ht]
    simp only [List.length_map, length_entriesAt]

/-- Two trees with the same labels in the same order differ in the levels of their nodes. -/
theorem outline_determines_levels :
    let t : Tree := .binary .add (.indexed "x" (.letter "i")) (.letter "y")
    let u : Tree := .binary .add (.letter "x") (.indexed "i" (.letter "y"))
    (0 < 1 ∧ t.All (·.isNaN = false) OnLine ∧ u.All (·.isNaN = false) OnLine) ∧
      t.outline 1 ≠ u.outline 1 ∧ (Text.lines (t.outline 1).toList).length = 4 := by
  intro t u
  have hname : OnLine "x" ∧ OnLine "i" ∧ OnLine "y" := by decide
  obtain ⟨hx, hi, hy⟩ := hname
  have ht : t.All (·.isNaN = false) OnLine := ⟨⟨hx, hi⟩, hy⟩
  have hu : u.All (·.isNaN = false) OnLine := ⟨hx, hi, hy⟩
  obtain ⟨hinj, hlines⟩ := outline_determines 1
  refine ⟨⟨Nat.one_pos, ht, hu⟩, fun heq => ?_, hlines t ⟨⟨hx, hi⟩, hy⟩⟩
  have htrees : t = u := (hinj Nat.one_pos t u ht hu).mp heq
  simp [t, u] at htrees

end Tree

end Formula
