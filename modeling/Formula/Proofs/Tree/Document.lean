import Formula.Proofs.Json.Pretty
import Formula.Tree.Document

/-! What becomes of a tree that is written as a document and read again.  Its form is read back as
it was, unless too many arrays and objects nest.  Its numbers are written with digits enough to tell
them apart, but they are read by scaling, which rounds more than once and may come to a
neighbour. -/

namespace Formula

/-! ### Numbers -/

theorem head?_toDigits {n : Nat} (h : n ≠ 0) : (Nat.toDigits 10 n).head? ≠ some '0' := by
  induction n using Nat.strongRecOn with
  | ind n ih =>
    by_cases hn : n < 10
    · have hdigit : ∀ k < 10, k ≠ 0 → Nat.digitChar k ≠ '0' := by decide
      rw [Nat.toDigits_of_lt_base hn, List.head?_cons]
      exact fun heq => hdigit n hn h (Option.some.inj heq)
    · obtain ⟨c, cs, hcs⟩ := List.exists_cons_of_ne_nil (@Nat.toDigits_ne_nil (n / 10) 10)
      have hhead := ih (n / 10) (by omega) (by omega)
      rw [Nat.toDigits_of_base_le (by decide) (by omega), hcs]
      rwa [hcs] at hhead

namespace Numeral

variable {d : Decimal}

theorem proper_scientific (negative : Bool) (d : Decimal) : (scientific negative d).Proper := by
  have hpos : 0 < (Nat.toDigits 10 d.digits).length := Nat.length_toDigits_pos
  have hdigits := isDigit_toDigits d.digits
  refine ⟨⟨?_, fun c hc => hdigits c (List.mem_of_mem_take hc)⟩, .inl ?_,
    fun c hc => hdigits c (List.mem_of_mem_drop hc)⟩
  · rw [scientific, Ne, List.take_eq_nil_iff]
    simp
  · rw [scientific, List.length_take]
    omega

/-- In positional notation no zero stands before other digits, unless zeros are appended to
zero. -/
theorem proper_positional (negative : Bool) (hd : d.digits ≠ 0 ∨ d.exponent = 0) :
    (positional negative d).Proper := by
  have hplain := plain_positional d
  have hpos : 0 < (Nat.toDigits 10 d.digits).length := Nat.length_toDigits_pos
  dsimp only [positional] at hplain ⊢
  split at hplain <;> rename_i hplaces
  · rw [if_pos hplaces]
    refine ⟨⟨hplain.whole_ne_nil, hplain.whole⟩, ?_, hplain.fraction⟩
    by_cases hzero : d.digits = 0
    · left
      have hexponent := hd.resolve_left (absurd hzero)
      simp [hzero, hexponent]
    · right
      obtain ⟨c, cs, hcs⟩ := List.exists_cons_of_length_pos hpos
      obtain ⟨k, hk⟩ := Nat.exists_eq_succ_of_ne_zero (Nat.sub_ne_zero_of_lt hplaces)
      have hhead := head?_toDigits hzero
      rw [hk, hcs]
      rwa [hcs] at hhead
  · rw [if_neg hplaces]
    exact ⟨⟨hplain.whole_ne_nil, hplain.whole⟩, .inl rfl, hplain.fraction⟩

end Numeral

/-- The numeral of a finite double in documents has the form of JSON. -/
theorem Double.proper_documented {v : Double} (h : v.isFinite = true) : v.documented.Proper := by
  have hd : (Decimal.shortest .even v.magnitude).digits ≠ 0 ∨
      (Decimal.shortest .even v.magnitude).exponent = 0 := by
    by_cases hm : v.magnitude = 0
    · right
      simp [hm, Decimal.shortest]
    · left
      intro hzero
      have hmagnitude := Decimal.magnitude_shortest .even (magnitude_lt_of_isFinite h)
      rw [Decimal.magnitude, if_pos hzero] at hmagnitude
      exact hm hmagnitude.symm
  have hproper := Numeral.proper_positional v.negative hd
  dsimp only [documented]
  split
  · split
    · exact ⟨hproper.digits, hproper.leading, by simp⟩
    · exact hproper
  · exact Numeral.proper_scientific _ _

/-- The double that is read for the one that is written; a double that is not finite is written as
`null`, which is no number. -/
def Double.reread? (v : Double) : Option Double :=
  if v.isFinite then v.documented.scaled? else none

namespace Tree

/-- The numbers of a tree, those of indices included. -/
def numbers : Tree → List Double
  | .number value => [value]
  | .letter _ => []
  | .indexed _ index => index.numbers
  | .binary _ left right => left.numbers ++ right.numbers
  | .unary _ operand => operand.numbers

/-- How deep arrays and objects nest in the document of a tree. -/
def containers : Tree → Nat
  | .number _ => 1
  | .letter _ => 2
  | .indexed _ index => 2 + index.containers
  | .binary _ left right => 2 + max left.containers right.containers
  | .unary _ operand => 1 + operand.containers

/-- The tree with what is read for its numbers. -/
def reread? : Tree → Option Tree
  | .number value => value.reread?.map .number
  | .letter name => some (.letter name)
  | .indexed name index => index.reread?.map (.indexed name)
  | .binary op left right => do return .binary op (← left.reread?) (← right.reread?)
  | .unary op operand => operand.reread?.map (.unary op)

/-! ### The document as JSON -/

open Json (Written)

theorem written_node (type : String) {value : Json} (h : value.Written) :
    (node type value).Written := by
  refine .object ?_ ?_
  · simp
  · simpa using ⟨.string type, h⟩

theorem written_letterValue (name : String) {index : Json} (h : index.Written) :
    (letterValue name index).Written := by
  refine .object ?_ ?_
  · simp
  · simpa using ⟨.string name, h⟩

theorem written_toJson (t : Tree) : t.toJson.Written := by
  induction t with
  | number value =>
    refine written_node _ ?_
    split
    · next h => exact .number (Double.proper_documented h)
    · exact .null
  | letter name => exact written_node _ (written_letterValue name .null)
  | indexed name index ih => exact written_node _ (written_letterValue name ih)
  | binary op left right ihl ihr =>
    refine written_node _ (.array fun item hitem => ?_)
    obtain rfl | rfl : item = left.toJson ∨ item = right.toJson := by simpa using hitem
    · exact ihl
    · exact ihr
  | unary op operand ih => exact written_node _ ih

/-- The text of a document is read as the JSON value that it writes. -/
theorem parse?_document (t : Tree) : Json.parse? t.document = some t.toJson :=
  Json.parse?_pretty t.written_toJson

/-! ### The JSON value as a tree -/

theorem nodeParts?_node (room : Nat) (type : String) (value : Json) :
    nodeParts? false room (node type value) = some ⟨type, value, false⟩ := by
  simp [nodeParts?, node, valuesOf, comesLate, memberType?]

theorem letterParts?_letterValue (name : String) (index : Json) :
    letterParts? (letterValue name index) = some (name, index) := by
  simp [letterParts?, letterValue, valuesOf]

theorem letterOf?_toJson (read : Json → Option Tree) (name : String) (index : Tree) :
    letterOf? read name index.toJson = (read index.toJson).map (.indexed name) := by
  cases index <;> rfl

theorem ofParts?_binary (operand : Json → Option Tree) (inner : Option (Json → Option Tree))
    (op : BinaryOperator) (left right : Json) :
    ofParts? operand inner op.name (.array [left, right]) = do
      let read ← inner
      return .binary op (← read left) (← read right) := by
  cases op <;> simp [ofParts?, BinaryOperator.name, BinaryOperator.all]

theorem ofParts?_unary (operand : Json → Option Tree) (inner : Option (Json → Option Tree))
    (op : UnaryOperator) (value : Json) :
    ofParts? operand inner op.name value = (operand value).map (.unary op) := by
  rcases op with _ | _ | f
  · simp [ofParts?, UnaryOperator.name, UnaryOperator.all, BinaryOperator.name, BinaryOperator.all]
  · simp [ofParts?, UnaryOperator.name, UnaryOperator.all, BinaryOperator.name, BinaryOperator.all]
  · cases f <;> simp [ofParts?, UnaryOperator.name, UnaryOperator.all, NamedFunction.name,
      NamedFunction.all, BinaryOperator.name, BinaryOperator.all]

/-- The reader for what is inside the value of a node, if there is room around it. -/
def inner? : (room : Nat) → Option (Json → Option Tree)
  | 0 => none
  | room + 1 => some (ofJson? room false)

theorem ofJson?_node (room : Nat) (type : String) (value : Json) :
    ofJson? (room + 1) false (node type value) =
      ofParts? (ofJson? room false) (inner? room) type value := by
  rw [ofJson?, nodeParts?_node]
  cases room <;> rfl

/-- What a document is read as: the tree with what is read for its numbers, if there is room. -/
theorem ofJson?_toJson (t : Tree) (room : Nat) :
    ofJson? room false t.toJson = if t.containers ≤ room then t.reread? else none := by
  induction t generalizing room with
  | number value =>
    obtain _ | room := room
    · rw [ofJson?, if_neg (by simp [containers])]
    · rw [if_pos (by simp [containers]), toJson, ofJson?_node, reread?, Double.reread?]
      split <;> rfl
  | letter name =>
    rw [toJson]
    obtain _ | _ | room := room
    · rw [ofJson?, if_neg (by simp [containers])]
    · rw [ofJson?_node, if_neg (by simp [containers])]
      rfl
    · rw [ofJson?_node, if_pos (by simp [containers])]
      simp [ofParts?, inner?, letterParts?_letterValue, letterOf?, reread?]
  | indexed name index ih =>
    rw [toJson]
    obtain _ | _ | room := room
    · rw [ofJson?, if_neg (by simp [containers])]
    · rw [ofJson?_node, if_neg (by simp only [containers]; omega)]
      rfl
    · have hroom : (indexed name index).containers ≤ room + 2 ↔ index.containers ≤ room := by
        simp only [containers]
        omega
      have hletter : ofJson? (room + 2) false (node "Letter" (letterValue name index.toJson)) =
          (ofJson? room false index.toJson).map (indexed name) := by
        simp [ofJson?_node, ofParts?, inner?, letterParts?_letterValue, letterOf?_toJson]
      rw [hletter, ih]
      simp only [hroom, reread?]
      split <;> rfl
  | binary op left right ihl ihr =>
    rw [toJson]
    obtain _ | _ | room := room
    · rw [ofJson?, if_neg (by simp [containers])]
    · rw [ofJson?_node, ofParts?_binary, if_neg (by simp only [containers]; omega)]
      rfl
    · have hroom : (binary op left right).containers ≤ room + 2 ↔
          left.containers ≤ room ∧ right.containers ≤ room := by
        simp only [containers]
        omega
      simp only [ofJson?_node, ofParts?_binary, hroom, reread?, inner?]
      by_cases hl : left.containers ≤ room
      · by_cases hr : right.containers ≤ room
        · simp [ihl, ihr, hl, hr]
        · simp [ihr, hl, hr]
      · simp [ihl, hl]
  | unary op operand ih =>
    rw [toJson]
    obtain _ | room := room
    · rw [ofJson?, if_neg (by simp [containers])]
    · have hroom : (unary op operand).containers ≤ room + 1 ↔ operand.containers ≤ room := by
        simp only [containers]
        omega
      simp only [ofJson?_node, ofParts?_unary, hroom, reread?, ih]
      split <;> rfl

theorem reread?_eq_self_iff (t : Tree) :
    t.reread? = some t ↔ ∀ v ∈ t.numbers, v.reread? = some v := by
  induction t with
  | number value => simp [reread?, numbers]
  | letter name => simp [reread?, numbers]
  | indexed name index ih => simp [reread?, numbers, ← ih]
  | binary op left right ihl ihr =>
    simp only [numbers, List.forall_mem_append, ← ihl, ← ihr]
    cases hl : left.reread? <;> cases hr : right.reread? <;> simp [reread?, hl, hr]
  | unary op operand ih => simp [reread?, numbers, ← ih]

theorem reread?_eq_none {t : Tree} {v : Double} (hv : v ∈ t.numbers) (h : v.reread? = none) :
    t.reread? = none := by
  induction t with
  | number value =>
    obtain rfl := List.mem_singleton.mp hv
    simp [reread?, h]
  | letter name => contradiction
  | indexed name index ih => simp [reread?, ih hv]
  | binary op left right ihl ihr =>
    rcases List.mem_append.mp hv with hv | hv
    · simp [reread?, ihl hv]
    · simp [reread?, ihr hv]
  | unary op operand ih => simp [reread?, ih hv]

/-- A document is read as the tree that was written, with what is read for its numbers. -/
theorem ofDocument?_eq_reread? (t : Tree) :
    ofDocument? t.document = if t.containers ≤ documentRoom then t.reread? else none := by
  rw [← ofJson?_toJson, ofDocument?, parse?_document]
  rfl

/-- A tree is read back from its document exactly when there is room for its nesting and every
number is finite and what its own numeral is read as.  A document that nests deeper, or has `null`
where the tree has a number that is not finite, is refused. -/
theorem ofDocument?_document (t : Tree) :
    (ofDocument? t.document = some t ↔ t.containers ≤ documentRoom ∧
      ∀ v ∈ t.numbers, v.isFinite = true ∧ v.documented.scaled? = some v) ∧
    (¬(t.containers ≤ documentRoom ∧ ∀ v ∈ t.numbers, v.isFinite = true) →
      ofDocument? t.document = none) := by
  have hread : ∀ v : Double,
      v.reread? = some v ↔ v.isFinite = true ∧ v.documented.scaled? = some v := by
    intro v
    cases h : v.isFinite <;> simp [Double.reread?, h]
  rw [ofDocument?_eq_reread?]
  by_cases hroom : t.containers ≤ documentRoom
  · rw [if_pos hroom, reread?_eq_self_iff]
    constructor
    · simp [hread, hroom]
    · intro hbeyond
      obtain ⟨v, hv, hinfinite⟩ : ∃ v ∈ t.numbers, v.isFinite = false := by
        simpa [hroom] using hbeyond
      exact reread?_eq_none hv (by simp [Double.reread?, hinfinite])
  · simp [hroom]

/-- The double nearest to `7.87e29` is written as `7.87e+29` and read as its neighbour above. -/
example : Double.reread? ⟨0x4623ddde48be9bf4⟩ = some ⟨0x4623ddde48be9bf5⟩ := by decide +kernel

end Tree

end Formula
