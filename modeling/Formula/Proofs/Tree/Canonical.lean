import Formula.Proofs.Numeral.Scaling
import Formula.Proofs.Tree.Document

/-! The document that is written for a tree, compared with the documents that the tree is read from.
A node may be written in many ways: as an object or an array, with its members in any order and
other members among them.  Whichever way is taken, the value of a node stands inside the node, so
what is written never nests deeper than what was read. -/

namespace Formula

namespace Json

mutual

/-- How deep arrays and objects nest in a value. -/
def nesting : Json → Nat
  | .array items => 1 + itemsNesting items
  | .object members => 1 + membersNesting members
  | _ => 0

def itemsNesting : List Json → Nat
  | [] => 0
  | item :: items => max item.nesting (itemsNesting items)

def membersNesting : List (Option String × Json) → Nat
  | [] => 0
  | (_, value) :: members => max value.nesting (membersNesting members)

end

theorem nesting_null_lt_array (items : List Json) : null.nesting < (array items).nesting := by
  show 0 < 1 + itemsNesting items
  omega

theorem nesting_null_lt_object (members : List (Option String × Json)) :
    null.nesting < (object members).nesting := by
  show 0 < 1 + membersNesting members
  omega

theorem nesting_lt_array {item : Json} {items : List Json} (h : item ∈ items) :
    item.nesting < (Json.array items).nesting := by
  have hle : item.nesting ≤ itemsNesting items := by
    induction items with
    | nil => contradiction
    | cons head items ih =>
      rw [itemsNesting]
      rcases List.mem_cons.mp h with rfl | hmem
      · exact Nat.le_max_left _ _
      · exact Nat.le_trans (ih hmem) (Nat.le_max_right _ _)
  rw [nesting]
  omega

theorem nesting_lt_object {key : Option String} {value : Json}
    {members : List (Option String × Json)} (h : (key, value) ∈ members) :
    value.nesting < (Json.object members).nesting := by
  have hle : value.nesting ≤ membersNesting members := by
    induction members with
    | nil => contradiction
    | cons head members ih =>
      obtain ⟨_, headValue⟩ := head
      rw [membersNesting]
      rcases List.mem_cons.mp h with heq | hmem
      · cases heq
        exact Nat.le_max_left _ _
      · exact Nat.le_trans (ih hmem) (Nat.le_max_right _ _)
  rw [nesting]
  omega

end Json

namespace Tree

theorem nesting_node (type : String) (value : Json) :
    (node type value).nesting = 1 + value.nesting := by
  simp [node, Json.nesting, Json.membersNesting]

theorem nesting_letterValue (name : String) (index : Json) :
    (letterValue name index).nesting = 1 + index.nesting := by
  simp [letterValue, Json.nesting, Json.membersNesting]

theorem nesting_toJson (t : Tree) : t.toJson.nesting = t.containers := by
  induction t with
  | number value =>
    rw [toJson, nesting_node, containers]
    split <;> rfl
  | letter name =>
    rw [toJson, nesting_node, nesting_letterValue]
    rfl
  | indexed name index ih =>
    rw [toJson, nesting_node, nesting_letterValue, containers, ih]
    omega
  | binary op left right ihl ihr =>
    rw [toJson, nesting_node, containers, Json.nesting, Json.itemsNesting, Json.itemsNesting,
      Json.itemsNesting, ihl, ihr]
    omega
  | unary op operand ih => rw [toJson, nesting_node, containers, ih]

/-! ### What a node holds -/

theorem exists_mem_of_mem_valuesOf {key : String} {members : List (Option String × Json)}
    {value : Json} (h : value ∈ valuesOf key members) : (some key, value) ∈ members := by
  obtain ⟨⟨k, v⟩, hmem, hfound⟩ := List.mem_filterMap.mp h
  dsimp only at hfound
  split at hfound
  · next hkey =>
    cases hfound
    rwa [← hkey]
  · contradiction

/-- The value of a node stands inside it. -/
theorem nesting_lt_of_nodeParts? {stored : Bool} {room : Nat} {json : Json} {parts : NodeParts}
    (h : nodeParts? stored room json = some parts) : parts.value.nesting < json.nesting := by
  unfold nodeParts? at h
  split at h
  · obtain ⟨_, -, rfl⟩ := Option.map_eq_some_iff.mp h
    exact Json.nesting_lt_array (by simp)
  · next members =>
    split at h
    · next value _ hvalue =>
      dsimp only at h
      split at h
      · obtain ⟨_, -, rfl⟩ := Option.map_eq_some_iff.mp h
        have hmem : value ∈ valuesOf "value" members := by simp [hvalue]
        exact Json.nesting_lt_object (exists_mem_of_mem_valuesOf hmem)
      · contradiction
    · contradiction
  · contradiction

/-- So does the index of a letter; a missing one is nothing. -/
theorem nesting_lt_of_letterParts? {value index : Json} {name : String}
    (h : letterParts? value = some (name, index)) : index.nesting < value.nesting := by
  unfold letterParts? at h
  split at h
  · cases h
    exact Json.nesting_null_lt_array _
  · cases h
    exact Json.nesting_lt_array (by simp)
  · next members =>
    split at h
    · split at h
      · cases h
        exact Json.nesting_null_lt_object _
      · next hindex =>
        cases h
        have hmem : index ∈ valuesOf "index" members := by simp [hindex]
        exact Json.nesting_lt_object (exists_mem_of_mem_valuesOf hmem)
      · contradiction
    · contradiction
  · contradiction

/-- A node is a number, a letter, two operands or one, and no type says more than that. -/
theorem ofParts?_eq_some {operand : Json → Option Tree} {inner : Option (Json → Option Tree)}
    {type : String} {value : Json} {t : Tree} (h : ofParts? operand inner type value = some t) :
    (∃ numeral v, value = .number numeral ∧ numeral.scaled? = some v ∧ t = .number v) ∨
    (∃ read name index, inner = some read ∧ letterParts? value = some (name, index) ∧
      letterOf? read name index = some t) ∨
    (∃ read op left right l r, inner = some read ∧ value = .array [left, right] ∧
      read left = some l ∧ read right = some r ∧ t = .binary op l r) ∨
    (∃ op u, operand value = some u ∧ t = .unary op u) := by
  unfold ofParts? at h
  split at h
  · left
    split at h
    · obtain ⟨v, hv, rfl⟩ := Option.map_eq_some_iff.mp h
      exact ⟨_, v, rfl, hv, rfl⟩
    · contradiction
  · right
    split at h
    · left
      obtain ⟨read, hread, h⟩ := Option.bind_eq_some_iff.mp h
      obtain ⟨⟨name, index⟩, hparts, h⟩ := Option.bind_eq_some_iff.mp h
      exact ⟨read, name, index, hread, hparts, h⟩
    · right
      split at h
      · left
        split at h
        · obtain ⟨read, hread, h⟩ := Option.bind_eq_some_iff.mp h
          obtain ⟨l, hl, h⟩ := Option.bind_eq_some_iff.mp h
          obtain ⟨r, hr, h⟩ := Option.bind_eq_some_iff.mp h
          exact ⟨read, _, _, _, l, r, hread, rfl, hl, hr, (Option.some.inj h).symm⟩
        · contradiction
      · right
        obtain ⟨u, hu, rfl⟩ := Option.map_eq_some_iff.mp h
        exact ⟨_, u, hu, rfl⟩
      · contradiction

theorem letterOf?_eq_some {read : Json → Option Tree} {name : String} {index : Json} {t : Tree}
    (h : letterOf? read name index = some t) :
    t = .letter name ∨ ∃ i, read index = some i ∧ t = .indexed name i := by
  unfold letterOf? at h
  split at h
  · exact .inl (Option.some.inj h).symm
  · obtain ⟨i, hi, rfl⟩ := Option.map_eq_some_iff.mp h
    exact .inr ⟨i, hi, rfl⟩

/-! ### What is read can be written -/

/-- What is known of a tree that a JSON value describes within some room. -/
structure Described (room : Nat) (json : Json) (t : Tree) : Prop where
  containers_le_room : t.containers ≤ room
  containers_le_nesting : t.containers ≤ json.nesting
  isFinite : ∀ v ∈ t.numbers, v.isFinite = true

namespace Described

variable {room : Nat} {json value other : Json} {t u : Tree}

theorem number {v : Double} (hv : v.isFinite = true) (h : 1 ≤ json.nesting) (room : Nat) :
    Described (room + 1) json (.number v) where
  containers_le_room := Nat.le_add_left 1 room
  containers_le_nesting := h
  isFinite := by simpa [numbers] using hv

theorem letter (name : String) (h : 2 ≤ json.nesting) (room : Nat) :
    Described (room + 2) json (.letter name) where
  containers_le_room := Nat.le_add_left 2 room
  containers_le_nesting := h
  isFinite := by simp [numbers]

theorem indexed (h : Described room value t) (name : String)
    (hvalue : value.nesting + 2 ≤ json.nesting) : Described (room + 2) json (.indexed name t) := by
  obtain ⟨hroom, hnesting, hfinite⟩ := h
  refine ⟨?_, ?_, hfinite⟩
  · rw [containers]
    omega
  · rw [containers]
    omega

theorem binary (h : Described room value t) (h' : Described room other u) (op : BinaryOperator)
    (hvalue : value.nesting + 2 ≤ json.nesting) (hother : other.nesting + 2 ≤ json.nesting) :
    Described (room + 2) json (.binary op t u) := by
  obtain ⟨hroom, hnesting, hfinite⟩ := h
  obtain ⟨hroom', hnesting', hfinite'⟩ := h'
  refine ⟨?_, ?_, List.forall_mem_append.mpr ⟨hfinite, hfinite'⟩⟩
  · rw [containers]
    omega
  · rw [containers]
    omega

theorem unary (h : Described room value t) (op : UnaryOperator)
    (hvalue : value.nesting + 1 ≤ json.nesting) : Described (room + 1) json (.unary op t) := by
  obtain ⟨hroom, hnesting, hfinite⟩ := h
  refine ⟨?_, ?_, hfinite⟩
  · rw [containers]
    omega
  · rw [containers]
    omega

end Described

/-- All that is read is described, whatever the spelling. -/
theorem described_of_ofJson? {room : Nat} {stored : Bool} {json : Json} {t : Tree}
    (h : ofJson? room stored json = some t) : Described room json t := by
  -- An operand is read with one container less in room, an item or an index with two.
  induction room using Nat.strongRecOn generalizing stored json t with
  | ind room ih =>
    obtain _ | room := room
    · contradiction
    rw [ofJson?] at h
    obtain ⟨parts, hparts, h⟩ := Option.bind_eq_some_iff.mp h
    have hvalue := nesting_lt_of_nodeParts? hparts
    rcases ofParts?_eq_some h with ⟨numeral, v, -, hv, rfl⟩ |
      ⟨read, name, index, hread, hletter, hindex⟩ |
      ⟨read, op, left, right, l, r, hread, harray, hl, hr, rfl⟩ | ⟨op, u, hu, rfl⟩
    · have hnesting : 1 ≤ json.nesting := by omega
      exact .number (Numeral.isFinite_of_scaled? hv) hnesting room
    · obtain _ | room := room
      · contradiction
      cases hread
      have hnesting := nesting_lt_of_letterParts? hletter
      rcases letterOf?_eq_some hindex with rfl | ⟨i, hi, rfl⟩
      · exact .letter name (by omega) room
      · exact (ih room (by omega) hi).indexed name (by omega)
    · obtain _ | room := room
      · contradiction
      cases hread
      rw [harray] at hvalue
      have hleft : left.nesting < (Json.array [left, right]).nesting :=
        Json.nesting_lt_array (by simp)
      have hright : right.nesting < (Json.array [left, right]).nesting :=
        Json.nesting_lt_array (by simp)
      exact (ih room (by omega) hl).binary (ih room (by omega) hr) op (by omega) (by omega)
    · exact (ih room (Nat.lt_succ_self room) hu).unary op (by omega)

/-- A tree that is read from a document has finite numbers only.  The document written for it nests
no deeper than the one that was read, and is read as the same tree exactly when every number is what
its own numeral is read as. -/
theorem ofDocument?_canonical {text : String} {t : Tree} (h : ofDocument? text = some t) :
    (∀ v ∈ t.numbers, v.isFinite = true) ∧
    (ofDocument? t.document = some t ↔ ∀ v ∈ t.numbers, v.documented.scaled? = some v) ∧
    ∃ json, Json.parse? text = some json ∧ Json.parse? t.document = some t.toJson ∧
      t.toJson.nesting ≤ json.nesting := by
  obtain ⟨json, hjson, hread⟩ := Option.bind_eq_some_iff.mp h
  obtain ⟨hroom, hnesting, hfinite⟩ := described_of_ofJson? hread
  refine ⟨hfinite, ?_, json, hjson, t.parse?_document, ?_⟩
  · rw [ofDocument?_eq_reread?, if_pos hroom, reread?_eq_self_iff]
    apply forall₂_congr
    intro v hv
    rw [Double.reread?, if_pos (hfinite v hv)]
  · rw [nesting_toJson]
    exact hnesting

/-- Nodes and a letter as arrays, a type after the value and a member of no meaning. -/
theorem ofDocument?_canonical_sum :
    let text := "[\"Add\", [[\"Number\", 25e-1], " ++
      "\x7b\"value\": [\"x\"], \"note\": [[]], \"type\": \"Letter\"\x7d]]"
    let t : Tree := .binary .add (.number ⟨0x4004000000000000⟩) (.letter "x")
    ofDocument? text = some t ∧ ofDocument? t.document = some t := by
  intro text t
  have h : ofDocument? text = some t := by decide +kernel
  have hnumbers : ∀ v ∈ t.numbers, v.documented.scaled? = some v := by decide +kernel
  exact ⟨h, (ofDocument?_canonical h).2.1.mpr hnumbers⟩

end Tree

end Formula
