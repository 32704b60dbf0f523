import Formula.Numeral
import Formula.Text.Blank

/-! Values given to letters, and the form `NAME=VALUE` in which the command line states one. -/

namespace Formula

/-- Letters with their values, no letter twice. -/
structure Bindings where
  entries : List (String × Double) := []
  nodup : (entries.map Prod.fst).Nodup := by exact List.nodup_nil
deriving DecidableEq

namespace Bindings

/-- Gives a letter a value, in place of any value it has. -/
def insert (b : Bindings) (name : String) (value : Double) : Bindings where
  entries := (name, value) :: b.entries.filter (·.1 ≠ name)
  nodup := by
    rw [List.map_cons, List.nodup_cons]
    exact ⟨by simp, b.nodup.sublist (List.filter_sublist.map Prod.fst)⟩

/-- The bindings that a list states; a later pair overrides an earlier one. -/
def ofList (pairs : List (String × Double)) : Bindings :=
  pairs.foldl (fun b (name, value) => b.insert name value) {}

/-- The value of a letter, if it has one. -/
def get? (b : Bindings) (name : String) : Option Double := b.entries.lookup name

def size (b : Bindings) : Nat := b.entries.length

/-- The pairs in the order of their names. -/
def toList (b : Bindings) : List (String × Double) :=
  b.entries.mergeSort fun (m, _) (n, _) => decide (m ≤ n)

theorem get?_empty (name : String) : get? {} name = none := rfl

/-- A letter has a value exactly if it stands with it, since it does not stand twice. -/
theorem get?_eq_some_iff {b : Bindings} {name : String} {value : Double} :
    b.get? name = some value ↔ (name, value) ∈ b.entries := by
  obtain ⟨entries, hnodup⟩ := b
  show entries.lookup name = some value ↔ _
  induction entries with
  | nil => simp
  | cons entry entries ih =>
    obtain ⟨other, v⟩ := entry
    obtain ⟨hnew, hrest⟩ := List.nodup_cons.mp hnodup
    by_cases hname : name = other
    · subst hname
      have habsent : (name, value) ∉ entries := fun hmem => hnew (List.mem_map.mpr ⟨_, hmem, rfl⟩)
      simp [habsent, eq_comm]
    · have hskip : (name == other) = false := by simpa using hname
      simp [List.lookup_cons, hskip, ih hrest, hname]

/-- Giving a letter a value changes nothing about the others. -/
theorem get?_insert (b : Bindings) (name : String) (value : Double) (other : String) :
    (b.insert name value).get? other = if other = name then some value else b.get? other := by
  apply Option.ext
  intro v
  by_cases hname : other = name
  · subst hname
    simp [get?, insert]
  · rw [if_neg hname, get?_eq_some_iff, get?_eq_some_iff]
    simp [insert, hname]

theorem get?_foldl_insert (pairs : List (String × Double)) (b : Bindings) (name : String) :
    (pairs.foldl (fun b pair => b.insert pair.1 pair.2) b).get? name =
      (pairs.reverse.lookup name).or (b.get? name) := by
  induction pairs generalizing b with
  | nil => rfl
  | cons pair pairs ih =>
    obtain ⟨other, value⟩ := pair
    rw [List.foldl_cons, ih, get?_insert, List.reverse_cons, List.lookup_append, Option.or_assoc]
    congr 1
    by_cases hname : name = other
    · simp [hname]
    · have hskip : (name == other) = false := by simpa using hname
      simp [List.lookup_cons, hskip, hname]

/-- Of the pairs for one letter the last one counts. -/
theorem get?_ofList (pairs : List (String × Double)) (name : String) :
    (ofList pairs).get? name = pairs.reverse.lookup name := by
  rw [ofList, get?_foldl_insert, get?_empty, Option.or_none]

end Bindings

/-- Why an argument states no binding. -/
inductive BindingError where
  | noSign (argument : String)
  | badName (name : String)
  | badValue (name : String) (reason : Double.LiteralError)
deriving DecidableEq

def BindingError.message : BindingError → String
  | .noSign argument => "expected NAME=VALUE, got '" ++ argument ++ "'"
  | .badName name => "invalid letter name '" ++ name ++ "'"
  | .badValue name reason => "invalid value for '" ++ name ++ "': " ++ reason.message

/-- The letter that a text names: one letter of the alphabet. -/
def letterName? : List Char → Option String
  | [c] => if c.isAlpha then some c.toString else none
  | _ => none

/-- The binding that an argument states: what stands before the first equals sign names a letter,
what stands after it is the literal of a double, with blanks around both. -/
def parseBinding (argument : String) : Except BindingError (String × Double) :=
  match argument.toList.span (· ≠ '=') with
  | (_, []) => .error (.noSign argument)
  | (before, _ :: after) =>
    match letterName? (Text.trim before) with
    | none => .error (.badName (String.ofList (Text.trim before)))
    | some name =>
      match Double.ofLiteral (Text.trim after) with
      | .error reason => .error (.badValue name reason)
      | .ok value => .ok (name, value)

end Formula
