import Formula.Bindings
import Formula.Proofs.Numeral.Signed
import Formula.Proofs.Token.Symbols
import Mathlib.Data.List.TakeDrop
import Mathlib.Data.List.TakeWhile

/-! The arguments that state a binding, as a grammar.  A form has a letter and a literal with blanks
around both and an equals sign between them; no text has two forms.  `parseBinding` reads the texts
that have one, and the letters that it binds are those that the lexer finds in expressions. -/

namespace Formula

/-! ### Blanks at the ends of a text -/

namespace Text

theorem trimStart_append {front : List Char} (h : ∀ c ∈ front, isBlank c = true) (cs : List Char) :
    trimStart (front ++ cs) = trimStart cs :=
  List.dropWhile_append_of_pos h

theorem trimStart_of_head {cs : List Char} (h : ∀ c ∈ cs.head?, isBlank c = false) :
    trimStart cs = cs := by
  cases cs with
  | nil => rfl
  | cons c cs => exact List.dropWhile_cons_of_neg (by simp [h c rfl])

/-- What is cut off at the start of a text are blanks. -/
theorem exists_trimStart_eq (cs : List Char) :
    ∃ front, (∀ c ∈ front, isBlank c = true) ∧ cs = front ++ trimStart cs :=
  ⟨cs.takeWhile isBlank, fun _ => List.mem_takeWhile_imp,
    List.takeWhile_append_dropWhile.symm⟩

theorem exists_trim_eq (cs : List Char) : ∃ front back,
    (∀ c ∈ front, isBlank c = true) ∧ (∀ c ∈ back, isBlank c = true) ∧
      cs = front ++ (trim cs ++ back) := by
  obtain ⟨front, hfront, hcs⟩ := exists_trimStart_eq cs
  obtain ⟨back, hback, hrest⟩ := exists_trimStart_eq (trimStart cs).reverse
  refine ⟨front, back.reverse, hfront, fun c hc => hback c (List.mem_reverse.mp hc), ?_⟩
  rw [trim, ← List.reverse_append, ← hrest, List.reverse_reverse]
  exact hcs

/-- Blanks at both ends are cut off, and none of what stands between them. -/
theorem trim_append {front core back : List Char} (hfront : ∀ c ∈ front, isBlank c = true)
    (hcore : ∀ c ∈ core, isBlank c = false) (hback : ∀ c ∈ back, isBlank c = true) :
    trim (front ++ (core ++ back)) = core := by
  have hlast : ∀ c ∈ core.reverse.head?, isBlank c = false := fun c hc =>
    hcore c (List.mem_reverse.mp (List.mem_of_mem_head? hc))
  have hback' : ∀ c ∈ back.reverse, isBlank c = true := fun c hc =>
    hback c (List.mem_reverse.mp hc)
  rcases core with _ | ⟨c, core⟩
  · have hnil : trimStart back = [] := List.dropWhile_eq_nil_iff.mpr hback
    rw [trim, trimStart_append hfront, List.nil_append, hnil]
    rfl
  · have hhead : trimStart (c :: core ++ back) = c :: core ++ back :=
      trimStart_of_head (by simpa using hcore c List.mem_cons_self)
    rw [trim, trimStart_append hfront, hhead, List.reverse_append, trimStart_append hback',
      trimStart_of_head hlast, List.reverse_reverse]

/-- There is one way to divide a text into blanks at both ends and something without blanks. -/
theorem append_blanks_inj {front core back front' core' back' : List Char}
    (hfront : ∀ c ∈ front, isBlank c = true) (hcore : ∀ c ∈ core, isBlank c = false)
    (hback : ∀ c ∈ back, isBlank c = true) (hfront' : ∀ c ∈ front', isBlank c = true)
    (hcore' : ∀ c ∈ core', isBlank c = false) (hback' : ∀ c ∈ back', isBlank c = true)
    (hne : core ≠ []) (h : front ++ (core ++ back) = front' ++ (core' ++ back')) :
    front = front' ∧ core = core' ∧ back = back' := by
  obtain rfl : core = core' := by
    rw [← trim_append hfront hcore hback, h, trim_append hfront' hcore' hback']
  obtain ⟨c, core, rfl⟩ := List.exists_cons_of_ne_nil hne
  have hstart : ∀ {front : List Char} (tail : List Char), (∀ c ∈ front, isBlank c = true) →
      (front ++ c :: tail).takeWhile isBlank = front := by
    intro front tail hfront
    rw [List.takeWhile_append_of_pos hfront,
      List.takeWhile_cons_of_neg (by simp [hcore c List.mem_cons_self]), List.append_nil]
  obtain rfl : front = front' := by
    rw [← hstart (core ++ back) hfront, ← hstart (core ++ back') hfront']
    exact congrArg (List.takeWhile isBlank) h
  exact ⟨rfl, rfl, List.append_cancel_left (List.append_cancel_left h)⟩

end Text

/-! ### Forms -/

/-- The way in which a text states a binding: a letter, an equals sign and a literal, with blanks
around the letter and around the literal. -/
structure BindingForm where
  beforeName : List Char
  letter : Char
  afterName : List Char
  beforeLiteral : List Char
  literal : List Char
  afterLiteral : List Char
  value : Double
  blank : ∀ c ∈ beforeName ++ afterName ++ beforeLiteral ++ afterLiteral, Text.isBlank c = true
  isAlpha : letter.isAlpha = true
  isLiteral : Double.IsLiteral literal value

namespace BindingForm

def name (form : BindingForm) : String := form.letter.toString

def text (form : BindingForm) : List Char :=
  (form.beforeName ++ form.letter :: form.afterName) ++
    '=' :: (form.beforeLiteral ++ (form.literal ++ form.afterLiteral))

variable {form other : BindingForm}

theorem blanks (form : BindingForm) :
    (∀ c ∈ form.beforeName, Text.isBlank c = true) ∧
      (∀ c ∈ form.afterName, Text.isBlank c = true) ∧
      (∀ c ∈ form.beforeLiteral, Text.isBlank c = true) ∧
      ∀ c ∈ form.afterLiteral, Text.isBlank c = true := by
  have hblank := form.blank
  simp only [List.mem_append] at hblank
  exact ⟨fun c hc => hblank c (by simp [hc]), fun c hc => hblank c (by simp [hc]),
    fun c hc => hblank c (by simp [hc]), fun c hc => hblank c (by simp [hc])⟩

theorem isBlank_letter (form : BindingForm) :
    ∀ c ∈ [form.letter], Text.isBlank c = false := by
  simpa using isBlank_eq_false_of_isAlpha form.isAlpha

/-- The first equals sign of a form is the one that divides it. -/
theorem span_text (form : BindingForm) :
    form.text.span (· ≠ '=') = (form.beforeName ++ form.letter :: form.afterName,
      '=' :: (form.beforeLiteral ++ (form.literal ++ form.afterLiteral))) := by
  obtain ⟨hbefore, hafter, -, -⟩ := form.blanks
  have hblank : ∀ c, Text.isBlank c = true → c ≠ '=' := by
    rintro c hc rfl
    contradiction
  have hletter : form.letter ≠ '=' := by
    intro heq
    have halpha := form.isAlpha
    rw [heq] at halpha
    exact absurd halpha (by decide)
  have hname : ∀ c ∈ form.beforeName ++ form.letter :: form.afterName, decide (c ≠ '=') = true := by
    intro c hc
    rw [decide_eq_true_eq]
    rcases List.mem_append.mp hc with hc | hc
    · exact hblank c (hbefore c hc)
    rcases List.mem_cons.mp hc with rfl | hc
    · exact hletter
    · exact hblank c (hafter c hc)
  rw [List.span_eq_takeWhile_dropWhile, text, List.takeWhile_append_of_pos hname,
    List.dropWhile_append_of_pos hname]
  simp

theorem trim_name (form : BindingForm) :
    Text.trim (form.beforeName ++ form.letter :: form.afterName) = [form.letter] := by
  obtain ⟨hbefore, hafter, -, -⟩ := form.blanks
  exact Text.trim_append hbefore form.isBlank_letter hafter

theorem trim_literal (form : BindingForm) :
    Text.trim (form.beforeLiteral ++ (form.literal ++ form.afterLiteral)) = form.literal := by
  obtain ⟨-, -, hbefore, hafter⟩ := form.blanks
  exact Text.trim_append hbefore form.isLiteral.isBlank_eq_false hafter

/-- A form is read as the binding that it states. -/
theorem parseBinding_text {argument : String} (h : form.text = argument.toList) :
    parseBinding argument = .ok (form.name, form.value) := by
  have hletter : letterName? [form.letter] = some form.name := if_pos form.isAlpha
  have hvalue := Double.ofLiteral_eq_ok_iff.mpr form.isLiteral
  simp only [parseBinding, ← h, form.span_text, form.trim_name, form.trim_literal, hletter, hvalue]

end BindingForm

theorem letterName?_eq_some {cs : List Char} {name : String} (h : letterName? cs = some name) :
    ∃ c : Char, c.isAlpha = true ∧ cs = [c] ∧ c.toString = name := by
  unfold letterName? at h
  split at h
  · next c =>
    split at h
    · next hc => exact ⟨c, hc, rfl, Option.some.inj h⟩
    · contradiction
  · contradiction

theorem eq_append_of_span {cs before after : List Char} {sign : Char}
    (h : cs.span (· ≠ '=') = (before, sign :: after)) : cs = before ++ '=' :: after := by
  rw [List.span_eq_takeWhile_dropWhile, Prod.mk.injEq] at h
  obtain ⟨hbefore, hafter⟩ := h
  have hsign := List.head?_dropWhile_not (· ≠ '=') cs
  rw [hafter] at hsign
  obtain rfl : sign = '=' := by simpa using hsign
  rw [← hbefore, ← hafter, List.takeWhile_append_dropWhile]

/-- An argument that is read has a form. -/
theorem exists_form_of_parseBinding {argument name : String} {value : Double}
    (h : parseBinding argument = .ok (name, value)) :
    ∃ form : BindingForm, form.text = argument.toList ∧ form.name = name ∧ form.value = value := by
  unfold parseBinding at h
  split at h
  · contradiction
  · next before sign after hspan =>
    split at h
    · contradiction
    · next letter hletter =>
      split at h
      · contradiction
      · next v hv =>
        cases h
        obtain ⟨c, hc, htrim, hname⟩ := letterName?_eq_some hletter
        obtain ⟨front, back, hfront, hback, hbefore⟩ := Text.exists_trim_eq before
        obtain ⟨front', back', hfront', hback', hafter⟩ := Text.exists_trim_eq after
        rw [htrim] at hbefore
        refine ⟨⟨front, c, back, front', Text.trim after, back', value, ?_, hc,
          Double.ofLiteral_eq_ok_iff.mp hv⟩, ?_, hname, rfl⟩
        · intro d hd
          simp only [List.mem_append] at hd
          rcases hd with ((hd | hd) | hd) | hd
          · exact hfront d hd
          · exact hback d hd
          · exact hfront' d hd
          · exact hback' d hd
        · rw [eq_append_of_span hspan, BindingForm.text, ← hafter]
          exact congrArg (· ++ '=' :: after) hbefore.symm

/-- No text has two forms. -/
theorem BindingForm.text_injective : Function.Injective BindingForm.text := by
  intro form other h
  have hspan := congrArg (List.span (· ≠ '=')) h
  rw [form.span_text, other.span_text, Prod.mk.injEq] at hspan
  obtain ⟨hname, hliteral⟩ := hspan
  obtain ⟨hbefore, hafter, hstart, hend⟩ := form.blanks
  obtain ⟨hbefore', hafter', hstart', hend'⟩ := other.blanks
  have hne : form.literal ≠ [] := by
    intro hnil
    have hvalue := Double.ofLiteral_eq_ok_iff.mpr form.isLiteral
    rw [hnil] at hvalue
    contradiction
  obtain ⟨h1, h2, h3⟩ := Text.append_blanks_inj hbefore form.isBlank_letter hafter hbefore'
    other.isBlank_letter hafter' (List.cons_ne_nil _ _) hname
  obtain ⟨h4, h5, h6⟩ := Text.append_blanks_inj hstart form.isLiteral.isBlank_eq_false hend hstart'
    other.isLiteral.isBlank_eq_false hend' hne (List.cons.inj hliteral).2
  have hvalue : form.value = other.value := form.isLiteral.unique (h5 ▸ other.isLiteral)
  cases form
  cases other
  simp_all

/-! ### The letters that can be bound -/

/-- The form without blanks that gives a letter a value. -/
def BindingForm.plain (c : Char) (hc : c.isAlpha = true) (value : Double)
    (hvalue : value.isNaN = false) : BindingForm where
  beforeName := []
  letter := c
  afterName := []
  beforeLiteral := []
  literal := value.text.toList
  afterLiteral := []
  value := value
  blank := by simp
  isAlpha := hc
  isLiteral := Double.isLiteral_text hvalue

theorem exists_parseBinding_iff {name : String} :
    (∃ argument value, parseBinding argument = .ok (name, value)) ↔
      ∃ c : Char, c.isAlpha = true ∧ c.toString = name := by
  constructor
  · rintro ⟨argument, value, h⟩
    obtain ⟨form, -, hname, -⟩ := exists_form_of_parseBinding h
    exact ⟨form.letter, form.isAlpha, hname⟩
  · rintro ⟨c, hc, rfl⟩
    have hzero : (Double.ofMagnitude false 0).isNaN = false := by decide
    exact ⟨_, _, (BindingForm.plain c hc _ hzero).parseBinding_text String.toList_ofList.symm⟩

theorem exists_mem_items_iff {name : String} :
    (∃ source token, .ok token ∈ Lexer.items source ∧ token.kind = .letter name) ↔
      ∃ c : Char, c.isAlpha = true ∧ c.toString = name := by
  constructor
  · rintro ⟨source, token, htoken, hkind⟩
    have h := Lexer.isToken_of_mem_items htoken
    rw [hkind] at h
    generalize token.lexeme.toList = lexeme at h
    cases h with
    | fixed hfixed => simp [Token.Kind.fixed] at hfixed
    | letter hc => exact ⟨_, hc, rfl⟩
  · rintro ⟨c, hc, rfl⟩
    have h : Lexer.IsToken c.toString.toList (.letter c.toString) := by
      simpa using Lexer.IsToken.letter hc
    exact ⟨c.toString, _, by rw [h.items_eq]; exact List.mem_cons_self, rfl⟩

/-- Exactly the arguments that have a form are read, as the binding that the form states, and no
argument has two.  The names that are bound are those that the lexer finds. -/
theorem parseBinding_forms :
    (∀ argument name value, parseBinding argument = .ok (name, value) ↔
      ∃ form : BindingForm, form.text = argument.toList ∧ form.name = name ∧ form.value = value) ∧
    Function.Injective BindingForm.text ∧
    ∀ name, (∃ argument value, parseBinding argument = .ok (name, value)) ↔
      ∃ source token, .ok token ∈ Lexer.items source ∧ token.kind = .letter name := by
  refine ⟨?_, BindingForm.text_injective, ?_⟩
  · intro argument name value
    constructor
    · exact exists_form_of_parseBinding
    · rintro ⟨form, htext, rfl, rfl⟩
      exact form.parseBinding_text htext
  · intro name
    rw [exists_parseBinding_iff, exists_mem_items_iff]

end Formula
