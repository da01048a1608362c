import FilterQuery.Text.Quoted

/-!
  FilterQuery.Proofs.Quotation

  Reading a text from the left, each place lies inside or outside of quotation marks
  (`QuoteState`). Quoted texts end outside, where they began. Outside, no equals sign and no
  backslash is allowed; so from the two sides of a mark no text leads to the same state, and an
  equals sign between spaces stands at one place at most before a text that ends outside.

  Main statement: `Text.append_equals_inj`.
-/

namespace FilterQuery

/-! ## States -/

/-- Where a place in a text lies. -/
inductive QuoteState where
  | outside
  | inside
  /-- Behind a backslash between quotation marks. -/
  | escaped
deriving DecidableEq

namespace QuoteState

/-- The state after one more character. Outside of quotation marks there is neither an equals
    sign nor a backslash. -/
def step : QuoteState → Char → Option QuoteState
  | outside, c =>
    if c = '"' then some inside else if c = '=' ∨ c = '\\' then none else some outside
  | inside, c => if c = '"' then some outside else if c = '\\' then some escaped else some inside
  | escaped, _ => some inside

def after (s : QuoteState) (t : Text) : Option QuoteState :=
  t.foldlM step s

theorem after_cons (s : QuoteState) (c : Char) (t : Text) :
    s.after (c :: t) = (s.step c).bind fun next => next.after t :=
  List.foldlM_cons

theorem after_append (s : QuoteState) (t u : Text) :
    s.after (t ++ u) = (s.after t).bind fun next => next.after u :=
  List.foldlM_append

/-- From outside and from inside no text leads to the same state: a quotation mark swaps the
    two, and any other character keeps them or is not allowed outside. -/
theorem after_inside_ne {t : Text} {s : QuoteState} (h : after outside t = some s) :
    after inside t ≠ some s := by
  induction t with
  | nil =>
    cases h
    intro h
    cases h
  | cons c t ih =>
    rw [after_cons] at h ⊢
    by_cases hquote : c = '"'
    · subst hquote
      intro hinside
      exact ih hinside h
    · by_cases hmark : c = '=' ∨ c = '\\'
      · simp only [step, hquote, hmark, if_true, if_false] at h
        cases h
      · obtain ⟨hequals, hslash⟩ := not_or.1 hmark
        simp only [step, hquote, hequals, hslash, or_self, if_false] at h ⊢
        exact ih h

end QuoteState

/-! ## Balanced texts -/

namespace Text

open QuoteState

/-- A text that ends outside of quotation marks, as it begins. -/
def IsBalanced (t : Text) : Prop :=
  outside.after t = some outside

theorem IsBalanced.append {t u : Text} (ht : IsBalanced t) (hu : IsBalanced u) :
    IsBalanced (t ++ u) := by
  rw [IsBalanced, after_append, ht]
  exact hu

theorem isBalanced_of_forall {t : Text} (h : ∀ c ∈ t, c ∉ ['"', '=', '\\']) : IsBalanced t := by
  induction t with
  | nil => rfl
  | cons c t ih =>
    obtain ⟨hc, ht⟩ := List.forall_mem_cons.1 h
    simp only [List.mem_cons, List.not_mem_nil, or_false, not_or] at hc
    rw [IsBalanced, after_cons]
    simp only [step, hc, or_self, if_false]
    exact ih ht

/-- Between quotation marks a character is written without leaving them. -/
theorem after_quoteChar (c : Char) : inside.after (quoteChar c) = some inside := by
  have hshort : ∀ x ∈ shortEscapes, inside.after ['\\', x.2] = some inside := by decide
  have hkeep {t : Text} (h : ∀ c ∈ t, c ≠ '"' ∧ c ≠ '\\') : inside.after t = some inside := by
    induction t with
    | nil => rfl
    | cons c t ih =>
      obtain ⟨⟨hquote, hslash⟩, ht⟩ := List.forall_mem_cons.1 h
      rw [after_cons]
      simp only [step, hquote, hslash, if_false]
      exact ih ht
  rcases quoteChar_cases c with ⟨hc, hquote, hslash⟩ | ⟨e, he, hc⟩ | hc <;> rw [hc]
  · exact hkeep (by simpa using ⟨hquote, hslash⟩)
  · exact hshort _ he
  · -- behind `\u` there are braces and hexadecimal digits only
    have hdigit : ∀ i : Fin 16, Nat.digitChar i ≠ '"' ∧ Nat.digitChar i ≠ '\\' := by decide
    show inside.after ('\x7b' :: (Nat.toDigits 16 c.toNat ++ ['\x7d'])) = some inside
    refine hkeep fun d hd => ?_
    rcases List.mem_cons.1 hd with rfl | hd
    · decide
    · rcases List.mem_append.1 hd with hd | hd
      · obtain ⟨i, rfl⟩ := exists_of_mem_hexDigits hd
        exact hdigit i
      · rcases List.mem_singleton.1 hd with rfl
        decide

theorem isBalanced_quoted (t : Text) : IsBalanced t.quoted := by
  have hbody : inside.after (t.flatMap quoteChar) = some inside := by
    induction t with
    | nil => rfl
    | cons c t ih =>
      rw [List.flatMap_cons, after_append, after_quoteChar]
      exact ih
  show inside.after (t.flatMap quoteChar ++ ['"']) = some outside
  rw [after_append, hbody]
  rfl

/-- An equals sign between spaces comes before a balanced text at most once. -/
theorem not_isBalanced_of_suffix {front t : Text}
    (h : IsBalanced (front ++ ' ' :: '=' :: ' ' :: t)) : ¬IsBalanced t := by
  intro ht
  rw [IsBalanced, after_append] at h
  obtain ⟨s, -, hrest⟩ := Option.bind_eq_some_iff.1 h
  cases s with
  | outside => cases hrest
  | inside => exact after_inside_ne ht hrest
  | escaped => exact after_inside_ne ht hrest

/-- What stands before the equals sign is known from the text, whatever it contains. -/
theorem append_equals_inj {s t u v : Text} (hu : IsBalanced u) (hv : IsBalanced v)
    (h : s ++ ' ' :: '=' :: ' ' :: u = t ++ ' ' :: '=' :: ' ' :: v) : s = t ∧ u = v := by
  have hshorter {u v more : Text} (hu : IsBalanced u) (hv : IsBalanced v)
      (h : ' ' :: '=' :: ' ' :: u = more ++ ' ' :: '=' :: ' ' :: v) : more = [] ∧ u = v := by
    cases more with
    | nil =>
      cases h
      exact ⟨rfl, rfl⟩
    | cons a more =>
      exfalso
      cases more with
      | nil => cases h
      | cons b more =>
        cases more with
        | nil =>
          -- the text would begin with the equals sign
          cases h
          cases hu
        | cons c front =>
          cases h
          exact not_isBalanced_of_suffix hu hv
  rcases List.append_eq_append_iff.1 h with ⟨more, rfl, hmore⟩ | ⟨more, rfl, hmore⟩
  · obtain ⟨rfl, rfl⟩ := hshorter hu hv hmore
    exact ⟨(List.append_nil s).symm, rfl⟩
  · obtain ⟨rfl, rfl⟩ := hshorter hv hu hmore
    exact ⟨List.append_nil t, rfl⟩

end Text

end FilterQuery
