import FilterQuery.Proofs.Display

/-!
  FilterQuery.Proofs.JsonText

  The compact text of a JSON value. It is written on one line, whatever its strings contain, and
  it determines the value, unless there are floating point numbers in it: a string ends at its
  mark, a number where no plain character follows, and the parts of arrays and objects before a
  comma or the closing bracket. The first character tells the kind of the value.

  Main statements: `Json.isControlFree_compact`, `Json.compact_append_inj`.
-/

namespace FilterQuery

/-! ## Control characters -/

/-- A text without characters below U+0020. -/
def Text.IsControlFree (t : Text) : Prop :=
  ∀ c ∈ t, 0x20 ≤ c.toNat

instance : DecidablePred Text.IsControlFree := fun t =>
  decidable_of_iff (t.all fun c => decide (0x20 ≤ c.toNat)) (by simp [Text.IsControlFree])

namespace Text

@[simp] theorem isControlFree_nil : IsControlFree [] :=
  List.forall_mem_nil _

@[simp] theorem isControlFree_cons {c : Char} {t : Text} :
    IsControlFree (c :: t) ↔ 0x20 ≤ c.toNat ∧ IsControlFree t :=
  List.forall_mem_cons

@[simp] theorem isControlFree_append {t u : Text} :
    IsControlFree (t ++ u) ↔ IsControlFree t ∧ IsControlFree u :=
  List.forall_mem_append

theorem IsPlain.isControlFree {t : Text} (h : IsPlain t) : IsControlFree t := by
  have hbelow : ∀ n : Fin 0x20, isPlainChar (Char.ofNat n) = false := by decide
  intro c hc
  apply Nat.le_of_not_lt
  intro hlow
  have hplain : isPlainChar c = true := h c hc
  have hcontrol := hbelow ⟨c.toNat, hlow⟩
  rw [Char.ofNat_toNat, hplain] at hcontrol
  cases hcontrol

theorem IsPlain.take {t : Text} (h : IsPlain t) (n : Nat) : IsPlain (t.take n) :=
  fun c hc => h c (List.mem_of_mem_take hc)

theorem IsPlain.drop {t : Text} (h : IsPlain t) (n : Nat) : IsPlain (t.drop n) :=
  fun c hc => h c (List.mem_of_mem_drop hc)

theorem IsControlFree.newline_notMem {t : Text} (h : IsControlFree t) : '\n' ∉ t := by
  intro hmem
  have hnewline : ¬0x20 ≤ '\n'.toNat := by decide
  exact hnewline (h _ hmem)

end Text

/-! ## Numbers -/

namespace FloatStyle

/-- A style whose own words are plain texts. -/
structure IsPlain (style : FloatStyle) : Prop where
  wholeMark : style.wholeMark.IsPlain
  notANumber : style.notANumber.IsPlain
  infinity : style.infinity.IsPlain
  negativeInfinity : style.negativeInfinity.IsPlain

theorem isPlain_shortest (tie : Binary64.Tie) (x : Binary64) :
    (x.shortest tie).digits.IsPlain := by
  intro c hc
  have hkept : c ∈ Text.ofNat (Binary64.shortestFrom tie x
      (Binary64.floorLog10 x.ratio.1 x.ratio.2) 1 17).1 :=
    List.mem_reverse.1 ((List.dropWhile_sublist _).subset (List.mem_reverse.1 hc))
  exact isPlainChar_of_isDigit (Text.isDigit_of_mem_ofNat hkept)

section Digits

variable {wholeMark digits : Text} (hdigits : digits.IsPlain)

include hdigits

theorem isPlain_placePoint (hmark : wholeMark.IsPlain) (point : Int) :
    (placePoint wholeMark digits point).IsPlain := by
  have hzeros (n : Nat) : Text.IsPlain (List.replicate n '0') := by
    intro c hc
    rw [List.eq_of_mem_replicate hc]
    rfl
  have hpoint : Text.IsPlain ['.'] := by decide
  have hleading : Text.IsPlain ['0', '.'] := by decide
  unfold placePoint
  split
  · simp only [Text.isPlain_append]
    exact ⟨⟨hleading, hzeros _⟩, hdigits⟩
  · split
    · simp only [List.rightpad, Text.isPlain_append]
      exact ⟨⟨hdigits, hzeros _⟩, hmark⟩
    · simp only [Text.isPlain_append]
      exact ⟨⟨hdigits.take _, hpoint⟩, hdigits.drop _⟩

theorem isPlain_withExponent (exponent : Int) : (withExponent digits exponent).IsPlain := by
  have hletter : Text.IsPlain ['e'] := by decide
  have hplaces : Text.IsPlain (if (digits.drop 1).isEmpty then [] else '.' :: digits.drop 1) := by
    split
    · exact Text.isPlain_nil
    · exact Text.isPlain_cons.2 ⟨rfl, hdigits.drop 1⟩
  have hsign : Text.IsPlain (if 0 ≤ exponent then ['+'] else []) := by
    split <;> decide
  simp only [withExponent, Text.isPlain_append]
  exact ⟨⟨⟨⟨hdigits.take 1, hplaces⟩, hletter⟩, hsign⟩, Text.isPlain_ofInt exponent⟩

end Digits

theorem IsPlain.write {style : FloatStyle} (h : style.IsPlain) (x : Float) :
    (style.write x).IsPlain := by
  have hpositive (x : Binary64) : (style.writePositive x).IsPlain := by
    have hdigits := isPlain_shortest style.tie x
    simp only [writePositive]
    split
    · exact isPlain_placePoint hdigits h.wholeMark _
    · exact isPlain_withExponent hdigits _
  have hunsigned (x : Binary64) : Text.IsPlain
      (if x.significand = 0 then '0' :: style.wholeMark else style.writePositive x) := by
    split
    · exact Text.isPlain_cons.2 ⟨rfl, h.wholeMark⟩
    · exact hpositive x
  simp only [FloatStyle.write]
  split
  · exact h.notANumber
  · split
    · split
      · exact h.negativeInfinity
      · exact h.infinity
    · split
      · exact Text.isPlain_cons.2 ⟨rfl, hunsigned _⟩
      · exact hunsigned _

end FloatStyle

/-- An integer is known from a text that begins with it, if no plain character follows it. -/
theorem Text.ofInt_append_inj {m n : Int} {s t : Text}
    (hs : ∀ c, s.head? = some c → isPlainChar c = false)
    (ht : ∀ c, t.head? = some c → isPlainChar c = false) (h : ofInt m ++ s = ofInt n ++ t) :
    m = n ∧ s = t := by
  have hm := takeWhile_append_of_head (isPlain_ofInt m) hs
  have hn := takeWhile_append_of_head (isPlain_ofInt n) ht
  rw [h] at hm
  exact ⟨ofInt_injective (hm.1.symm.trans hn.1), hm.2.symm.trans hn.2⟩

/-! ## Strings -/

namespace Json

/-- The characters that are escaped by one letter or mark, with that. -/
def shortEscapes : List (Char × Char) :=
  [('"', '"'), ('\\', '\\'), ('\x08', 'b'), ('\t', 't'), ('\n', 'n'), ('\x0c', 'f'), ('\r', 'r')]

/-- The code of a character below U+0020 is its two hexadecimal digits after two zeros. -/
theorem codeEscape_of_control {c : Char} (h : c.toNat < 0x20) :
    codeEscape c = ['\\', 'u', '0', '0', Nat.digitChar (c.toNat / 16),
      Nat.digitChar (c.toNat % 16)] := by
  have hall : ∀ n : Fin 0x20, (Nat.toDigits 16 n).leftpad 4 '0'
      = ['0', '0', Nat.digitChar (n / 16), Nat.digitChar (n % 16)] := by decide
  rw [codeEscape, hall ⟨c.toNat, h⟩]

/-- The three ways in which a character is written. -/
theorem escapeChar_cases (c : Char) :
    (escapeChar c = [c] ∧ c ≠ '"' ∧ c ≠ '\\' ∧ 0x20 ≤ c.toNat) ∨
    (∃ e, (c, e) ∈ shortEscapes ∧ escapeChar c = ['\\', e]) ∨
    (c.toNat < 0x20 ∧ escapeChar c = codeEscape c) := by
  by_cases hcontrol : c.toNat < 0x20
  · have hall : ∀ n : Fin 0x20, (∃ x ∈ shortEscapes, x.1 = Char.ofNat n ∧
        escapeChar (Char.ofNat n) = ['\\', x.2]) ∨
        escapeChar (Char.ofNat n) = codeEscape (Char.ofNat n) := by decide
    have hc := hall ⟨c.toNat, hcontrol⟩
    rw [Char.ofNat_toNat] at hc
    rcases hc with ⟨x, hx, rfl, hcode⟩ | hcode
    · exact .inr (.inl ⟨x.2, hx, hcode⟩)
    · exact .inr (.inr ⟨hcontrol, hcode⟩)
  · by_cases hquote : c = '"'
    · subst hquote
      exact .inr (.inl ⟨'"', by decide, rfl⟩)
    · by_cases hslash : c = '\\'
      · subst hslash
        exact .inr (.inl ⟨'\\', by decide, rfl⟩)
      · refine .inl ⟨?_, hquote, hslash, Nat.le_of_not_lt hcontrol⟩
        rw [escapeChar, if_neg hquote, if_neg hslash, if_neg hcontrol]

/-- How strings are written. The code of a control character has four digits, so it can be told
    from what follows. -/
def escaping : Text.Escaping where
  code := escapeChar
  short := shortEscapes
  HasBody c := c.toNat < 0x20
  body c := (Nat.toDigits 16 c.toNat).leftpad 4 '0'
  cases c := by
    rcases escapeChar_cases c with ⟨hplain, hquote, hslash, -⟩ | hshort | hcode
    · exact .inl ⟨hplain, hquote, hslash⟩
    · exact .inr (.inl hshort)
    · exact .inr (.inr hcode)
  short_injective := by decide
  short_ne_body := by decide
  body_append_inj {c d s t} hc hd h := by
    have hcodes : codeEscape c ++ s = codeEscape d ++ t := congrArg (fun u => '\\' :: 'u' :: u) h
    rw [codeEscape_of_control hc, codeEscape_of_control hd] at hcodes
    simp only [List.cons_append, List.nil_append, List.cons.injEq, true_and] at hcodes
    obtain ⟨hhigh, hlow, hrest⟩ := hcodes
    have hdiv : c.toNat / 16 = d.toNat / 16 := Text.digitChar_injective (by omega) (by omega) hhigh
    have hmod : c.toNat % 16 = d.toNat % 16 := Text.digitChar_injective (by omega) (by omega) hlow
    exact ⟨Char.toNat_inj.1 (by omega), hrest⟩

theorem writeString_append_inj {s t u v : Text} (h : writeString s ++ u = writeString t ++ v) :
    s = t ∧ u = v :=
  escaping.delimited_append_inj h

theorem isControlFree_escapeChar (c : Char) : (escapeChar c).IsControlFree := by
  have hshort : ∀ x ∈ shortEscapes, Text.IsControlFree ['\\', x.2] := by decide
  have hdigit : ∀ n : Fin 16, 0x20 ≤ (Nat.digitChar n).toNat := by decide
  rcases escapeChar_cases c with ⟨hc, -, -, hvisible⟩ | ⟨e, he, hc⟩ | ⟨hcontrol, hc⟩ <;> rw [hc]
  · exact Text.isControlFree_cons.2 ⟨hvisible, Text.isControlFree_nil⟩
  · exact hshort _ he
  · rw [codeEscape_of_control hcontrol]
    have hhigh := hdigit ⟨c.toNat / 16, by omega⟩
    have hlow := hdigit ⟨c.toNat % 16, by omega⟩
    simp [hhigh, hlow]

theorem isControlFree_writeString (t : Text) : (writeString t).IsControlFree := by
  have hcodes : Text.IsControlFree (t.flatMap escapeChar) := by
    intro d hd
    obtain ⟨c, -, hmem⟩ := List.mem_flatMap.1 hd
    exact isControlFree_escapeChar c d hmem
  simp [writeString, hcodes]

/-! ## Compact texts -/

theorem isPlain_floatStyle : floatStyle.IsPlain where
  wholeMark := by decide
  notANumber := by decide
  infinity := by decide
  negativeInfinity := by decide

mutual

/-- A compact text is written on one line. -/
theorem isControlFree_compact : ∀ j : Json, j.compact.IsControlFree
  | null => by decide
  | bool true => by decide
  | bool false => by decide
  | integer n => (Text.isPlain_ofInt n).isControlFree
  | float x => (isPlain_floatStyle.write x).isControlFree
  | string t => isControlFree_writeString t
  | array elements => by simp [compact, isControlFree_compactElements elements]
  | object members => by simp [compact, isControlFree_compactMembers members]

theorem isControlFree_compactElements :
    ∀ elements : List Json, Text.IsControlFree (compactElements elements)
  | [] => Text.isControlFree_nil
  | [e] => isControlFree_compact e
  | e :: e' :: more => by
    simp [compactElements, isControlFree_compact e, isControlFree_compactElements (e' :: more)]

theorem isControlFree_compactMembers :
    ∀ members : List (Text × Json), Text.IsControlFree (compactMembers members)
  | [] => Text.isControlFree_nil
  | [(name, value)] => by
    simp [compactMembers, isControlFree_writeString name, isControlFree_compact value]
  | (name, value) :: m :: more => by
    simp [compactMembers, isControlFree_writeString name, isControlFree_compact value,
      isControlFree_compactMembers (m :: more)]

end

/-! ## Values without floating point numbers -/

/-- A value without floating point numbers, whose text says all of it. -/
inductive IsExact : Json → Prop
  | null : IsExact null
  | bool (b : Bool) : IsExact (bool b)
  | integer (n : Int) : IsExact (integer n)
  | string (t : Text) : IsExact (string t)
  | array {elements : List Json} (h : ∀ e ∈ elements, IsExact e) : IsExact (array elements)
  | object {members : List (Text × Json)} (h : ∀ m ∈ members, IsExact m.2) :
      IsExact (object members)

/-- What the first character of a compact text tells: all numbers are of one kind. -/
def kindOfChar (c : Char) : Char :=
  if c.isDigit then '-' else c

def kind : Json → Char
  | null => 'n'
  | bool true => 't'
  | bool false => 'f'
  | integer _ | float _ => '-'
  | string _ => '"'
  | array _ => '['
  | object _ => '\x7b'

theorem IsExact.head_compact {j : Json} (hj : j.IsExact) (s : Text) :
    (j.compact ++ s).head?.map kindOfChar = some j.kind := by
  cases hj with
  | null => rfl
  | bool b => cases b <;> rfl
  | @integer n =>
    cases n with
    | negSucc n => rfl
    | ofNat n =>
      obtain ⟨c, rest, htext⟩ := List.exists_cons_of_ne_nil (Text.ofNat_ne_nil n)
      have hdigit : c.isDigit = true :=
        Text.isDigit_of_mem_ofNat (n := n) (htext ▸ List.mem_cons_self)
      show (Text.ofNat n ++ s).head?.map kindOfChar = some '-'
      simp [htext, kindOfChar, hdigit]
  | string t => rfl
  | array h => rfl
  | object h => rfl

theorem kind_eq_of_append {j k : Json} (hj : j.IsExact) (hk : k.IsExact) {s t : Text}
    (h : j.compact ++ s = k.compact ++ t) : j.kind = k.kind := by
  rw [← Option.some.injEq, ← hj.head_compact s, h, hk.head_compact t]

/-- No value begins as an array ends. -/
theorem IsExact.head_ne_bracket {j : Json} (hj : j.IsExact) (s : Text) :
    (j.compact ++ s).head? ≠ some ']' := by
  intro h
  have hkind := hj.head_compact s
  rw [h] at hkind
  cases hj with
  | bool b => cases b <;> cases hkind
  | null | integer | string | array | object => cases hkind

def compactMember (m : Text × Json) : Text :=
  writeString m.1 ++ ':' :: m.2.compact

theorem compactElements_eq (elements : List Json) :
    compactElements elements = [','].intercalate (elements.map compact) := by
  induction elements with
  | nil => rfl
  | cons e elements ih =>
    cases elements with
    | nil => simp [compactElements]
    | cons e' more =>
      rw [compactElements, ih]
      simp [List.intercalate_cons_cons]

theorem compactMembers_eq (members : List (Text × Json)) :
    compactMembers members = [','].intercalate (members.map compactMember) := by
  induction members with
  | nil => rfl
  | cons m members ih =>
    cases members with
    | nil => simp [compactMembers, compactMember]
    | cons m' more =>
      rw [compactMembers, ih]
      simp [List.intercalate_cons_cons, compactMember]

/-- A value is known from a text that begins with its compact text, if no plain character
    follows it. -/
theorem compact_append_inj {j k : Json} (hj : j.IsExact) (hk : k.IsExact) {s t : Text}
    (hs : ∀ c, s.head? = some c → isPlainChar c = false)
    (ht : ∀ c, t.head? = some c → isPlainChar c = false) (h : j.compact ++ s = k.compact ++ t) :
    j = k ∧ s = t := by
  induction hj generalizing k s t with
  | null =>
    have hkind := kind_eq_of_append .null hk h
    cases hk with
    | null => exact ⟨rfl, List.append_cancel_left h⟩
    | bool b => cases b <;> cases hkind
    | integer | string | array | object => cases hkind
  | bool a =>
    have hkind := kind_eq_of_append (.bool a) hk h
    cases hk with
    | bool b =>
      obtain rfl : a = b := by cases a <;> cases b <;> first | rfl | cases hkind
      exact ⟨rfl, List.append_cancel_left h⟩
    | null | integer | string | array | object => cases a <;> cases hkind
  | integer m =>
    have hkind := kind_eq_of_append (.integer m) hk h
    cases hk with
    | integer n =>
      obtain ⟨rfl, hrest⟩ := Text.ofInt_append_inj hs ht h
      exact ⟨rfl, hrest⟩
    | bool b => cases b <;> cases hkind
    | null | string | array | object => cases hkind
  | string a =>
    have hkind := kind_eq_of_append (.string a) hk h
    cases hk with
    | string b =>
      obtain ⟨rfl, hrest⟩ := writeString_append_inj h
      exact ⟨rfl, hrest⟩
    | bool b => cases b <;> cases hkind
    | null | integer | array | object => cases hkind
  | @array elements helements ih =>
    have hkind := kind_eq_of_append (.array helements) hk h
    cases hk with
    | @array elements' helements' =>
      have hparts : [','].intercalate (elements.map compact) ++ ']' :: s
          = [','].intercalate (elements'.map compact) ++ ']' :: t := by
        simpa [compact, compactElements_eq] using h
      obtain ⟨rfl, hrest⟩ := Text.joined_append_inj (by decide)
        (fun e he e' he' c hc d hd s t heq => ih e he (helements' e' he')
          (not_isPlainChar_of_follows rfl hc s) (not_isPlainChar_of_follows rfl hd t) heq)
        (fun e he => (helements e he).head_ne_bracket)
        (fun e he => (helements' e he).head_ne_bracket) hparts
      exact ⟨rfl, hrest⟩
    | bool b => cases b <;> cases hkind
    | null | integer | string | object => cases hkind
  | @object members hmembers ih =>
    have hkind := kind_eq_of_append (.object hmembers) hk h
    cases hk with
    | @object members' hmembers' =>
      have hparts : [','].intercalate (members.map compactMember) ++ '\x7d' :: s
          = [','].intercalate (members'.map compactMember) ++ '\x7d' :: t := by
        simpa [compact, compactMembers_eq] using h
      have hhead (m : Text × Json) (s : Text) : (compactMember m ++ s).head? ≠ some '\x7d' := by
        intro hbrace
        cases hbrace
      obtain ⟨rfl, hrest⟩ := Text.joined_append_inj (by decide)
        (fun m hm m' hm' c hc d hd s t heq => by
          obtain ⟨name, value⟩ := m
          obtain ⟨name', value'⟩ := m'
          have hpair : writeString name ++ ':' :: (value.compact ++ c :: s)
              = writeString name' ++ ':' :: (value'.compact ++ d :: t) := by
            simpa [compactMember] using heq
          obtain ⟨rfl, hvalues⟩ := writeString_append_inj hpair
          obtain ⟨rfl, hrest⟩ := ih _ hm (hmembers' _ hm') (not_isPlainChar_of_follows rfl hc s)
            (not_isPlainChar_of_follows rfl hd t) (List.cons.inj hvalues).2
          exact ⟨rfl, hrest⟩)
        (fun m _ => hhead m) (fun m _ => hhead m) hparts
      exact ⟨rfl, hrest⟩
    | bool b => cases b <;> cases hkind
    | null | integer | string | array => cases hkind

/-- Values without floating point numbers have different compact texts. -/
theorem compact_injective {j k : Json} (hj : j.IsExact) (hk : k.IsExact)
    (h : j.compact = k.compact) : j = k := by
  have hnil : j.compact ++ [] = k.compact ++ [] := by rw [h]
  exact (compact_append_inj hj hk (by simp) (by simp) hnil).1

end Json
end FilterQuery
