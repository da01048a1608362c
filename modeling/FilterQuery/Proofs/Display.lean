import FilterQuery.Proofs.Quotation
import FilterQuery.Proofs.RoundTrip
import FilterQuery.Proofs.WellFormed

/-!
  FilterQuery.Proofs.Display

  The text of a param determines the param. The values of a type other than text are shown in
  plain characters, none of which is a comma, a parenthesis or a quotation mark, and a text
  value ends at its closing mark; so a value can be told from what follows it, and so can the
  parts of a clause. The name of a param is shown as it is, and may look like the rest of a
  param; but clauses are balanced texts, so the equals sign before the clause is known.

  Main statement: `Reader.param_eq_of_display_eq`.
-/

namespace FilterQuery

/-! ## Values -/

/-- The characters of values that are no texts. -/
def isPlainChar (c : Char) : Bool :=
  c.isAlphanum || c = '-' || c = '+' || c = ':' || c = '.'

theorem isPlainChar_of_isDigit {c : Char} (h : c.isDigit) : isPlainChar c = true := by
  simp [isPlainChar, Char.isAlphanum, h]

/-- A text of plain characters. -/
def Text.IsPlain (t : Text) : Prop :=
  ∀ c ∈ t, isPlainChar c = true

instance : DecidablePred Text.IsPlain := fun _ =>
  decidable_of_iff _ List.all_eq_true

namespace Text

@[simp] theorem isPlain_nil : IsPlain [] :=
  List.forall_mem_nil _

@[simp] theorem isPlain_cons {c : Char} {t : Text} :
    IsPlain (c :: t) ↔ isPlainChar c = true ∧ IsPlain t :=
  List.forall_mem_cons

@[simp] theorem isPlain_append {t u : Text} : IsPlain (t ++ u) ↔ IsPlain t ∧ IsPlain u :=
  List.forall_mem_append

@[simp] theorem isPlain_ofNatPadded (width n : Nat) : IsPlain (ofNatPadded width n) :=
  fun _ hc => isPlainChar_of_isDigit (isDigit_of_mem_ofNatPadded hc)

@[simp] theorem isPlain_ofNat (n : Nat) : IsPlain (ofNat n) :=
  fun _ hc => isPlainChar_of_isDigit (isDigit_of_mem_ofNat hc)

theorem isPlain_ofInt (n : Int) : IsPlain (ofInt n) := by
  intro c hc
  rcases mem_ofInt hc with hdigit | rfl
  · exact isPlainChar_of_isDigit hdigit
  · rfl

theorem IsPlain.isBalanced {t : Text} (h : IsPlain t) : IsBalanced t := by
  refine isBalanced_of_forall fun c hc hmark => ?_
  have hplain : isPlainChar c = true := h c hc
  simp only [List.mem_cons, List.not_mem_nil, or_false] at hmark
  rcases hmark with rfl | rfl | rfl <;> exact absurd hplain (by decide)

end Text

theorem Date.isPlain_text (d : Date) : d.text.IsPlain := by
  have hyear : (yearText d.year).IsPlain := by
    unfold yearText
    split
    · simp
    · split <;> simp +decide
  simp +decide [text, hyear]

theorem DateTime.isPlain_text (dt : DateTime) : dt.text.IsPlain := by
  have hfraction : (Time.fractionText dt.time.nanosecond).IsPlain := by
    unfold Time.fractionText
    split
    · simp
    · split
      · simp +decide
      · split <;> simp +decide
  simp +decide [text, Time.text, dt.date.isPlain_text, hfraction]

theorem UtcOffset.isPlain_text (offset : UtcOffset) : offset.text.IsPlain := by
  unfold text
  split <;> simp +decide

theorem Uuid.isPlain_text (u : Uuid) : u.text.IsPlain := by
  have hdigit : ∀ n : Fin 16, isPlainChar (hexDigit n) = true := by decide
  intro c hc
  rcases mem_text hc with rfl | ⟨n, rfl⟩
  · rfl
  · exact hdigit n

namespace Value

variable {type : FieldType} {v w : Value}

theorem isPlain_display (hv : v.HasType type) (hfloat : type ≠ .float) (htext : type ≠ .text) :
    v.display.IsPlain := by
  cases hv with
  | @integer n hn => exact Text.isPlain_ofInt n
  | float x => exact absurd rfl hfloat
  | text t => exact absurd rfl htext
  | boolean b => cases b <;> decide
  | date d => exact d.isPlain_text
  | dateTime dt => exact dt.isPlain_text
  | offsetDateTime dt =>
    exact Text.isPlain_append.2 ⟨dt.wallClock.isPlain_text, dt.offset.isPlain_text⟩
  | uuid u => exact u.isPlain_text

theorem isBalanced_display (hv : v.HasType type) (hfloat : type ≠ .float) :
    v.display.IsBalanced := by
  by_cases htext : type = .text
  · subst htext
    cases hv with
    | text t => exact t.isBalanced_quoted
  · exact (isPlain_display hv hfloat htext).isBalanced

/-- A value is known from a text that begins with it, if no plain character follows it. -/
theorem display_append_inj (hv : v.HasType type) (hw : w.HasType type) (hfloat : type ≠ .float)
    {s t : Text} (hs : ∀ c, s.head? = some c → isPlainChar c = false)
    (ht : ∀ c, t.head? = some c → isPlainChar c = false) (h : v.display ++ s = w.display ++ t) :
    v = w ∧ s = t := by
  by_cases htext : type = .text
  · subst htext
    cases hv with
    | text a =>
      cases hw with
      | text b =>
        obtain ⟨rfl, rfl⟩ := Text.quoted_append_inj h
        exact ⟨rfl, rfl⟩
  · have hv' := Text.takeWhile_append_of_head (isPlain_display hv hfloat htext) hs
    have hw' := Text.takeWhile_append_of_head (isPlain_display hw hfloat htext) ht
    rw [h] at hv'
    have hdisplay : v.display = w.display := hv'.1.symm.trans hw'.1
    have hread : (.ok v : Except CastError Value) = .ok w := by
      rw [← CastTable.caster_display hv hfloat htext, hdisplay,
        CastTable.caster_display hw hfloat htext]
    exact ⟨Except.ok.inj hread, hv'.2.symm.trans hw'.2⟩

theorem display_ne_nil (hv : v.HasType type) (hfloat : type ≠ .float) : v.display ≠ [] := by
  cases hv with
  | @integer n hn => cases n <;> simp [display, Text.ofInt, Text.ofNat_ne_nil]
  | float x => exact absurd rfl hfloat
  | text t => simp [display, Text.quoted]
  | boolean b => cases b <;> simp [display]
  | date d => simp [display, Date.text]
  | dateTime dt => simp [display, DateTime.text]
  | offsetDateTime dt => simp [display, OffsetDateTime.text, DateTime.text]
  | uuid u =>
    intro hnil
    have hlength : u.text.length = 36 := u.length_text
    rw [show u.text = [] from hnil] at hlength
    cases hlength

/-- No value begins with a closing parenthesis. -/
theorem head_display (hv : v.HasType type) (hfloat : type ≠ .float) (s : Text) :
    (v.display ++ s).head? ≠ some ')' := by
  cases hdisplay : v.display with
  | nil => exact absurd hdisplay (display_ne_nil hv hfloat)
  | cons c rest =>
    rintro ⟨⟩
    by_cases htext : type = .text
    · subst htext
      cases hv with
      | text t => cases hdisplay
    · have hplain : isPlainChar ')' = true :=
        isPlain_display hv hfloat htext _ (hdisplay ▸ List.mem_cons_self)
      cases hplain

theorem display_injective (hv : v.HasType type) (hw : w.HasType type) (hfloat : type ≠ .float)
    (h : v.display = w.display) : v = w := by
  have hnil : v.display ++ [] = w.display ++ [] := by rw [h]
  exact (display_append_inj hv hw hfloat (by simp) (by simp) hnil).1

end Value

/-! ## Members and bounds -/

theorem Text.intercalate_cons (joint piece : Text) (more : List Text) :
    joint.intercalate (piece :: more)
      = piece ++ if more.isEmpty then [] else joint ++ joint.intercalate more := by
  cases more with
  | nil => simp
  | cons next more => simp [List.intercalate_cons_cons]

/-- Where a comma or a closing mark follows, no plain character does. -/
theorem not_isPlainChar_of_follows {close : Char} (hclose : isPlainChar close = false) {c : Char}
    (hc : c ∈ [',', close]) (s : Text) :
    ∀ d, (c :: s).head? = some d → isPlainChar d = false := by
  rintro d ⟨⟩
  simp only [List.mem_cons, List.not_mem_nil, or_false] at hc
  rcases hc with rfl | rfl
  · rfl
  · exact hclose

/-- Parts joined by commas up to a closing mark are known, if each of them is known where a comma
    or the mark follows, and none begins with the mark. -/
theorem Text.joined_append_inj {α : Type} {render : α → Text} {gap : Text} {close : Char}
    (hclose : close ≠ ',') {xs ys : List α}
    (hpart : ∀ x ∈ xs, ∀ y ∈ ys, ∀ c ∈ [',', close], ∀ d ∈ [',', close], ∀ s t : Text,
      render x ++ c :: s = render y ++ d :: t → x = y ∧ c :: s = d :: t)
    (hxs : ∀ x ∈ xs, ∀ s, (render x ++ s).head? ≠ some close)
    (hys : ∀ y ∈ ys, ∀ s, (render y ++ s).head? ≠ some close) {s t : Text}
    (h : (',' :: gap).intercalate (xs.map render) ++ close :: s
      = (',' :: gap).intercalate (ys.map render) ++ close :: t) : xs = ys ∧ s = t := by
  -- what follows a part: a comma and the other parts, or the mark
  have hcons (part : Text) (more : List Text) (s : Text) :
      (',' :: gap).intercalate (part :: more) ++ close :: s
        = part ++ if more.isEmpty then close :: s
          else ',' :: (gap ++ ((',' :: gap).intercalate more ++ close :: s)) := by
    rw [intercalate_cons, List.append_assoc]
    cases more with
    | nil => rfl
    | cons next more => simp
  induction xs generalizing ys with
  | nil =>
    cases ys with
    | nil => exact ⟨rfl, (List.cons.inj h).2⟩
    | cons y ys =>
      rw [List.map_cons, hcons] at h
      exact absurd (congrArg List.head? h).symm (hys y List.mem_cons_self _)
  | cons x xs ih =>
    cases ys with
    | nil =>
      rw [List.map_cons, hcons] at h
      exact absurd (congrArg List.head? h) (hxs x List.mem_cons_self _)
    | cons y ys =>
      rw [List.map_cons, List.map_cons, hcons, hcons] at h
      have hhead := hpart x List.mem_cons_self y List.mem_cons_self
      have hcomma : ',' ∈ [',', close] := List.mem_cons_self
      have hmark : close ∈ [',', close] := List.mem_cons_of_mem _ List.mem_cons_self
      cases xs with
      | nil =>
        cases ys with
        | nil =>
          obtain ⟨rfl, hrest⟩ := hhead close hmark close hmark s t h
          exact ⟨rfl, (List.cons.inj hrest).2⟩
        | cons y' ys =>
          exact absurd (List.cons.inj (hhead close hmark ',' hcomma _ _ h).2).1 hclose
      | cons x' xs =>
        cases ys with
        | nil =>
          exact absurd (List.cons.inj (hhead ',' hcomma close hmark _ _ h).2).1.symm hclose
        | cons y' ys =>
          obtain ⟨rfl, hrest⟩ := hhead ',' hcomma ',' hcomma _ _ h
          obtain ⟨hmore, hend⟩ := ih
            (fun x hx y hy => hpart x (List.mem_cons_of_mem _ hx) y (List.mem_cons_of_mem _ hy))
            (fun x hx => hxs x (List.mem_cons_of_mem _ hx))
            (fun y hy => hys y (List.mem_cons_of_mem _ hy))
            (List.append_cancel_left (List.cons.inj hrest).2)
          exact ⟨congrArg _ hmore, hend⟩

theorem Text.isBalanced_intercalate {joint : Text} (hjoint : joint.IsBalanced) {pieces : List Text}
    (hpieces : ∀ piece ∈ pieces, IsBalanced piece) : IsBalanced (joint.intercalate pieces) := by
  induction pieces with
  | nil => rfl
  | cons piece more ih =>
    obtain ⟨hpiece, hmore⟩ := List.forall_mem_cons.1 hpieces
    rw [intercalate_cons]
    refine hpiece.append ?_
    split
    · rfl
    · exact hjoint.append (ih hmore)

theorem Op.isPlain_name (o : Op) : o.name.IsPlain := by
  cases o <;> decide

theorem Op.name_injective {o p : Op} (h : o.name = p.name) : o = p := by
  cases o <;> cases p <;> first | rfl | cases h

theorem Direction.name_injective {d e : Direction} (h : d.name = e.name) : d = e := by
  cases d <;> cases e <;> first | rfl | cases h

namespace Clause

/-- The first parenthesis ends the word, and what follows it is known. -/
theorem applied_append_inj {word word' argument argument' s t : Text} (hword : word.IsPlain)
    (hword' : word'.IsPlain) (h : applied word argument ++ s = applied word' argument' ++ t) :
    word = word' ∧ argument ++ ')' :: s = argument' ++ ')' :: t := by
  have hsplit {word argument : Text} (hword : word.IsPlain) (rest : Text) :
      Text.splitFirst? '(' (applied word argument ++ rest)
        = some (word, argument ++ ')' :: rest) := by
    have hparen : '(' ∉ word := fun hmem => absurd (hword _ hmem) (by decide)
    have happlied : applied word argument ++ rest
        = word ++ '(' :: (argument ++ ')' :: rest) := by
      simp [applied]
    rw [happlied, Text.splitFirst?_append_cons _ _ _ hparen]
  have hparts : (word, argument ++ ')' :: s) = (word', argument' ++ ')' :: t) := by
    rw [← Option.some.injEq, ← hsplit hword, ← hsplit hword', h]
  rwa [Prod.mk.injEq] at hparts

theorem isBalanced_applied {word argument : Text} (hword : word.IsPlain)
    (hargument : argument.IsBalanced) : (applied word argument).IsBalanced := by
  have hopen : Text.IsBalanced ['('] := rfl
  have hclose : Text.IsBalanced [')'] := rfl
  exact ((hword.isBalanced.append hopen).append hargument).append hclose

end Clause

section Values

variable {type : FieldType} (hfloat : type ≠ .float)

include hfloat

/-- The members of a set are known from the text that joins them. -/
theorem Value.members_injective {vs ws : List Value} (hvs : ∀ v ∈ vs, v.HasType type)
    (hws : ∀ w ∈ ws, w.HasType type)
    (h : [',', ' '].intercalate (vs.map display) = [',', ' '].intercalate (ws.map display)) :
    vs = ws := by
  have hclosed : [',', ' '].intercalate (vs.map display) ++ ')' :: []
      = [',', ' '].intercalate (ws.map display) ++ ')' :: [] := by rw [h]
  refine (Text.joined_append_inj (by decide) (fun v hv w hw c hc d hd s t heq => ?_)
    (fun v hv s => ?_) (fun w hw s => ?_) hclosed).1
  · exact display_append_inj (hvs v hv) (hws w hw) hfloat (not_isPlainChar_of_follows rfl hc s)
      (not_isPlainChar_of_follows rfl hd t) heq
  · exact head_display (hvs v hv) hfloat s
  · exact head_display (hws w hw) hfloat s

theorem Bound.display_append_inj {a b : Bound} (ha : a.value.HasType type)
    (hb : b.value.HasType type) {s t : Text} (h : a.display ++ s = b.display ++ t) :
    a = b ∧ s = t := by
  obtain ⟨hname, hargument⟩ :=
    Clause.applied_append_inj a.op.isPlain_name b.op.isPlain_name h
  have hclose (rest : Text) : ∀ c, (')' :: rest).head? = some c → isPlainChar c = false := by
    intro c hc
    cases hc
    rfl
  obtain ⟨hvalue, hrest⟩ := Value.display_append_inj ha hb hfloat (hclose s) (hclose t) hargument
  have hop : a.op = b.op := Op.name_injective hname
  obtain ⟨op, value⟩ := a
  obtain ⟨op', value'⟩ := b
  obtain rfl : op = op' := hop
  obtain rfl : value = value' := hvalue
  exact ⟨rfl, (List.cons.inj hrest).2⟩

theorem Bound.isBalanced_display {b : Bound} (hb : b.value.HasType type) :
    b.display.IsBalanced :=
  Clause.isBalanced_applied b.op.isPlain_name (Value.isBalanced_display hb hfloat)

theorem ValueRange.displaySide_append_inj {x y : Option Bound}
    (hx : ∀ b, x = some b → b.value.HasType type) (hy : ∀ b, y = some b → b.value.HasType type)
    {s t : Text} (h : displaySide x ++ s = displaySide y ++ t) : x = y ∧ s = t := by
  have hhyphen (b : Bound) (s t : Text) : '-' :: s ≠ b.display ++ t := by
    obtain ⟨op, value⟩ := b
    intro h
    cases op <;> cases h
  cases x with
  | none =>
    cases y with
    | none => exact ⟨rfl, (List.cons.inj h).2⟩
    | some b => exact absurd h (hhyphen b s t)
  | some a =>
    cases y with
    | none => exact absurd h.symm (hhyphen a t s)
    | some b =>
      obtain ⟨rfl, hrest⟩ := Bound.display_append_inj hfloat (hx a rfl) (hy b rfl) h
      exact ⟨rfl, hrest⟩

end Values

/-! ## Clauses -/

namespace Clause

/-- The word that a clause is shown with. -/
def word : Clause → Text
  | literal op _ => op.name
  | comparison b => b.op.name
  | range _ => "range".toList
  | isValue _ => "is".toList
  | negation _ => "not".toList
  | like _ true => "like".toList
  | like _ false => "ilike".toList
  | oneOf _ => "set".toList
  | order direction _ => direction.name
  | limit _ => "limit".toList
  | offset _ => "offset".toList

/-- What stands in parentheses after the word. -/
def argument : Clause → Text
  | literal _ value => value.display
  | comparison b => b.value.display
  | range r => ValueRange.displaySide r.left ++ [',', ' '] ++ ValueRange.displaySide r.right
  | isValue value => value.display
  | negation inner => inner.display
  | like value _ => value.display
  | oneOf values => [',', ' '].intercalate (values.map Value.display)
  | order _ priority => Text.ofNat priority
  | limit n => Text.ofNat n
  | offset n => Text.ofNat n

theorem display_eq_applied (c : Clause) : c.display = applied c.word c.argument := by
  cases c with
  | like value caseSensitive => cases caseSensitive <;> rfl
  | _ => rfl

theorem isPlain_word (c : Clause) : c.word.IsPlain := by
  have hdirection (d : Direction) : d.name.IsPlain := by cases d <;> decide
  cases c with
  | literal op value => exact op.isPlain_name
  | comparison b => exact b.op.isPlain_name
  | range r => exact (by decide : Text.IsPlain "range".toList)
  | isValue value => exact (by decide : Text.IsPlain "is".toList)
  | negation inner => exact (by decide : Text.IsPlain "not".toList)
  | like value caseSensitive =>
    cases caseSensitive with
    | true => exact (by decide : Text.IsPlain "like".toList)
    | false => exact (by decide : Text.IsPlain "ilike".toList)
  | oneOf values => exact (by decide : Text.IsPlain "set".toList)
  | order direction priority => exact hdirection direction
  | limit n => exact (by decide : Text.IsPlain "limit".toList)
  | offset n => exact (by decide : Text.IsPlain "offset".toList)

theorem word_argument_of_display {c d : Clause} (h : c.display = d.display) :
    c.word = d.word ∧ c.argument = d.argument := by
  have happlied : applied c.word c.argument ++ [] = applied d.word d.argument ++ [] := by
    rw [← display_eq_applied, ← display_eq_applied, h]
  obtain ⟨hword, hargument⟩ := applied_append_inj c.isPlain_word d.isPlain_word happlied
  exact ⟨hword, List.append_cancel_right hargument⟩

/-- The words of the clauses that a filter may negate. -/
def positiveWords : List Text :=
  ["is".toList, "eq".toList, "like".toList, "ilike".toList, "set".toList]

theorem IsPositive.word_mem {valid : Value → Prop} {c : Clause} (hc : c.IsPositive valid) :
    c.word ∈ positiveWords := by
  cases hc with
  | isNull => exact .head _
  | equals hv => exact .tail _ (.head _)
  | like caseSensitive hv =>
    cases caseSensitive with
    | true => exact .tail _ (.tail _ (.head _))
    | false => exact .tail _ (.tail _ (.tail _ (.head _)))
  | oneOf hvs => exact .tail _ (.tail _ (.tail _ (.tail _ (.head _))))

theorem IsPositive.word_ne {valid : Value → Prop} {c : Clause} {word : Text}
    (hc : c.IsPositive valid) (hword : word ∉ positiveWords) : c.word ≠ word :=
  fun h => hword (h ▸ hc.word_mem)

theorem not_notMem_positiveWords : "not".toList ∉ positiveWords := by decide

theorem range_notMem_positiveWords : "range".toList ∉ positiveWords := by decide

/-- The words of filters. -/
def filterWords : List Text :=
  positiveWords ++ ["not".toList, "range".toList]

theorem IsFilter.word_mem {type : FieldType} {valid : Value → Prop} {c : Clause}
    (hc : c.IsFilter type valid) : c.word ∈ filterWords := by
  cases hc with
  | positive hc => exact List.mem_append_left _ hc.word_mem
  | negation hc => exact List.mem_append_right positiveWords (.head _)
  | range => exact List.mem_append_right positiveWords (.tail _ (.head _))

section Filters

variable {type : FieldType} {c d : Clause} (hfloat : type ≠ .float)

include hfloat

theorem IsPositive.display_injective (hc : c.IsPositive (Value.HasType type))
    (hd : d.IsPositive (Value.HasType type)) (h : c.display = d.display) : c = d := by
  obtain ⟨hword, hargument⟩ := word_argument_of_display h
  cases hc with
  | isNull =>
    cases hd with
    | isNull => rfl
    | equals hw => cases hword
    | like caseSensitive hw => cases caseSensitive <;> cases hword
    | oneOf hws => cases hword
  | equals hv =>
    cases hd with
    | isNull => cases hword
    | equals hw => rw [Value.display_injective hv hw hfloat hargument]
    | like caseSensitive hw => cases caseSensitive <;> cases hword
    | oneOf hws => cases hword
  | like caseSensitive hv =>
    cases hd with
    | isNull => cases caseSensitive <;> cases hword
    | equals hw => cases caseSensitive <;> cases hword
    | like caseSensitive' hw =>
      obtain rfl : caseSensitive = caseSensitive' := by
        cases caseSensitive <;> cases caseSensitive' <;> first | rfl | cases hword
      rw [Value.display_injective hv hw hfloat hargument]
    | oneOf hws => cases caseSensitive <;> cases hword
  | oneOf hvs =>
    cases hd with
    | isNull => cases hword
    | equals hw => cases hword
    | like caseSensitive hw => cases caseSensitive <;> cases hword
    | oneOf hws => rw [Value.members_injective hfloat hvs hws hargument]

theorem IsFilter.display_injective (hc : c.IsFilter type (Value.HasType type))
    (hd : d.IsFilter type (Value.HasType type)) (h : c.display = d.display) : c = d := by
  obtain ⟨hword, hargument⟩ := word_argument_of_display h
  cases hc with
  | positive hc =>
    cases hd with
    | positive hd => exact hc.display_injective hfloat hd h
    | negation hd => exact absurd hword (hc.word_ne not_notMem_positiveWords)
    | range htype hleft hright => exact absurd hword (hc.word_ne range_notMem_positiveWords)
  | negation hc =>
    cases hd with
    | positive hd => exact absurd hword.symm (hd.word_ne not_notMem_positiveWords)
    | negation hd => rw [hc.display_injective hfloat hd hargument]
    | range htype hleft hright => cases hword
  | @range r htype hleft hright =>
    cases hd with
    | positive hd => exact absurd hword.symm (hd.word_ne range_notMem_positiveWords)
    | negation hd => cases hword
    | @range r' htype' hleft' hright' =>
      have hsides : ValueRange.displaySide r.left ++ ([',', ' '] ++
          ValueRange.displaySide r.right) = ValueRange.displaySide r'.left ++ ([',', ' '] ++
          ValueRange.displaySide r'.right) := by
        simpa [argument] using hargument
      obtain ⟨hleftEq, hrest⟩ := ValueRange.displaySide_append_inj hfloat
        (fun b hb => (hleft b hb).2) (fun b hb => (hleft' b hb).2) hsides
      have hends : ValueRange.displaySide r.right ++ []
          = ValueRange.displaySide r'.right ++ [] := by
        simpa using hrest
      obtain ⟨hrightEq, -⟩ := ValueRange.displaySide_append_inj hfloat
        (fun b hb => (hright b hb).2) (fun b hb => (hright' b hb).2) hends
      obtain ⟨left, right⟩ := r
      obtain ⟨left', right'⟩ := r'
      obtain rfl : left = left' := hleftEq
      obtain rfl : right = right' := hrightEq
      rfl

end Filters

/-! ### Clauses that order and page -/

theorem word_notMem_filterWords {c : Clause} (hc : c.isDirective = true) :
    c.word ∉ filterWords := by
  have hdirection (d : Direction) : d.name ∉ filterWords := by cases d <;> decide
  have hlimit : "limit".toList ∉ filterWords := by decide
  have hoffset : "offset".toList ∉ filterWords := by decide
  cases c with
  | order direction priority => exact hdirection direction
  | limit n => exact hlimit
  | offset n => exact hoffset
  | literal | comparison | range | isValue | negation | like | oneOf => cases hc

theorem display_injective_of_isDirective {c d : Clause} (hc : c.isDirective = true)
    (hd : d.isDirective = true) (h : c.display = d.display) : c = d := by
  obtain ⟨hword, hargument⟩ := word_argument_of_display h
  cases c with
  | order direction priority =>
    cases d with
    | order direction' priority' =>
      rw [Direction.name_injective hword, Text.ofNat_injective hargument]
    | limit n => cases direction <;> cases hword
    | offset n => cases direction <;> cases hword
    | literal | comparison | range | isValue | negation | like | oneOf => cases hd
  | limit n =>
    cases d with
    | order direction priority => cases direction <;> cases hword
    | limit n' => rw [Text.ofNat_injective hargument]
    | offset n' => cases hword
    | literal | comparison | range | isValue | negation | like | oneOf => cases hd
  | offset n =>
    cases d with
    | order direction priority => cases direction <;> cases hword
    | limit n' => cases hword
    | offset n' => rw [Text.ofNat_injective hargument]
    | literal | comparison | range | isValue | negation | like | oneOf => cases hd
  | literal | comparison | range | isValue | negation | like | oneOf => cases hc

/-! ### Quotation marks in clauses -/

theorem isBalanced_display_of_argument {c : Clause} (h : c.argument.IsBalanced) :
    c.display.IsBalanced := by
  rw [display_eq_applied]
  exact isBalanced_applied c.isPlain_word h

theorem IsPositive.isBalanced_display {type : FieldType} {c : Clause} (hfloat : type ≠ .float)
    (hc : c.IsPositive (Value.HasType type)) : c.display.IsBalanced := by
  apply isBalanced_display_of_argument
  cases hc with
  | isNull => rfl
  | equals hv => exact Value.isBalanced_display hv hfloat
  | like caseSensitive hv => exact Value.isBalanced_display hv hfloat
  | oneOf hvs =>
    have hcomma : Text.IsBalanced [',', ' '] := rfl
    refine Text.isBalanced_intercalate hcomma fun piece hpiece => ?_
    obtain ⟨v, hv, rfl⟩ := List.mem_map.1 hpiece
    exact Value.isBalanced_display (hvs v hv) hfloat

theorem IsFilter.isBalanced_display {type : FieldType} {c : Clause} (hfloat : type ≠ .float)
    (hc : c.IsFilter type (Value.HasType type)) : c.display.IsBalanced := by
  have hside {side : Option Bound} (h : ∀ b, side = some b → b.value.HasType type) :
      (ValueRange.displaySide side).IsBalanced := by
    cases side with
    | none => rfl
    | some b => exact Bound.isBalanced_display hfloat (h b rfl)
  cases hc with
  | positive hc => exact hc.isBalanced_display hfloat
  | negation hc => exact isBalanced_display_of_argument (hc.isBalanced_display hfloat)
  | range htype hleft hright =>
    have hcomma : Text.IsBalanced [',', ' '] := rfl
    exact isBalanced_display_of_argument
      (((hside fun b hb => (hleft b hb).2).append hcomma).append
        (hside fun b hb => (hright b hb).2))

theorem isBalanced_display_of_isDirective {c : Clause} (hc : c.isDirective = true) :
    c.display.IsBalanced := by
  apply isBalanced_display_of_argument
  cases c with
  | order direction priority => exact (Text.isPlain_ofNat priority).isBalanced
  | limit n => exact (Text.isPlain_ofNat n).isBalanced
  | offset n => exact (Text.isPlain_ofNat n).isBalanced
  | literal | comparison | range | isValue | negation | like | oneOf => cases hc

end Clause

/-! ## Params -/

namespace Param

variable {names : ReservedNames} {types : FieldTypes} {p q : Param}

/-- A well-formed param orders or pages, or is a filter on a declared field. -/
theorem WellFormed.isDirective_or_isFilter (hp : p.WellFormed names types) :
    p.clause.isDirective = true ∨
      ∃ type, types.get? p.name = some type ∧ p.clause.IsFilter type (Value.HasType type) := by
  cases hp with
  | order | limit | offset => exact .inl rfl
  | filter hname htype hc => exact .inr ⟨_, htype, hc⟩

/-- Well-formed params with the same text are the same, if no field has floating point
    numbers. -/
theorem WellFormed.display_injective (hfloat : ∀ name, types.get? name ≠ some .float)
    (hp : p.WellFormed names types) (hq : q.WellFormed names types)
    (h : p.display = q.display) : p = q := by
  have hbalanced {p : Param} (hp : p.WellFormed names types) : p.clause.display.IsBalanced := by
    rcases hp.isDirective_or_isFilter with hc | ⟨type, htype, hc⟩
    · exact Clause.isBalanced_display_of_isDirective hc
    · exact hc.isBalanced_display fun heq => hfloat p.name (heq ▸ htype)
  have hsides : p.name ++ ' ' :: '=' :: ' ' :: p.clause.display
      = q.name ++ ' ' :: '=' :: ' ' :: q.clause.display := by
    simpa [display] using h
  obtain ⟨hname, hdisplay⟩ := Text.append_equals_inj (hbalanced hp) (hbalanced hq) hsides
  have hword : p.clause.word = q.clause.word :=
    (Clause.word_argument_of_display hdisplay).1
  have hclause : p.clause = q.clause := by
    rcases hp.isDirective_or_isFilter with hc | ⟨type, htype, hc⟩ <;>
      rcases hq.isDirective_or_isFilter with hd | ⟨type', htype', hd⟩
    · exact Clause.display_injective_of_isDirective hc hd hdisplay
    · exact absurd (hword ▸ hd.word_mem) (Clause.word_notMem_filterWords hc)
    · exact absurd (hword ▸ hc.word_mem) (Clause.word_notMem_filterWords hd)
    · rw [← hname, htype] at htype'
      cases htype'
      exact hc.display_injective (fun heq => hfloat p.name (heq ▸ htype)) hd hdisplay
  obtain ⟨name, clause⟩ := p
  obtain ⟨name', clause'⟩ := q
  obtain rfl : name = name' := hname
  obtain rfl : clause = clause' := hclause
  rfl

end Param

/-- Two params that are read under the same reserved names and declared types, and are shown
    alike, are the same param, whatever the names of fields and the text values contain; fields
    of floating point numbers are left out. -/
theorem Reader.param_eq_of_display_eq (names : ReservedNames) (types : FieldTypes)
    (hfloat : ∀ name, types.get? name ≠ some .float) (query query' : Query) (p p' : Param)
    (hp : .ok p ∈ Reader.items ⟨CastTable.standard.caster, names⟩ types query)
    (hp' : .ok p' ∈ Reader.items ⟨CastTable.standard.caster, names⟩ types query')
    (h : p.display = p'.display) : p = p' := by
  have hwf {query : Query} {p : Param}
      (hp : .ok p ∈ Reader.items ⟨CastTable.standard.caster, names⟩ types query) :
      p.WellFormed names types := by
    obtain ⟨pair, params, -, hread, hmem⟩ := exists_readPair_of_mem_items hp
    exact wellFormed_of_readPair CastTable.sound_standard.caster hread p hmem
  exact (hwf hp).display_injective hfloat (hwf hp') h

/-- Two ways to write a number, for a field whose name looks like the text of a param. -/
theorem Reader.display_of_two_spellings :
    let names : ReservedNames := {}
    let types : FieldTypes := Dictionary.ofList [("a = eq(\"".toList, .integer)]
    let plus : Query := .pairs [("a = eq(\"".toList, some "+7".toList)]
    let zeros : Query := .pairs [("a = eq(\"".toList, some "007".toList)]
    let p : Param := ⟨"a = eq(\"".toList, .equals (.integer 7)⟩
    (∀ name, types.get? name ≠ some .float) ∧
      .ok p ∈ Reader.items ⟨CastTable.standard.caster, names⟩ types plus ∧
      .ok p ∈ Reader.items ⟨CastTable.standard.caster, names⟩ types zeros ∧
      ∀ p', .ok p' ∈ Reader.items ⟨CastTable.standard.caster, names⟩ types zeros →
        p.display = p'.display → p = p' := by
  intro names types plus zeros p
  have hfloat : ∀ name, types.get? name ≠ some .float := by
    intro name
    show (if name = "a = eq(\"".toList then some FieldType.integer else none) ≠ some .float
    split <;> decide
  have hplus : .ok p ∈ Reader.items ⟨CastTable.standard.caster, names⟩ types plus := by
    rw [items_eq_untilError]
    exact .head _
  have hzeros : .ok p ∈ Reader.items ⟨CastTable.standard.caster, names⟩ types zeros := by
    rw [items_eq_untilError]
    exact .head _
  exact ⟨hfloat, hplus, hzeros, fun p' hp' h =>
    param_eq_of_display_eq names types hfloat plus zeros p p' hplus hp' h⟩

end FilterQuery
