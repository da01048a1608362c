import FilterQuery.Pattern
import Mathlib.Logic.ExistsUnique

/-!
  FilterQuery.Proofs.Grammar

  The value grammar reads every text in exactly one way. A pattern that is tried alone matches
  the texts that it renders (`capture?_eq_some_iff`); in the grammar it also needs that none of
  the patterns before it renders the same text. Which operands that leaves is `Pattern.Admits`.

  Main statement: `resolve_render_iff`.
-/

namespace FilterQuery

/-! ## Beginnings and ends of texts -/

namespace Text

theorem stripStart?_eq_some_iff {start t rest : Text} :
    stripStart? start t = some rest ↔ t = start ++ rest := by
  induction start generalizing t with
  | nil => simp [stripStart?]
  | cons c start ih =>
    cases t with
    | nil => simp [stripStart?]
    | cons d t =>
      unfold stripStart?
      by_cases h : c = d
      · rw [if_pos h, ih, h, List.cons_append, List.cons_inj_right]
      · rw [if_neg h]
        simp [Ne.symm h]

theorem stripLast?_eq_some_iff {c : Char} {t rest : Text} :
    stripLast? c t = some rest ↔ t = rest ++ [c] := by
  unfold stripLast?
  constructor
  · intro h
    split at h
    · next hlast =>
      obtain ⟨front, rfl⟩ := List.getLast?_eq_some_iff.mp hlast
      rw [List.dropLast_concat] at h
      rw [Option.some.inj h]
    · cases h
  · rintro rfl
    rw [List.getLast?_concat, if_pos rfl, List.dropLast_concat]

end Text

namespace Pattern

/-! ## A pattern by itself -/

/-- The patterns of intervals. -/
def intervals : List Pattern :=
  [openInterval, closedOpenInterval, openClosedInterval, closedInterval]

theorem mem_intervals_iff {p : Pattern} :
    p ∈ intervals ↔ ∃ lower upper, p.bounds? = some (lower, upper) := by
  cases p with
  | openInterval | closedOpenInterval | openClosedInterval | closedInterval =>
    exact iff_of_true (by decide) ⟨_, _, rfl⟩
  | null | notNull | notSet | set | ilike | notIlike | like | notLike | notLiteral | literal =>
    exact iff_of_false (by decide) nofun

/-- One or more digits and marks of dates and times. -/
def IsIntervalText (t : Text) : Prop :=
  t ≠ [] ∧ ∀ c ∈ t, c.isDigit ∨ c ∈ ['T', 'Z', ':', '-', ',', '.']

/-- What an operand must be for its pattern by itself to match. -/
def Fits : Pattern → Text → Prop
  | null, operand => operand = "null".toList
  | notNull, operand => operand = "!null".toList
  | openInterval, operand => IsIntervalText operand
  | closedOpenInterval, operand => IsIntervalText operand
  | openClosedInterval, operand => IsIntervalText operand
  | closedInterval, operand => IsIntervalText operand
  | notSet, _ | set, _ | ilike, _ | notIlike, _ | like, _ | notLike, _ | notLiteral, _
  | literal, _ => True

theorem between?_eq_some_iff {first last : Char} {value operand : Text} :
    between? first last value = some operand ↔ value = first :: operand ++ [last] := by
  cases value with
  | nil => simp [between?]
  | cons c rest =>
    simp only [between?]
    by_cases h : c = first
    · rw [if_pos h, Text.stripLast?_eq_some_iff, h, List.cons_append, List.cons_inj_right]
    · rw [if_neg h]
      simp [h]

theorem isIntervalText_iff {t : Text} :
    IsIntervalText t ↔ (!t.isEmpty && t.all isIntervalChar) = true := by
  have hchar (c : Char) :
      isIntervalChar c = true ↔ c.isDigit ∨ c ∈ ['T', 'Z', ':', '-', ',', '.'] := by
    simp [isIntervalChar, or_assoc]
  simp only [IsIntervalText, Bool.and_eq_true, Bool.not_eq_true', List.isEmpty_eq_false_iff,
    List.all_eq_true, hchar]

theorem interval?_eq_some_iff {first last : Char} {value operand : Text} :
    interval? first last value = some operand
      ↔ IsIntervalText operand ∧ value = first :: operand ++ [last] := by
  rw [← between?_eq_some_iff, isIntervalText_iff]
  unfold interval?
  cases between? first last value with
  | none => simp
  | some inner =>
    dsimp only
    constructor
    · intro h
      split at h
      · next hinner =>
        obtain rfl := Option.some.inj h
        exact ⟨hinner, rfl⟩
      · cases h
    · rintro ⟨hinner, h⟩
      obtain rfl := Option.some.inj h
      rw [if_pos hinner]

/-- By itself a pattern matches the texts that it renders, and captures what it renders. -/
theorem capture?_eq_some_iff {p : Pattern} {value operand : Text} :
    p.capture? value = some operand ↔ p.Fits operand ∧ value = p.render operand := by
  cases p with
  | null | notNull =>
    simp only [capture?, Fits, render]
    constructor
    · intro h
      split at h
      · next hvalue =>
        obtain rfl := Option.some.inj h
        exact ⟨hvalue, rfl⟩
      · cases h
    · rintro ⟨hoperand, rfl⟩
      rw [if_pos hoperand]
  | openInterval | closedOpenInterval | openClosedInterval | closedInterval =>
    exact interval?_eq_some_iff
  | notSet =>
    simp only [Fits, render, true_and]
    cases value with
    | nil => simp [capture?]
    | cons c rest =>
      by_cases hc : c = '!'
      · subst hc
        simp only [capture?]
        rw [between?_eq_some_iff, List.cons_append, List.cons_append, List.cons_append,
          List.cons_inj_right]
      · simp [capture?, hc]
  | set => simp only [capture?, between?_eq_some_iff, Fits, render, true_and]
  | ilike | notIlike | like | notLike | notLiteral =>
    simp only [capture?, Text.stripStart?_eq_some_iff, Fits, render, true_and]
    rfl
  | literal =>
    simp only [capture?, Option.some.injEq, Fits, render, true_and]

/-! ## The first pattern that matches -/

/-- The patterns that are tried before a pattern. -/
def earlier (p : Pattern) : List Pattern :=
  grammar.takeWhile fun q => q ≠ p

theorem exists_later (p : Pattern) : ∃ later, grammar = p.earlier ++ p :: later := by
  cases p <;> exact ⟨_, rfl⟩

theorem earlier_eq {front later : List Pattern} {p : Pattern}
    (h : grammar = front ++ p :: later) : p.earlier = front := by
  have hnodup : (front ++ p :: later).Nodup := by rw [← h]; decide
  have hfront : ∀ q ∈ front, decide (q ≠ p) = true := by
    intro q hq
    rw [decide_eq_true_eq]
    exact (List.nodup_append.mp hnodup).2.2 q hq p List.mem_cons_self
  unfold earlier
  rw [h, List.takeWhile_append_of_pos hfront, List.takeWhile_cons_of_neg (by simp),
    List.append_nil]

/-- The reading of a text is the capture of the first pattern that matches it. The last pattern
    matches everything, so there is always one. -/
theorem findSome?_grammar (value : Text) :
    grammar.findSome? (fun p => (p.capture? value).map (p, ·)) = some (resolve value) := by
  have hsome : (grammar.findSome? fun p => (p.capture? value).map (p, ·)).isSome := by
    rw [List.findSome?_isSome_iff]
    exact ⟨literal, by decide, rfl⟩
  obtain ⟨reading, hreading⟩ := Option.isSome_iff_exists.mp hsome
  simp only [resolve]
  rw [hreading, Option.getD_some]

theorem resolve_eq_iff {p : Pattern} {value operand : Text} :
    resolve value = (p, operand)
      ↔ p.capture? value = some operand ∧ ∀ q ∈ p.earlier, q.capture? value = none := by
  rw [← Option.some_inj, ← findSome?_grammar, List.findSome?_eq_some_iff]
  constructor
  · rintro ⟨front, q, later, hsplit, hq, hfront⟩
    obtain ⟨captured, hcaptured, hpair⟩ := Option.map_eq_some_iff.mp hq
    cases hpair
    refine ⟨hcaptured, ?_⟩
    rw [earlier_eq hsplit]
    intro r hr
    exact Option.map_eq_none_iff.mp (hfront r hr)
  · rintro ⟨hp, hearlier⟩
    obtain ⟨later, hsplit⟩ := exists_later p
    refine ⟨p.earlier, p, later, hsplit, by rw [hp, Option.map_some], ?_⟩
    intro q hq
    rw [hearlier q hq, Option.map_none]

/-- Matching by itself, without a pattern before that renders the same text. -/
def Unshadowed (p : Pattern) (operand : Text) : Prop :=
  p.Fits operand ∧ ∀ q ∈ p.earlier, ∀ t, q.Fits t → p.render operand ≠ q.render t

theorem resolve_render_eq_iff {p : Pattern} {operand : Text} :
    resolve (p.render operand) = (p, operand) ↔ p.Unshadowed operand := by
  rw [resolve_eq_iff, capture?_eq_some_iff]
  refine and_congr (and_iff_left rfl) (forall₂_congr fun q hq => ?_)
  rw [Option.eq_none_iff_forall_ne_some]
  refine forall_congr' fun t => ?_
  rw [Ne, capture?_eq_some_iff, not_and]

/-! ## The operands that a pattern has -/

/-- A text between two braces. -/
def IsBraced (t : Text) : Prop :=
  ∃ inner, t = '\x7b' :: inner ++ ['\x7d']

/-- A text of an interval between brackets of any two of the four kinds. -/
def IsBracketed (t : Text) : Prop :=
  ∃ first ∈ ['(', '['], ∃ last ∈ [')', ']'], ∃ inner,
    IsIntervalText inner ∧ t = first :: inner ++ [last]

/-- The operands with which a pattern is read. -/
def Admits : Pattern → Text → Prop
  | null, operand => operand = "null".toList
  | notNull, operand => operand = "!null".toList
  | openInterval, operand => IsIntervalText operand
  | closedOpenInterval, operand => IsIntervalText operand
  | openClosedInterval, operand => IsIntervalText operand
  | closedInterval, operand => IsIntervalText operand
  | notSet, _ | set, _ | ilike, _ | notIlike, _ => True
  | like, operand => operand.head? ≠ some '~'
  | notLike, operand => operand.head? ≠ some '~'
  | notLiteral, operand =>
    operand ≠ "null".toList ∧ operand.head? ≠ some '~' ∧ ¬IsBraced operand
  | literal, operand =>
    operand ≠ "null".toList ∧ operand.head? ≠ some '!' ∧ operand.head? ≠ some '~' ∧
      ¬IsBraced operand ∧ ¬IsBracketed operand

theorem unshadowed_notLiteral_iff {operand : Text} :
    notLiteral.Unshadowed operand ↔ notLiteral.Admits operand := by
  constructor
  · rintro ⟨-, h⟩
    refine ⟨fun hnull => ?_, fun htilde => ?_, fun hbraced => ?_⟩
    · exact h notNull (by decide) _ rfl (by rw [hnull]; rfl)
    · obtain ⟨t, rfl⟩ := List.head?_eq_some_iff.mp htilde
      exact h notLike (by decide) t trivial rfl
    · obtain ⟨t, rfl⟩ := hbraced
      exact h notSet (by decide) t trivial rfl
  · rintro ⟨hnull, htilde, hbraced⟩
    refine ⟨trivial, fun q hq t ht heq => ?_⟩
    cases q with
    | null => cases ht; cases heq
    | notNull => cases ht; cases heq; exact hnull rfl
    | notSet => cases heq; exact hbraced ⟨t, rfl⟩
    | notIlike | notLike => cases heq; exact htilde rfl
    | openInterval | closedOpenInterval | openClosedInterval | closedInterval => cases heq
    | set | ilike | like => cases heq
    | notLiteral | literal => exact absurd hq (by decide)

theorem unshadowed_literal_iff {operand : Text} :
    literal.Unshadowed operand ↔ literal.Admits operand := by
  constructor
  · rintro ⟨-, h⟩
    refine ⟨fun hnull => ?_, fun hmark => ?_, fun htilde => ?_, fun hbraced => ?_, ?_⟩
    · exact h null (by decide) operand hnull rfl
    · obtain ⟨t, rfl⟩ := List.head?_eq_some_iff.mp hmark
      exact h notLiteral (by decide) t trivial rfl
    · obtain ⟨t, rfl⟩ := List.head?_eq_some_iff.mp htilde
      exact h like (by decide) t trivial rfl
    · obtain ⟨t, rfl⟩ := hbraced
      exact h set (by decide) t trivial rfl
    · rintro ⟨first, hfirst, last, hlast, t, ht, rfl⟩
      simp only [List.mem_cons, List.not_mem_nil, or_false] at hfirst hlast
      obtain rfl | rfl := hfirst <;> obtain rfl | rfl := hlast
      · exact h openInterval (by decide) t ht rfl
      · exact h openClosedInterval (by decide) t ht rfl
      · exact h closedOpenInterval (by decide) t ht rfl
      · exact h closedInterval (by decide) t ht rfl
  · rintro ⟨hnull, hmark, htilde, hbraced, hbracketed⟩
    refine ⟨trivial, fun q hq t ht heq => ?_⟩
    obtain rfl : operand = q.render t := heq
    cases q with
    | null => exact hnull ht
    | notNull => cases ht; exact hmark rfl
    | openInterval | closedOpenInterval | openClosedInterval | closedInterval =>
      exact hbracketed ⟨_, by decide, _, by decide, t, ht, rfl⟩
    | notSet | notIlike | notLike | notLiteral => exact hmark rfl
    | set => exact hbraced ⟨t, rfl⟩
    | ilike | like => exact htilde rfl
    | literal => exact absurd hq (by decide)

theorem unshadowed_iff {p : Pattern} {operand : Text} :
    p.Unshadowed operand ↔ p.Admits operand := by
  cases p with
  -- no earlier pattern renders a text with these marks
  | null => simp [Unshadowed, Admits, Fits, earlier, grammar]
  | notNull => simp +contextual [Unshadowed, Admits, Fits, earlier, grammar, render]
  | openInterval | closedOpenInterval | openClosedInterval | closedInterval =>
    simp [Unshadowed, Admits, Fits, earlier, grammar, render]
  | notSet | set | ilike | notIlike =>
    simp [Unshadowed, Admits, Fits, earlier, grammar, render]
  -- two tildes shadow one
  | like | notLike =>
    simp [Unshadowed, Admits, Fits, earlier, grammar, render, List.head?_eq_some_iff]
  | notLiteral => exact unshadowed_notLiteral_iff
  | literal => exact unshadowed_literal_iff

/-! ## Every text has one reading -/

theorem render_resolve (value : Text) : (resolve value).1.render (resolve value).2 = value :=
  (capture?_eq_some_iff.mp (resolve_eq_iff.mp rfl).1).2.symm

theorem resolve_render {p : Pattern} {operand : Text} (h : p.Admits operand) :
    resolve (p.render operand) = (p, operand) :=
  resolve_render_eq_iff.2 (unshadowed_iff.2 h)

/-- Whatever stands between two braces, it is a set. -/
theorem resolve_of_braced (inner : Text) :
    resolve ('\x7b' :: inner ++ ['\x7d']) = (set, inner) := by
  have hadmits : set.Admits inner := trivial
  exact resolve_render hadmits

/-- The reading of a text: a pattern, and an operand that the pattern admits and renders as the
    text. -/
theorem exists_resolve (value : Text) :
    ∃ p operand, resolve value = (p, operand) ∧ p.Admits operand ∧ value = p.render operand := by
  have hrender := render_resolve value
  refine ⟨(resolve value).1, (resolve value).2, rfl, ?_, hrender.symm⟩
  rw [← unshadowed_iff, ← resolve_render_eq_iff, hrender]

/-- Reading takes a text apart without loss; a pattern reads back an operand that it renders
    exactly if it admits it; and so every text is rendered by one pattern and one operand that
    the pattern admits. -/
theorem resolve_render_iff :
    (∀ value : Text, (resolve value).1.render (resolve value).2 = value) ∧
    (∀ (p : Pattern) (operand : Text),
      resolve (p.render operand) = (p, operand) ↔ p.Admits operand) ∧
    ∀ value : Text, ∃! reading : Pattern × Text,
      reading.1.Admits reading.2 ∧ reading.1.render reading.2 = value := by
  have hadmits (p : Pattern) (operand : Text) :
      resolve (p.render operand) = (p, operand) ↔ p.Admits operand := by
    rw [resolve_render_eq_iff, unshadowed_iff]
  refine ⟨render_resolve, hadmits, fun value => ?_⟩
  refine ⟨resolve value, ⟨?_, render_resolve value⟩, ?_⟩
  · rw [← hadmits, render_resolve]
  · rintro ⟨p, operand⟩ ⟨hp, rfl⟩
    exact ((hadmits p operand).mpr hp).symm

end Pattern
end FilterQuery
