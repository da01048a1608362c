import FilterQuery.Text.Basic

/-!
  FilterQuery.Text.Escaping

  Texts in quotation marks. A character is written as itself, or after a backslash: by one
  letter, or by `u` and its code. Where these ways can be told from each other, the closing mark
  of a text can be found, and the text is known.
-/

namespace FilterQuery
namespace Text

/-- A way to write characters between quotation marks. -/
structure Escaping where
  code : Char → Text
  /-- The characters that are escaped by one other character, with that. -/
  short : List (Char × Char)
  /-- The characters that may be escaped by their code. -/
  HasBody : Char → Prop
  /-- What follows the backslash and `u` in such an escape. -/
  body : Char → Text
  cases : ∀ c, (code c = [c] ∧ c ≠ '"' ∧ c ≠ '\\') ∨
    (∃ e, (c, e) ∈ short ∧ code c = ['\\', e]) ∨
    (HasBody c ∧ code c = '\\' :: 'u' :: body c)
  short_injective : ∀ x ∈ short, ∀ y ∈ short, x.2 = y.2 → x = y
  short_ne_body : ∀ x ∈ short, x.2 ≠ 'u'
  body_append_inj : ∀ {c d : Char} {s t : Text}, HasBody c → HasBody d →
    body c ++ s = body d ++ t → c = d ∧ s = t

namespace Escaping

variable (e : Escaping)

def delimited (t : Text) : Text :=
  '"' :: t.flatMap e.code ++ ['"']

/-- The ways to write two characters do not begin alike, unless the characters are the same. -/
theorem code_append_inj {c d : Char} {s t : Text} (h : e.code c ++ s = e.code d ++ t) :
    c = d ∧ s = t := by
  rcases e.cases c with ⟨hc, -, hslash⟩ | ⟨x, hx, hc⟩ | ⟨hbody, hc⟩ <;>
    rcases e.cases d with ⟨hd, -, hslash'⟩ | ⟨y, hy, hd⟩ | ⟨hbody', hd⟩ <;>
    rw [hc, hd] at h
  · exact ⟨(List.cons.inj h).1, (List.cons.inj h).2⟩
  · exact absurd (List.cons.inj h).1 hslash
  · exact absurd (List.cons.inj h).1 hslash
  · exact absurd (List.cons.inj h).1.symm hslash'
  · obtain ⟨hescape, hrest⟩ := List.cons.inj (List.cons.inj h).2
    exact ⟨congrArg Prod.fst (e.short_injective _ hx _ hy hescape), hrest⟩
  · exact absurd (List.cons.inj (List.cons.inj h).2).1 (e.short_ne_body _ hx)
  · exact absurd (List.cons.inj h).1.symm hslash'
  · exact absurd (List.cons.inj (List.cons.inj h).2).1.symm (e.short_ne_body _ hy)
  · exact e.body_append_inj hbody hbody' (List.cons.inj (List.cons.inj h).2).2

theorem head_code (c : Char) (t : Text) : (e.code c ++ t).head? ≠ some '"' := by
  intro h
  rcases e.cases c with ⟨hc, hquote, -⟩ | ⟨x, -, hc⟩ | ⟨-, hc⟩ <;> rw [hc] at h
  · exact hquote (Option.some.inj h)
  · cases h
  · cases h

/-- The closing mark is found, so what follows it is, too. -/
theorem delimited_append_inj {s t u v : Text} (h : e.delimited s ++ u = e.delimited t ++ v) :
    s = t ∧ u = v := by
  have hbody : s.flatMap e.code ++ '"' :: u = t.flatMap e.code ++ '"' :: v := by
    simpa [delimited] using h
  clear h
  induction s generalizing t with
  | nil =>
    cases t with
    | nil => exact ⟨rfl, (List.cons.inj hbody).2⟩
    | cons d t =>
      rw [List.flatMap_cons, List.append_assoc] at hbody
      exact absurd (congrArg List.head? hbody).symm (e.head_code d _)
  | cons c s ih =>
    cases t with
    | nil =>
      rw [List.flatMap_cons, List.append_assoc] at hbody
      exact absurd (congrArg List.head? hbody) (e.head_code c _)
    | cons d t =>
      rw [List.flatMap_cons, List.flatMap_cons, List.append_assoc, List.append_assoc] at hbody
      obtain ⟨rfl, hrest⟩ := e.code_append_inj hbody
      obtain ⟨rfl, htail⟩ := ih hrest
      exact ⟨rfl, htail⟩

end Escaping
end Text
end FilterQuery
