/-!
  FilterQuery.Text.Basic

  Text as the list of its characters, read from the left. Reading functions then recurse on
  the text itself, and a position in a text is what is left of it.
-/

namespace FilterQuery

/-- A text is the list of its characters. -/
abbrev Text := List Char

namespace Text

/-- The rest of a text after a given beginning. -/
def stripStart? : Text → Text → Option Text
  | [], t => some t
  | _ :: _, [] => none
  | c :: start, d :: t => if c = d then stripStart? start t else none

/-- A text without its last character, if that is the given one. -/
def stripLast? (c : Char) (t : Text) : Option Text :=
  if t.getLast? = some c then some t.dropLast else none

/-- The two sides of the first occurrence of a character, which belongs to neither. -/
def splitFirst? (sep : Char) : Text → Option (Text × Text)
  | [] => none
  | c :: rest =>
    if c = sep then some ([], rest)
    else (splitFirst? sep rest).map fun (before, after) => (c :: before, after)

def utf8Length : Text → Nat
  | [] => 0
  | c :: rest => c.utf8Size + utf8Length rest

/-- The letters A to Z become a to z; all else stays. -/
def lowerAscii (t : Text) : Text :=
  t.map Char.toLower

/-- The letters a to z become A to Z; all else stays. -/
def upperAscii (t : Text) : Text :=
  t.map Char.toUpper

def sameLetters (s t : Text) : Bool :=
  lowerAscii s == lowerAscii t

/-- A text between two single quotation marks, as messages show what they complain about. -/
def inTicks (t : Text) : Text :=
  '\x27' :: t ++ ['\x27']

/-! ## Laws -/

theorem splitFirst?_append_cons (sep : Char) (before after : Text) (h : sep ∉ before) :
    splitFirst? sep (before ++ sep :: after) = some (before, after) := by
  induction before with
  | nil => simp [splitFirst?]
  | cons c before ih =>
    have hc : ¬c = sep := fun e => h (e ▸ List.mem_cons_self)
    have hrest : sep ∉ before := fun m => h (List.mem_cons_of_mem _ m)
    simp [splitFirst?, hc, ih hrest]

theorem splitFirst?_eq_none_iff {sep : Char} {t : Text} :
    splitFirst? sep t = none ↔ sep ∉ t := by
  induction t with
  | nil => simp [splitFirst?]
  | cons c t ih =>
    unfold splitFirst?
    by_cases h : c = sep
    · simp [h]
    · rw [if_neg h, Option.map_eq_none_iff, ih, List.mem_cons, not_or]
      exact ⟨fun hrest => ⟨fun e => h e.symm, hrest⟩, fun hboth => hboth.2⟩

/-- The first occurrence of a character has none before it. -/
theorem splitFirst?_eq_some_iff {sep : Char} {t before after : Text} :
    splitFirst? sep t = some (before, after) ↔ t = before ++ sep :: after ∧ sep ∉ before := by
  constructor
  · intro h
    induction t generalizing before with
    | nil => cases h
    | cons c t ih =>
      unfold splitFirst? at h
      split at h
      · next hc =>
        cases h
        exact ⟨by rw [hc, List.nil_append], List.not_mem_nil⟩
      · next hc =>
        obtain ⟨⟨front, rest⟩, hsplit, heq⟩ := Option.map_eq_some_iff.1 h
        cases heq
        obtain ⟨rfl, hfront⟩ := ih hsplit
        have hne : sep ≠ c := fun e => hc e.symm
        exact ⟨rfl, List.not_mem_cons_of_ne_of_not_mem hne hfront⟩
  · rintro ⟨rfl, hbefore⟩
    exact splitFirst?_append_cons sep before after hbefore

/-- The pieces of a text between separators have no separator. -/
theorem notMem_of_mem_splitOn {sep : Char} {t piece : Text} (h : piece ∈ t.splitOn sep) :
    sep ∉ piece := by
  induction t generalizing piece with
  | nil =>
    obtain rfl : piece = [] := by simpa [List.splitOn_nil] using h
    exact List.not_mem_nil
  | cons c t ih =>
    rw [List.splitOn_cons_eq_if_modifyHead] at h
    split at h
    · rcases List.mem_cons.1 h with rfl | h
      · exact List.not_mem_nil
      · exact ih h
    · next hc =>
      -- the character goes to the front of the first piece
      cases hsplit : t.splitOn sep with
      | nil => exact absurd hsplit (List.splitOn_ne_nil sep t)
      | cons first more =>
        rw [hsplit, List.modifyHead_cons] at h
        rcases List.mem_cons.1 h with rfl | h
        · have hfirst : sep ∉ first := ih (hsplit ▸ List.mem_cons_self)
          have hne : sep ≠ c := fun e => hc (beq_iff_eq.2 e.symm)
          exact List.not_mem_cons_of_ne_of_not_mem hne hfirst
        · exact ih (hsplit ▸ List.mem_cons_of_mem _ h)

/-- Separators cut a text into one piece more than there are of them. -/
theorem length_splitOn (sep : Char) (t : Text) : (t.splitOn sep).length = t.count sep + 1 := by
  induction t with
  | nil => rfl
  | cons c t ih =>
    rw [List.splitOn_cons_eq_if_modifyHead, List.count_cons]
    by_cases hc : (c == sep) = true
    · rw [if_pos hc, if_pos hc, List.length_cons, ih]
    · rw [if_neg hc, if_neg hc, List.length_modifyHead, ih]

/-- Characters of a class before one that is not of it, or before the end, are the longest run
    at the start. -/
theorem takeWhile_append_of_head {p : Char → Bool} {front rest : Text}
    (hfront : ∀ c ∈ front, p c) (hrest : ∀ c, rest.head? = some c → p c = false) :
    (front ++ rest).takeWhile p = front ∧ (front ++ rest).dropWhile p = rest := by
  rw [List.takeWhile_append_of_pos hfront, List.dropWhile_append_of_pos hfront]
  cases rest with
  | nil => exact ⟨List.append_nil front, rfl⟩
  | cons c rest =>
    have hc : ¬p c = true := by simp [hrest c rfl]
    rw [List.takeWhile_cons_of_neg hc, List.dropWhile_cons_of_neg hc, List.append_nil]
    exact ⟨rfl, rfl⟩

/-- The characters of joined pieces are those of the pieces and of what joins them. -/
theorem mem_intercalate {joint : Text} {pieces : List Text} {c : Char}
    (h : c ∈ joint.intercalate pieces) : c ∈ joint ∨ ∃ piece ∈ pieces, c ∈ piece := by
  induction pieces with
  | nil => cases h
  | cons piece more ih =>
    cases more with
    | nil =>
      rw [List.intercalate_singleton] at h
      exact .inr ⟨piece, List.mem_cons_self, h⟩
    | cons next more =>
      rw [List.intercalate_cons_cons, List.mem_append, List.mem_append] at h
      rcases h with (h | h) | h
      · exact .inr ⟨piece, List.mem_cons_self, h⟩
      · exact .inl h
      · rcases ih h with h | ⟨later, hlater, hc⟩
        · exact .inl h
        · exact .inr ⟨later, List.mem_cons_of_mem _ hlater, hc⟩

theorem utf8Length_append (s t : Text) : utf8Length (s ++ t) = utf8Length s + utf8Length t := by
  induction s with
  | nil => rw [List.nil_append, utf8Length, Nat.zero_add]
  | cons c s ih => rw [List.cons_append, utf8Length, utf8Length, ih, Nat.add_assoc]

/-- A text of characters of one byte has as many bytes as characters. -/
theorem utf8Length_of_forall {t : Text} (h : ∀ c ∈ t, c.utf8Size = 1) :
    utf8Length t = t.length := by
  induction t with
  | nil => rfl
  | cons c t ih =>
    rw [utf8Length, h c List.mem_cons_self, ih fun d hd => h d (List.mem_cons_of_mem _ hd),
      List.length_cons, Nat.add_comm]

end Text
end FilterQuery
