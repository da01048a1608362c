import FilterQuery.Number.Digits

/-!
  FilterQuery.Uuid

  Universally unique identifiers: 32 hexadecimal digits, written in lower case as five groups
  with hyphens between them. Accepted are also the digits without hyphens, the groups in
  braces, and the groups after `urn:uuid:` in any letters. `Uuid.read` says what is wrong with
  any other text.
-/

namespace FilterQuery

/-- An identifier by its hexadecimal digits. -/
structure Uuid where
  digits : List (Fin 16)
  length_digits : digits.length = 32
deriving DecidableEq

/-- Why a text is no identifier. -/
inductive UuidFault where
  | length (found : Nat)
  | character (c : Char) (index : Nat)
  | groupCount (found : Nat)
  | groupLength (group expected found : Nat)
deriving DecidableEq

def UuidFault.message : UuidFault → Text
  | .length found => "invalid length: found ".toList ++ Text.ofNat found
  | .character c index =>
    "invalid character: found `".toList ++ [c] ++ "` at ".toList ++ Text.ofNat index
  | .groupCount found => "invalid group count: expected 5, found ".toList ++ Text.ofNat found
  | .groupLength group expected found =>
    "invalid group length in group ".toList ++ Text.ofNat group ++ ": expected ".toList ++
      Text.ofNat expected ++ ", found ".toList ++ Text.ofNat found

namespace Uuid

/-- How many digits the groups have. -/
def groupLengths : List Nat := [8, 4, 4, 4, 12]

/-- What may stand before the groups, in any letters. -/
def urnStart : Text := "urn:uuid:".toList

def hexValue? (c : Char) : Option (Fin 16) :=
  let n := c.toNat
  if 48 ≤ n && n ≤ 57 then some (Fin.ofNat 16 (n - 48))
  else if 97 ≤ n && n ≤ 102 then some (Fin.ofNat 16 (n - 87))
  else if 65 ≤ n && n ≤ 70 then some (Fin.ofNat 16 (n - 55))
  else none

def hexDigit (n : Fin 16) : Char :=
  Nat.digitChar n.val

/-- Cuts a list into pieces of the given lengths. -/
def cut {α : Type} : List Nat → List α → List (List α)
  | [], _ => []
  | n :: lengths, xs => xs.take n :: cut lengths (xs.drop n)

def text (u : Uuid) : Text :=
  ['-'].intercalate (cut groupLengths (u.digits.map hexDigit))

/-! ## Reading -/

def ofDigits? (t : Text) : Option Uuid :=
  match t.mapM hexValue? with
  | none => none
  | some digits => if h : digits.length = 32 then some ⟨digits, h⟩ else none

def ofGroups? (t : Text) : Option Uuid :=
  let groups := t.splitOn '-'
  if groups.map List.length = groupLengths then ofDigits? groups.flatten else none

def unbraced? : Text → Option Text
  | '\x7b' :: rest => Text.stripLast? '\x7d' rest
  | _ => none

def afterUrn? (t : Text) : Option Text :=
  if Text.sameLetters (t.take urnStart.length) urnStart then some (t.drop urnStart.length)
  else none

/-- The part of a text that must consist of groups, for the lengths at which groups may
    stand. -/
def grouped? (t : Text) : Option Text :=
  match Text.utf8Length t with
  -- the groups alone, in braces, or after `urn:uuid:`
  | 36 => some t
  | 38 => unbraced? t
  | 45 => afterUrn? t
  | _ => none

/-! ## Diagnosis -/

/-- The first character that is neither a hexadecimal digit nor a hyphen, with its place in
    bytes. -/
def strayCharacter? (index : Nat) : Text → Option UuidFault
  | [] => none
  | c :: rest =>
    if c = '-' || (hexValue? c).isSome then strayCharacter? (index + c.utf8Size) rest
    else some (.character c index)

/-- Where the hyphens of a text stand, its first character being at `index`. -/
def hyphenPlaces (index : Nat) : Text → List Nat
  | [] => []
  | c :: rest =>
    if c = '-' then index :: hyphenPlaces (index + 1) rest else hyphenPlaces (index + 1) rest

/-- The first of the four inner groups that does not end where it should. `positions` are
    those of the hyphens, `start` is where the next group begins. -/
def shortGroup? (group start : Nat) : List Nat → List Nat → Option UuidFault
  | length :: lengths, position :: positions =>
    if position = start + length then
      shortGroup? (group + 1) (start + length + 1) lengths positions
    else some (.groupLength group length (position - start))
  | _, _ => none

/-- What is wrong with the digits and hyphens of a text that is no identifier. They stand in a
    text of `size` bytes after `start` others, and have no hyphens only where `simple` says so. -/
def diagnoseGroups (simple : Bool) (size start : Nat) (inner : Text) : UuidFault :=
  match strayCharacter? start inner with
  | some fault => fault
  | none =>
    let hyphens := hyphenPlaces 0 inner
    if hyphens.isEmpty && simple then .length size
    else if hyphens.length ≠ 4 then .groupCount (hyphens.length + 1)
    else
      match shortGroup? 0 0 groupLengths hyphens with
      | some fault => fault
      -- the first four groups are right, so the fault lies in the last one
      | none => .groupLength 4 12 (size - 24)

/-- What is wrong with a text that is not known to have groups. -/
def diagnose (t : Text) : UuidFault :=
  let size := Text.utf8Length t
  if size = 0 || 45 < size then .length size
  else
    -- braces and mark are left out of the report, though they count for the size
    match unbraced? t with
    | some inner => diagnoseGroups false size 1 inner
    | none =>
      match afterUrn? t with
      | some inner => diagnoseGroups false size urnStart.length inner
      | none => diagnoseGroups true size 0 t

/-- Reads an identifier. The length of a text tells whether it should have groups. -/
def read (t : Text) : Except UuidFault Uuid :=
  match grouped? t with
  | some inner =>
    -- what the length told to be groups is diagnosed as it stands
    match ofGroups? inner with
    | some u => .ok u
    | none => .error (diagnoseGroups false (Text.utf8Length inner) 0 inner)
  | none =>
    match (if Text.utf8Length t = 32 then ofDigits? t else none) with
    | some u => .ok u
    | none => .error (diagnose t)

/-! ## Written identifiers -/

/-- A hexadecimal digit is read back. -/
theorem hexValue?_hexDigit (n : Fin 16) : hexValue? (hexDigit n) = some n := by
  decide +revert

theorem hexDigit_ne_hyphen (n : Fin 16) : hexDigit n ≠ '-' := by
  decide +revert

theorem utf8Size_hexDigit (n : Fin 16) : (hexDigit n).utf8Size = 1 := by
  decide +revert

theorem flatten_cut {α : Type} (lengths : List Nat) (xs : List α) :
    (cut lengths xs).flatten = xs.take (lengths.foldr (· + ·) 0) := by
  induction lengths generalizing xs with
  | nil => rfl
  | cons n lengths ih =>
    rw [cut, List.flatten_cons, ih, List.foldr_cons, List.take_add]

theorem mem_of_mem_cut {α : Type} {lengths : List Nat} {xs piece : List α} {x : α}
    (h : piece ∈ cut lengths xs) (hx : x ∈ piece) : x ∈ xs := by
  have hflatten : x ∈ (cut lengths xs).flatten := List.mem_flatten.2 ⟨piece, h, hx⟩
  rw [flatten_cut] at hflatten
  exact List.mem_of_mem_take hflatten

/-- Where there is enough to cut from, the pieces have the given lengths. -/
theorem map_length_cut {α : Type} {lengths : List Nat} {xs : List α}
    (h : lengths.foldr (· + ·) 0 ≤ xs.length) : (cut lengths xs).map List.length = lengths := by
  induction lengths generalizing xs with
  | nil => rfl
  | cons n lengths ih =>
    rw [List.foldr_cons] at h
    have hdrop : lengths.foldr (· + ·) 0 ≤ (xs.drop n).length := by
      rw [List.length_drop]
      omega
    rw [cut, List.map_cons, ih hdrop, List.length_take_of_le (by omega)]

theorem ofDigits?_digits (u : Uuid) : ofDigits? (u.digits.map hexDigit) = some u := by
  have hvalues (digits : List (Fin 16)) : (digits.map hexDigit).mapM hexValue? = some digits := by
    induction digits with
    | nil => rfl
    | cons n digits ih =>
      rw [List.map_cons, List.mapM_cons, hexValue?_hexDigit, ih]
      rfl
  rw [ofDigits?, hvalues]
  exact dif_pos u.length_digits

theorem splitOn_text (u : Uuid) :
    u.text.splitOn '-' = cut groupLengths (u.digits.map hexDigit) := by
  refine List.splitOn_intercalate '-' (fun piece hpiece hmem => ?_) (by simp [groupLengths, cut])
  obtain ⟨n, -, hn⟩ := List.mem_map.1 (mem_of_mem_cut hpiece hmem)
  exact hexDigit_ne_hyphen n hn

/-- The text of an identifier consists of its groups. -/
theorem ofGroups?_text (u : Uuid) : ofGroups? u.text = some u := by
  have hlength : (u.digits.map hexDigit).length = 32 := by
    rw [List.length_map, u.length_digits]
  have hflatten : (cut groupLengths (u.digits.map hexDigit)).flatten = u.digits.map hexDigit := by
    rw [flatten_cut]
    exact List.take_of_length_le (Nat.le_of_eq hlength)
  have hlengths : (cut groupLengths (u.digits.map hexDigit)).map List.length = groupLengths :=
    map_length_cut (Nat.le_of_eq hlength.symm)
  simp only [ofGroups?, splitOn_text, hlengths, hflatten, if_true]
  exact u.ofDigits?_digits

theorem mem_text {u : Uuid} {c : Char} (h : c ∈ u.text) : c = '-' ∨ ∃ n, c = hexDigit n := by
  rcases Text.mem_intercalate h with h | ⟨piece, hpiece, hc⟩
  · exact .inl (List.mem_singleton.1 h)
  · obtain ⟨n, -, hn⟩ := List.mem_map.1 (mem_of_mem_cut hpiece hc)
    exact .inr ⟨n, hn.symm⟩

theorem length_text (u : Uuid) : u.text.length = 36 := by
  simp [text, groupLengths, cut, List.intercalate_cons_cons, u.length_digits]

theorem utf8Length_text (u : Uuid) : Text.utf8Length u.text = 36 := by
  rw [Text.utf8Length_of_forall, length_text]
  intro c hc
  rcases mem_text hc with rfl | ⟨n, rfl⟩
  · rfl
  · exact utf8Size_hexDigit n

/-- A written identifier is read back. -/
theorem read_text (u : Uuid) : read u.text = .ok u := by
  have hgrouped : grouped? u.text = some u.text := by
    rw [grouped?, utf8Length_text]
    rfl
  simp only [read, hgrouped, ofGroups?_text]

end Uuid
end FilterQuery
