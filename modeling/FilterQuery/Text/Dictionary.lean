import FilterQuery.Text.Basic

/-!
  FilterQuery.Text.Dictionary

  Dictionaries from names to anything. A later entry under a name replaces the earlier one,
  and the entries stand in the order of their names by code points, which is also the order
  of the UTF-8 bytes.

  Main statements: the proof field `sorted` says that the entries are strictly increasing, so no
  name occurs twice. What is looked up is the only entry of its name (`lookUp?_eq_some_iff`), an
  insertion is seen under its own name alone (`get?_insert`), and the entries determine a
  dictionary in whatever order they are put in (`ofList_of_perm`).
-/

namespace FilterQuery

/-- Entries in strictly increasing order of their names. -/
structure Dictionary (α : Type) where
  entries : List (Text × α)
  sorted : entries.Pairwise fun a b => a.1 < b.1

namespace Dictionary

variable {α : Type}

def empty : Dictionary α := ⟨[], List.Pairwise.nil⟩

/-- Puts an entry at its place in a sorted list, over an entry of the same name. -/
def insertEntry (name : Text) (a : α) : List (Text × α) → List (Text × α)
  | [] => [(name, a)]
  | entry :: rest =>
    if name < entry.1 then (name, a) :: entry :: rest
    else if name = entry.1 then (name, a) :: rest
    else entry :: insertEntry name a rest

theorem mem_insertEntry {name : Text} {a : α} {es : List (Text × α)} {e : Text × α}
    (h : e ∈ insertEntry name a es) : e = (name, a) ∨ e ∈ es := by
  induction es with
  | nil => simpa [insertEntry] using h
  | cons entry rest ih =>
    unfold insertEntry at h
    split at h
    · simpa using h
    · split at h
      · rcases List.mem_cons.1 h with h | h
        · exact .inl h
        · exact .inr (List.mem_cons_of_mem _ h)
      · rcases List.mem_cons.1 h with h | h
        · exact .inr (h ▸ List.mem_cons_self)
        · exact (ih h).imp_right (List.mem_cons_of_mem _)

theorem lt_or_eq_or_gt (s t : Text) : s < t ∨ s = t ∨ t < s := by
  by_cases h : s < t
  · exact .inl h
  · by_cases h' : t < s
    · exact .inr (.inr h')
    · exact .inr (.inl (List.le_antisymm (List.not_lt.1 h') (List.not_lt.1 h)))

theorem sorted_insertEntry (name : Text) (a : α) {es : List (Text × α)}
    (h : es.Pairwise fun a b => a.1 < b.1) :
    (insertEntry name a es).Pairwise fun a b => a.1 < b.1 := by
  induction es with
  | nil => simp [insertEntry]
  | cons entry rest ih =>
    obtain ⟨hentry, hrest⟩ := List.pairwise_cons.1 h
    unfold insertEntry
    split
    · next hlt =>
      refine List.pairwise_cons.2 ⟨fun b hb => ?_, h⟩
      rcases List.mem_cons.1 hb with hb | hb
      · exact hb ▸ hlt
      · exact List.lt_trans hlt (hentry b hb)
    · split
      · next heq => exact List.pairwise_cons.2 ⟨fun b hb => heq ▸ hentry b hb, hrest⟩
      · next hlt hne =>
        refine List.pairwise_cons.2 ⟨fun b hb => ?_, ih hrest⟩
        rcases mem_insertEntry hb with hb | hb
        · rcases lt_or_eq_or_gt name entry.1 with h' | h' | h'
          · exact absurd h' hlt
          · exact absurd h' hne
          · exact hb ▸ h'
        · exact hentry b hb

/-- Adds an entry, over an earlier one of the same name. -/
def insert (d : Dictionary α) (name : Text) (a : α) : Dictionary α :=
  ⟨insertEntry name a d.entries, sorted_insertEntry name a d.sorted⟩

/-- The dictionary of a list of entries; of two under one name the later counts. -/
def ofList (es : List (Text × α)) : Dictionary α :=
  es.foldl (fun d (name, a) => d.insert name a) empty

/-- The first entry under a name in a list of entries. -/
def lookUp? (name : Text) : List (Text × α) → Option α
  | [] => none
  | entry :: rest => if name = entry.1 then some entry.2 else lookUp? name rest

def get? (d : Dictionary α) (name : Text) : Option α :=
  lookUp? name d.entries

def contains (d : Dictionary α) (name : Text) : Bool :=
  (d.get? name).isSome

def size (d : Dictionary α) : Nat :=
  d.entries.length

def isEmpty (d : Dictionary α) : Bool :=
  d.entries.isEmpty

/-! ## Laws -/

theorem lookUp?_insertEntry (name : Text) (a : α) (es : List (Text × α)) (other : Text) :
    lookUp? other (insertEntry name a es)
      = if other = name then some a else lookUp? other es := by
  induction es with
  | nil => rfl
  | cons entry rest ih =>
    unfold insertEntry
    split
    · rfl
    · split
      · next heq => by_cases h : other = name <;> simp [lookUp?, ← heq, h]
      · next hne =>
        by_cases h : other = entry.1
        · have : ¬entry.1 = name := fun e => hne e.symm
          simp [lookUp?, h, this]
        · simp [lookUp?, h, ih]

/-- An insertion is seen under its own name and nowhere else. -/
theorem get?_insert (d : Dictionary α) (name : Text) (a : α) (other : Text) :
    (d.insert name a).get? other = if other = name then some a else d.get? other :=
  lookUp?_insertEntry name a d.entries other

/-- Where no name occurs twice, the entry that is looked up is the only one of its name. -/
theorem lookUp?_eq_some_iff {es : List (Text × α)} (h : es.Pairwise fun a b => a.1 ≠ b.1)
    {name : Text} {a : α} : lookUp? name es = some a ↔ (name, a) ∈ es := by
  induction es with
  | nil => simp [lookUp?]
  | cons entry rest ih =>
    obtain ⟨hentry, hrest⟩ := List.pairwise_cons.1 h
    rw [lookUp?, List.mem_cons]
    split
    · next hname =>
      subst hname
      have hnot : (entry.1, a) ∉ rest := fun hmem => hentry _ hmem rfl
      simp [hnot, Prod.ext_iff, eq_comm]
    · next hname =>
      have hne : (name, a) ≠ entry := fun e => hname (congrArg Prod.fst e)
      simp [hne, ih hrest]

/-! ### Dictionaries of lists -/

/-- An insertion under a new name adds an entry. -/
theorem perm_insertEntry {name : Text} {a : α} {es : List (Text × α)}
    (h : ∀ e ∈ es, e.1 ≠ name) : (insertEntry name a es).Perm ((name, a) :: es) := by
  induction es with
  | nil => exact .refl _
  | cons entry rest ih =>
    obtain ⟨hentry, hrest⟩ := List.forall_mem_cons.1 h
    unfold insertEntry
    split
    · exact .refl _
    · rw [if_neg hentry.symm]
      exact ((ih hrest).cons entry).trans (.swap _ _ _)

/-- Insertions under different new names add their entries. -/
theorem perm_entries_foldl {es : List (Text × α)} (d : Dictionary α)
    (h : (d.entries ++ es).Pairwise fun a b => a.1 ≠ b.1) :
    (es.foldl (fun d (name, a) => d.insert name a) d).entries.Perm (d.entries ++ es) := by
  induction es generalizing d with
  | nil => rw [List.append_nil, List.foldl_nil]
  | cons entry rest ih =>
    have hnew : ∀ e ∈ d.entries, e.1 ≠ entry.1 := fun e he =>
      (List.pairwise_append.1 h).2.2 e he entry List.mem_cons_self
    have hinsert : (d.insert entry.1 entry.2).entries.Perm (entry :: d.entries) :=
      perm_insertEntry hnew
    have hmoved : ((d.insert entry.1 entry.2).entries ++ rest).Perm (d.entries ++ entry :: rest) :=
      (hinsert.append_right rest).trans List.perm_middle.symm
    exact (ih _ ((hmoved.pairwise_iff fun hne => hne.symm).2 h)).trans hmoved

/-- A dictionary is known from its entries, in whatever order they are put in. -/
theorem ofList_of_perm {es : List (Text × α)} {d : Dictionary α} (h : es.Perm d.entries) :
    ofList es = d := by
  have hnames : d.entries.Pairwise fun a b => a.1 ≠ b.1 :=
    d.sorted.imp fun {a b} hlt (heq : a.1 = b.1) => List.lt_irrefl b.1 (heq ▸ hlt)
  have hperm : (ofList es).entries.Perm d.entries :=
    (perm_entries_foldl empty ((h.pairwise_iff fun hne => hne.symm).2 hnames)).trans h
  have hentries : (ofList es).entries = d.entries :=
    hperm.eq_of_pairwise (fun a b _ _ hlt hgt => absurd (List.lt_trans hlt hgt) (List.lt_irrefl _))
      (ofList es).sorted d.sorted
  cases d
  cases hlist : ofList es
  rw [hlist] at hentries
  cases hentries
  rfl

/-- A list in strictly increasing order of names is the list of entries of its dictionary. -/
theorem entries_ofList {es : List (Text × α)} (h : es.Pairwise fun a b => a.1 < b.1) :
    (ofList es).entries = es :=
  congrArg entries (ofList_of_perm (show es.Perm (Dictionary.mk es h).entries from .refl es))

end Dictionary
end FilterQuery
