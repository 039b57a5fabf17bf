/-!
Finite maps from names to values, kept as entry lists whose names ascend strictly by code point.
Writing a name again replaces its value in place, so the last writer of a name wins and the order of
the writes to different names leaves no trace.
-/

namespace CheckpointSink
namespace Fields

variable {α : Type}

/-- The names ascend strictly, hence no name occurs twice. -/
def Ascending (entries : List (String × α)) : Prop :=
  entries.Pairwise (fun earlier later => earlier.1 < later.1)

instance (entries : List (String × α)) : Decidable (Ascending entries) :=
  inferInstanceAs (Decidable (entries.Pairwise (fun earlier later => earlier.1 < later.1)))

def insert (name : String) (value : α) : List (String × α) → List (String × α)
  | [] => [(name, value)]
  | entry :: rest =>
    if name < entry.1 then (name, value) :: entry :: rest
    else if name = entry.1 then (name, value) :: rest
    else entry :: insert name value rest

def find? (name : String) : List (String × α) → Option α
  | [] => none
  | entry :: rest => if name = entry.1 then some entry.2 else find? name rest

def erase (name : String) (entries : List (String × α)) : List (String × α) :=
  entries.filter (fun entry => entry.1 ≠ name)

/-- The pairs are written one after the other, from the left. -/
def ofPairs (pairs : List (String × α)) : List (String × α) :=
  pairs.foldl (fun entries pair => insert pair.1 pair.2 entries) []

theorem mem_insert {name : String} {value : α} {entries : List (String × α)}
    {entry : String × α} (h : entry ∈ insert name value entries) :
    entry = (name, value) ∨ entry ∈ entries := by
  induction entries with
  | nil => simpa [insert] using h
  | cons head rest ih =>
    unfold insert at h
    split at h
    · simpa using h
    · split at h
      · rcases List.mem_cons.1 h with same | tail
        · exact .inl same
        · exact .inr (List.mem_cons_of_mem _ tail)
      · rcases List.mem_cons.1 h with same | tail
        · exact .inr (same ▸ List.mem_cons_self)
        · exact (ih tail).imp_right (List.mem_cons_of_mem _)

theorem lt_of_not_le {left right : String} (less : ¬left < right) (differ : left ≠ right) :
    right < left := by
  rcases Decidable.em (right < left) with greater | atMost
  · exact greater
  · exact absurd (String.le_antisymm atMost less) differ

theorem ascending_insert (name : String) (value : α) {entries : List (String × α)}
    (sorted : Ascending entries) : Ascending (insert name value entries) := by
  induction entries with
  | nil => simp [insert, Ascending]
  | cons head rest ih =>
    have above : ∀ {entry}, entry ∈ rest → head.1 < entry.1 := List.rel_of_pairwise_cons sorted
    have sortedRest : Ascending rest := List.Pairwise.of_cons sorted
    unfold insert
    split
    next less =>
      refine List.Pairwise.cons ?_ sorted
      intro entry member
      rcases List.mem_cons.1 member with same | tail
      · exact same ▸ less
      · exact String.lt_trans less (above tail)
    next notLess =>
      split
      next same => exact List.Pairwise.cons (fun _ tail => same ▸ above tail) sortedRest
      next differ =>
        refine List.Pairwise.cons ?_ (ih sortedRest)
        intro entry member
        rcases mem_insert member with same | tail
        · exact same ▸ lt_of_not_le notLess differ
        · exact above tail

theorem ascending_foldl_insert (pairs : List (String × α)) {entries : List (String × α)}
    (sorted : Ascending entries) :
    Ascending (pairs.foldl (fun entries pair => insert pair.1 pair.2 entries) entries) := by
  induction pairs generalizing entries with
  | nil => exact sorted
  | cons pair rest ih => exact ih (ascending_insert pair.1 pair.2 sorted)

theorem ascending_ofPairs (pairs : List (String × α)) : Ascending (ofPairs pairs) :=
  ascending_foldl_insert pairs List.Pairwise.nil

theorem ascending_erase (name : String) {entries : List (String × α)}
    (sorted : Ascending entries) : Ascending (erase name entries) :=
  List.Pairwise.filter _ sorted

theorem find?_insert (name other : String) (value : α) (entries : List (String × α)) :
    find? other (insert name value entries) =
      if other = name then some value else find? other entries := by
  induction entries with
  | nil => rfl
  | cons head rest ih =>
    unfold insert
    split
    · rfl
    · split
      next same => simp only [find?]; split <;> simp_all
      next differ =>
        simp only [find?, ih]
        split
        next atHead => rw [atHead, if_neg (fun same => differ same.symm)]
        next => rfl

end Fields

/-- A value for each of some names, the entries in ascending order of the names. -/
structure FieldMap (α : Type) where
  entries : List (String × α)
  ascending : Fields.Ascending entries
  deriving DecidableEq

namespace FieldMap

variable {α : Type}

def empty : FieldMap α := ⟨[], List.Pairwise.nil⟩

def insert (name : String) (value : α) (fields : FieldMap α) : FieldMap α :=
  ⟨Fields.insert name value fields.entries, Fields.ascending_insert name value fields.ascending⟩

def find? (name : String) (fields : FieldMap α) : Option α :=
  Fields.find? name fields.entries

def ofPairs (pairs : List (String × α)) : FieldMap α :=
  ⟨Fields.ofPairs pairs, Fields.ascending_ofPairs pairs⟩

end FieldMap
end CheckpointSink
