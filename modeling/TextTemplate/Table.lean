/-!
# Tables

A table maps names to entries. It lists them by ascending name, each name once; names are ordered
by their code points.

* `get?_put`: what is found under a name after an entry was put under another.
* `mem_names_iff`, `perm_put`: the names are those under which something is found, and an entry
  that is put under a new name is added.
* `mem_iff_get?`, `ordered_put`: entries are found under their names, and stay in order.
-/

namespace TextTemplate

universe u

/-- Named entries, ascending by name. -/
abbrev Table (α : Type u) := List (String × α)

namespace Table

variable {α : Type u}

/-- The entry under a name. -/
def get? : Table α → String → Option α
  | [], _ => none
  | (k, v) :: rest, name => if name = k then some v else get? rest name

/-- Adds an entry, or replaces the one under its name. -/
def put : Table α → String → α → Table α
  | [], name, entry => [(name, entry)]
  | (k, v) :: rest, name, entry =>
    if name < k then (name, entry) :: (k, v) :: rest
    else if name = k then (name, entry) :: rest
    else (k, v) :: put rest name entry

/-- Removes the entry under a name. -/
def remove : Table α → String → Table α
  | [], _ => []
  | (k, v) :: rest, name => if name = k then rest else (k, v) :: remove rest name

/-- The table of some entries; of several under one name the last stays. -/
def ofEntries (entries : List (String × α)) : Table α :=
  entries.foldl (fun table (name, entry) => table.put name entry) []

/-- The names, ascending. -/
def names (table : Table α) : List String := table.map Prod.fst

/-- The entries, by ascending name. -/
def entries (table : Table α) : List α := table.map Prod.snd

/-- The names ascend, so each occurs once. -/
def Ordered (table : Table α) : Prop := table.Pairwise fun a b => a.1 < b.1

theorem get?_put (table : Table α) (name other : String) (entry : α) :
    (table.put name entry).get? other
      = if other = name then some entry else table.get? other := by
  induction table with
  | nil => simp [put, get?]
  | cons head rest ih =>
    obtain ⟨k, v⟩ := head
    unfold put
    split
    · simp [get?]
    · split
      · rename_i h
        subst h
        by_cases h : other = name <;> simp [get?, h]
      · rename_i h
        by_cases hk : other = k
        · subst hk
          simp [get?, Ne.symm h]
        · simp [get?, hk, ih]

theorem mem_names_iff (table : Table α) (name : String) :
    name ∈ table.names ↔ ∃ entry, table.get? name = some entry := by
  induction table with
  | nil => simp [names, get?]
  | cons head rest ih =>
    obtain ⟨k, v⟩ := head
    have hNames : Table.names ((k, v) :: rest) = k :: Table.names rest := rfl
    rw [hNames, List.mem_cons, ih]
    by_cases h : name = k
    · simp [get?, h]
    · simp [get?, h]

theorem perm_put {table : Table α} {name : String} (h : name ∉ table.names) (entry : α) :
    (table.put name entry).Perm ((name, entry) :: table) := by
  induction table with
  | nil => exact List.Perm.refl _
  | cons head rest ih =>
    obtain ⟨k, v⟩ := head
    have hHead : name ≠ k := fun he => h (List.mem_cons.mpr (.inl he))
    have hRest : name ∉ Table.names rest := fun hMem => h (List.mem_cons.mpr (.inr hMem))
    rw [put, if_neg hHead]
    split
    · exact List.Perm.refl _
    · have hLater := (ih hRest).cons (k, v)
      exact hLater.trans (List.Perm.swap _ _ _)

theorem perm_names_put {table : Table α} {name : String} (h : name ∉ table.names) (entry : α) :
    (table.put name entry).names.Perm (name :: table.names) :=
  (perm_put h entry).map Prod.fst

theorem mem_of_get? {table : Table α} {name : String} {entry : α}
    (h : table.get? name = some entry) : (name, entry) ∈ table := by
  induction table with
  | nil => cases h
  | cons head rest ih =>
    obtain ⟨k, v⟩ := head
    rw [get?] at h
    split at h
    · rename_i hName
      cases h
      rw [hName]
      exact List.mem_cons_self
    · exact List.mem_cons_of_mem _ (ih h)

/-- In a table, an entry stands under its name just if it is found there. -/
theorem mem_iff_get? {table : Table α} (h : table.Ordered) {name : String} {entry : α} :
    (name, entry) ∈ table ↔ table.get? name = some entry := by
  refine ⟨fun hMem => ?_, mem_of_get?⟩
  induction table with
  | nil => cases hMem
  | cons head rest ih =>
    obtain ⟨k, v⟩ := head
    obtain ⟨hHead, hRest⟩ := List.pairwise_cons.mp h
    rcases List.mem_cons.mp hMem with hEq | hLater
    · cases hEq
      rw [get?, if_pos rfl]
    · have hNe : name ≠ k := by
        rintro rfl
        exact String.lt_irrefl name (hHead (name, entry) hLater)
      rw [get?, if_neg hNe, ih hRest hLater]

theorem mem_put {table : Table α} {name : String} {entry : α} {other : String × α}
    (h : other ∈ table.put name entry) : other = (name, entry) ∨ other ∈ table := by
  induction table with
  | nil => exact .inl (List.mem_singleton.mp h)
  | cons head rest ih =>
    obtain ⟨k, v⟩ := head
    rw [put] at h
    split at h
    · exact List.mem_cons.mp h
    · split at h
      · exact (List.mem_cons.mp h).imp_right (List.mem_cons_of_mem _)
      · rcases List.mem_cons.mp h with hHead | hRest
        · exact .inr (List.mem_cons.mpr (.inl hHead))
        · exact (ih hRest).imp_right (List.mem_cons_of_mem _)

/-- Every table is built in this way. -/
theorem ordered_put {table : Table α} (h : table.Ordered) (name : String) (entry : α) :
    (table.put name entry).Ordered := by
  induction table with
  | nil => exact List.pairwise_singleton _ _
  | cons head rest ih =>
    obtain ⟨k, v⟩ := head
    obtain ⟨hHead, hRest⟩ := List.pairwise_cons.mp h
    rw [put]
    split
    · rename_i hBefore
      refine List.pairwise_cons.mpr ⟨fun other hMem => ?_, h⟩
      rcases List.mem_cons.mp hMem with rfl | hMem
      · exact hBefore
      · exact String.lt_trans hBefore (hHead other hMem)
    · split
      · rename_i hName
        rw [hName]
        exact List.pairwise_cons.mpr ⟨hHead, hRest⟩
      · rename_i hBefore hName
        refine List.pairwise_cons.mpr ⟨fun other hMem => ?_, ih hRest⟩
        rcases mem_put hMem with rfl | hMem
        · exact Std.lt_of_le_of_ne (String.not_lt.mp hBefore) (Ne.symm hName)
        · exact hHead other hMem

end Table

end TextTemplate
