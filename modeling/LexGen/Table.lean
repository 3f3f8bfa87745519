/-!
# Tables

Names with values, in increasing order of the names. A name has one value; a later one replaces it
(`find?_insert`).
-/

namespace LexGen

structure Table (α : Type) where
  entries : List (String × α)
  sorted : entries.Pairwise fun a b => a.1 < b.1
deriving DecidableEq

namespace Table

variable {α β : Type}

/-- Puts a value into a list of entries that is in increasing order. -/
def insertEntry (k : String) (v : α) : List (String × α) → List (String × α)
  | [] => [(k, v)]
  | (l, w) :: rest =>
    if k < l then (k, v) :: (l, w) :: rest
    else if k = l then (k, v) :: rest
    else (l, w) :: insertEntry k v rest

theorem key_of_mem_insertEntry {k : String} {v : α} {p : String × α} :
    ∀ {es : List (String × α)}, p ∈ insertEntry k v es → p.1 = k ∨ p ∈ es
  | [], h => by simp_all [insertEntry]
  | (l, w) :: rest, h => by
    simp only [insertEntry] at h
    split at h
    · simp_all
      rcases h with rfl | h
      · simp
      · exact Or.inr h
    · split at h
      · simp only [List.mem_cons] at h
        rcases h with rfl | h
        · simp
        · simp [h]
      · simp only [List.mem_cons] at h
        rcases h with rfl | h
        · simp
        · rcases key_of_mem_insertEntry h with h | h <;> simp [h]

theorem sorted_insertEntry (k : String) (v : α) :
    ∀ {es : List (String × α)}, es.Pairwise (fun a b => a.1 < b.1) →
      (insertEntry k v es).Pairwise fun a b => a.1 < b.1
  | [], _ => by simp [insertEntry]
  | (l, w) :: rest, h => by
    rw [List.pairwise_cons] at h
    simp only [insertEntry]
    split
    · rename_i hk
      refine List.pairwise_cons.2 ⟨fun p hp => ?_, List.pairwise_cons.2 h⟩
      rcases List.mem_cons.1 hp with rfl | hp
      · exact hk
      · exact String.lt_trans hk (h.1 p hp)
    · split
      · rename_i hk
        exact List.pairwise_cons.2 ⟨fun p hp => hk ▸ h.1 p hp, h.2⟩
      · rename_i hk hne
        refine List.pairwise_cons.2 ⟨fun p hp => ?_, sorted_insertEntry k v h.2⟩
        rcases key_of_mem_insertEntry hp with hp | hp
        · exact hp ▸ Std.lt_of_le_of_ne hk (Ne.symm hne)
        · exact h.1 p hp

def empty : Table α := ⟨[], .nil⟩

instance : Inhabited (Table α) := ⟨empty⟩

/-- Gives a name a value, in place of the one it had. -/
def insert (t : Table α) (k : String) (v : α) : Table α :=
  ⟨insertEntry k v t.entries, sorted_insertEntry k v t.sorted⟩

/-- The table of a list of entries, where a later one replaces an earlier one of the same name. -/
def ofList (es : List (String × α)) : Table α := es.foldl (fun t e => t.insert e.1 e.2) empty

def find? (t : Table α) (k : String) : Option α := t.entries.lookup k

def contains (t : Table α) (k : String) : Bool := (t.find? k).isSome

def keys (t : Table α) : List String := t.entries.map (·.1)

def size (t : Table α) : Nat := t.entries.length

/-- Changes the value of every name. -/
def map (f : String → α → β) (t : Table α) : Table β where
  entries := t.entries.map fun e => (e.1, f e.1 e.2)
  sorted := List.pairwise_map.2 t.sorted

theorem lookup_insertEntry (k l : String) (v : α) :
    ∀ es : List (String × α),
      (insertEntry k v es).lookup l = if l = k then some v else es.lookup l
  | [] => by by_cases h : l = k <;> simp [insertEntry, List.lookup_cons, h, beq_eq_false_iff_ne.2]
  | (m, w) :: rest => by
    simp only [insertEntry]
    split
    · by_cases h : l = k <;> simp [List.lookup_cons, h, beq_eq_false_iff_ne.2]
    · split
      · rename_i hk
        subst hk
        by_cases h : l = k <;> simp [List.lookup_cons, h, beq_eq_false_iff_ne.2]
      · rename_i hne
        by_cases h : l = m
        · subst h
          simp [Ne.symm hne]
        · simp [List.lookup_cons, h, beq_eq_false_iff_ne.2, lookup_insertEntry k l v rest]

@[simp] theorem find?_empty (k : String) : (empty : Table α).find? k = none := rfl

theorem find?_insert (t : Table α) (k l : String) (v : α) :
    (t.insert k v).find? l = if l = k then some v else t.find? l :=
  lookup_insertEntry k l v t.entries

end Table
end LexGen
