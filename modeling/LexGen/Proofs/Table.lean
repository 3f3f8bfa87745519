import LexGen.Table
import Mathlib.Data.List.Sort

/-!
# Tables and their entries

A table is the table of its entries (`ofList_entries`), and what it contains after a change is told
by what it contained before. Tables that give the same values are the same (`ext_find?`), since the
entries are in the order of the names.
-/

namespace LexGen.Table

variable {α β : Type}

theorem ext {t u : Table α} (h : t.entries = u.entries) : t = u := by
  cases t
  cases u
  simp_all

/-- A name above all others goes to the end. -/
theorem insertEntry_of_lt {k : String} (v : α) :
    ∀ {es : List (String × α)}, (∀ e ∈ es, e.1 < k) → insertEntry k v es = es ++ [(k, v)]
  | [], _ => rfl
  | (l, w) :: rest, h => by
    have hl : l < k := h (l, w) List.mem_cons_self
    have ih := insertEntry_of_lt v fun e he => h e (List.mem_cons_of_mem _ he)
    have hne : k ≠ l := by
      rintro rfl
      exact String.lt_irrefl k hl
    rw [insertEntry, if_neg (String.lt_asymm hl), if_neg hne, ih]
    rfl

theorem entries_foldl_insert : ∀ {es : List (String × α)} {t : Table α},
    (t.entries ++ es).Pairwise (fun a b => a.1 < b.1) →
      (es.foldl (fun t e => t.insert e.1 e.2) t).entries = t.entries ++ es
  | [], t, _ => (List.append_nil _).symm
  | e :: es, t, h => by
    have hlt : ∀ d ∈ t.entries, d.1 < e.1 :=
      fun d hd => (List.pairwise_append.1 h).2.2 d hd e List.mem_cons_self
    have hinsert : (t.insert e.1 e.2).entries = t.entries ++ [e] := insertEntry_of_lt e.2 hlt
    have hcat : (t.insert e.1 e.2).entries ++ es = t.entries ++ e :: es := by
      rw [hinsert, List.append_assoc, List.singleton_append]
    rw [List.foldl_cons, entries_foldl_insert (hcat ▸ h), hcat]

theorem ofList_entries (t : Table α) : ofList t.entries = t :=
  ext (entries_foldl_insert (t := empty) t.sorted)

theorem contains_insert (t : Table α) (k l : String) (v : α) :
    (t.insert k v).contains l = (l == k || t.contains l) := by
  rw [contains, find?_insert, contains]
  by_cases h : l = k <;> simp [h]

theorem lookup_map (f : String → α → β) (k : String) : ∀ es : List (String × α),
    (es.map fun e => (e.1, f e.1 e.2)).lookup k = (es.lookup k).map (f k)
  | [] => rfl
  | (l, w) :: rest => by
    by_cases h : k = l
    · subst h
      simp
    · simp only [List.map_cons, List.lookup_cons, beq_eq_false_iff_ne.2 h]
      exact lookup_map f k rest

theorem find?_map (f : String → α → β) (t : Table α) (k : String) :
    (t.map f).find? k = (t.find? k).map (f k) :=
  lookup_map f k t.entries

theorem contains_map (f : String → α → β) (t : Table α) (k : String) :
    (t.map f).contains k = t.contains k := by
  rw [contains, find?_map, Option.isSome_map, contains]

/-! ## Tables that give the same values -/

theorem find?_eq_some_iff {t : Table α} {k : String} {v : α} :
    t.find? k = some v ↔ (k, v) ∈ t.entries := by
  have hlookup : ∀ {es : List (String × α)}, es.Pairwise (fun a b => a.1 < b.1) →
      (es.lookup k = some v ↔ (k, v) ∈ es) := by
    intro es hes
    induction es with
    | nil => simp
    | cons e es ih =>
      obtain ⟨l, w⟩ := e
      rw [List.pairwise_cons] at hes
      by_cases h : k = l
      · subst h
        have hnot : (k, v) ∉ es := fun hmem => String.lt_irrefl k (hes.1 _ hmem)
        simp only [List.lookup_cons_self, Option.some.injEq, List.mem_cons, Prod.mk.injEq, true_and,
          hnot, or_false]
        exact eq_comm
      · simp only [List.lookup_cons, beq_eq_false_iff_ne.2 h, ih hes.2, List.mem_cons,
          Prod.mk.injEq, h, false_and, false_or]
  exact hlookup t.sorted

theorem mem_keys_iff {t : Table α} {k : String} : k ∈ t.keys ↔ ∃ v, t.find? k = some v := by
  simp only [keys, List.mem_map, find?_eq_some_iff]
  constructor
  · rintro ⟨e, he, rfl⟩
    exact ⟨e.2, he⟩
  · rintro ⟨v, hv⟩
    exact ⟨(k, v), hv, rfl⟩

theorem nodup_keys (t : Table α) : t.keys.Nodup := by
  refine List.pairwise_map.2 (t.sorted.imp fun {a b} hlt heq => ?_)
  exact String.lt_irrefl b.1 (heq ▸ hlt)

theorem keys_eq_of_mem_iff {t : Table α} {u : Table β} (h : ∀ k, k ∈ t.keys ↔ k ∈ u.keys) :
    t.keys = u.keys := by
  have : Std.Irrefl fun a b : String => a < b := ⟨String.lt_irrefl⟩
  have : Std.Antisymm fun a b : String => a < b :=
    ⟨fun _ _ hab hba => absurd hba (String.lt_asymm hab)⟩
  exact List.Pairwise.eq_of_mem_iff (List.pairwise_map.2 t.sorted) (List.pairwise_map.2 u.sorted) h

theorem ext_find? {t u : Table α} (h : ∀ k, t.find? k = u.find? k) : t = u := by
  have : Std.Irrefl fun a b : String × α => a.1 < b.1 := ⟨fun a => String.lt_irrefl a.1⟩
  have : Std.Antisymm fun a b : String × α => a.1 < b.1 :=
    ⟨fun _ _ hab hba => absurd hba (String.lt_asymm hab)⟩
  refine ext (List.Pairwise.eq_of_mem_iff t.sorted u.sorted fun e => ?_)
  rw [← find?_eq_some_iff, ← find?_eq_some_iff, h]

theorem keys_insert {t : Table α} {k : String} (hk : k ∈ t.keys) (v : α) :
    (t.insert k v).keys = t.keys := by
  refine keys_eq_of_mem_iff fun l => ?_
  rw [mem_keys_iff, mem_keys_iff, find?_insert]
  by_cases h : l = k
  · subst h
    simpa using mem_keys_iff.1 hk
  · simp [h]

theorem insert_insert (t : Table α) (k : String) (v w : α) :
    (t.insert k v).insert k w = t.insert k w := by
  refine ext_find? fun l => ?_
  rw [find?_insert, find?_insert, find?_insert]
  by_cases h : l = k <;> simp [h]

theorem insert_of_find? {t : Table α} {k : String} {v : α} (h : t.find? k = some v) :
    t.insert k v = t := by
  refine ext_find? fun l => ?_
  rw [find?_insert]
  by_cases hl : l = k
  · rw [if_pos hl, hl, h]
  · rw [if_neg hl]

theorem map_insert (f : String → α → β) (t : Table α) (k : String) (v : α) :
    (t.insert k v).map f = (t.map f).insert k (f k v) := by
  refine ext_find? fun l => ?_
  rw [find?_map, find?_insert, find?_insert, find?_map]
  by_cases h : l = k <;> simp [h]

theorem map_ofList (f : String → α → β) (es : List (String × α)) :
    (ofList es).map f = ofList (es.map fun e => (e.1, f e.1 e.2)) := by
  have hfold : ∀ (es : List (String × α)) (t : Table α),
      (es.foldl (fun t e => t.insert e.1 e.2) t).map f =
        (es.map fun e => (e.1, f e.1 e.2)).foldl (fun t e => t.insert e.1 e.2) (t.map f) := by
    intro es
    induction es with
    | nil => exact fun _ => rfl
    | cons e es ih =>
      intro t
      rw [List.foldl_cons, ih, map_insert, List.map_cons, List.foldl_cons]
  exact hfold es empty

end LexGen.Table
