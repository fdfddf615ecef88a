/-!
# Tables

A **table** keeps one value per key, in the order in which the keys first came in. Everything the
cluster layer looks up by an identifier is one: message types, proxy addresses, peers, sessions.

The view of a table is `Table.get?`. `get?_insert` and `get?_erase` say what the two changes do to
it, and `size` counts the keys, because no key is ever held twice (`Table.insert` replaces in
place).
-/

namespace ActorMesh

/-- Values by key, oldest key first. -/
structure Table (κ ν : Type) where
  /-- The entries; built through `insert`, they hold every key once. -/
  entries : List (κ × ν) := []
  deriving Repr

namespace Table

variable {κ ν : Type} [DecidableEq κ]

instance [DecidableEq ν] : DecidableEq (Table κ ν) := fun a b =>
  match decEq a.entries b.entries with
  | .isTrue h => .isTrue (by cases a; cases b; simpa using h)
  | .isFalse h => .isFalse (fun e => h (by rw [e]))

instance : Inhabited (Table κ ν) := ⟨⟨[]⟩⟩

/-- The table without entries. -/
def empty : Table κ ν := ⟨[]⟩

/-- The value an entry list holds for a key: that of the first entry with the key. -/
def lookup (k : κ) : List (κ × ν) → Option ν
  | [] => none
  | (k', v) :: rest => if k = k' then some v else lookup k rest

/-- Overwrites the first entry with the key, or adds one at the end. -/
def put (k : κ) (v : ν) : List (κ × ν) → List (κ × ν)
  | [] => [(k, v)]
  | (k', v') :: rest => if k = k' then (k, v) :: rest else (k', v') :: put k v rest

/-- The value held for a key. -/
def get? (t : Table κ ν) (k : κ) : Option ν := lookup k t.entries

/-- Whether the table holds a key. -/
def contains (t : Table κ ν) (k : κ) : Bool := (t.get? k).isSome

/-- Holds `v` for `k` from now on; a key that is already there keeps its place. -/
def insert (t : Table κ ν) (k : κ) (v : ν) : Table κ ν := ⟨put k v t.entries⟩

/-- Forgets a key. -/
def erase (t : Table κ ν) (k : κ) : Table κ ν := ⟨t.entries.filter fun e => decide (e.1 ≠ k)⟩

/-- Changes the value of a key that the table holds; other keys are left alone. -/
def modify (t : Table κ ν) (k : κ) (f : ν → ν) : Table κ ν :=
  match t.get? k with
  | some v => t.insert k (f v)
  | none => t

/-- How many keys the table holds. -/
def size (t : Table κ ν) : Nat := t.entries.length

/-- Whether the table holds no key. -/
def isEmpty (t : Table κ ν) : Bool := t.entries.isEmpty

/-- The table that a list of entries describes; a later entry for a key overrides an earlier one. -/
def ofList (es : List (κ × ν)) : Table κ ν := es.foldl (fun t e => t.insert e.1 e.2) empty

/-! ### What the changes do to the view -/

theorem lookup_put (k k' : κ) (v : ν) (es : List (κ × ν)) :
    lookup k' (put k v es) = if k' = k then some v else lookup k' es := by
  induction es with
  | nil => by_cases h : k' = k <;> simp [put, lookup, h]
  | cons e rest ih =>
    obtain ⟨k₀, v₀⟩ := e
    by_cases h₀ : k = k₀
    · subst h₀
      by_cases h : k' = k <;> simp [put, lookup, h]
    · by_cases h : k' = k₀
      · subst h
        have : k' ≠ k := fun e => h₀ e.symm
        simp [put, lookup, h₀, this]
      · simp [put, lookup, h₀, h, ih]

theorem get?_insert (t : Table κ ν) (k k' : κ) (v : ν) :
    (t.insert k v).get? k' = if k' = k then some v else t.get? k' :=
  lookup_put k k' v t.entries

@[simp] theorem get?_insert_self (t : Table κ ν) (k : κ) (v : ν) :
    (t.insert k v).get? k = some v := by
  simp [get?_insert]

theorem get?_insert_of_ne (t : Table κ ν) {k k' : κ} (v : ν) (h : k' ≠ k) :
    (t.insert k v).get? k' = t.get? k' := by
  simp [get?_insert, h]

theorem lookup_filter (k k' : κ) (es : List (κ × ν)) :
    lookup k' (es.filter fun e => decide (e.1 ≠ k)) = if k' = k then none else lookup k' es := by
  induction es with
  | nil => simp [lookup]
  | cons e rest ih =>
    obtain ⟨k₀, v₀⟩ := e
    by_cases h₀ : k₀ = k
    · subst h₀
      rw [List.filter_cons_of_neg (by simp), ih]
      by_cases h : k' = k₀ <;> simp [lookup, h]
    · rw [List.filter_cons_of_pos (by simp [h₀])]
      by_cases h : k' = k₀
      · subst h
        simp [lookup, h₀]
      · simp only [lookup, h, if_false, ih]

theorem get?_erase (t : Table κ ν) (k k' : κ) :
    (t.erase k).get? k' = if k' = k then none else t.get? k' :=
  lookup_filter k k' t.entries

@[simp] theorem get?_empty (k : κ) : (empty : Table κ ν).get? k = none := rfl

theorem get?_modify (t : Table κ ν) (k k' : κ) (f : ν → ν) :
    (t.modify k f).get? k' = if k' = k then (t.get? k).map f else t.get? k' := by
  unfold modify
  cases h : t.get? k with
  | some v => simp [get?_insert]
  | none =>
    by_cases hk : k' = k
    · simp [hk, h]
    · simp [hk]

theorem length_put (k : κ) (v : ν) (es : List (κ × ν)) :
    (put k v es).length = if (lookup k es).isSome then es.length else es.length + 1 := by
  induction es with
  | nil => rfl
  | cons e rest ih =>
    obtain ⟨k₀, v₀⟩ := e
    by_cases h : k = k₀
    · simp [put, lookup, h]
    · simp only [put, lookup, h, if_false, List.length_cons, ih]
      split <;> rfl

/-- Only a key that is not there yet makes a table larger. -/
theorem size_insert (t : Table κ ν) (k : κ) (v : ν) :
    (t.insert k v).size = if t.contains k then t.size else t.size + 1 :=
  length_put k v t.entries

theorem isEmpty_iff (t : Table κ ν) : t.isEmpty = true ↔ ∀ k, t.contains k = false := by
  obtain ⟨es⟩ := t
  cases es with
  | nil => simp [isEmpty, contains, get?, lookup]
  | cons e rest =>
    simp only [isEmpty, List.isEmpty_cons, Bool.false_eq_true, false_iff]
    intro h
    simpa [contains, get?, lookup] using h e.1

/-! ### What a list of entries describes -/

theorem get?_foldl_of_notMem (es : List (κ × ν)) (t : Table κ ν) {k : κ}
    (h : k ∉ es.map (·.1)) :
    (es.foldl (fun t e => t.insert e.1 e.2) t).get? k = t.get? k := by
  induction es generalizing t with
  | nil => rfl
  | cons e rest ih =>
    simp only [List.map_cons, List.mem_cons, not_or] at h
    rw [List.foldl_cons, ih _ h.2, get?_insert_of_ne _ _ h.1]

theorem mem_of_get?_ofList {es : List (κ × ν)} {k : κ} {v : ν}
    (h : (ofList es).get? k = some v) : (k, v) ∈ es := by
  suffices ∀ t : Table κ ν, (es.foldl (fun t e => t.insert e.1 e.2) t).get? k = some v →
      (k, v) ∈ es ∨ t.get? k = some v from
    (this empty h).resolve_right (by simp)
  clear h
  induction es with
  | nil => exact fun t h => .inr h
  | cons e rest ih =>
    intro t h
    rcases ih _ h with h | h
    · exact .inl (List.mem_cons_of_mem _ h)
    · rw [get?_insert] at h
      split at h
      · rename_i heq
        cases h
        exact .inl (by rw [heq]; exact List.mem_cons_self ..)
      · exact .inr h

/-- Where no key comes twice, every entry is found under its key. -/
theorem get?_ofList_of_mem {es : List (κ × ν)} {k : κ} {v : ν} (hnd : (es.map (·.1)).Nodup)
    (h : (k, v) ∈ es) : (ofList es).get? k = some v := by
  suffices ∀ t : Table κ ν, (es.foldl (fun t e => t.insert e.1 e.2) t).get? k = some v from
    this empty
  induction es with
  | nil => cases h
  | cons e rest ih =>
    intro t
    rw [List.map_cons, List.nodup_cons] at hnd
    rw [List.foldl_cons]
    rcases List.mem_cons.1 h with rfl | h
    · rw [get?_foldl_of_notMem rest _ hnd.1, get?_insert_self]
    · exact ih hnd.2 h _

/-- Where no key comes twice, every entry counts. -/
theorem size_ofList {es : List (κ × ν)} (hnd : (es.map (·.1)).Nodup) :
    (ofList es).size = es.length := by
  suffices ∀ t : Table κ ν, (∀ e ∈ es, t.contains e.1 = false) →
      (es.foldl (fun t e => t.insert e.1 e.2) t).size = t.size + es.length by
    rw [ofList, this empty fun _ _ => rfl]
    exact Nat.zero_add _
  induction es with
  | nil => exact fun t _ => rfl
  | cons e rest ih =>
    intro t hnew
    rw [List.map_cons, List.nodup_cons] at hnd
    have hrest : ∀ e' ∈ rest, (t.insert e.1 e.2).contains e'.1 = false := by
      intro e' he'
      have hne : e'.1 ≠ e.1 := fun heq => hnd.1 (heq ▸ List.mem_map_of_mem he')
      rw [contains, get?_insert_of_ne t e.2 hne]
      exact hnew e' (List.mem_cons_of_mem _ he')
    rw [List.foldl_cons, ih hnd.2 _ hrest, size_insert, hnew e List.mem_cons_self]
    simp only [Bool.false_eq_true, if_false, List.length_cons]
    omega

end Table

end ActorMesh
