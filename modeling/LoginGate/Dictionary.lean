/-!
# Dictionaries

Finite maps whose entries stand in the order in which their keys were first
inserted. No key occurs twice, so a dictionary is determined by its entries,
and inserting under a key that is already there replaces its value in place.

* `get?_insert`: what an insertion changes;
* `ofList_entries`: a dictionary is read back from its entries;
* `get?_ofList_eq_some_iff`: of the entries with a key the last one counts.
-/

namespace LoginGate

/-- A finite map from `κ` to `ν`. -/
structure Dictionary (κ ν : Type) where
  /-- The entries, in order of insertion. -/
  entries : List (κ × ν)
  /-- No key occurs twice. -/
  distinct : (entries.map Prod.fst).Nodup
deriving DecidableEq

namespace Dictionary

variable {κ ν : Type} [DecidableEq κ]

/-- The dictionary without entries. -/
def empty : Dictionary κ ν := ⟨[], by simp⟩

/-- The value under a key in a list of entries. -/
def lookup (key : κ) : List (κ × ν) → Option ν
  | [] => none
  | (k, v) :: rest => if k = key then some v else lookup key rest

/-- The value under a key. -/
def get? (d : Dictionary κ ν) (key : κ) : Option ν := lookup key d.entries

/-- Whether there is a value under a key. -/
def has (d : Dictionary κ ν) (key : κ) : Bool := (d.get? key).isSome

/-- Replaces the value of an entry, or appends the entry. -/
def put (key : κ) (value : ν) : List (κ × ν) → List (κ × ν)
  | [] => [(key, value)]
  | (k, v) :: rest => if k = key then (k, value) :: rest else (k, v) :: put key value rest

theorem mem_keys_put {key k : κ} {value : ν} {l : List (κ × ν)} :
    k ∈ (put key value l).map Prod.fst ↔ k = key ∨ k ∈ l.map Prod.fst := by
  induction l with
  | nil => simp [put]
  | cons e l ih =>
    by_cases h : e.1 = key
    · simp [put, h]
    · simp only [put, h, if_false, List.map_cons, List.mem_cons, ih]
      constructor
      · rintro (h | h | h) <;> simp [h]
      · rintro (h | h | h) <;> simp [h]

theorem nodup_keys_put {key : κ} {value : ν} {l : List (κ × ν)}
    (h : (l.map Prod.fst).Nodup) : ((put key value l).map Prod.fst).Nodup := by
  induction l with
  | nil => simp [put]
  | cons e l ih =>
    rw [List.map_cons, List.nodup_cons] at h
    by_cases he : e.1 = key
    · rw [put, if_pos he, List.map_cons, List.nodup_cons]
      exact h
    · rw [put, if_neg he, List.map_cons, List.nodup_cons, mem_keys_put, not_or]
      exact ⟨⟨he, h.1⟩, ih h.2⟩

/-- The dictionary with a value under a key, in place of the one that was there. -/
def insert (d : Dictionary κ ν) (key : κ) (value : ν) : Dictionary κ ν :=
  ⟨put key value d.entries, nodup_keys_put d.distinct⟩

/-- Inserts entries one after another. -/
def insertAll (d : Dictionary κ ν) (entries : List (κ × ν)) : Dictionary κ ν :=
  entries.foldl (fun d e => d.insert e.1 e.2) d

theorem insertAll_cons (d : Dictionary κ ν) (e : κ × ν) (l : List (κ × ν)) :
    d.insertAll (e :: l) = (d.insert e.1 e.2).insertAll l := rfl

/-- The dictionary of a list of entries, of which the last one under a key counts. -/
def ofList (entries : List (κ × ν)) : Dictionary κ ν := empty.insertAll entries

/-- The keys, in order of insertion. -/
def keys (d : Dictionary κ ν) : List κ := d.entries.map Prod.fst

/-- The values, in order of insertion. -/
def values (d : Dictionary κ ν) : List ν := d.entries.map Prod.snd

/-- Whether there are no entries. -/
def isEmpty (d : Dictionary κ ν) : Bool := d.entries.isEmpty

omit [DecidableEq κ] in
theorem eq_of_entries {d e : Dictionary κ ν} (h : d.entries = e.entries) : d = e := by
  cases d
  cases e
  cases h
  rfl

@[simp] theorem get?_empty (key : κ) : (empty : Dictionary κ ν).get? key = none := rfl

theorem lookup_put (key k : κ) (value : ν) (l : List (κ × ν)) :
    lookup k (put key value l) = if key = k then some value else lookup k l := by
  induction l with
  | nil => simp [put, lookup]
  | cons e l ih =>
    by_cases he : e.1 = key
    · by_cases hk : key = k <;> simp [put, lookup, he, hk]
    · rw [put, if_neg he, lookup, ih, lookup]
      by_cases hk : key = k
      · subst hk
        simp [he]
      · simp only [if_neg hk]

/-- An insertion changes the value under its key and no other. -/
@[simp] theorem get?_insert (d : Dictionary κ ν) (key k : κ) (value : ν) :
    (d.insert key value).get? k = if key = k then some value else d.get? k :=
  lookup_put key k value d.entries

theorem lookup_of_not_mem {key : κ} {l : List (κ × ν)} (h : key ∉ l.map Prod.fst) :
    lookup key l = none := by
  induction l with
  | nil => rfl
  | cons e l ih =>
    rw [List.map_cons, List.mem_cons, not_or] at h
    rw [lookup, if_neg (Ne.symm h.1), ih h.2]

/-- Inserted entries come before those that were there. -/
theorem get?_insertAll {l : List (κ × ν)} (h : (l.map Prod.fst).Nodup) (d : Dictionary κ ν)
    (key : κ) : (d.insertAll l).get? key = (lookup key l).or (d.get? key) := by
  induction l generalizing d with
  | nil => rfl
  | cons e l ih =>
    obtain ⟨he, hl⟩ := List.nodup_cons.1 h
    rw [insertAll_cons, ih hl, get?_insert, lookup]
    split
    · next hk =>
      subst hk
      rw [lookup_of_not_mem he]
      rfl
    · rfl

theorem put_of_not_mem {key : κ} {value : ν} {l : List (κ × ν)}
    (h : key ∉ l.map Prod.fst) : put key value l = l ++ [(key, value)] := by
  induction l with
  | nil => rfl
  | cons e l ih =>
    simp only [List.map_cons, List.mem_cons, not_or] at h
    simp [put, Ne.symm h.1, ih h.2]

/-- Inserting fresh keys appends their entries. -/
theorem entries_insertAll {d : Dictionary κ ν} {l : List (κ × ν)}
    (h : ((d.entries ++ l).map Prod.fst).Nodup) : (d.insertAll l).entries = d.entries ++ l := by
  induction l generalizing d with
  | nil => simp [insertAll]
  | cons e l ih =>
    have he : e.1 ∉ d.entries.map Prod.fst := by
      rw [List.map_append, List.nodup_append] at h
      exact fun hm => h.2.2 _ hm e.1 (by simp) rfl
    have hd : (d.insert e.1 e.2).entries = d.entries ++ [e] := put_of_not_mem he
    have := ih (d := d.insert e.1 e.2) (by rw [hd]; simpa using h)
    rw [insertAll_cons, this, hd]
    simp

/-- A dictionary is read back from its entries. -/
@[simp] theorem ofList_entries (d : Dictionary κ ν) : ofList d.entries = d := by
  have h := entries_insertAll (d := (empty : Dictionary κ ν)) (l := d.entries)
    (by simpa [empty] using d.distinct)
  exact eq_of_entries (by simpa [ofList, empty] using h)

/-- The keys of inserted entries are theirs. -/
theorem mem_keys_insertAll {d : Dictionary κ ν} {l : List (κ × ν)} {key : κ} :
    key ∈ (d.insertAll l).keys ↔ key ∈ l.map Prod.fst ∨ key ∈ d.keys := by
  induction l generalizing d with
  | nil => simp [insertAll]
  | cons e l ih =>
    rw [insertAll_cons, ih, List.map_cons, List.mem_cons, keys, insert, mem_keys_put]
    exact or_left_comm.trans (or_assoc.symm)

theorem mem_keys_ofList {l : List (κ × ν)} {key : κ} :
    key ∈ (ofList l).keys ↔ key ∈ l.map Prod.fst := by
  rw [ofList, mem_keys_insertAll]
  simp [keys, empty]

theorem isSome_get?_iff {d : Dictionary κ ν} {key : κ} : (d.get? key).isSome ↔ key ∈ d.keys := by
  rw [get?, keys]
  induction d.entries with
  | nil => simp [lookup]
  | cons e l ih =>
    rw [lookup, List.map_cons, List.mem_cons]
    split
    · next h => simp [h]
    · next h => rw [ih, or_iff_right (Ne.symm h)]

theorem lookup_eq_some_iff {key : κ} {value : ν} {l : List (κ × ν)}
    (h : (l.map Prod.fst).Nodup) : lookup key l = some value ↔ (key, value) ∈ l := by
  induction l with
  | nil => simp [lookup]
  | cons e l ih =>
    obtain ⟨k, v⟩ := e
    obtain ⟨hk, hl⟩ := List.nodup_cons.1 h
    rw [lookup, List.mem_cons, Prod.mk.injEq]
    by_cases heq : k = key
    · -- No other entry has this key.
      subst heq
      have hrest : (k, value) ∉ l := fun hm => hk (List.mem_map.2 ⟨_, hm, rfl⟩)
      rw [if_pos rfl, or_iff_left hrest, Option.some.injEq, and_iff_right rfl, eq_comm]
    · rw [if_neg heq, ih hl, or_iff_right fun he => heq he.1.symm]

/-- A look-up finds the values of the entries. -/
theorem get?_eq_some_iff {d : Dictionary κ ν} {key : κ} {value : ν} :
    d.get? key = some value ↔ (key, value) ∈ d.entries := lookup_eq_some_iff d.distinct

/-- A look-up does not depend on the order of the entries. -/
theorem get?_of_perm {d e : Dictionary κ ν} (h : d.entries.Perm e.entries) (key : κ) :
    d.get? key = e.get? key := by
  refine Option.ext fun value => ?_
  rw [get?_eq_some_iff, get?_eq_some_iff, h.mem_iff]

theorem countP_put_le (p : ν → Bool) (key : κ) (value : ν) (l : List (κ × ν)) :
    ((put key value l).map Prod.snd).countP p ≤
      (l.map Prod.snd).countP p + [value].countP p := by
  induction l with
  | nil => simp [put]
  | cons e l ih =>
    rw [put]
    split
    · simp only [List.map_cons, List.countP_cons, List.countP_nil]
      omega
    · simp only [List.map_cons, List.countP_cons, List.countP_nil] at ih ⊢
      omega

/-- Insertions add no more values of a kind than they insert. -/
theorem countP_insertAll_le (p : ν → Bool) (d : Dictionary κ ν) (l : List (κ × ν)) :
    (d.insertAll l).values.countP p ≤ d.values.countP p + (l.map Prod.snd).countP p := by
  induction l generalizing d with
  | nil => exact Nat.le_refl _
  | cons e l ih =>
    have hput : (d.insert e.1 e.2).values.countP p ≤ d.values.countP p + [e.2].countP p :=
      countP_put_le p e.1 e.2 d.entries
    have hrest := ih (d.insert e.1 e.2)
    rw [insertAll_cons, List.map_cons, List.countP_cons]
    simp only [List.countP_cons, List.countP_nil] at hput
    omega

theorem countP_ofList_le (p : ν → Bool) (l : List (κ × ν)) :
    (ofList l).values.countP p ≤ (l.map Prod.snd).countP p := by
  have h := countP_insertAll_le p (empty : Dictionary κ ν) l
  rwa [show (empty : Dictionary κ ν).values.countP p = 0 from rfl, Nat.zero_add] at h

/-! ### The last entry with a key -/

/-- An entry of a list after which no other has its key. -/
def IsLast (l : List (κ × ν)) (key : κ) (value : ν) : Prop :=
  ∃ before after, l = before ++ (key, value) :: after ∧ key ∉ after.map Prod.fst

omit [DecidableEq κ] in
theorem isLast_cons {e : κ × ν} {l : List (κ × ν)} {key : κ} {value : ν} :
    IsLast (e :: l) key value ↔ IsLast l key value ∨ e = (key, value) ∧ key ∉ l.map Prod.fst := by
  constructor
  · rintro ⟨before, after, heq, hafter⟩
    cases before with
    | nil =>
      obtain ⟨rfl, rfl⟩ := List.cons.inj heq
      exact .inr ⟨rfl, hafter⟩
    | cons e' before => exact .inl ⟨before, after, (List.cons.inj heq).2, hafter⟩
  · rintro (⟨before, after, rfl, hafter⟩ | ⟨rfl, hl⟩)
    · exact ⟨e :: before, after, rfl, hafter⟩
    · exact ⟨[], l, rfl, hl⟩

theorem get?_insertAll_eq_some_iff {l : List (κ × ν)} {d : Dictionary κ ν} {key : κ} {value : ν} :
    (d.insertAll l).get? key = some value ↔
      IsLast l key value ∨ key ∉ l.map Prod.fst ∧ d.get? key = some value := by
  induction l generalizing d with
  | nil => simp [insertAll, IsLast]
  | cons e l ih =>
    obtain ⟨k, v⟩ := e
    rw [insertAll_cons, ih, isLast_cons, get?_insert, List.map_cons, List.mem_cons]
    by_cases hk : k = key
    · subst hk
      simp [and_comm]
    · simp [hk, Ne.symm hk]

/-- Of the entries with a key the last one counts. -/
theorem get?_ofList_eq_some_iff {l : List (κ × ν)} {key : κ} {value : ν} :
    (ofList l).get? key = some value ↔ IsLast l key value := by
  simp [ofList, get?_insertAll_eq_some_iff]

end Dictionary

end LoginGate
