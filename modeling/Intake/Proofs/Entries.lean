import Intake.Entries

/-!
# Laws of keyed collections

What `get?` gives after `insert` and `insertAll`.  None of it needs the keys to be in order, and
neither does `insertAll_insertAll_self`, by which pairs may be inserted again.  The order is kept on
its own account, by `ascending_insert`; where there is one, entries are known by what `get?` gives
(`Ascending.ext`).
-/

namespace Intake.Entries

variable {α : Type}

theorem get?_cons (k : String) (v : α) (rest : Entries α) (key : String) :
    get? ((k, v) :: rest) key = if k = key then some v else rest.get? key := rfl

@[simp] theorem get?_insert_self (entries : Entries α) (key : String) (value : α) :
    (entries.insert key value).get? key = some value := by
  induction entries with
  | nil => rw [insert, get?_cons, if_pos rfl]
  | cons entry rest ih =>
    obtain ⟨k, v⟩ := entry
    by_cases hk : k = key
    · rw [insert, if_pos hk, get?_cons, if_pos rfl]
    · by_cases hlt : key < k
      · rw [insert, if_neg hk, if_pos hlt, get?_cons, if_pos rfl]
      · rw [insert, if_neg hk, if_neg hlt, get?_cons, if_neg hk]
        exact ih

theorem get?_insert_of_ne (entries : Entries α) {key other : String} (h : key ≠ other) (value : α) :
    (entries.insert key value).get? other = entries.get? other := by
  induction entries with
  | nil => rw [insert, get?_cons, if_neg h]
  | cons entry rest ih =>
    obtain ⟨k, v⟩ := entry
    by_cases hk : k = key
    · have hko : k ≠ other := fun he => h (hk.symm.trans he)
      rw [insert, if_pos hk, get?_cons, if_neg h, get?_cons, if_neg hko]
    · by_cases hlt : key < k
      · rw [insert, if_neg hk, if_pos hlt, get?_cons, if_neg h]
      · rw [insert, if_neg hk, if_neg hlt, get?_cons, get?_cons, ih]

theorem insertAll_cons (entries : Entries α) (pair : String × α) (pairs : List (String × α)) :
    entries.insertAll (pair :: pairs) = (entries.insert pair.1 pair.2).insertAll pairs := rfl

theorem get?_of_notMem {entries : Entries α} {key : String} (h : key ∉ entries.keys) :
    entries.get? key = none := by
  induction entries with
  | nil => rfl
  | cons entry rest ih =>
    obtain ⟨k, v⟩ := entry
    rw [keys, List.map_cons, List.mem_cons, not_or] at h
    rw [get?_cons, if_neg (Ne.symm h.1)]
    exact ih h.2

theorem get?_of_mem {entries : Entries α} {key : String} {value : α} (hnd : entries.keys.Nodup)
    (h : (key, value) ∈ entries) : entries.get? key = some value := by
  induction entries with
  | nil => exact absurd h (by simp)
  | cons entry rest ih =>
    obtain ⟨k, v⟩ := entry
    rw [keys, List.map_cons, List.nodup_cons] at hnd
    rw [get?_cons]
    rcases List.mem_cons.mp h with he | hm
    · rw [Prod.mk.injEq] at he
      rw [if_pos he.1.symm, he.2]
    · have hk : k ≠ key := by
        intro he
        exact hnd.1 (List.mem_map.mpr ⟨(key, value), hm, he.symm⟩)
      rw [if_neg hk]
      exact ih hnd.2 hm

/-- Pairs with different keys stand before the entries that they are inserted into. -/
theorem get?_insertAll (pairs : List (String × α)) :
    ∀ (entries : Entries α) (key : String), (pairs.map Prod.fst).Nodup →
      (entries.insertAll pairs).get? key = (get? pairs key).or (entries.get? key) := by
  induction pairs with
  | nil => intro entries key _; rfl
  | cons pair pairs ih =>
    intro entries key hnd
    obtain ⟨k, v⟩ := pair
    rw [List.map_cons, List.nodup_cons] at hnd
    rw [insertAll_cons, ih _ _ hnd.2, get?_cons]
    by_cases hk : k = key
    · subst hk
      rw [get?_of_notMem hnd.1, get?_insert_self, if_pos rfl, Option.none_or, Option.some_or]
    · rw [get?_insert_of_ne _ hk, if_neg hk]

theorem get?_insertAll_of_notMem (pairs : List (String × α)) :
    ∀ (entries : Entries α) {key : String}, key ∉ pairs.map Prod.fst →
      (entries.insertAll pairs).get? key = entries.get? key := by
  induction pairs with
  | nil => intro entries key _; rfl
  | cons pair pairs ih =>
    intro entries key h
    rw [List.map_cons, List.mem_cons, not_or] at h
    rw [insertAll_cons, ih _ h.2, get?_insert_of_ne _ (Ne.symm h.1)]

def valuesUnder (key : String) (pairs : List (String × α)) : List α :=
  pairs.filterMap fun pair => if pair.1 = key then some pair.2 else none

theorem valuesUnder_cons_self (key : String) (value : α) (pairs : List (String × α)) :
    valuesUnder key ((key, value) :: pairs) = value :: valuesUnder key pairs :=
  List.filterMap_cons_some (if_pos rfl)

theorem valuesUnder_cons_of_ne {k key : String} (h : k ≠ key) (value : α)
    (pairs : List (String × α)) :
    valuesUnder key ((k, value) :: pairs) = valuesUnder key pairs :=
  List.filterMap_cons_none (if_neg h)

theorem mem_valuesUnder {key : String} {value : α} {pairs : List (String × α)} :
    value ∈ valuesUnder key pairs ↔ (key, value) ∈ pairs := by
  rw [valuesUnder, List.mem_filterMap]
  constructor
  · rintro ⟨⟨k, v⟩, hm, h⟩
    split at h
    · next hk =>
      cases h
      exact hk ▸ hm
    · exact absurd h (by simp)
  · intro h
    exact ⟨_, h, if_pos rfl⟩

theorem valuesUnder_concat_self (key : String) (value : α) (pairs : List (String × α)) :
    valuesUnder key (pairs ++ [(key, value)]) = valuesUnder key pairs ++ [value] := by
  rw [← show valuesUnder key [(key, value)] = [value] from valuesUnder_cons_self key value []]
  exact List.filterMap_append

theorem valuesUnder_concat_of_ne {k key : String} (h : k ≠ key) (value : α)
    (pairs : List (String × α)) :
    valuesUnder key (pairs ++ [(k, value)]) = valuesUnder key pairs := by
  have hlast : valuesUnder key [(k, value)] = [] := valuesUnder_cons_of_ne h value []
  rw [valuesUnder, List.filterMap_append]
  exact (congrArg _ hlast).trans (List.append_nil _)

theorem valuesUnder_filter (keep : String × α → Bool) (key : String) (pairs : List (String × α)) :
    valuesUnder key (pairs.filter keep) =
      (valuesUnder key pairs).filter fun value => keep (key, value) := by
  induction pairs with
  | nil => rfl
  | cons pair pairs ih =>
    obtain ⟨k, v⟩ := pair
    by_cases hk : k = key
    · subst hk
      rw [valuesUnder_cons_self, List.filter_cons, List.filter_cons, ← ih]
      split
      · exact valuesUnder_cons_self k v _
      · rfl
    · rw [valuesUnder_cons_of_ne hk, List.filter_cons, ← ih]
      split
      · exact valuesUnder_cons_of_ne hk v _
      · rfl

/-- Where the last value can be read, what it is read as is the last reading. -/
theorem getLast?_filterMap_of_getLast? {β : Type} {read? : α → Option β} {values : List α}
    {value : α} {b : β} (hlast : values.getLast? = some value) (hread : read? value = some b) :
    (values.filterMap read?).getLast? = some b := by
  obtain ⟨before, rfl⟩ := List.getLast?_eq_some_iff.mp hlast
  rw [List.filterMap_append, List.filterMap_cons_some hread, List.filterMap_nil,
    List.getLast?_concat]

/-- The last of the pairs with a key counts, and the entries where there is none. -/
theorem get?_insertAll_eq (pairs : List (String × α)) :
    ∀ (entries : Entries α) (key : String),
      (entries.insertAll pairs).get? key =
        (valuesUnder key pairs).getLast?.or (entries.get? key) := by
  induction pairs with
  | nil => intro entries key; rfl
  | cons pair pairs ih =>
    intro entries key
    obtain ⟨k, v⟩ := pair
    rw [insertAll_cons, ih]
    by_cases hk : k = key
    · subst hk
      rw [get?_insert_self, valuesUnder_cons_self, List.getLast?_cons, Option.some_or]
      cases (valuesUnder k pairs).getLast? with
      | some last => rfl
      | none => rfl
    · rw [get?_insert_of_ne _ hk, valuesUnder_cons_of_ne hk]

theorem mem_of_get? {entries : Entries α} {key : String} {value : α}
    (h : entries.get? key = some value) : (key, value) ∈ entries := by
  induction entries with
  | nil => exact absurd h (by simp [get?])
  | cons entry rest ih =>
    obtain ⟨k, v⟩ := entry
    rw [get?_cons] at h
    split at h
    · next hk =>
      subst hk
      rw [Option.some.injEq] at h
      rw [h]
      exact List.mem_cons_self
    · exact List.mem_cons_of_mem _ (ih h)

theorem get?_eq_none_iff {entries : Entries α} {key : String} :
    entries.get? key = none ↔ key ∉ entries.keys := by
  constructor
  · intro h hmem
    induction entries with
    | nil => exact absurd hmem (by simp [keys])
    | cons entry rest ih =>
      obtain ⟨k, v⟩ := entry
      rw [get?_cons] at h
      split at h
      · exact absurd h (by simp)
      · next hk =>
        rcases List.mem_cons.mp hmem with he | hm
        · exact hk he.symm
        · exact ih h hm
  · exact get?_of_notMem

theorem contains_iff {entries : Entries α} {key : String} :
    entries.contains key = true ↔ key ∈ entries.keys := by
  rw [contains, Option.isSome_iff_ne_none, Ne, get?_eq_none_iff, Classical.not_not]

/-! ### Inserting again -/

theorem insert_insert_self (entries : Entries α) (key : String) (x y : α) :
    (entries.insert key x).insert key y = entries.insert key y := by
  induction entries with
  | nil => simp [insert]
  | cons entry rest ih =>
    obtain ⟨k, v⟩ := entry
    rw [insert]
    by_cases hk : k = key
    · rw [if_pos hk, insert, if_pos rfl, insert, if_pos hk]
    · rw [if_neg hk]
      by_cases hlt : key < k
      · rw [if_pos hlt, insert, if_pos rfl, insert, if_neg hk, if_pos hlt]
      · rw [if_neg hlt, insert, if_neg hk, if_neg hlt, ih, insert, if_neg hk, if_neg hlt]

theorem insert_comm (entries : Entries α) {a b : String} (h : a ≠ b) (x y : α) :
    (entries.insert a x).insert b y = (entries.insert b y).insert a x := by
  -- the cases are where the two keys stand to each other and to the first key
  induction entries with
  | nil => grind [insert]
  | cons entry rest ih => grind [insert]

theorem insert_insertAll (pairs : List (String × α)) :
    ∀ (entries : Entries α) {key : String} (value : α), key ∉ pairs.map Prod.fst →
      (entries.insert key value).insertAll pairs = (entries.insertAll pairs).insert key value := by
  induction pairs with
  | nil => intro entries key value _; rfl
  | cons pair pairs ih =>
    intro entries key value h
    rw [List.map_cons, List.mem_cons, not_or] at h
    rw [insertAll_cons, insert_comm _ h.1, ih _ _ h.2, insertAll_cons]

/-- Pairs with different keys that were inserted last may be inserted again. -/
theorem insertAll_insertAll_self (pairs : List (String × α)) :
    ∀ entries : Entries α, (pairs.map Prod.fst).Nodup →
      (entries.insertAll pairs).insertAll pairs = entries.insertAll pairs := by
  induction pairs with
  | nil => intro entries _; rfl
  | cons pair pairs ih =>
    intro entries h
    rw [List.map_cons, List.nodup_cons] at h
    rw [insertAll_cons, insertAll_cons, ← insert_insertAll pairs _ _ h.1, insert_insert_self,
      ih _ h.2]

/-! ### The order of the keys -/

/-- The keys are ascending, so that no key occurs twice. -/
def Ascending (entries : Entries α) : Prop :=
  entries.keys.Pairwise (· < ·)

theorem Ascending.nodup {entries : Entries α} (h : entries.Ascending) : entries.keys.Nodup := by
  refine List.Pairwise.imp (fun {a b} hlt => ?_) h
  rintro rfl
  exact String.lt_irrefl a hlt

theorem Ascending.nodup_pairs {entries : Entries α} (h : entries.Ascending) : entries.Nodup :=
  List.Pairwise.of_map Prod.fst (fun _ _ hne he => hne (congrArg Prod.fst he)) h.nodup

theorem mem_keys_insert {entries : Entries α} {key k : String} {value : α} :
    k ∈ (entries.insert key value).keys ↔ k = key ∨ k ∈ entries.keys := by
  induction entries with
  | nil => simp [insert, keys]
  | cons entry rest ih =>
    obtain ⟨k', v⟩ := entry
    simp only [keys] at ih ⊢
    rw [insert]
    split
    · next hk =>
      subst hk
      simp
    · split
      · simp
      · rw [List.map_cons, List.mem_cons, ih, List.map_cons, List.mem_cons, or_left_comm]

theorem mem_keys_insertAll (pairs : List (String × α)) :
    ∀ {entries : Entries α} {key : String},
      key ∈ (entries.insertAll pairs).keys ↔ key ∈ entries.keys ∨ key ∈ pairs.map Prod.fst := by
  induction pairs with
  | nil => intro entries key; simp [insertAll]
  | cons pair pairs ih =>
    intro entries key
    rw [insertAll_cons, ih, mem_keys_insert, List.map_cons, List.mem_cons, or_assoc, or_left_comm]

theorem ascending_insert {entries : Entries α} (h : entries.Ascending) (key : String) (value : α) :
    (entries.insert key value).Ascending := by
  induction entries with
  | nil => exact List.pairwise_singleton _ _
  | cons entry rest ih =>
    obtain ⟨k, v⟩ := entry
    obtain ⟨hhead, hrest⟩ := List.pairwise_cons.mp h
    rw [insert]
    by_cases hk : k = key
    · rw [if_pos hk]
      subst hk
      exact h
    · rw [if_neg hk]
      by_cases hlt : key < k
      · rw [if_pos hlt]
        refine List.pairwise_cons.mpr ⟨?_, h⟩
        intro k' hk'
        rcases List.mem_cons.mp hk' with he | hm
        · exact he ▸ hlt
        · exact String.lt_trans hlt (hhead k' hm)
      · rw [if_neg hlt]
        refine List.pairwise_cons.mpr ⟨?_, ih hrest⟩
        intro k' hk'
        rcases mem_keys_insert.mp hk' with he | hm
        · have hle : k ≤ key := hlt
          subst he
          exact Std.lt_of_le_of_ne hle hk
        · exact hhead k' hm

theorem ascending_insertAll (pairs : List (String × α)) :
    ∀ {entries : Entries α}, entries.Ascending → (entries.insertAll pairs).Ascending := by
  induction pairs with
  | nil => intro entries h; exact h
  | cons pair pairs ih =>
    intro entries h
    rw [insertAll_cons]
    exact ih (ascending_insert h pair.1 pair.2)

/-- Ascending entries with the same value under every key are the same. -/
theorem Ascending.ext {a b : Entries α} (ha : a.Ascending) (hb : b.Ascending)
    (h : ∀ key, a.get? key = b.get? key) : a = b := by
  have hmem : ∀ pair, pair ∈ a ↔ pair ∈ b := by
    rintro ⟨key, value⟩
    constructor
    · intro hp
      exact mem_of_get? ((h key).symm.trans (get?_of_mem ha.nodup hp))
    · intro hp
      exact mem_of_get? ((h key).trans (get?_of_mem hb.nodup hp))
  have hperm := (List.perm_ext_iff_of_nodup ha.nodup_pairs hb.nodup_pairs).mpr hmem
  refine hperm.eq_of_pairwise ?_ (List.pairwise_map.mp ha) (List.pairwise_map.mp hb)
  intro p q _ _ hpq hqp
  exact absurd (String.lt_trans hpq hqp) (String.lt_irrefl _)

/-- Entries are covered by entries that have all of their keys. -/
theorem Ascending.insertAll_eq {a b : Entries α} (ha : a.Ascending) (hb : b.Ascending)
    (h : ∀ key ∈ a.keys, key ∈ b.keys) : a.insertAll b = b := by
  refine (ascending_insertAll b ha).ext hb fun key => ?_
  rw [get?_insertAll _ _ _ hb.nodup]
  cases hg : b.get? key with
  | some value => rw [Option.some_or]
  | none =>
    have hk : key ∉ a.keys := fun hm => get?_eq_none_iff.mp hg (h key hm)
    rw [get?_of_notMem hk, Option.none_or]

end Intake.Entries
