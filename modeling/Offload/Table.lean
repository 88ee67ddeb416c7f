
/-!
Finite maps as association lists with ascending keys. Storing under a key changes the look-up of
that key alone, and the order of the entries depends on the keys only.
-/
namespace Offload

/-- The zero that sums of numbers start from. As it is the one that is found here, a sum is the same term in
every module, whichever other zeros the module imports. -/
scoped instance zeroSum : Zero Nat := ⟨0⟩

/-- Entries by ascending key. -/
structure Table (κ α : Type) where
  entries : List (κ × α) := []
  deriving Repr, DecidableEq

namespace Table

variable {κ α : Type} [DecidableEq κ]

private def lookupIn (key : κ) : List (κ × α) → Option α
  | [] => none
  | (k, a) :: rest => if k = key then some a else lookupIn key rest

private def insertIn [LT κ] [DecidableLT κ] (key : κ) (value : α) : List (κ × α) → List (κ × α)
  | [] => [(key, value)]
  | (k, a) :: rest =>
    if k = key then (key, value) :: rest
    else if key < k then (key, value) :: (k, a) :: rest
    else (k, a) :: insertIn key value rest

def empty : Table κ α := ⟨[]⟩

instance : Inhabited (Table κ α) := ⟨⟨[]⟩⟩

def get? (table : Table κ α) (key : κ) : Option α :=
  lookupIn key table.entries

def contains (table : Table κ α) (key : κ) : Bool :=
  (table.get? key).isSome

/-- Store a value under a key, in place of an earlier one. -/
def insert [LT κ] [DecidableLT κ] (table : Table κ α) (key : κ) (value : α) : Table κ α :=
  ⟨insertIn key value table.entries⟩

/-- Store what `change` makes of the value under a key. -/
def alter [LT κ] [DecidableLT κ] (table : Table κ α) (key : κ) (change : Option α → α) : Table κ α :=
  table.insert key (change (table.get? key))

def erase (table : Table κ α) (key : κ) : Table κ α :=
  ⟨table.entries.filter fun entry => entry.1 ≠ key⟩

/-- The entries whose key satisfies a test. -/
def restrict (table : Table κ α) (keep : κ → Bool) : Table κ α :=
  ⟨table.entries.filter fun entry => keep entry.1⟩

def keys (table : Table κ α) : List κ :=
  table.entries.map (·.1)

def values (table : Table κ α) : List α :=
  table.entries.map (·.2)

def size (table : Table κ α) : Nat :=
  table.entries.length

private theorem lookupIn_insertIn [LT κ] [DecidableLT κ] (key other : κ) (value : α)
    (entries : List (κ × α)) :
    lookupIn other (insertIn key value entries) =
      if key = other then some value else lookupIn other entries := by
  induction entries with
  | nil => rfl
  | cons entry rest ih =>
    obtain ⟨k, a⟩ := entry
    simp only [insertIn]
    split
    next same =>
      subst same
      by_cases h : k = other <;> simp [lookupIn, h]
    next differ =>
      split
      · rfl
      · simp only [lookupIn, ih]
        by_cases hk : k = other
        · subst hk
          simp [Ne.symm differ]
        · simp [hk]

private theorem lookupIn_filter (keep : κ → Bool) (key : κ) (entries : List (κ × α)) :
    lookupIn key (entries.filter fun entry => keep entry.1) =
      if keep key then lookupIn key entries else none := by
  induction entries with
  | nil => simp [lookupIn]
  | cons entry rest ih =>
    obtain ⟨k, a⟩ := entry
    by_cases kept : keep k
    · rw [List.filter_cons, if_pos kept]
      simp only [lookupIn, ih]
      by_cases same : k = key
      · subst same
        simp [kept]
      · simp [same]
    · rw [List.filter_cons, if_neg kept, ih]
      by_cases same : k = key
      · subst same
        simp [kept]
      · simp [lookupIn, same]

private theorem mem_of_lookupIn {key : κ} {entries : List (κ × α)} {value : α}
    (h : lookupIn key entries = some value) : (key, value) ∈ entries := by
  induction entries with
  | nil => cases h
  | cons entry rest ih =>
    obtain ⟨k, a⟩ := entry
    simp only [lookupIn] at h
    split at h
    next same =>
      cases h
      simp [same]
    next => exact List.mem_cons_of_mem _ (ih h)

/-- A key that is found is one of the keys. -/
theorem mem_keys_of_get? {table : Table κ α} {key : κ} {value : α}
    (h : table.get? key = some value) : key ∈ table.keys :=
  List.mem_map.2 ⟨(key, value), mem_of_lookupIn h, rfl⟩

/-- Storing under a key changes the look-up of that key alone. -/
theorem get?_insert [LT κ] [DecidableLT κ] (table : Table κ α) (key other : κ) (value : α) :
    (table.insert key value).get? other = if key = other then some value else table.get? other :=
  lookupIn_insertIn key other value table.entries

/-- What is found after storing was stored now or before. -/
theorem get?_insert_cases [LT κ] [DecidableLT κ] {table : Table κ α} {key other : κ} {value found : α}
    (held : (table.insert key value).get? other = some found) :
    other = key ∧ found = value ∨ other ≠ key ∧ table.get? other = some found := by
  rw [get?_insert] at held
  split at held
  · next same => exact .inl ⟨same.symm, (Option.some.inj held).symm⟩
  · next differ => exact .inr ⟨Ne.symm differ, held⟩

/-- A restricted table has the entries with the keys that are kept. -/
theorem get?_restrict (table : Table κ α) (keep : κ → Bool) (key : κ) :
    (table.restrict keep).get? key = if keep key then table.get? key else none :=
  lookupIn_filter keep key table.entries

/-- An erased key is found no more. -/
theorem get?_erase (table : Table κ α) (key other : κ) :
    (table.erase key).get? other = if key = other then none else table.get? other := by
  have kept : table.erase key = table.restrict fun k => k ≠ key := rfl
  rw [kept, get?_restrict]
  by_cases same : key = other <;> simp [same, Ne.symm]

/-! ### Ascending keys -/

/-- The keys ascend. The empty table is so, and it stays so. -/
def Ascending (table : Table Nat α) : Prop :=
  table.keys.Pairwise (· < ·)

private theorem isSome_lookupIn (key : κ) (entries : List (κ × α)) :
    (lookupIn key entries).isSome ↔ key ∈ entries.map (·.1) := by
  induction entries with
  | nil => simp [lookupIn]
  | cons entry rest ih =>
    obtain ⟨k, a⟩ := entry
    by_cases same : k = key
    · simp [lookupIn, same]
    · simp [lookupIn, same, Ne.symm same, ih]

private theorem mem_keys_iff {table : Table κ α} {key : κ} : key ∈ table.keys ↔ (table.get? key).isSome :=
  (isSome_lookupIn key table.entries).symm

private theorem mem_insertIn [LT κ] [DecidableLT κ] {key k : κ} {value : α} {entries : List (κ × α)}
    (member : k ∈ (insertIn key value entries).map (·.1)) : k = key ∨ k ∈ entries.map (·.1) := by
  rw [← isSome_lookupIn, lookupIn_insertIn] at member
  split at member
  next same => exact .inl same.symm
  next => exact .inr ((isSome_lookupIn k entries).1 member)

section Ordered

variable [LE κ] [LT κ] [DecidableLT κ] [Std.IsLinearOrder κ] [Std.LawfulOrderLT κ]

private theorem pairwise_insertIn (key : κ) (value : α) (entries : List (κ × α))
    (ascending : (entries.map (·.1)).Pairwise (· < ·)) :
    ((insertIn key value entries).map (·.1)).Pairwise (· < ·) := by
  induction entries with
  | nil => simp [insertIn]
  | cons entry rest ih =>
    obtain ⟨k, a⟩ := entry
    obtain ⟨first, others⟩ := List.pairwise_cons.1 ascending
    simp only [insertIn]
    split
    next same => exact same ▸ ascending
    next differ =>
      split
      next before =>
        refine List.pairwise_cons.2 ⟨fun x member => ?_, ascending⟩
        rcases List.mem_cons.1 member with rfl | later
        · exact before
        · exact Std.lt_trans before (first x later)
      next behind =>
        refine List.pairwise_cons.2 ⟨fun x member => ?_, ih others⟩
        rcases mem_insertIn member with rfl | later
        · exact Std.lt_of_le_of_ne (Std.not_lt.1 behind) differ
        · exact first x later

/-- Keys that ascend still do so when a value is stored. -/
theorem pairwise_keys_insert {table : Table κ α} (ascending : table.keys.Pairwise (· < ·)) (key : κ) (value : α) :
    (table.insert key value).keys.Pairwise (· < ·) :=
  pairwise_insertIn key value table.entries ascending

omit [Std.IsLinearOrder κ] in
private theorem sum_insertIn (measure : α → Nat) (key : κ) (value : α) (entries : List (κ × α))
    (ascending : (entries.map (·.1)).Pairwise (· < ·)) :
    ((insertIn key value entries).map fun entry => measure entry.2).sum +
        ((lookupIn key entries).map measure).getD 0 =
      (entries.map fun entry => measure entry.2).sum + measure value := by
  induction entries with
  | nil => simp [insertIn, lookupIn]
  | cons entry rest ih =>
    obtain ⟨k, a⟩ := entry
    obtain ⟨first, others⟩ := List.pairwise_cons.1 ascending
    by_cases same : k = key
    · simp only [insertIn, lookupIn, same, if_true, List.map_cons, List.sum_cons, Option.map_some,
        Option.getD_some]
      omega
    · have step := ih others
      by_cases before : key < k
      · have absent : lookupIn key rest = none := by
          rw [← Option.not_isSome_iff_eq_none, isSome_lookupIn]
          intro member
          exact absurd (first key member) (Std.not_gt_of_lt before)
        simp only [insertIn, lookupIn, same, before, absent, if_true, if_false, List.map_cons, List.sum_cons,
          Option.map_none, Option.getD_none]
        omega
      · simp only [insertIn, lookupIn, same, before, if_false, List.map_cons, List.sum_cons]
        omega

omit [Std.IsLinearOrder κ] in
/-- What is stored replaces what was there in the total. -/
theorem sum_values_insert {table : Table κ α} (ascending : table.keys.Pairwise (· < ·)) (measure : α → Nat)
    (key : κ) (value : α) :
    ((table.insert key value).values.map measure).sum + ((table.get? key).map measure).getD 0 =
      (table.values.map measure).sum + measure value := by
  simp only [values, List.map_map]
  exact sum_insertIn measure key value table.entries ascending

end Ordered

/-- Storing keeps the keys in order. -/
theorem Ascending.insert {table : Table Nat α} (ascending : table.Ascending) (key : Nat) (value : α) :
    (table.insert key value).Ascending :=
  pairwise_keys_insert ascending key value

/-- What is left of ascending keys ascends. -/
theorem Ascending.restrict {table : Table Nat α} (ascending : table.Ascending) (keep : Nat → Bool) :
    (table.restrict keep).Ascending :=
  List.Pairwise.sublist (List.filter_sublist.map _) ascending

/-- A table with a single key has a single entry. -/
theorem Ascending.size_eq_one {table : Table Nat α} {key : Nat} (ascending : table.Ascending)
    (only : ∀ k, (table.get? k).isSome ↔ k = key) : table.size = 1 := by
  have all (k : Nat) (member : k ∈ table.keys) : k = key := (only k).1 (mem_keys_iff.1 member)
  have held : key ∈ table.keys := mem_keys_iff.2 ((only key).2 rfl)
  have sizes : table.keys.length = table.size := List.length_map _
  rw [← sizes]
  unfold Ascending at ascending
  generalize table.keys = keys at ascending all held
  rcases keys with _ | ⟨a, _ | ⟨b, rest⟩⟩
  · cases held
  · rfl
  · have before := (List.pairwise_cons.1 ascending).1 b (List.mem_cons_self ..)
    rw [all a (by simp), all b (by simp)] at before
    exact absurd before (Nat.lt_irrefl _)

/-! ### Totals -/

private theorem sum_filter (measure : α → Nat) (key : Nat) (entries : List (Nat × α))
    (ascending : (entries.map (·.1)).Pairwise (· < ·)) :
    ((entries.filter fun entry => entry.1 ≠ key).map fun entry => measure entry.2).sum +
        ((lookupIn key entries).map measure).getD 0 =
      (entries.map fun entry => measure entry.2).sum := by
  induction entries with
  | nil => simp [lookupIn]
  | cons entry rest ih =>
    obtain ⟨k, a⟩ := entry
    obtain ⟨first, others⟩ := List.pairwise_cons.1 ascending
    have step := ih others
    by_cases same : k = key
    · have kept : (rest.filter fun entry => entry.1 ≠ key) = rest := by
        rw [List.filter_eq_self]
        intro other member
        have later : k < other.1 := first other.1 (List.mem_map_of_mem member)
        simp only [decide_eq_true_eq]
        omega
      rw [List.filter_cons_of_neg (by simp [same]), kept]
      simp only [lookupIn, same, if_true, List.map_cons, List.sum_cons, Option.map_some, Option.getD_some]
      omega
    · rw [List.filter_cons_of_pos (by simp [same])]
      simp only [lookupIn, same, if_false, List.map_cons, List.sum_cons]
      omega

/-- A sum over the values after storing: the new value counts in place of the old one. -/
theorem Ascending.sum_insert {table : Table Nat α} (ascending : table.Ascending) (measure : α → Nat)
    (key : Nat) (value : α) :
    ((table.insert key value).values.map measure).sum + ((table.get? key).map measure).getD 0 =
      (table.values.map measure).sum + measure value :=
  sum_values_insert ascending measure key value

/-- What is erased is missing from the total. -/
theorem Ascending.sum_erase {table : Table Nat α} (ascending : table.Ascending) (measure : α → Nat)
    (key : Nat) :
    ((table.erase key).values.map measure).sum + ((table.get? key).map measure).getD 0 =
      (table.values.map measure).sum := by
  simp only [values, List.map_map]
  exact sum_filter measure key table.entries ascending

/-- Erasing keeps the keys in order. -/
theorem Ascending.erase {table : Table Nat α} (ascending : table.Ascending) (key : Nat) :
    (table.erase key).Ascending :=
  ascending.restrict fun k => k ≠ key

end Table
end Offload
