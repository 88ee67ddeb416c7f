/-!
Classes of characters as ranges of code points, both ends inclusive. The ranges of a class ascend, so
that a look-up ends at the first range behind the character.
-/
namespace Offload.Text

/-- Whether each range ends before the next one starts. -/
def isAscending : List (Nat × Nat) → Bool
  | first :: second :: rest =>
    first.1 ≤ first.2 && first.2 < second.1 && isAscending (second :: rest)
  | [only] => only.1 ≤ only.2
  | [] => true

/-- Whether a character lies in one of the ranges, which ascend. -/
def inRanges : List (Nat × Nat) → Char → Bool
  | [], _ => false
  | range :: rest, c => range.1 ≤ c.toNat && (c.toNat ≤ range.2 || inRanges rest c)

/-- A class of characters. -/
structure CharClass where
  ranges : List (Nat × Nat)
  ascending : isAscending ranges = true

def CharClass.has (k : CharClass) (c : Char) : Bool :=
  inRanges k.ranges c

private theorem low_lt_of_isAscending {first : Nat × Nat} {rest : List (Nat × Nat)}
    (ascending : isAscending (first :: rest) = true) : ∀ range ∈ rest, first.1 < range.1 := by
  induction rest generalizing first with
  | nil => simp
  | cons second rest ih =>
    simp only [isAscending, Bool.and_eq_true, decide_eq_true_eq] at ascending
    intro range mem
    rcases List.mem_cons.mp mem with rfl | mem
    · omega
    · have := ih ascending.2 range mem
      omega

private theorem isAscending_tail {first : Nat × Nat} {rest : List (Nat × Nat)}
    (ascending : isAscending (first :: rest) = true) : isAscending rest = true := by
  cases rest with
  | nil => rfl
  | cons second rest =>
    simp only [isAscending, Bool.and_eq_true] at ascending
    exact ascending.2

/-- The early end of a look-up loses nothing. -/
theorem inRanges_iff {ranges : List (Nat × Nat)} (ascending : isAscending ranges = true) {c : Char} :
    inRanges ranges c = true ↔ ∃ range ∈ ranges, range.1 ≤ c.toNat ∧ c.toNat ≤ range.2 := by
  induction ranges with
  | nil => simp [inRanges]
  | cons first rest ih =>
    have above := low_lt_of_isAscending ascending
    simp only [inRanges, Bool.and_eq_true, Bool.or_eq_true, decide_eq_true_eq,
      ih (isAscending_tail ascending), List.mem_cons, exists_eq_or_imp]
    constructor
    · rintro ⟨low, high | later⟩
      · exact .inl ⟨low, high⟩
      · exact .inr later
    · rintro (⟨low, high⟩ | ⟨range, mem, low, high⟩)
      · exact ⟨low, .inl high⟩
      · have := above range mem
        exact ⟨by omega, .inr ⟨range, mem, low, high⟩⟩

/-- A class has the characters of its ranges. -/
theorem CharClass.has_iff (k : CharClass) {c : Char} :
    k.has c = true ↔ ∃ range ∈ k.ranges, range.1 ≤ c.toNat ∧ c.toNat ≤ range.2 :=
  inRanges_iff k.ascending

end Offload.Text
