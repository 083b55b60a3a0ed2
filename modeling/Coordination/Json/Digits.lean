/-!
# Decimal digits

The digits of a natural number and the number of some digits. `value_digits` says that the second
undoes the first, `isDigit_of_mem_digits` that nothing but digits is written.
-/

namespace Coordination.Digits

def digit (number : Nat) : Char := Char.ofNat (48 + number)

def number (character : Char) : Nat := character.toNat - 48

/-- The digits of a number, most significant first and without a leading zero. -/
def digits (count : Nat) : List Char :=
  if count < 10 then [digit count] else digits (count / 10) ++ [digit (count % 10)]
termination_by count

def value (characters : List Char) : Nat :=
  characters.foldl (fun sum character => 10 * sum + number character) 0

theorem number_digit {count : Nat} (small : count < 10) : number (digit count) = count := by
  have all : ∀ small : Fin 10, number (digit small.val) = small.val := by decide
  exact all ⟨count, small⟩

theorem isDigit_digit {count : Nat} (small : count < 10) : (digit count).isDigit = true := by
  have all : ∀ small : Fin 10, (digit small.val).isDigit = true := by decide
  exact all ⟨count, small⟩

/-- Reading the digits of a number gives the number back. -/
theorem value_digits (count : Nat) : value (digits count) = count := by
  induction count using Nat.strongRecOn with
  | _ count ih =>
    rw [digits]
    split
    · next small => simp [value, number_digit small]
    · next large =>
      have smaller := ih (count / 10) (by omega)
      simp only [value, List.foldl_append, List.foldl_cons, List.foldl_nil] at smaller ⊢
      rw [smaller, number_digit (by omega)]
      omega

/-- Only digits are written. -/
theorem isDigit_of_mem_digits (count : Nat) :
    ∀ character ∈ digits count, character.isDigit = true := by
  induction count using Nat.strongRecOn with
  | _ count ih =>
    rw [digits]
    split
    · next small =>
      intro character written
      rw [List.mem_singleton.1 written]
      exact isDigit_digit small
    · next large =>
      intro character written
      rcases List.mem_append.1 written with early | last
      · exact ih (count / 10) (by omega) character early
      · rw [List.mem_singleton.1 last]
        exact isDigit_digit (by omega)

end Coordination.Digits
