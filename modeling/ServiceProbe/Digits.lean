/-! # Digits

A natural number in some base, as the list of its digits with the highest one in front. A list of
fixed length holds the number as far as it fits, and says it again. -/

namespace ServiceProbe.Digits
set_option autoImplicit false

/-- The number that digits in a base say. -/
def value (base : Nat) (digits : List Nat) : Nat := digits.foldl (fun n d => base * n + d) 0

/-- The last `count` digits of a number. -/
def places (base n : Nat) : Nat → List Nat
  | 0 => []
  | count + 1 => places base (n / base) count ++ [n % base]

theorem value_append (base : Nat) (digits : List Nat) (d : Nat) :
    value base (digits ++ [d]) = base * value base digits + d := by
  simp [value]

theorem length_places (base n count : Nat) : (places base n count).length = count := by
  induction count generalizing n with
  | zero => rfl
  | succ count ih => simp [places, ih]

theorem lt_of_mem_places {base n count d : Nat} (hBase : 0 < base) (h : d ∈ places base n count) :
    d < base := by
  induction count generalizing n with
  | zero => cases h
  | succ count ih =>
    rcases List.mem_append.mp h with h | h
    · exact ih h
    · exact List.mem_singleton.mp h ▸ Nat.mod_lt n hBase

theorem value_places (base n count : Nat) :
    value base (places base n count) = n % Nat.pow base count := by
  induction count generalizing n with
  | zero => simp [places, value, Nat.mod_one]
  | succ count ih =>
    calc
      value base (places base n (count + 1))
          = base * (n / base % Nat.pow base count) + n % base := by rw [places, value_append, ih]
      _ = n % (base * Nat.pow base count) := by rw [Nat.mod_mul, Nat.add_comm]
      _ = n % Nat.pow base (count + 1) := congrArg (n % ·) (Nat.mul_comm base _)

end ServiceProbe.Digits
