import Mathlib.Data.List.Basic

namespace Peg.Decimal

/-- The number a list of decimal digits denotes, read most significant digit first onto the
accumulator `acc`. This is how `strconv` reads back what `%d` prints. -/
def digitsValue (acc : Nat) : List Char → Nat
  | [] => acc
  | c :: cs => digitsValue (10 * acc + (c.toNat - 48)) cs

theorem digitsValue_cons (acc : Nat) (c : Char) (cs : List Char) :
    digitsValue acc (c :: cs) = digitsValue (10 * acc + (c.toNat - 48)) cs := rfl

theorem repr_data (n : Nat) : (Nat.repr n).data = Nat.toDigitsCore 10 (n + 1) n [] := rfl

theorem digitChar_value : ∀ d, d < 10 → (Nat.digitChar d).toNat - 48 = d := by decide

theorem digitChar_isDigit : ∀ d, d < 10 → (Nat.digitChar d).isDigit = true := by decide

theorem toDigitsCore_succ (fuel n : Nat) (ds : List Char) :
    Nat.toDigitsCore 10 (fuel + 1) n ds =
      if n / 10 = 0 then Nat.digitChar (n % 10) :: ds
      else Nat.toDigitsCore 10 fuel (n / 10) (Nat.digitChar (n % 10) :: ds) := rfl

theorem digitsValue_toDigitsCore (fuel n : Nat) (ds : List Char) (h : n < fuel) :
    digitsValue 0 (Nat.toDigitsCore 10 fuel n ds) = digitsValue n ds := by
  induction fuel generalizing n ds with
  | zero => omega
  | succ fuel ih =>
    have hd := digitChar_value (n % 10) (Nat.mod_lt _ (by omega))
    rw [toDigitsCore_succ]
    by_cases h0 : n / 10 = 0
    · rw [if_pos h0, digitsValue_cons, hd]
      congr 1
      omega
    · rw [if_neg h0, ih (n / 10) _ (by omega), digitsValue_cons, hd, Nat.div_add_mod]

theorem digitsValue_repr (n : Nat) : digitsValue 0 (Nat.repr n).data = n := by
  rw [repr_data, digitsValue_toDigitsCore _ _ _ (Nat.lt_succ_self n)]
  rfl

theorem repr_injective : Function.Injective Nat.repr := fun a b h => by
  rw [← digitsValue_repr a, ← digitsValue_repr b, h]

theorem isDigit_of_mem_toDigitsCore (fuel n : Nat) (ds : List Char) (hds : ∀ c ∈ ds, c.isDigit)
    (c : Char) (hc : c ∈ Nat.toDigitsCore 10 fuel n ds) : c.isDigit := by
  induction fuel generalizing n ds with
  | zero => exact hds c hc
  | succ fuel ih =>
    have hd := digitChar_isDigit (n % 10) (Nat.mod_lt _ (by omega))
    have hds' : ∀ c ∈ Nat.digitChar (n % 10) :: ds, c.isDigit := by
      simpa [hd] using hds
    rw [toDigitsCore_succ] at hc
    by_cases h0 : n / 10 = 0
    · rw [if_pos h0] at hc
      exact hds' c hc
    · rw [if_neg h0] at hc
      exact ih _ _ hds' hc

theorem isDigit_of_mem_repr (n : Nat) (c : Char) (hc : c ∈ (Nat.repr n).data) : c.isDigit :=
  isDigit_of_mem_toDigitsCore _ _ [] (by simp) c (repr_data n ▸ hc)

theorem comma_not_mem_repr (n : Nat) : ',' ∉ (Nat.repr n).data := fun h => by
  simpa using isDigit_of_mem_repr n ',' h

end Peg.Decimal
