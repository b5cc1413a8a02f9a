import Mathlib.NumberTheory.LucasPrimality
import Mathlib.Tactic.NormNum.Prime
import Mathlib.Tactic.Ring

namespace Pratt

-- Square and multiply over at most `fuel` bits of the exponent, so that the
-- kernel evaluates a power of a 254-bit number in a few hundred steps.
def powerMod (m : Nat) : Nat → Nat → Nat → Nat
  | 0,_,_ => 1 % m
  | fuel+1,base,exponent =>
    let half := powerMod m fuel (base * base % m) (exponent / 2)
    if exponent % 2 = 1 then base * half % m else half

theorem powerMod_exact (m fuel base exponent : Nat) (enough : exponent < 2 ^ fuel) :
    powerMod m fuel base exponent = base ^ exponent % m := by
  induction fuel generalizing base exponent with
  | zero =>
    have zero : exponent = 0 := by simpa using enough
    simp [powerMod,zero]
  | succ fuel ih =>
    have half : exponent / 2 < 2 ^ fuel := by rw [pow_succ] at enough; omega
    have squared : (base * base % m) ^ (exponent / 2) % m = base ^ (2 * (exponent / 2)) % m := by
      rw [← Nat.pow_mod,← pow_two,← pow_mul]
    rw [powerMod,ih _ _ half,squared]
    by_cases odd : exponent % 2 = 1
    · have exponentEq : exponent = 2 * (exponent / 2) + 1 := by omega
      rw [if_pos odd,Nat.mul_mod_mod]
      conv_rhs => rw [exponentEq,pow_succ,Nat.mul_comm]
    · have exponentEq : exponent = 2 * (exponent / 2) := by omega
      rw [if_neg odd,← exponentEq]

-- One certificate line: a witness and the prime factors of `p - 1`, repeated
-- factors repeated. Only the factors have to be known prime beforehand.
def Certified (p fuel witness : Nat) (factors : List Nat) : Prop :=
  p = factors.prod + 1 ∧ 1 < p ∧ p < 2 ^ fuel ∧
    powerMod p fuel witness (p-1) = 1 ∧
    ∀ q ∈ factors, powerMod p fuel witness ((p-1) / q) ≠ 1

instance (p fuel witness : Nat) (factors : List Nat) : Decidable (Certified p fuel witness factors) :=
  inferInstanceAs (Decidable (_ ∧ _ ∧ _ ∧ _ ∧ _))

theorem power_one_iff {p fuel witness exponent : Nat} (large : 1 < p) (enough : exponent < 2 ^ fuel) :
    (witness : ZMod p) ^ exponent = 1 ↔ powerMod p fuel witness exponent = 1 := by
  rw [powerMod_exact _ _ _ _ enough,← Nat.cast_pow,← Nat.cast_one,ZMod.natCast_eq_natCast_iff',
    Nat.mod_eq_of_lt large]

theorem prime_of_certified (certified : Certified p fuel witness factors)
    (primes : ∀ q ∈ factors, q.Prime) : p.Prime := by
  obtain ⟨product,large,fits,full,proper⟩ := certified
  apply lucas_primality p (witness : ZMod p)
  · exact (power_one_iff large (show p-1 < 2 ^ fuel by omega)).mpr full
  · intro q prime divides one
    have pred : p-1 = factors.prod := by omega
    rw [pred] at divides
    obtain ⟨factor,member,divisor⟩ := (Prime.dvd_prod_iff prime.prime).mp divides
    have same : q = factor := (Nat.prime_dvd_prime_iff_eq prime (primes factor member)).mp divisor
    subst same
    have quotient : (p-1) / q < 2 ^ fuel := by
      have := Nat.div_le_self (p-1) q
      omega
    exact proper q member ((power_one_iff large quotient).mp one)

end Pratt
