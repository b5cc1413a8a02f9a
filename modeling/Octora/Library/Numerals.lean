import Mathlib.Data.List.GetD
import Mathlib.Data.List.TakeWhile
import Mathlib.Data.Nat.Digits.Lemmas

namespace Numerals

-- Numerals keep their leading zeros: a list of digits, most significant first, is
-- how many zeros it starts with and the number it stands for.
def zeros (digits : List Nat) : Nat := (digits.takeWhile (· = 0)).length

def value (base : Nat) (digits : List Nat) : Nat := Nat.ofDigits base digits.reverse

def numeral (base zeros value : Nat) : List Nat := List.replicate zeros 0 ++ (Nat.digits base value).reverse

def convert (source target : Nat) (digits : List Nat) : List Nat := numeral target (zeros digits) (value source digits)

theorem takeWhile_zeros (digits : List Nat) : digits.takeWhile (· = 0) = List.replicate (zeros digits) 0 :=
  List.eq_replicate_iff.mpr ⟨rfl,fun _ member => of_decide_eq_true
    (List.mem_takeWhile_imp (p := fun digit : Nat => decide (digit = 0)) member)⟩

theorem value_numeral (base zeros value : Nat) : Numerals.value base (numeral base zeros value) = value := by
  rw [Numerals.value,numeral,List.reverse_append,List.reverse_replicate,List.reverse_reverse,
    Nat.ofDigits_append_replicate_zero,Nat.ofDigits_digits]

theorem zeros_numeral (base zeros value : Nat) : Numerals.zeros (numeral base zeros value) = zeros := by
  have first : ((Nat.digits base value).reverse).takeWhile (· = 0) = [] := by
    by_cases none : value = 0
    · rw [none,Nat.digits_zero]
      rfl
    · have last := Nat.getLast_digit_ne_zero base none
      rw [List.getLast_eq_head_reverse] at last
      refine List.takeWhile_eq_nil_iff.mpr fun nonempty zero => last ?_
      rw [List.head_eq_getElem]
      exact of_decide_eq_true zero
  rw [Numerals.zeros,numeral,List.takeWhile_append_of_pos fun digit member =>
    decide_eq_true (List.eq_of_mem_replicate member),first,List.append_nil,List.length_replicate]

-- A numeral is determined by its zeros and its number.
theorem numeral_back {base : Nat} (two : 1 < base) {digits : List Nat} (small : ∀ digit ∈ digits, digit < base) :
    numeral base (zeros digits) (value base digits) = digits := by
  have parts := List.takeWhile_append_dropWhile (p := fun digit : Nat => decide (digit = 0)) (l := digits)
  rw [takeWhile_zeros] at parts
  have number : value base digits = Nat.ofDigits base (digits.dropWhile (· = 0)).reverse := by
    conv_lhs => rw [value,← parts,List.reverse_append,List.reverse_replicate,Nat.ofDigits_append_replicate_zero]
  rw [numeral,number,Nat.digits_ofDigits base two,List.reverse_reverse,parts]
  · intro digit member
    exact small digit ((List.dropWhile_sublist _).subset (List.mem_reverse.mp member))
  · intro nonempty zero
    rw [List.getLast_reverse] at zero
    have head := List.head_dropWhile_not (fun digit : Nat => decide (digit = 0)) (l := digits) (by simpa using nonempty)
    rw [zero] at head
    exact absurd head (by decide)

theorem convert_back {source target : Nat} (two : 1 < source) {digits : List Nat}
    (small : ∀ digit ∈ digits, digit < source) : convert target source (convert source target digits) = digits := by
  rw [convert,convert,zeros_numeral,value_numeral,numeral_back two small]

theorem convert_small {source target : Nat} (two : 1 < target) (digits : List Nat) :
    ∀ digit ∈ convert source target digits, digit < target := by
  intro digit member
  rcases List.mem_append.mp member with zero | rest
  · rw [List.eq_of_mem_replicate zero]
    omega
  · exact Nat.digits_lt_base two (List.mem_reverse.mp rest)

-- Texts over an alphabet, read as bytes. Two texts that are read never give the
-- same bytes.
def index? (alphabet : List Char) (c : Char) : Option Nat :=
  if c ∈ alphabet then some (alphabet.idxOf c) else none

def decode (alphabet : List Char) (text : List Char) : Option (List UInt8) :=
  (text.mapM (index? alphabet)).map fun digits => (convert alphabet.length 256 digits).map UInt8.ofNat

def encode (alphabet : List Char) (bytes : List UInt8) : List Char :=
  (convert 256 alphabet.length (bytes.map UInt8.toNat)).map fun digit => alphabet.getD digit '1'

section Alphabet
variable {alphabet text : List Char} {digits : List Nat}

theorem digits_read (read : text.mapM (index? alphabet) = some digits) :
    (∀ digit ∈ digits, digit < alphabet.length) ∧ digits.map (fun digit => alphabet.getD digit '1') = text := by
  induction text generalizing digits with
  | nil =>
    simp only [List.mapM_nil,Option.pure_def,Option.some.injEq] at read
    subst read
    exact ⟨fun _ member => absurd member List.not_mem_nil,rfl⟩
  | cons c text ih =>
    simp only [List.mapM_cons,Option.bind_eq_bind,Option.pure_def,Option.bind_eq_some_iff,Option.some.injEq] at read
    obtain ⟨digit,first,rest,others,rfl⟩ := read
    have ⟨small,same⟩ := ih others
    unfold index? at first
    split at first
    · rename_i known
      cases first
      have bound := List.idxOf_lt_length_of_mem known
      refine ⟨fun other member => ?_,?_⟩
      · rcases List.mem_cons.mp member with rfl | later
        · exact bound
        · exact small other later
      · rw [List.map_cons,same,List.getD_eq_getElem?_getD,List.getElem?_eq_getElem bound,List.getElem_idxOf bound]
        rfl
    · cases first

theorem encode_decode (two : 1 < alphabet.length) {bytes : List UInt8} (read : decode alphabet text = some bytes) :
    encode alphabet bytes = text := by
  obtain ⟨digits,found,rfl⟩ := Option.map_eq_some_iff.mp read
  have ⟨small,same⟩ := digits_read found
  have back : ((convert alphabet.length 256 digits).map UInt8.ofNat).map UInt8.toNat = convert alphabet.length 256 digits := by
    rw [List.map_map]
    conv_rhs => rw [← List.map_id (convert alphabet.length 256 digits)]
    refine List.map_congr_left fun digit member => ?_
    exact UInt8.toNat_ofNat_of_lt' (convert_small (by decide) digits digit member)
  rw [encode,back,convert_back two small,same]

end Alphabet

end Numerals
