import Mathlib.Tactic.Ring
import Octora.Library.BigEndian

namespace BigIntText

instance chars_lawful : LawfulBEq (List Char) := inferInstance

-- JavaScript's texts as character lists, with `BigInt(text)` and `value.toString(radix)`.
def isSpace (c : Char) : Bool :=
  c.toNat ∈ [0x9,0xa,0xb,0xc,0xd,0x20,0xa0,0x1680,0x2028,0x2029,0x202f,0x205f,0x3000,0xfeff] ||
    (0x2000 ≤ c.toNat && c.toNat ≤ 0x200a)

def trim (text : List Char) : List Char :=
  (((text.dropWhile isSpace).reverse).dropWhile isSpace).reverse

def utf8 (text : List Char) : List UInt8 := (String.ofList text).toUTF8.toList

theorem toList_loop (bytes : ByteArray) (i : Nat) (seen : List UInt8) :
    ByteArray.toList.loop bytes i seen = seen.reverse ++ bytes.data.toList.drop i := by
  induction i, seen using ByteArray.toList.loop.induct bytes with
  | case1 i seen more ih =>
    have inside : i < bytes.data.toList.length := more
    have here : bytes.get! i = bytes.data.toList[i] := getElem!_pos bytes.data i more
    rw [ByteArray.toList.loop,if_pos more,ih,List.drop_eq_getElem_cons inside,here]
    simp
  | case2 i seen past =>
    have outside : bytes.data.toList.length ≤ i := Nat.le_of_not_lt past
    rw [ByteArray.toList.loop,if_neg past,List.drop_eq_nil_of_le outside,List.append_nil]

theorem utf8_injective {text other : List Char} (same : utf8 text = utf8 other) : text = other := by
  unfold utf8 ByteArray.toList at same
  rw [toList_loop,toList_loop] at same
  have data := Array.toList_inj.mp same
  exact String.ofList_injective (String.toByteArray_inj.mp (ByteArray.ext data))

def digitOf (base : Nat) (c : Char) : Option Nat :=
  let value := if '0' ≤ c ∧ c ≤ '9' then some (c.toNat - 48)
    else if 'a' ≤ c ∧ c ≤ 'z' then some (c.toNat - 87)
    else if 'A' ≤ c ∧ c ≤ 'Z' then some (c.toNat - 55)
    else none
  value.filter (· < base)

def accumulate (base : Nat) (value : Nat) (c : Char) : Option Nat :=
  (digitOf base c).map fun digit => base * value + digit

def readDigits (base : Nat) (text : List Char) : Option Nat :=
  if text = [] then none else text.foldlM (accumulate base) 0

-- No sign before a radix prefix; the empty text is zero.
def bigInt (text : List Char) : Option Int :=
  match trim text with
  | [] => some 0
  | '0' :: 'x' :: rest | '0' :: 'X' :: rest => (readDigits 16 rest).map Int.ofNat
  | '0' :: 'o' :: rest | '0' :: 'O' :: rest => (readDigits 8 rest).map Int.ofNat
  | '0' :: 'b' :: rest | '0' :: 'B' :: rest => (readDigits 2 rest).map Int.ofNat
  | '-' :: rest => (readDigits 10 rest).map fun value => -(value : Int)
  | '+' :: rest => (readDigits 10 rest).map Int.ofNat
  | digits => (readDigits 10 digits).map Int.ofNat

def toText (radix value : Nat) : List Char := Nat.toDigits radix value

def decimal (value : Nat) : List Char := toText 10 value

def padStart (width : Nat) (fill : Char) (text : List Char) : List Char :=
  List.replicate (width - text.length) fill ++ text

theorem digitOf_digitChar (low : digit < base) (radix : base ≤ 16) : digitOf base digit.digitChar = some digit := by
  have all : ∀ b : Fin 17, ∀ d : Fin 16, d.val < b.val → digitOf b.val d.val.digitChar = some d.val := by decide
  exact all ⟨base,by omega⟩ ⟨digit,by omega⟩ low

theorem foldlM_toText (two : 1 < base) (radix : base ≤ 16) (value : Nat) (start : Nat) :
    (toText base value).foldlM (accumulate base) start =
      some (start * base ^ (toText base value).length + value) := by
  induction value using Nat.strongRecOn generalizing start with
  | _ value ih =>
    unfold toText at ih ⊢
    rw [Nat.toDigits_eq_if two]
    split
    · rename_i small
      simp only [List.foldlM_cons,List.foldlM_nil,accumulate,digitOf_digitChar small radix,Option.map_some,
        Option.bind_eq_bind,Option.bind_some,Option.pure_def,List.length_singleton,pow_one]
      rw [Nat.mul_comm]
    · rename_i large
      have shrinks : value / base < value := Nat.div_lt_self (by omega) two
      have digit : value % base < base := Nat.mod_lt _ (by omega)
      rw [List.foldlM_append,ih (value / base) shrinks]
      simp only [List.foldlM_cons,List.foldlM_nil,accumulate,digitOf_digitChar digit radix,Option.map_some,
        Option.bind_eq_bind,Option.bind_some,Option.pure_def,List.length_append,List.length_singleton,pow_succ]
      have whole := Nat.div_add_mod value base
      congr 1
      rw [Nat.mul_add]
      calc base * (start * base ^ (Nat.toDigits base (value / base)).length) + base * (value / base) + value % base
          = base * (start * base ^ (Nat.toDigits base (value / base)).length) +
              (base * (value / base) + value % base) := by ring
        _ = start * (base ^ (Nat.toDigits base (value / base)).length * base) + value := by rw [whole]; ring

theorem readDigits_toText (two : 1 < base) (radix : base ≤ 16) (value : Nat) :
    readDigits base (toText base value) = some value := by
  have nonempty : toText base value ≠ [] := Nat.toDigits_ne_nil
  rw [readDigits,if_neg nonempty,foldlM_toText two radix,Nat.zero_mul,Nat.zero_add]

theorem dropWhile_solid {text : List Char} (solid : ∀ c ∈ text, isSpace c = false) : text.dropWhile isSpace = text := by
  cases text with
  | nil => rfl
  | cons c rest => rw [List.dropWhile_cons_of_neg (by simp [solid c])]

theorem trim_solid {text : List Char} (solid : ∀ c ∈ text, isSpace c = false) : trim text = text := by
  have backwards : ∀ c ∈ text.reverse, isSpace c = false := fun c member => solid c (List.mem_reverse.mp member)
  rw [trim,dropWhile_solid solid,dropWhile_solid backwards,List.reverse_reverse]

theorem digit_solid (digit : c.isDigit = true) : isSpace c = false := by
  have range : 48 ≤ c.toNat ∧ c.toNat ≤ 57 := by
    simpa [Char.isDigit,UInt32.le_iff_toNat_le] using digit
  simp [isSpace]
  omega

-- A text of digits has no sign, no prefix and no blank.
theorem bigInt_digits {text : List Char} (digits : ∀ c ∈ text, c.isDigit = true) (nonempty : text ≠ []) :
    bigInt text = (readDigits 10 text).map Int.ofNat := by
  have same : trim text = text := trim_solid fun c member => digit_solid (digits c member)
  unfold bigInt
  rw [same]
  split
  · exact absurd rfl nonempty
  · exact absurd (digits 'x' (by simp)) (by decide)
  · exact absurd (digits 'X' (by simp)) (by decide)
  · exact absurd (digits 'o' (by simp)) (by decide)
  · exact absurd (digits 'O' (by simp)) (by decide)
  · exact absurd (digits 'b' (by simp)) (by decide)
  · exact absurd (digits 'B' (by simp)) (by decide)
  · exact absurd (digits '-' (by simp)) (by decide)
  · exact absurd (digits '+' (by simp)) (by decide)
  · rfl

theorem bigInt_decimal (value : Nat) : bigInt (decimal value) = some (value : Int) := by
  have digits : ∀ c ∈ decimal value, c.isDigit = true := fun c member =>
    Nat.isDigit_of_mem_toDigits (by decide) (by decide) member
  rw [bigInt_digits digits Nat.toDigits_ne_nil,decimal,readDigits_toText (by decide) (by decide)]
  rfl

-- Two hex digits a byte, most significant byte first.
def hexByte (byte : UInt8) : List Char := padStart 2 '0' (toText 16 byte.toNat)

theorem hexByte_reads (byte : UInt8) (start : Nat) :
    (hexByte byte).foldlM (accumulate 16) start = some (start * 256 + byte.toNat) := by
  have two : (toText 16 byte.toNat).length ≤ 2 := by
    rw [toText,Nat.length_toDigits_le_iff (by decide) (by decide)]
    exact byte.toNat_lt
  have one : 0 < (toText 16 byte.toNat).length := Nat.length_toDigits_pos
  have zero : digitOf 16 '0' = some 0 := by decide
  rw [hexByte,padStart,List.foldlM_append]
  rcases Nat.lt_or_ge (toText 16 byte.toNat).length 2 with short | full
  · have single : (toText 16 byte.toNat).length = 1 := by omega
    have pad : 2 - (toText 16 byte.toNat).length = 1 := by omega
    rw [pad]
    simp only [List.replicate,List.foldlM_cons,List.foldlM_nil,accumulate,zero,Option.map_some,
      Option.bind_eq_bind,Option.bind_some,Option.pure_def]
    have read := foldlM_toText (by decide : 1 < 16) (by decide) byte.toNat (16 * start + 0)
    rw [single] at read
    have scaled : (16 * start + 0) * 16^1 = start * 256 := by ring
    rw [scaled] at read
    exact read
  · have pad : 2 - (toText 16 byte.toNat).length = 0 := by omega
    have double : (toText 16 byte.toNat).length = 2 := by omega
    rw [pad]
    have read := foldlM_toText (by decide : 1 < 16) (by decide) byte.toNat start
    rw [double] at read
    exact read

theorem hex_reads (bytes : List UInt8) (start : Nat) : (bytes.flatMap hexByte).foldlM (accumulate 16) start =
    some (start * 256 ^ bytes.length + BigEndian.value bytes) := by
  induction bytes generalizing start with
  | nil => simp
  | cons byte rest ih =>
    rw [List.flatMap_cons,List.foldlM_append,hexByte_reads]
    simp only [Option.bind_eq_bind,Option.bind_some]
    rw [ih,BigEndian.value_cons,List.length_cons]
    congr 1
    ring

theorem toText_digit (two : 1 < base) (member : c ∈ toText base value) : ∃ digit < base, c = digit.digitChar := by
  induction value using Nat.strongRecOn with
  | _ value ih =>
    unfold toText at ih member
    rw [Nat.toDigits_eq_if two] at member
    split at member
    · rename_i small
      exact ⟨value,small,List.mem_singleton.mp member⟩
    · rename_i large
      have shrinks : value / base < value := Nat.div_lt_self (by omega) two
      rcases List.mem_append.mp member with earlier | last
      · exact ih (value / base) shrinks earlier
      · exact ⟨value % base,Nat.mod_lt _ (by omega),List.mem_singleton.mp last⟩

theorem hexByte_digits (byte : UInt8) : ∀ c ∈ hexByte byte, isSpace c = false := by
  have all : ∀ digit : Fin 16, isSpace digit.val.digitChar = false := by decide
  intro c member
  rcases List.mem_append.mp member with fill | written
  · rw [List.eq_of_mem_replicate fill]
    decide
  · obtain ⟨digit,low,rfl⟩ := toText_digit (by decide) written
    exact all ⟨digit,low⟩

theorem bigInt_hex (bytes : List UInt8) (nonempty : bytes ≠ []) :
    bigInt ('0' :: 'x' :: bytes.flatMap hexByte) = some (BigEndian.value bytes : Int) := by
  have solid : ∀ c ∈ '0' :: 'x' :: bytes.flatMap hexByte, isSpace c = false := by
    intro c member
    rcases List.mem_cons.mp member with rfl | rest
    · decide
    · rcases List.mem_cons.mp rest with rfl | digit
      · decide
      · obtain ⟨byte,_,inside⟩ := List.mem_flatMap.mp digit
        exact hexByte_digits byte c inside
  have some : bytes.flatMap hexByte ≠ [] := by
    cases bytes with
    | nil => exact absurd rfl nonempty
    | cons byte rest =>
      intro empty
      have read := hexByte_reads byte 0
      rw [List.flatMap_cons,List.append_eq_nil_iff] at empty
      have width : (hexByte byte).length ≠ 0 := by
        have one : 0 < (toText 16 byte.toNat).length := Nat.length_toDigits_pos
        rw [hexByte,padStart,List.length_append]
        omega
      exact width (by rw [empty.1]; rfl)
  unfold bigInt
  rw [trim_solid solid]
  simp only [readDigits,if_neg some,hex_reads,Nat.zero_mul,Nat.zero_add,Option.map_some]
  rfl

-- `Buffer.from(text,"hex")`: pairs of digits, a trailing odd digit is dropped.
def fromHex : List Char → Option (List UInt8)
  | high :: low :: rest => do
    let h ← digitOf 16 high
    let l ← digitOf 16 low
    let bytes ← fromHex rest
    some (UInt8.ofNat (16 * h + l) :: bytes)
  | _ => some []

theorem digitOf_lt (read : digitOf base c = some digit) : digit < base := by
  rw [digitOf,Option.filter_eq_some_iff] at read
  simpa using read.2

theorem fromHex_reads (count : Nat) (text : List Char) (even : text.length = 2 * count) (start : Nat)
    (read : text.foldlM (accumulate 16) start = some value) : ∃ bytes, fromHex text = some bytes ∧
      bytes.length = count ∧ value = start * 256 ^ count + BigEndian.value bytes := by
  induction count generalizing text start with
  | zero =>
    cases List.length_eq_zero_iff.mp even
    cases Option.some.inj read
    exact ⟨[],rfl,rfl,by simp⟩
  | succ count ih =>
    match text with
    | [] => simp at even
    | [_] => simp at even; omega
    | high :: low :: rest =>
      simp only [List.foldlM_cons,Option.bind_eq_bind,Option.bind_eq_some_iff,accumulate,Option.map_eq_some_iff] at read
      obtain ⟨_,⟨h,highRead,rfl⟩,_,⟨l,lowRead,rfl⟩,later⟩ := read
      have lengths : rest.length = 2 * count := by simp only [List.length_cons] at even; omega
      obtain ⟨bytes,decoded,width,equal⟩ := ih rest lengths _ later
      have highLow := digitOf_lt highRead
      have lowLow := digitOf_lt lowRead
      refine ⟨UInt8.ofNat (16 * h + l) :: bytes,?_,by rw [List.length_cons,width],?_⟩
      · simp only [fromHex,highRead,lowRead,decoded,Option.bind_eq_bind,Option.bind_some]
      · have byte : (UInt8.ofNat (16 * h + l)).toNat = 16 * h + l := UInt8.toNat_ofNat_of_lt' (by
          have : UInt8.size = 256 := rfl
          omega)
        rw [BigEndian.value_cons,byte,width,equal,pow_succ]
        ring

end BigIntText
