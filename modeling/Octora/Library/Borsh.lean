import Octora.Library.LittleEndian

namespace Borsh
open BigEndian

-- A self-delimiting binary format: what was written is read back whatever
-- follows it, and nothing else is read as a value.
structure Codec (α : Type) where
  encode : α → List UInt8
  decode : List UInt8 → Option (α × List UInt8)
  decode_encode : ∀ item rest, decode (encode item ++ rest) = some (item,rest)
  encode_decode : ∀ bytes item rest, decode bytes = some (item,rest) → bytes = encode item ++ rest

namespace Codec
variable {α β : Type}

def read (codec : Codec α) (bytes : List UInt8) : Option α := (codec.decode bytes).map Prod.fst

@[simp] theorem read_encode (codec : Codec α) (item : α) (rest : List UInt8) :
    codec.read (codec.encode item ++ rest) = some item := by
  rw [read,codec.decode_encode]
  rfl

theorem read_some (codec : Codec α) :
    codec.read bytes = some item ↔ ∃ rest, bytes = codec.encode item ++ rest := by
  constructor
  · intro found
    obtain ⟨⟨value,rest⟩,decoded,rfl⟩ := Option.map_eq_some_iff.mp found
    exact ⟨rest,codec.encode_decode _ _ _ decoded⟩
  · rintro ⟨rest,rfl⟩
    exact codec.read_encode item rest

-- A value is stored at the front of a buffer that is long enough; the bytes
-- behind it stay what they were.
def store (codec : Codec α) (buffer : List UInt8) (item : α) : List UInt8 :=
  LittleEndian.patch buffer 0 (codec.encode item)

@[simp] theorem read_store (codec : Codec α) (buffer : List UInt8) (item : α) :
    codec.read (codec.store buffer item) = some item := codec.read_encode _ _

def array (n : Nat) : Codec (Bytes n) where
  encode bytes := bytes.toList
  decode bytes := if long : n ≤ bytes.length then some (⟨bytes.take n,by simp [long]⟩,bytes.drop n) else none
  decode_encode item rest := by
    have size : item.toList.length = n := item.toList_length
    have long : n ≤ (item.toList ++ rest).length := by simp [size]
    have front : (item.toList ++ rest).take n = item.toList := by simp [size]
    have back : (item.toList ++ rest).drop n = rest := by simp [size]
    rw [dif_pos long,back]
    exact congrArg some (Prod.ext (Subtype.ext front) rfl)
  encode_decode bytes item rest decoded := by
    split at decoded
    · cases decoded
      exact (List.take_append_drop n bytes).symm
    · cases decoded

def u8 : Codec UInt8 where
  encode byte := [byte]
  decode
    | [] => none
    | byte :: rest => some (byte,rest)
  decode_encode _ _ := rfl
  encode_decode bytes item rest decoded := by
    cases bytes with
    | nil => cases decoded
    | cons byte tail =>
      cases decoded
      rfl

-- A bool is one byte; only 0 and 1 are read.
def bool : Codec Bool where
  encode flag := [if flag then 1 else 0]
  decode
    | [] => none
    | byte :: rest => if byte = 0 then some (false,rest) else if byte = 1 then some (true,rest) else none
  decode_encode item rest := by cases item <;> rfl
  encode_decode bytes item rest decoded := by
    cases bytes with
    | nil => cases decoded
    | cons byte tail =>
      by_cases zero : byte = 0
      · simp only [zero,if_true] at decoded
        cases decoded
        rw [zero]
        rfl
      · by_cases one : byte = 1
        · simp only [one,if_true] at decoded
          cases decoded
          rw [one]
          rfl
        · simp [zero,one] at decoded

def unsigned (width : Nat) : Codec (Fin (256 ^ width)) where
  encode number := LittleEndian.bytes width number
  decode bytes :=
    if long : width ≤ bytes.length then
      some (⟨LittleEndian.value (bytes.take width),by
        have bound := value_bound (bytes.take width).reverse
        rwa [List.length_reverse,List.length_take_of_le long] at bound⟩,bytes.drop width)
    else none
  decode_encode item rest := by
    have size := LittleEndian.bytes_length width item
    have long : width ≤ (LittleEndian.bytes width item ++ rest).length := by simp
    have front : (LittleEndian.bytes width item ++ rest).take width = LittleEndian.bytes width item := by simp
    have back : (LittleEndian.bytes width item ++ rest).drop width = rest := by simp
    rw [dif_pos long,back]
    refine congrArg some (Prod.ext (Fin.ext ?_) rfl)
    change LittleEndian.value (List.take width _) = _
    rw [front,LittleEndian.value_bytes item.isLt]
  encode_decode bytes item rest decoded := by
    split at decoded
    · rename_i long
      cases decoded
      have front : LittleEndian.bytes width (LittleEndian.value (bytes.take width)) = bytes.take width := by
        have back := digits_value (bytes.take width).reverse
        rw [List.length_reverse,List.length_take_of_le long] at back
        rw [LittleEndian.bytes,LittleEndian.value,back,List.reverse_reverse]
      change bytes = LittleEndian.bytes width (LittleEndian.value (bytes.take width)) ++ bytes.drop width
      rw [front,List.take_append_drop]
    · cases decoded

-- A `Vec<u8>`: as many bytes as a u32 counts, after the count.
abbrev Vec := { items : List UInt8 // items.length < 256 ^ 4 }

def vec : Codec Vec where
  encode items := (unsigned 4).encode ⟨items.val.length,items.property⟩ ++ items.val
  decode bytes := ((unsigned 4).decode bytes).bind fun counted =>
    if long : counted.1.val ≤ counted.2.length then
      some (⟨counted.2.take counted.1.val,by rw [List.length_take_of_le long]; exact counted.1.isLt⟩,
        counted.2.drop counted.1.val)
    else none
  decode_encode item rest := by
    rw [List.append_assoc,(unsigned 4).decode_encode,Option.bind_some]
    have long : item.val.length ≤ (item.val ++ rest).length := by simp
    rw [dif_pos long]
    refine congrArg some (Prod.ext (Subtype.ext ?_) ?_)
    · exact List.take_left
    · exact List.drop_left
  encode_decode bytes item rest decoded := by
    obtain ⟨⟨count,tail⟩,head,later⟩ := Option.bind_eq_some_iff.mp decoded
    split at later
    · rename_i long
      cases later
      have size : (tail.take count.val).length = count.val := List.length_take_of_le long
      have front : bytes = (unsigned 4).encode count ++ tail := (unsigned 4).encode_decode _ _ _ head
      have same : (⟨(tail.take count.val).length,by rw [size]; exact count.isLt⟩ : Fin (256 ^ 4)) = count := Fin.ext size
      change bytes = ((unsigned 4).encode ⟨(tail.take count.val).length,_⟩ ++ tail.take count.val) ++ tail.drop count.val
      rw [same,List.append_assoc,List.take_append_drop]
      exact front
    · cases later

def unit : Codec Unit where
  encode _ := []
  decode bytes := some ((),bytes)
  decode_encode _ _ := rfl
  encode_decode bytes item rest decoded := by
    cases decoded
    rfl

def pair (first : Codec α) (second : Codec β) : Codec (α × β) where
  encode item := first.encode item.1 ++ second.encode item.2
  decode bytes := (first.decode bytes).bind fun one =>
    (second.decode one.2).map fun two => ((one.1,two.1),two.2)
  decode_encode item rest := by
    rw [List.append_assoc,first.decode_encode,Option.bind_some,second.decode_encode]
    rfl
  encode_decode bytes item rest decoded := by
    obtain ⟨⟨one,tail⟩,head,later⟩ := Option.bind_eq_some_iff.mp decoded
    obtain ⟨⟨two,last⟩,next,made⟩ := Option.map_eq_some_iff.mp later
    cases made
    have behind : tail = second.encode two ++ last := second.encode_decode _ _ _ next
    rw [first.encode_decode _ _ _ head,behind,List.append_assoc]

-- An enum of two variants: the tag, then the fields of the variant.
def either (zero : Codec α) (one : Codec β) : Codec (α ⊕ β) where
  encode
    | .inl item => 0 :: zero.encode item
    | .inr item => 1 :: one.encode item
  decode
    | [] => none
    | tag :: rest =>
      if tag = 0 then (zero.decode rest).map fun found => (.inl found.1,found.2)
      else if tag = 1 then (one.decode rest).map fun found => (.inr found.1,found.2)
      else none
  decode_encode item rest := by
    cases item with
    | inl item => simp [zero.decode_encode]
    | inr item => simp [one.decode_encode]
  encode_decode bytes item rest decoded := by
    cases bytes with
    | nil => cases decoded
    | cons tag tail =>
      by_cases first : tag = 0
      · simp only [first,if_true] at decoded
        obtain ⟨⟨found,last⟩,inner,made⟩ := Option.map_eq_some_iff.mp decoded
        cases made
        rw [first,zero.encode_decode _ _ _ inner]
        rfl
      · by_cases second : tag = 1
        · simp only [second,if_true] at decoded
          obtain ⟨⟨found,last⟩,inner,made⟩ := Option.map_eq_some_iff.mp decoded
          cases made
          rw [second,one.encode_decode _ _ _ inner]
          rfl
        · simp [first,second] at decoded

-- A record is written field by field: its codec is that of the tuple it is.
def record (fields : Codec α) (same : α ≃ β) : Codec β where
  encode item := fields.encode (same.symm item)
  decode bytes := (fields.decode bytes).map fun found => (same found.1,found.2)
  decode_encode item rest := by
    rw [fields.decode_encode]
    simp
  encode_decode bytes item rest decoded := by
    obtain ⟨⟨found,last⟩,inner,made⟩ := Option.map_eq_some_iff.mp decoded
    cases made
    rw [same.symm_apply_apply]
    exact fields.encode_decode _ _ _ inner

def u16 : Codec UInt16 := record (unsigned 2) {
  toFun number := UInt16.ofNat number
  invFun number := ⟨number.toNat,number.toNat_lt⟩
  left_inv number := Fin.ext (UInt16.toNat_ofNat_of_lt' number.isLt)
  right_inv _ := UInt16.ofNat_toNat }

def u32 : Codec UInt32 := record (unsigned 4) {
  toFun number := UInt32.ofNat number
  invFun number := ⟨number.toNat,number.toNat_lt⟩
  left_inv number := Fin.ext (UInt32.toNat_ofNat_of_lt' number.isLt)
  right_inv _ := UInt32.ofNat_toNat }

def u64 : Codec UInt64 := record (unsigned 8) {
  toFun number := UInt64.ofNat number
  invFun number := ⟨number.toNat,number.toNat_lt⟩
  left_inv number := Fin.ext (UInt64.toNat_ofNat_of_lt' number.isLt)
  right_inv _ := UInt64.ofNat_toNat }

-- Two's complement.
def i32 : Codec Int32 := record u32 {
  toFun := UInt32.toInt32
  invFun := Int32.toUInt32
  left_inv _ := rfl
  right_inv _ := rfl }

-- A fixed tag in front.
def tagged (tag : List UInt8) (body : Codec α) : Codec α where
  encode item := tag ++ body.encode item
  decode bytes := if bytes.take tag.length = tag then body.decode (bytes.drop tag.length) else none
  decode_encode item rest := by
    rw [List.append_assoc,List.take_left,if_pos rfl,List.drop_left,body.decode_encode]
  encode_decode bytes item rest decoded := by
    split at decoded
    · rename_i named
      rw [List.append_assoc,← body.encode_decode _ _ _ decoded]
      nth_rewrite 1 [← named]
      exact (List.take_append_drop tag.length bytes).symm
    · cases decoded

-- Two formats whose tags differ never read the same bytes.
theorem tagged_apart {one : Codec α} {two : Codec β} (sizes : left.length = right.length) (differ : left ≠ right)
    (found : (tagged left one).read bytes = some item) : (tagged right two).read bytes = none := by
  by_contra other
  obtain ⟨another,also⟩ := Option.ne_none_iff_exists'.mp other
  obtain ⟨rest,laid⟩ := (read_some _).mp found
  obtain ⟨tail,again⟩ := (read_some _).mp also
  have same : left ++ (one.encode item ++ rest) = right ++ (two.encode another ++ tail) := by
    rw [← List.append_assoc,← List.append_assoc]
    exact laid.symm.trans again
  exact differ (List.append_inj_left same sizes)

-- What a dispatcher reads: the tag says which of several formats the rest is in.
section Choice
variable {ι : Type} {kind : ι → Type} (tag : ι → List UInt8) (width : Nat) (order : List ι)

def dispatch (bytes : List UInt8) : Option ι := order.find? fun i => decide (bytes.take width = tag i)

variable {tag width order}

theorem dispatch_named (found : dispatch tag width order bytes = some i) : bytes.take width = tag i := by
  unfold dispatch at found
  simpa using List.find?_some found

theorem dispatch_some (found : dispatch tag width order bytes = some i) : bytes = tag i ++ bytes.drop width := by
  rw [← dispatch_named found,List.take_append_drop]

theorem dispatch_tag (sized : ∀ i, (tag i).length = width) (apart : Function.Injective tag) (listed : i ∈ order)
    (rest : List UInt8) : dispatch tag width order (tag i ++ rest) = some i := by
  have front : (tag i ++ rest).take width = tag i := by rw [← sized i,List.take_left]
  have some_ : (dispatch tag width order (tag i ++ rest)).isSome = true := by
    rw [dispatch,List.find?_isSome]
    exact ⟨i,listed,decide_eq_true front⟩
  obtain ⟨j,found⟩ := Option.isSome_iff_exists.mp some_
  have named := dispatch_named found
  rw [front] at named
  rw [found,apart named]

def choice (order : List ι) (sized : ∀ i, (tag i).length = width) (apart : Function.Injective tag)
    (complete : ∀ i, i ∈ order) (body : ∀ i, Codec (kind i)) : Codec (Σ i, kind i) where
  encode item := tag item.1 ++ (body item.1).encode item.2
  decode bytes :=
    match dispatch tag width order bytes with
    | none => none
    | some i => ((body i).decode (bytes.drop width)).map fun found => (⟨i,found.1⟩,found.2)
  decode_encode item rest := by
    rw [List.append_assoc,dispatch_tag sized apart (complete item.1)]
    have back : (tag item.1 ++ ((body item.1).encode item.2 ++ rest)).drop width = (body item.1).encode item.2 ++ rest := by
      rw [← sized item.1,List.drop_left]
    simp only [back,(body item.1).decode_encode,Option.map_some]
  encode_decode bytes item rest decoded := by
    split at decoded
    · cases decoded
    · rename_i i named
      obtain ⟨⟨found,last⟩,inner,made⟩ := Option.map_eq_some_iff.mp decoded
      cases made
      rw [List.append_assoc,← (body i).encode_decode _ _ _ inner]
      exact dispatch_some named

end Choice

end Codec

end Borsh
