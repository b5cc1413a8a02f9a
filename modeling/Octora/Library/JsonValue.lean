import Mathlib.Data.List.Basic
import Mathlib.Data.Rat.Defs

namespace JsonValue

-- A JavaScript string: UTF-16 code units, surrogates paired or not.
abbrev JsString := List UInt16

def units (c : Char) : List UInt16 :=
  if c.toNat < 0x10000 then [UInt16.ofNat c.toNat]
  else [UInt16.ofNat (0xD800 + (c.toNat - 0x10000) / 0x400),UInt16.ofNat (0xDC00 + (c.toNat - 0x10000) % 0x400)]

def ofChars (text : List Char) : JsString := text.flatMap units

def literal (text : String) : JsString := ofChars text.toList

-- A JavaScript number. Its two zeros are taken for one, which `JSON.stringify` does too.
inductive Number where
  | finite (value : Rat)
  | infinity (negative : Bool)
  | nan
  deriving DecidableEq

-- What `JSON.parse` returns, and what `JSON.stringify` is given; the members of an
-- object in their order. A literal beyond the doubles is read as an infinity.
inductive Json where
  | null
  | bool (value : Bool)
  | number (value : Number)
  | string (value : JsString)
  | array (items : List Json)
  | object (members : List (JsString × Json))

def lookup (key : JsString) : List (JsString × Json) → Option Json
  | [] => none
  | (name,value) :: rest => if name = key then some value else lookup key rest

-- `{ ...members, [key]: value }`
def assign (key : JsString) (value : Json) : List (JsString × Json) → List (JsString × Json)
  | [] => [(key,value)]
  | (name,old) :: rest => if name = key then (key,value) :: rest else (name,old) :: assign key value rest

-- An `undefined` member is not written.
def assignOptional (key : JsString) (value : Option Json) (members : List (JsString × Json)) : List (JsString × Json) :=
  match value with
  | some value => assign key value members
  | none => members.filter fun member => member.1 ≠ key

def Json.get (value : Json) (key : JsString) : Option Json :=
  match value with
  | .object members => lookup key members
  | _ => none

def truthy : Option Json → Bool
  | none => false
  | some .null => false
  | some (.bool value) => value
  | some (.number value) => decide (value ≠ .finite 0 ∧ value ≠ .nan)
  | some (.string value) => decide (value ≠ [])
  | some (.array _) => true
  | some (.object _) => true

mutual

-- No number in it that is not finite.
def Json.finite : Json → Bool
  | .number (.finite _) => true
  | .number (.infinity _) => false
  | .number .nan => false
  | .array items => finiteItems items
  | .object members => finiteMembers members
  | .null => true
  | .bool _ => true
  | .string _ => true

def finiteItems : List Json → Bool
  | [] => true
  | item :: rest => item.finite && finiteItems rest

def finiteMembers : List (JsString × Json) → Bool
  | [] => true
  | (_,value) :: rest => value.finite && finiteMembers rest

end

mutual

-- What `JSON.parse` makes of the text that `JSON.stringify` writes: that has null for
-- a number that is not finite, and gives back every other one.
def reread : Json → Json
  | .number (.finite value) => .number (.finite value)
  | .number (.infinity _) => .null
  | .number .nan => .null
  | .array items => .array (rereadItems items)
  | .object members => .object (rereadMembers members)
  | .null => .null
  | .bool value => .bool value
  | .string value => .string value

def rereadItems : List Json → List Json
  | [] => []
  | item :: rest => reread item :: rereadItems rest

def rereadMembers : List (JsString × Json) → List (JsString × Json)
  | [] => []
  | (name,value) :: rest => (name,reread value) :: rereadMembers rest

end

def indexed (start : Nat) : List Json → List (JsString × Json)
  | [] => []
  | item :: rest => (ofChars (Nat.toDigits 10 start),item) :: indexed (start+1) rest

-- `{ ...value }`: the own enumerable members.
def spread : Option Json → List (JsString × Json)
  | some (.object members) => members
  | some (.array items) => indexed 0 items
  | some (.string text) => indexed 0 (text.map fun unit => .string [unit])
  | _ => []

mutual

theorem reread_finite : ∀ value : Json,value.finite = true → reread value = value
  | .number (.finite _),_ => rfl
  | .array items,finite => congrArg Json.array (rereadItems_finite items finite)
  | .object members,finite => congrArg Json.object (rereadMembers_finite members finite)
  | .null,_ => rfl
  | .bool _,_ => rfl
  | .string _,_ => rfl

theorem rereadItems_finite : ∀ items,finiteItems items = true → rereadItems items = items
  | [],_ => rfl
  | item :: rest,finite => by
    obtain ⟨here,later⟩ := Bool.and_eq_true_iff.mp finite
    rw [rereadItems,reread_finite item here,rereadItems_finite rest later]

theorem rereadMembers_finite : ∀ members,finiteMembers members = true → rereadMembers members = members
  | [],_ => rfl
  | (name,value) :: rest,finite => by
    obtain ⟨here,later⟩ := Bool.and_eq_true_iff.mp finite
    rw [rereadMembers,reread_finite value here,rereadMembers_finite rest later]

end

mutual

theorem finite_reread : ∀ value : Json,(reread value).finite = true
  | .number (.finite _) => rfl
  | .number (.infinity _) => rfl
  | .number .nan => rfl
  | .array items => finite_rereadItems items
  | .object members => finite_rereadMembers members
  | .null => rfl
  | .bool _ => rfl
  | .string _ => rfl

theorem finite_rereadItems : ∀ items,finiteItems (rereadItems items) = true
  | [] => rfl
  | item :: rest => Bool.and_eq_true_iff.mpr ⟨finite_reread item,finite_rereadItems rest⟩

theorem finite_rereadMembers : ∀ members,finiteMembers (rereadMembers members) = true
  | [] => rfl
  | (_,value) :: rest => Bool.and_eq_true_iff.mpr ⟨finite_reread value,finite_rereadMembers rest⟩

end

theorem reread_object (members : List (JsString × Json)) : reread (.object members) = .object (rereadMembers members) := rfl

theorem reread_twice (value : Json) : reread (reread value) = reread value := reread_finite _ (finite_reread value)

theorem rereadItems_map (items : List Json) : rereadItems items = items.map reread := by
  induction items with
  | nil => rfl
  | cons item rest ih => rw [rereadItems,ih,List.map_cons]

theorem lookup_reread (key : JsString) (members : List (JsString × Json)) :
    lookup key (rereadMembers members) = (lookup key members).map reread := by
  induction members with
  | nil => rfl
  | cons member rest ih =>
    obtain ⟨name,value⟩ := member
    by_cases same : name = key
    · simp only [rereadMembers,lookup,if_pos same,Option.map_some]
    · simp only [rereadMembers,lookup,if_neg same,ih]

theorem get_reread (value : Json) (key : JsString) : (reread value).get key = (value.get key).map reread := by
  cases value with
  | object members => exact lookup_reread key members
  | number value => cases value <;> rfl
  | _ => rfl

-- What is under a name of a finite value is finite.
theorem get_finite {value : Json} (finite : value.finite = true) (key : JsString) :
    (value.get key).map reread = value.get key := by
  rw [← get_reread,reread_finite value finite]

theorem assign_reread (key : JsString) (value : Json) (members : List (JsString × Json)) :
    rereadMembers (assign key value members) = assign key (reread value) (rereadMembers members) := by
  induction members with
  | nil => rfl
  | cons member rest ih =>
    obtain ⟨name,old⟩ := member
    by_cases same : name = key
    · simp only [rereadMembers,assign,if_pos same]
    · simp only [rereadMembers,assign,if_neg same,ih]

theorem indexed_reread (start : Nat) (items : List Json) :
    rereadMembers (indexed start items) = indexed start (items.map reread) := by
  induction items generalizing start with
  | nil => rfl
  | cons item rest ih => simp only [indexed,rereadMembers,List.map_cons,ih]

theorem spread_reread (value : Option Json) : rereadMembers (spread value) = spread (value.map reread) := by
  cases value with
  | none => rfl
  | some value =>
    cases value with
    | object members => rfl
    | array items => rw [spread,indexed_reread,Option.map_some,reread,rereadItems_map,spread]
    | string text =>
      have single : reread ∘ (fun unit => Json.string [unit]) = fun unit => Json.string [unit] := rfl
      rw [spread,indexed_reread,List.map_map,single,Option.map_some,reread,spread]
    | number value => cases value <;> rfl
    | _ => rfl

section Members
variable {key other : JsString} {value : Json} {members : List (JsString × Json)}

theorem lookup_assign : lookup key (assign key value members) = some value := by
  induction members with
  | nil => simp [assign,lookup]
  | cons member rest ih =>
    obtain ⟨name,old⟩ := member
    by_cases same : name = key
    · simp [assign,lookup,same]
    · simp [assign,lookup,same,ih]

theorem lookup_assign_other (apart : other ≠ key) : lookup other (assign key value members) = lookup other members := by
  induction members with
  | nil => simp [assign,lookup,apart.symm]
  | cons member rest ih =>
    obtain ⟨name,old⟩ := member
    by_cases same : name = key
    · subst same
      simp [assign,lookup,apart.symm]
    · simp only [assign,if_neg same,lookup,ih]

theorem assign_same (there : lookup key members = some value) : assign key value members = members := by
  induction members with
  | nil => cases there
  | cons member rest ih =>
    obtain ⟨name,old⟩ := member
    by_cases same : name = key
    · subst same
      rw [lookup,if_pos rfl] at there
      cases there
      simp [assign]
    · rw [lookup,if_neg same] at there
      simp [assign,same,ih there]

theorem lookup_none (gone : ∀ member ∈ members,member.1 ≠ key) : lookup key members = none := by
  induction members with
  | nil => rfl
  | cons member rest ih =>
    rw [lookup,if_neg (gone member List.mem_cons_self)]
    exact ih fun other inside => gone other (List.mem_cons_of_mem _ inside)

theorem lookup_optional (value : Option Json) : lookup key (assignOptional key value members) = value := by
  cases value with
  | some value => exact lookup_assign
  | none => exact lookup_none fun member inside => of_decide_eq_true (List.mem_filter.mp inside).2

theorem lookup_optional_other (apart : other ≠ key) (value : Option Json) :
    lookup other (assignOptional key value members) = lookup other members := by
  cases value with
  | some value => exact lookup_assign_other apart
  | none =>
    unfold assignOptional
    induction members with
    | nil => rfl
    | cons member rest ih =>
      obtain ⟨name,old⟩ := member
      by_cases same : name = key
      · subst same
        rw [List.filter_cons_of_neg (by simp),ih,lookup,if_neg apart.symm]
      · rw [List.filter_cons_of_pos (by simpa using same),lookup,lookup,ih]

-- A name that does not start like an index.
theorem index_apart {unit : UInt16} (letter : 57 < unit) (rest : JsString) (n : Nat) :
    ofChars (Nat.toDigits 10 n) ≠ unit :: rest := by
  intro same
  cases digits : Nat.toDigits 10 n with
  | nil => exact Nat.toDigits_ne_nil digits
  | cons c more =>
    have digit : c.isDigit = true := 
      Nat.isDigit_of_mem_toDigits (b := 10) (n := n) (by decide) (by decide) (by rw [digits]; exact List.mem_cons_self)
    have bound : c.toNat ≤ 57 := by
      simp only [Char.isDigit,Bool.and_eq_true,decide_eq_true_eq] at digit
      exact UInt32.le_iff_toNat_le.mp digit.2
    have head : units c = [UInt16.ofNat c.toNat] := if_pos (by omega)
    rw [digits,ofChars,List.flatMap_cons,head] at same
    have first := (List.cons.inj same).1
    rw [← first,UInt16.lt_iff_toNat_lt,UInt16.toNat_ofNat_of_lt' (Nat.lt_of_le_of_lt bound (by decide))] at letter
    exact absurd letter (Nat.not_lt.mpr bound)

theorem lookup_indexed {unit : UInt16} (letter : 57 < unit) (rest : JsString) (start : Nat) (items : List Json) :
    lookup (unit :: rest) (indexed start items) = none := by
  induction items generalizing start with
  | nil => rfl
  | cons item items ih => rw [indexed,lookup,if_neg (index_apart letter rest start),ih]

-- A spread copies what there is under a name.
theorem lookup_spread {unit : UInt16} (letter : 57 < unit) (rest : JsString) (value : Option Json) :
    lookup (unit :: rest) (spread value) = value.bind fun value => value.get (unit :: rest) := by
  cases value with
  | none => rfl
  | some value =>
    cases value with
    | object members => rfl
    | array items => exact lookup_indexed letter rest 0 items
    | string text => exact lookup_indexed letter rest 0 _
    | _ => rfl

end Members

end JsonValue
