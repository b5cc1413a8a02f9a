import Octora.ExecutorProgram.Registry
import Octora.ExecutorProgram.Rules

namespace Octora.ExecutorProgram
open BigEndian Borsh Codec Calls Fallible LittleEndian

section Views
variable {env : Runtime} {message : Message env} {store next : Store} {key : Pubkey}

theorem topUp_kept (topped : topUp store payer receiver missing = .ok next) (key : Pubkey) :
    (next key).owner = (store key).owner ∧ (next key).data = (store key).data := by
  unfold topUp at topped
  split at topped
  · cases topped
    exact ⟨rfl,rfl⟩
  · simp only [Store.systemTransfer,Store.debit,Store.credit,do_ok,require_ok,exists_const] at topped
    obtain ⟨_,_,⟨_,debited⟩,_,credited⟩ := topped
    cases debited
    cases credited
    simp

structure Created (env : Runtime) (store : Store) (key : Pubkey) (seeds : List (List UInt8)) (space : Nat)
    (created : Store) (bump : UInt8) : Prop where
  address : env.findProgramAddress seeds ID = (key,bump)
  fresh : (store key).owner = SYSTEM_PROGRAM_ID
  owner : (created key).owner = ID
  data : (created key).data = List.replicate space 0
  others : ∀ other, other ≠ key → (created other).owner = (store other).owner ∧ (created other).data = (store other).data
  confined : Confined store created

theorem initAccount_created (made : initAccount env message store payer key seeds space = .ok (created,bump)) :
    Created env store key seeds space created bump := by
  simp only [initAccount,do_ok,require_ok,exists_const] at made
  obtain ⟨address,_,⟨fresh,_⟩,funded,topped,same⟩ := made
  cases same
  have kept := topUp_kept topped
  refine ⟨Prod.ext address.symm rfl,fresh,by simp,by simp,fun other apart => ?_,
    ⟨fun other owned => ?_,fun other foreign mine => ?_⟩⟩
  · simp [apart,kept other]
  · have apart : other ≠ key := by
      rintro rfl
      exact ID_apart (owned.symm.trans fresh)
    simp [apart,kept other,owned]
  · by_cases same : other = key
    · subst same
      simp
    · refine absurd ?_ foreign
      simpa [same,kept other] using mine

theorem save_holds {layout : Codec α} (owned : (store key).owner = ID) (saved : save layout store key item = .ok next) :
    holds layout next = Function.update (holds layout store) key (some item) := by
  simp only [save,do_ok,require_ok,exists_const] at saved
  obtain ⟨_,same⟩ := saved
  cases same
  funext other
  by_cases same : other = key
  · subst same
    simp [holds,owned]
  · simp [holds,same]

theorem save_other {layout : Codec α} {other : Codec β} (apart : ∀ bytes item, layout.read bytes = some item → other.read bytes = none)
    (blank : holds other store key = none) (saved : save layout store key item = .ok next) :
    holds other next = holds other store := by
  simp only [save,do_ok,require_ok,exists_const] at saved
  obtain ⟨_,same⟩ := saved
  cases same
  funext key'
  by_cases same : key' = key
  · subst same
    rw [blank]
    unfold holds
    split
    · simp [apart _ item (layout.read_store _ item)]
    · rfl
  · simp [holds,same]

theorem closeAccount_holds {layout : Codec α} (closed : closeAccount store key target = .ok next) :
    holds layout next = Function.update (holds layout store) key none := by
  simp only [closeAccount,Store.credit,do_ok,require_ok,exists_const] at closed
  obtain ⟨_,⟨_,paid⟩,same⟩ := closed
  cases paid
  cases same
  funext other
  by_cases same : other = key
  · subst same
    simp [holds,ID_apart.symm]
  · simp [holds,same]

theorem confined_trans (first : Confined store middle) (second : Confined middle next) : Confined store next := by
  refine ⟨fun key owned => ?_,fun key foreign mine => ?_⟩
  · obtain ⟨still,same⟩ := first.kept key owned
    obtain ⟨last,again⟩ := second.kept key still
    exact ⟨last,again.trans same⟩
  · by_cases between : (middle key).owner = ID
    · obtain ⟨_,same⟩ := second.kept key between
      rw [same]
      exact first.zeroed key foreign between
    · exact second.zeroed key between mine

end Views

-- The accounts that the program owns are exactly what the registry says, each at
-- the address that its fields derive.
structure Refines (env : Runtime) (store : Store) (registry : Registry Pubkey) : Prop where
  admin : ∀ key config, configAt store key = some config ↔
    registry.admin = some (config.authority,config.paused) ∧
      env.findProgramAddress [CONFIG_SEED] ID = (key,config.bump)
  holdings : ∀ key pa, authorityAt store key = some pa ↔ ∃ lbPair position, pa.poolRef = .Dlmm lbPair position ∧
    registry.holdings (pa.stealthPubkey,lbPair) = some ⟨position,pa.exitRecipient⟩ ∧
      env.findProgramAddress (authoritySeeds pa.stealthPubkey lbPair) ID = (key,pa.bump)

-- Before the program is first called it owns nothing that is not zeroed.
def Fresh (store : Store) : Prop := ∀ key, (store key).owner = ID → ∀ byte ∈ (store key).data, byte = 0

section Refines
variable {env : Runtime} {message : Message env} {store next : Store} {registry : Registry Pubkey} {key : Pubkey}

theorem fresh_refines (fresh : Fresh store) : Refines env store .empty := by
  refine ⟨fun key config => ⟨fun stored => ?_,fun ⟨named,_⟩ => nomatch named⟩,
    fun key pa => ⟨fun stored => ?_,fun ⟨_,_,_,held,_⟩ => nomatch held⟩⟩
  · obtain ⟨owned,read⟩ := holds_some.mp stored
    rw [config_unzeroed (fresh key owned)] at read
    cases read
  · obtain ⟨owned,read⟩ := holds_some.mp stored
    rw [poolAuthority_unzeroed (fresh key owned)] at read
    cases read

theorem refines_confined (refines : Refines env store registry) (confined : Confined store next) :
    Refines env next registry := by
  refine ⟨?_,?_⟩
  · rw [confined_config confined]
    exact refines.admin
  · rw [confined_authority confined]
    exact refines.holdings

theorem active_running (refines : Refines env store registry) (active : Active env store key config) :
    registry.admin = some (config.authority,false) := by
  rw [← active.running]
  exact ((refines.admin key config).mp active.stored).1

-- A config that is set: the one address it can have is the derived one.
theorem refines_configured (refines : Refines env store registry)
    (derived : env.findProgramAddress [CONFIG_SEED] ID = (key,bump))
    (configs : configAt next = Function.update (configAt store) key (some ⟨authority,paused,bump⟩))
    (authorities : authorityAt next = authorityAt store) :
    Refines env next { registry with admin := some (authority,paused) } := by
  refine ⟨fun other config => ?_,by rw [authorities]; exact refines.holdings⟩
  rw [configs]
  by_cases same : other = key
  · subst same
    rw [Function.update_self]
    constructor
    · intro stored
      cases stored
      exact ⟨rfl,derived⟩
    · rintro ⟨named,address⟩
      rw [derived] at address
      cases config
      cases named
      cases address
      rfl
  · rw [Function.update_of_ne same]
    constructor
    · intro stored
      have address := ((refines.admin other config).mp stored).2
      rw [derived] at address
      cases address
      exact absurd rfl same
    · rintro ⟨_,address⟩
      rw [derived] at address
      cases address
      exact absurd rfl same

theorem refines_opened (refines : Refines env store registry) (blank : authorityAt store key = none)
    (derived : env.findProgramAddress (authoritySeeds stealth lbPair) ID = (key,bump))
    (configs : configAt next = configAt store)
    (authorities : authorityAt next =
      Function.update (authorityAt store) key (some ⟨stealth,exitRecipient,.Dlmm lbPair position,bump⟩)) :
    Refines env next (registry.put (stealth,lbPair) (some ⟨position,exitRecipient⟩)) := by
  refine ⟨by rw [configs]; exact refines.admin,fun other pa => ?_⟩
  rw [authorities]
  by_cases same : other = key
  · subst same
    rw [Function.update_self]
    constructor
    · intro stored
      cases stored
      exact ⟨lbPair,position,rfl,by simp,derived⟩
    · rintro ⟨pair,place,poolRef,held,address⟩
      by_cases mine : (pa.stealthPubkey,pair) = (stealth,lbPair)
      · cases pa
        cases mine
        cases poolRef
        rw [Registry.put_self] at held
        cases held
        rw [derived] at address
        cases address
        rfl
      · rw [Registry.put_other _ mine] at held
        have stored := (refines.holdings other pa).mpr ⟨pair,place,poolRef,held,address⟩
        rw [blank] at stored
        cases stored
  · rw [Function.update_of_ne same,refines.holdings other pa]
    constructor
    · rintro ⟨pair,place,poolRef,held,address⟩
      refine ⟨pair,place,poolRef,?_,address⟩
      rw [Registry.put_other _ fun mine => ?_]
      · exact held
      · cases mine
        rw [derived] at address
        cases address
        exact same rfl
    · rintro ⟨pair,place,poolRef,held,address⟩
      refine ⟨pair,place,poolRef,?_,address⟩
      rw [Registry.put_other _ fun mine => ?_] at held
      · exact held
      · cases mine
        rw [derived] at address
        cases address
        exact same rfl

theorem refines_closed (refines : Refines env store registry) (stored : authorityAt store key = some pa)
    (poolRef : pa.poolRef = .Dlmm lbPair position) (configs : configAt next = configAt store)
    (authorities : authorityAt next = Function.update (authorityAt store) key none) :
    Refines env next (registry.put (pa.stealthPubkey,lbPair) none) := by
  obtain ⟨pair,place,named,held,derived⟩ := (refines.holdings key pa).mp stored
  rw [poolRef] at named
  cases named
  refine ⟨by rw [configs]; exact refines.admin,fun other found => ?_⟩
  rw [authorities]
  by_cases same : other = key
  · subst same
    rw [Function.update_self]
    refine ⟨nofun,?_⟩
    rintro ⟨pair,place,ref,still,address⟩
    by_cases mine : (found.stealthPubkey,pair) = (pa.stealthPubkey,lbPair)
    · rw [mine,Registry.put_self] at still
      cases still
    · rw [Registry.put_other _ mine] at still
      have also := (refines.holdings other found).mpr ⟨pair,place,ref,still,address⟩
      rw [stored] at also
      cases also
      rw [poolRef] at ref
      cases ref
      exact absurd rfl mine
  · rw [Function.update_of_ne same,refines.holdings other found]
    constructor
    · rintro ⟨pair,place,ref,still,address⟩
      refine ⟨pair,place,ref,?_,address⟩
      rw [Registry.put_other _ fun mine => ?_]
      · exact still
      · obtain ⟨one,two⟩ := Prod.ext_iff.mp mine
        change found.stealthPubkey = _ at one
        change pair = lbPair at two
        rw [one,two,derived] at address
        exact same (Prod.ext_iff.mp address).1.symm
    · rintro ⟨pair,place,ref,still,address⟩
      refine ⟨pair,place,ref,?_,address⟩
      by_cases mine : (found.stealthPubkey,pair) = (pa.stealthPubkey,lbPair)
      · rw [mine,Registry.put_self] at still
        cases still
      · rwa [Registry.put_other _ mine] at still

end Refines

end Octora.ExecutorProgram
