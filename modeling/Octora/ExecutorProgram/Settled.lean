import Octora.ExecutorProgram.Venue

namespace Octora.ExecutorProgram
open BigEndian Borsh Codec Calls Fallible LittleEndian

-- An address derived from the program is empty until the program itself makes an
-- account of it: nobody else can sign for it.
def Derived (env : Runtime) (key : Pubkey) : Prop := ∃ seeds, env.createProgramAddress seeds ID = some key

def Vacant (current : Store) (key : Pubkey) : Prop :=
  (current key).owner = SYSTEM_PROGRAM_ID ∧ (current key).data = []

-- An empty account stays empty in a call that it does not sign, and whatever else
-- the chain does, a derived address does not sign it.
structure Reserves (env : Runtime) (world : World) : Prop where
  calls : ∀ cpi before after key, world.calls cpi before after →
    (∀ account ∈ cpi.accounts, account.pubkey = key → account.isSigner = false) → Vacant before key → Vacant after key
  elsewhere : ∀ before after key, world.elsewhere before after → Derived env key → Vacant before key → Vacant after key

def Settled (current : Store) (key : Pubkey) : Prop :=
  Vacant current key ∨ (∃ pa, authorityAt current key = some pa) ∨ ∃ config, configAt current key = some config

section Settled
variable {env : Runtime} {world : World} {message : Message env} {before current after : Store} {key : Pubkey} {cpi : Cpi}

theorem settled_confined (confined : Confined before after) (vacant : Vacant before key → Vacant after key)
    (settled : Settled before key) : Settled after key := by
  unfold Settled
  rw [confined_authority confined,confined_config confined]
  rcases settled with free | live
  · exact .inl (vacant free)
  · exact .inr live

-- The derived addresses that sign a call are those its seeds derive, and these are
-- not empty any more.
theorem settled_called (reserves : Reserves env world) (derived : Derived env key) (called : world.calls cpi before after)
    (prepared : Prepared message cpi)
    (owned : ∀ seeds, cpi.signerSeeds = some seeds → env.createProgramAddress seeds ID = some key → (before key).owner = ID)
    (settled : Settled before key) : Settled after key := by
  refine settled_confined (world.callsConfined _ _ _ called) (fun free => ?_) settled
  refine reserves.calls _ _ _ _ called (fun account inside same => ?_) free
  by_contra signs
  obtain ⟨address,made⟩ := derived
  rcases prepared_added prepared account inside (Bool.not_eq_false _ ▸ signs) with outer | ⟨seeds,named,signed⟩
  · rw [same,message.derivedUnsigned address key made] at outer
    cases outer
  · rw [same] at signed
    exact ID_apart ((owned seeds named signed).symm.trans free.1)

theorem created_settled (made : Created env before place seeds space after bump) (apart : key ≠ place)
    (settled : Settled before key) : Settled after key := by
  refine settled_confined made.confined (fun free => ?_) settled
  obtain ⟨owner,data⟩ := made.others key apart
  exact ⟨owner.trans free.1,data.trans free.2⟩

theorem save_settled {layout : Codec α} (saved : save layout before place item = .ok after) (apart : key ≠ place)
    (settled : Settled before key) : Settled after key := by
  simp only [save,do_ok,require_ok,exists_const] at saved
  obtain ⟨_,same⟩ := saved
  cases same
  have owner : ∀ data, (before.setData place data key).owner = (before key).owner := fun _ => setData_owner _
  have data : ∀ data, (before.setData place data key).data = (before key).data := fun _ => by simp [apart]
  unfold Settled Vacant authorityAt configAt holds at settled ⊢
  simpa only [owner,data] using settled

theorem closeAccount_settled (closed : closeAccount before place target = .ok after)
    (settled : Settled before key) : Settled after key := by
  simp only [closeAccount,Store.credit,do_ok,require_ok,exists_const] at closed
  obtain ⟨_,⟨_,paid⟩,same⟩ := closed
  cases paid
  cases same
  by_cases ours : key = place
  · subst ours
    exact .inl ⟨by simp,by simp⟩
  · unfold Settled Vacant authorityAt configAt holds at settled ⊢
    simpa [ours] using settled

-- The seeds of a worked position derive its PoolAuthority, which the program owns.
theorem guarded_owned (guarded : Guarded message before accounts pa) (declared : accounts.lbPair = lbPair)
    (kept : Confined before current) {cpi : Cpi} (signs : cpi.signerSeeds = some (signerSeeds accounts lbPair pa.bump)) :
    ∀ seeds, cpi.signerSeeds = some seeds → env.createProgramAddress seeds ID = some key → (current key).owner = ID := by
  intro seeds named made
  rw [signs] at named
  cases named
  have derived := guarded.derived
  rw [declared] at derived
  cases (made : env.createProgramAddress _ _ = _).symm.trans derived
  exact (kept.kept _ (holds_some.mp guarded.stored).1).1

theorem handle_settled (reserves : Reserves env world) (message : Message env) (derived : Derived env key)
    (settled : Settled before key) (instruction : Instruction) : (handle message before instruction).Follows world.Answers (fun _ _ => True)
      (Ends (fun after _ => Settled after key) fun _ _ => True) () := by
  cases instruction with
  | initConfig accounts =>
    refine follows_lift.mpr ?_
    cases ran : initConfig message before accounts with
    | error error => trivial
    | ok after =>
      simp only [initConfig,requireSigner,requireMut,do_ok,require_ok,exists_const] at ran
      obtain ⟨_,_,_,⟨created,bump⟩,allocated,_,_,saved⟩ := ran
      have made := initAccount_created allocated
      by_cases ours : key = accounts.config
      · refine .inr (.inr ⟨⟨accounts.authority,false,bump⟩,?_⟩)
        rw [configAt,save_holds made.owner saved,ours,Function.update_self]
      · exact save_settled saved ours (created_settled made ours settled)
  | setPaused accounts paused =>
    refine follows_lift.mpr ?_
    cases ran : setPaused message before accounts paused with
    | error error => trivial
    | ok after =>
      simp only [setPaused,requireSigner,requireMut,do_ok,require_ok,exists_const,loadConfig_ok] at ran
      obtain ⟨_,config,stored,_,_,_,saved⟩ := ran
      by_cases ours : key = accounts.config
      · refine .inr (.inr ⟨{ config with paused := paused },?_⟩)
        rw [configAt,save_holds (holds_some.mp stored).1 saved,ours,Function.update_self]
      · exact save_settled saved ours settled
  | dlmmInitPosition accounts remaining lowerBinId width exitRecipient =>
    refine initPosition_follows (fun _ => trivial) fun created bump accepted checked prepared =>
      ⟨trivial,fun after called saved stored => ?_⟩
    simp only [initPositionAccounts,requireSigner,requireMut,do_ok,require_ok,exists_const] at accepted
    obtain ⟨_,_,_,_,_,found,ran,_,_,_,same⟩ := accepted
    cases same
    have made := initAccount_created ran
    have owned := ((world.callsConfined _ _ _ called).kept accounts.poolAuthority made.owner).1
    by_cases ours : key = accounts.poolAuthority
    · refine .inr (.inl ⟨⟨accounts.stealth,exitRecipient,.Dlmm (slot remaining 2) (slot remaining 1),bump⟩,?_⟩)
      rw [authorityAt,save_holds owned stored,ours,Function.update_self]
    · refine save_settled stored ours (settled_called reserves derived called prepared ?_ (created_settled made ours settled))
      intro seeds named signed
      cases named
      have address := env.found (authoritySeeds accounts.stealth accounts.lbPair) ID
      rw [made.address,checked.declared] at address
      cases signed.symm.trans address
      exact absurd rfl ours
  | dlmmAddLiquidity =>
    exact addLiquidity_follows (fun _ => trivial) fun pa _ _ guarded checked prepared =>
      ⟨trivial,fun _ called => settled_called reserves derived called prepared
        (guarded_owned guarded (checked.declared.symm.trans checked.paired) (confined_refl _) rfl) settled⟩
  | dlmmClaimFees =>
    exact claimFees_follows (fun _ => trivial) fun pa _ _ guarded checked prepared =>
      ⟨trivial,fun _ called => settled_called reserves derived called prepared
        (guarded_owned guarded checked.declared (confined_refl _) rfl) settled⟩
  | dlmmWithdrawClose =>
    refine withdrawClose_follows (fun _ => trivial) fun pa _ _ guarded checked prepared =>
      ⟨trivial,fun removed first also => ⟨trivial,fun closed second after ended => closeAccount_settled ended ?_⟩⟩
    have between := settled_called reserves derived first prepared
      (guarded_owned guarded.toGuarded checked.declared (confined_refl _) rfl) settled
    exact settled_called reserves derived second also
      (guarded_owned guarded.toGuarded checked.declared (world.callsConfined _ _ _ first) rfl) between
  | dlmmSwap =>
    refine swap_follows (fun _ => trivial) fun _ _ _ prepared =>
      ⟨trivial,fun _ called _ => settled_called reserves derived called prepared ?_ settled⟩
    intro _ unsigned
    cases unsigned

theorem runs_settled (reserves : Reserves env world) (derived : Derived env key) (vacant : Vacant start key)
    (runs : Runs env world start receipts after) : Settled after key := by
  induction runs with
  | nil => exact .inl vacant
  | step _ step ih =>
    cases step with
    | executed message dlmm possible instruction done =>
      have outcome := follows_run (fun query _ => possible query) (handle_settled reserves message derived ih instruction)
      change Ends _ _ (execute message dlmm _ instruction) () at outcome
      rw [done] at outcome
      exact outcome
    | refused => exact ih
    | elsewhere moved =>
      exact settled_confined (world.elsewhereConfined _ _ moved) (reserves.elsewhere _ _ _ moved derived) ih

end Settled

end Octora.ExecutorProgram
