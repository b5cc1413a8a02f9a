import Octora.ExecutorProgram.Runs

namespace Octora.ExecutorProgram
open BigEndian Borsh Codec Calls Fallible LittleEndian

structure DlmmPosition where
  lbPair : Pubkey
  owner : Pubkey
  deriving DecidableEq

def positionOf (read : List UInt8 → Option DlmmPosition) (current : Store) (key : Pubkey) : Option DlmmPosition :=
  if (current key).owner = DLMM_PROGRAM_ID then read (current key).data else none

-- What the executor relies on DLMM for. `initialize_position` makes the account in
-- slot 1, which was none, a position on slot 2 that slot 3 owns; `close_position`
-- ends the one in slot 0; nothing else the program calls moves or ends a position.
-- Whoever else calls DLMM cannot touch a position whose owner has not signed, and
-- an address derived from the program signs nowhere else.
structure Venue (env : Runtime) (world : World) where
  read : List UInt8 → Option DlmmPosition
  initialized : ∀ cpi before after position lbPair owner, world.calls cpi before after →
    cpi.Names env "initialize_position" → cpi.key 1 = some position → cpi.key 2 = some lbPair → cpi.key 3 = some owner →
      positionOf read before position = none ∧ positionOf read after position = some ⟨lbPair,owner⟩ ∧
        ∀ other, other ≠ position → positionOf read after other = positionOf read before other
  worked : ∀ cpi before after, world.calls cpi before after →
    (cpi.Names env "add_liquidity_by_strategy" ∨ cpi.Names env "claim_fee" ∨ cpi.Names env "remove_liquidity_by_range" ∨
      cpi.Names env "swap") → positionOf read after = positionOf read before
  closed : ∀ cpi before after position, world.calls cpi before after → cpi.Names env "close_position" →
    cpi.key 0 = some position → positionOf read after position = none ∧
      ∀ other, other ≠ position → positionOf read after other = positionOf read before other
  elsewhere : ∀ before after key position, world.elsewhere before after → positionOf read before key = some position →
    (∃ seeds, env.createProgramAddress seeds ID = some position.owner) → positionOf read after key = some position

section Accounts
variable {env : Runtime} {message : Message env} {before after : Store} {read : List UInt8 → Option DlmmPosition}

-- An account that DLMM owns neither before nor after is no position; the others
-- keep their owner and their data.
theorem positionOf_same (others : ∀ key, ((after key).owner = (before key).owner ∧ (after key).data = (before key).data) ∨
    ((before key).owner ≠ DLMM_PROGRAM_ID ∧ (after key).owner ≠ DLMM_PROGRAM_ID)) :
    positionOf read after = positionOf read before := by
  funext key
  unfold positionOf
  rcases others key with ⟨owner,data⟩ | ⟨first,second⟩
  · rw [owner,data]
  · rw [if_neg first,if_neg second]

theorem system_apart : SYSTEM_PROGRAM_ID ≠ DLMM_PROGRAM_ID := by decide

theorem created_positions (made : Created env before key seeds space after bump) :
    positionOf read after = positionOf read before := by
  refine positionOf_same fun other => ?_
  by_cases same : other = key
  · subst same
    exact .inr ⟨fun dlmm => system_apart (made.fresh.symm.trans dlmm),fun dlmm => DLMM_apart (made.owner.symm.trans dlmm)⟩
  · exact .inl (made.others other same)

theorem save_positions (read : List UInt8 → Option DlmmPosition) {layout : Codec α} (owned : (before key).owner = ID) (saved : save layout before key item = .ok after) :
    positionOf read after = positionOf read before := by
  simp only [save,do_ok,require_ok,exists_const] at saved
  obtain ⟨_,same⟩ := saved
  cases same
  refine positionOf_same fun other => ?_
  by_cases same : other = key
  · subst same
    have apart : (before other).owner ≠ DLMM_PROGRAM_ID := fun dlmm => DLMM_apart (owned.symm.trans dlmm)
    exact .inr ⟨apart,by simpa using apart⟩
  · exact .inl (by simp [same])

theorem closeAccount_positions (read : List UInt8 → Option DlmmPosition) (owned : (before key).owner = ID) (closed : closeAccount before key target = .ok after) :
    positionOf read after = positionOf read before := by
  simp only [closeAccount,Store.credit,do_ok,require_ok,exists_const] at closed
  obtain ⟨_,⟨_,paid⟩,same⟩ := closed
  cases paid
  cases same
  refine positionOf_same fun other => ?_
  by_cases same : other = key
  · subst same
    exact .inr ⟨fun dlmm => DLMM_apart (owned.symm.trans dlmm),by simpa using system_apart⟩
  · exact .inl (by simp [same])

end Accounts

-- A live PoolAuthority has a live position on its pair, which it owns.
def Lockstep (read : List UInt8 → Option DlmmPosition) (current : Store) : Prop :=
  ∀ key pa lbPair position, authorityAt current key = some pa → pa.poolRef = .Dlmm lbPair position →
    positionOf read current position = some ⟨lbPair,key⟩

-- What a successful exit leaves.
structure Exited (read : List UInt8 → Option DlmmPosition) (before after : Store) (pa : Pubkey) : Prop where
  held : ∃ record lbPair position, authorityAt before pa = some record ∧ record.poolRef = .Dlmm lbPair position ∧
    positionOf read before position = some ⟨lbPair,pa⟩ ∧ positionOf read after position = none ∧
      ∀ other, other ≠ position → positionOf read after other = positionOf read before other
  authorities : authorityAt after = Function.update (authorityAt before) pa none

section Handlers
variable {env : Runtime} {world : World} (venue : Venue env world) {message : Message env} {before after : Store}
  {registry : Registry Pubkey}

theorem lockstep_same (lockstep : Lockstep venue.read before) (authorities : authorityAt after = authorityAt before)
    (positions : positionOf venue.read after = positionOf venue.read before) : Lockstep venue.read after := by
  intro key pa lbPair position live poolRef
  rw [positions]
  rw [authorities] at live
  exact lockstep key pa lbPair position live poolRef

theorem initConfig_lockstep (lockstep : Lockstep venue.read before)
    (accepted : initConfig message before accounts = .ok after) : Lockstep venue.read after := by
  simp only [initConfig,requireSigner,requireMut,do_ok,require_ok,exists_const] at accepted
  obtain ⟨_,_,_,⟨created,bump⟩,ran,_,_,saved⟩ := accepted
  have made := initAccount_created ran
  have blank : authorityAt created accounts.config = none := by
    rw [authorityAt,holds,if_pos made.owner,made.data]
    exact poolAuthority_unzeroed fun byte => List.eq_of_mem_replicate
  refine lockstep_same venue lockstep ?_ ((save_positions _ made.owner saved).trans (created_positions made))
  exact (save_other (fun _ _ => config_notPoolAuthority) blank saved).trans (confined_authority made.confined)

theorem setPaused_lockstep (lockstep : Lockstep venue.read before)
    (accepted : setPaused message before accounts paused = .ok after) : Lockstep venue.read after := by
  simp only [setPaused,requireSigner,requireMut,do_ok,require_ok,exists_const,loadConfig_ok] at accepted
  obtain ⟨_,config,stored,_,_,_,saved⟩ := accepted
  refine lockstep_same venue lockstep ?_ (save_positions _ (holds_some.mp stored).1 saved)
  exact save_other (fun _ _ => config_notPoolAuthority) (config_notAuthority stored) saved

theorem initPosition_lockstep (lockstep : Lockstep venue.read before) :
    (initPosition message before accounts remaining lowerBinId width exitRecipient).Follows world.Answers
      (fun _ _ => True) (Ends (fun after _ => Lockstep venue.read after) fun _ _ => True) () := by
  refine initPosition_follows (fun _ => trivial) fun created bump accepted checked _ => ⟨trivial,fun after called saved ran' => ?_⟩
  simp only [initPositionAccounts,requireSigner,requireMut,do_ok,require_ok,exists_const] at accepted
  obtain ⟨_,_,_,_,_,found,ran,_,_,_,same⟩ := accepted
  cases same
  have made := initAccount_created ran
  have confined := world.callsConfined _ _ _ called
  obtain ⟨owned,_⟩ := confined.kept accounts.poolAuthority made.owner
  obtain ⟨free,taken,others⟩ := venue.initialized _ _ _ (slot remaining 1) (slot remaining 2) accounts.poolAuthority called
    (List.prefix_append _ _) (forwarded_key checked.length (by decide)) (forwarded_key checked.length (by decide))
    (forwarded_key checked.length (by decide))
  have positions := save_positions venue.read owned ran'
  have authorities := save_holds owned ran'
  intro key pa lbPair position live poolRef
  rw [authorityAt,authorities] at live
  rw [positions]
  by_cases ours : key = accounts.poolAuthority
  · subst ours
    rw [Function.update_self] at live
    cases live
    cases poolRef
    exact taken
  · rw [Function.update_of_ne ours] at live
    change authorityAt after key = some pa at live
    rw [confined_authority confined,confined_authority made.confined] at live
    have there := lockstep key pa lbPair position live poolRef
    rw [← created_positions made] at there
    rw [others position fun same => ?_]
    · exact there
    · rw [same,free] at there
      cases there

theorem worked_lockstep (lockstep : Lockstep venue.read before) {cpi : Cpi} (called : world.calls cpi before after)
    (named : cpi.Names env "add_liquidity_by_strategy" ∨ cpi.Names env "claim_fee" ∨
      cpi.Names env "remove_liquidity_by_range" ∨ cpi.Names env "swap") : Lockstep venue.read after :=
  lockstep_same venue lockstep (confined_authority (world.callsConfined _ _ _ called)) (venue.worked _ _ _ called named)

theorem withdrawClose_exited (message : Message env) (accounts : PoolAccounts) (remaining : List Pubkey)
    (fromBinId toBinId : Int32) (bpsToRemove : UInt16) (lockstep : Lockstep venue.read before) :
    (withdrawClose message before accounts remaining fromBinId toBinId bpsToRemove).Follows world.Answers
      (fun _ _ => True) (Ends (fun after _ => Exited venue.read before after accounts.poolAuthority) fun _ _ => True) () := by
  refine withdrawClose_follows (fun _ => trivial) fun pa lbPair position guarded checked _ =>
    ⟨trivial,fun removed first _ => ⟨trivial,fun closed second after ended => ?_⟩⟩
  have confined := confined_trans (world.callsConfined _ _ _ first) (world.callsConfined _ _ _ second)
  have work := venue.worked _ _ _ first (.inr (.inr (.inl ((List.prefix_append _ _).trans (List.prefix_refl _)))))
  obtain ⟨gone,others⟩ := venue.closed _ _ _ (slot remaining 0) second (List.prefix_append _ _)
    (closePosition_key (j := 0) rfl)
  have owned := (confined.kept accounts.poolAuthority (holds_some.mp guarded.stored).1).1
  have positions := closeAccount_positions venue.read owned ended
  refine ⟨⟨pa,lbPair,position,guarded.stored,checked.poolRef,lockstep _ _ _ _ guarded.stored checked.poolRef,?_,?_⟩,?_⟩
  · rw [positions,← checked.named]
    exact gone
  · intro other apart
    rw [positions,others other (by rw [checked.named]; exact apart),work]
  · rw [← confined_authority confined]
    exact closeAccount_holds ended

theorem exited_lockstep (lockstep : Lockstep venue.read before) (exited : Exited venue.read before after pa) :
    Lockstep venue.read after := by
  obtain ⟨record,pair,place,stored,ref,there,gone,others⟩ := exited.held
  intro key other lbPair position live poolRef
  rw [exited.authorities] at live
  by_cases ours : key = pa
  · rw [ours,Function.update_self] at live
    cases live
  · rw [Function.update_of_ne ours] at live
    have held := lockstep key other lbPair position live poolRef
    rw [others position fun same => ?_]
    · exact held
    · rw [same,there] at held
      cases held
      exact ours rfl

theorem handle_lockstep (message : Message env) (lockstep : Lockstep venue.read before) (instruction : Instruction) :
    (handle message before instruction).Follows world.Answers (fun _ _ => True)
      (Ends (fun after _ => Lockstep venue.read after) fun _ _ => True) () := by
  cases instruction with
  | initConfig accounts =>
    refine follows_lift.mpr ?_
    cases ran : initConfig message before accounts with
    | ok after => exact initConfig_lockstep venue lockstep ran
    | error error => trivial
  | setPaused accounts paused =>
    refine follows_lift.mpr ?_
    cases ran : setPaused message before accounts paused with
    | ok after => exact setPaused_lockstep venue lockstep ran
    | error error => trivial
  | dlmmInitPosition => exact initPosition_lockstep venue lockstep
  | dlmmAddLiquidity =>
    exact addLiquidity_follows (fun _ => trivial) fun _ _ _ _ _ _ =>
      ⟨trivial,fun _ called => worked_lockstep venue lockstep called (.inl (List.prefix_append _ _))⟩
  | dlmmClaimFees =>
    exact claimFees_follows (fun _ => trivial) fun _ _ _ _ _ _ =>
      ⟨trivial,fun _ called => worked_lockstep venue lockstep called (.inr (.inl (List.prefix_append _ _)))⟩
  | dlmmWithdrawClose =>
    refine follows_mono (fun out _ ended => ?_) (withdrawClose_exited venue message _ _ _ _ _ lockstep)
    cases out with
    | ok after => exact exited_lockstep venue lockstep ended
    | error error => trivial
  | dlmmSwap =>
    exact swap_follows (fun _ => trivial) fun _ _ _ _ =>
      ⟨trivial,fun _ called _ => worked_lockstep venue lockstep called
        (.inr (.inr (.inr ((List.prefix_append _ _).trans (List.prefix_refl _)))))⟩

theorem step_lockstep (refines : Refines env before registry) (lockstep : Lockstep venue.read before)
    (step : Step env world before made after) : Lockstep venue.read after := by
  cases step with
  | executed message dlmm possible instruction done =>
    have outcome := follows_run (fun query _ => possible query)
      (handle_lockstep venue message lockstep instruction)
    change Ends _ _ (execute message dlmm before instruction) () at outcome
    rw [done] at outcome
    exact outcome
  | refused => exact lockstep
  | elsewhere moved =>
    intro key pa lbPair position live poolRef
    rw [confined_authority (world.elsewhereConfined _ _ moved)] at live
    obtain ⟨pair,place,ref,_,address⟩ := (refines.holdings key pa).mp live
    have derived := env.found (authoritySeeds pa.stealthPubkey pair) ID
    rw [address] at derived
    exact venue.elsewhere _ _ _ _ moved (lockstep key pa lbPair position live poolRef) ⟨_,derived⟩

theorem runs_lockstep (fresh : Fresh start) (runs : Runs env world start receipts after) : Lockstep venue.read after := by
  induction runs with
  | nil =>
    have refines : Refines env start .empty := fresh_refines fresh
    intro key pa lbPair position live
    obtain ⟨_,_,_,held,_⟩ := (refines.holdings key pa).mp live
    cases held
  | step prior step ih =>
    obtain ⟨registry,_,refines,_⟩ := runs_refine fresh prior
    exact step_lockstep venue refines ih step

-- PoolAuthority and position live and die together: each live authority has one
-- live position of its own on its pair, no two share one, and an exit that
-- succeeds ends both of them and nothing else.
theorem live_together (fresh : Fresh start) (runs : Runs env world start receipts before) :
    (∀ key pa, authorityAt before key = some pa → ∃ lbPair position, pa.poolRef = .Dlmm lbPair position ∧
      positionOf venue.read before position = some ⟨lbPair,key⟩) ∧
    (∀ one two pa other lbPair pair position, authorityAt before one = some pa → pa.poolRef = .Dlmm lbPair position →
      authorityAt before two = some other → other.poolRef = .Dlmm pair position → one = two) ∧
    ∀ (message : Message env) (dlmm : Dlmm), (∀ query, world.Answers query () (dlmm query) ()) →
      ∀ accounts remaining fromBinId toBinId bpsToRemove after,
        execute message dlmm before (.dlmmWithdrawClose accounts remaining fromBinId toBinId bpsToRemove) = .ok after →
          Exited venue.read before after accounts.poolAuthority := by
  have lockstep := runs_lockstep venue fresh runs
  refine ⟨fun key pa live => ?_,?_,?_⟩
  · obtain ⟨lbPair,position,poolRef,_⟩ := authority_recorded fresh runs live
    exact ⟨lbPair,position,poolRef,lockstep key pa lbPair position live poolRef⟩
  · intro one two pa other lbPair pair position first named second also
    have left := lockstep one pa lbPair position first named
    have right := lockstep two other pair position second also
    rw [left] at right
    cases right
    rfl
  · intro message dlmm possible accounts remaining fromBinId toBinId bpsToRemove after done
    have outcome := follows_run (fun query _ => possible query)
      (withdrawClose_exited venue message accounts remaining fromBinId toBinId bpsToRemove lockstep)
    change Ends _ _ (execute message dlmm before (.dlmmWithdrawClose _ _ _ _ _)) () at outcome
    rw [done] at outcome
    exact outcome

end Handlers

-- A position as DLMM lays it out: its pair and its owner follow the discriminator.
def sampleRead (data : List UInt8) : Option DlmmPosition :=
  ((tagged positionDiscriminator (pair (array 32) (array 32))).read data).map fun found => ⟨found.1,found.2⟩

theorem named_front {cpi : Cpi} (named : cpi.Names sampleEnv ixName) :
    cpi.data.take 8 = anchorDiscriminator sampleEnv ixName := by
  have eight : (anchorDiscriminator sampleEnv ixName).length = 8 := by simp [anchorDiscriminator]
  rw [← eight]
  exact (List.prefix_iff_eq_take.mp named).symm

theorem sampleRead_position (lbPair owner : Pubkey) :
    sampleRead (positionDiscriminator ++ lbPair.toList ++ owner.toList) = some ⟨lbPair,owner⟩ := by
  have laid := (tagged positionDiscriminator (pair (array 32) (array 32))).read_encode (lbPair,owner) []
  rw [List.append_nil] at laid
  rw [sampleRead,List.append_assoc]
  exact congrArg (Option.map _) laid

def sampleVenue : Venue sampleEnv sampleWorld where
  read := sampleRead
  initialized cpi before after position lbPair owner answered named one two three := by
    change sampleDlmm (cpi,before) = .ok after at answered
    simp only [sampleDlmm,if_pos (named_front named),one,two,three,Option.getD_some] at answered
    split at answered
    · rename_i free
      cases answered
      refine ⟨if_neg fun dlmm => system_apart (free.1.symm.trans dlmm),?_,fun other apart => ?_⟩
      · rw [positionOf,Function.update_self,if_pos rfl]
        exact sampleRead_position lbPair owner
      · rw [positionOf,positionOf,Function.update_of_ne apart]
    · cases answered
  worked cpi before after answered named := by
    change sampleDlmm (cpi,before) = .ok after at answered
    have other : cpi.data.take 8 ≠ anchorDiscriminator sampleEnv "initialize_position" ∧
        cpi.data.take 8 ≠ anchorDiscriminator sampleEnv "close_position" := by
      rcases named with named | named | named | named
      · rw [named_front named]
        exact ⟨by decide +kernel,by decide +kernel⟩
      · rw [named_front named]
        exact ⟨by decide +kernel,by decide +kernel⟩
      · rw [named_front named]
        exact ⟨by decide +kernel,by decide +kernel⟩
      · rw [named_front named]
        exact ⟨by decide +kernel,by decide +kernel⟩
    simp only [sampleDlmm,if_neg other.1,if_neg other.2] at answered
    cases answered
    rfl
  closed cpi before after position answered named one := by
    change sampleDlmm (cpi,before) = .ok after at answered
    have other : cpi.data.take 8 ≠ anchorDiscriminator sampleEnv "initialize_position" := by
      rw [named_front named]
      decide +kernel
    simp only [sampleDlmm,if_neg other,if_pos (named_front named),one,Option.getD_some] at answered
    split at answered
    · cases answered
      refine ⟨?_,fun place apart => ?_⟩
      · rw [positionOf,Function.update_self]
        exact if_neg system_apart
      · rw [positionOf,positionOf,Function.update_of_ne apart]
    · cases answered
  elsewhere before after key position moved held _ := by
    rw [show after = before from moved]
    exact held

theorem live_together_sample : positionOf sampleRead openedStore samplePosition = some ⟨samplePair,sampleAuthority⟩ ∧
    ∃ after, execute sampleExit.message sampleDlmm openedStore sampleExit.instruction = .ok after ∧
      Exited sampleRead openedStore after sampleAuthority := by
  have together := live_together sampleVenue sample_fresh sample_opened
  obtain ⟨lbPair,position,poolRef,there⟩ := together.1 sampleAuthority _ sample_open
  cases poolRef
  have fine : (execute sampleExit.message sampleDlmm openedStore sampleExit.instruction).isOk = true := by decide +kernel
  exact ⟨there,_,settle_ok fine openedStore,together.2.2 _ sampleDlmm (fun _ _ same => same) _ _ _ _ _ _ (settle_ok fine openedStore)⟩

end Octora.ExecutorProgram
