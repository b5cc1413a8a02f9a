import Octora.Mixer.Effects

namespace Octora
open BigEndian Fallible IncrementalTree MerkleTree

-- The two-input hash of the tree, on canonical encodings.
def compress (poseidon : List Fr → Fr) (left right : Bytes 32) : Bytes 32 :=
  fieldBytes (poseidon [bytesField left,bytesField right])

def treeRoot (poseidon : List Fr → Fr) (commitments : List (Bytes 32)) : Bytes 32 :=
  root (compress poseidon) ZERO_VALUE TREE_LEVELS commitments

def fieldLeaf (commitments : List (Bytes 32)) (j : Nat) : Fr := bytesField (padded ZERO_VALUE commitments j)

-- The recurrence stated beside the table in `constants.rs`.
structure ZeroChain (poseidon : List Fr → Fr) : Prop where
  first : ZERO_HASHES ⟨0,by decide⟩ = compress poseidon ZERO_VALUE ZERO_VALUE
  next : ∀ (i : Nat) (bound : i+1 < TREE_LEVELS), ZERO_HASHES ⟨i+1,bound⟩ =
    compress poseidon (ZERO_HASHES ⟨i,Nat.lt_of_succ_lt bound⟩) (ZERO_HASHES ⟨i,Nat.lt_of_succ_lt bound⟩)

-- The table is one level ahead of the tree: entry `i` is the empty subtree of height `i+1`.
theorem zeroHashes_empty (zeros : ZeroChain poseidon) (i : Nat) (bound : i < TREE_LEVELS) :
    ZERO_HASHES ⟨i,bound⟩ = empty (compress poseidon) ZERO_VALUE (i+1) := by
  induction i with
  | zero => exact zeros.first
  | succ i ih => rw [zeros.next i bound,ih (Nat.lt_of_succ_lt bound)]; rfl

theorem zeroSibling_empty (zeros : ZeroChain poseidon) (i : Fin TREE_LEVELS) :
    zeroSibling i = empty (compress poseidon) ZERO_VALUE i := by
  obtain ⟨i,bound⟩ := i
  cases i with
  | zero => rfl
  | succ i => exact zeroHashes_empty zeros i (Nat.lt_of_succ_lt bound)

theorem emptyRoot_exact (zeros : ZeroChain poseidon) :
    ZERO_HASHES ⟨TREE_LEVELS - 1,by decide⟩ = treeRoot poseidon [] := by
  have last : TREE_LEVELS - 1 + 1 = TREE_LEVELS := by decide
  rw [treeRoot,root_nil,zeroHashes_empty zeros,last]

theorem hashv_compress (hashed : hashv poseidon [left,right] = some result) :
    result = compress poseidon left right ∧ Canonical left ∧ Canonical right := by
  obtain ⟨canonical,equal⟩ := hashv_exact.mp hashed
  exact ⟨equal,canonical left (by simp),canonical right (by simp)⟩

theorem insertLevel_cases (inserted : insertLevel poseidon state i = .ok next) :
    (state.index % 2 = 0 ∧ hashv poseidon [state.current,zeroSibling i] = some next.current ∧
      next.filled = Function.update state.filled i state.current ∧ next.index = state.index / 2) ∨
    (state.index % 2 = 1 ∧ hashv poseidon [state.filled i,state.current] = some next.current ∧
      next.filled = state.filled ∧ next.index = state.index / 2) := by
  unfold insertLevel at inserted
  rcases Nat.mod_two_eq_zero_or_one state.index with even | odd
  · have low : state.index &&& 1 = 0 := by rw [Nat.and_one_is_mod,even]
    rw [if_pos low] at inserted
    dsimp only at inserted
    split at inserted
    · rename_i hash hashed
      cases inserted
      exact .inl ⟨even,hashed,rfl,Nat.shiftRight_one _⟩
    · cases inserted
  · have high : ¬state.index &&& 1 = 0 := by rw [Nat.and_one_is_mod,odd]; decide
    rw [if_neg high] at inserted
    dsimp only at inserted
    split at inserted
    · rename_i hash hashed
      cases inserted
      exact .inr ⟨odd,hashed,rfl,Nat.shiftRight_one _⟩
    · cases inserted

theorem insertLevel_exact (zeros : ZeroChain poseidon) (state : Cursor (Bytes 32) TREE_LEVELS)
    (i : Fin TREE_LEVELS) (next : Cursor (Bytes 32) TREE_LEVELS)
    (inserted : insertLevel poseidon state i = .ok next) :
    next = level (compress poseidon) ZERO_VALUE state i := by
  obtain ⟨filled,current,index⟩ := next
  unfold level
  rcases insertLevel_cases inserted with ⟨even,hashed,stored,halved⟩ | ⟨odd,hashed,stored,halved⟩
  · rw [if_pos even,← zeroSibling_empty zeros,← (hashv_compress hashed).1,← stored,← halved]
  · rw [if_neg (by omega),← (hashv_compress hashed).1,← stored,← halved]

theorem insertLevels_exact (zeros : ZeroChain poseidon)
    (inserted : insertLevels poseidon count start = .ok result) :
    result = levels (compress poseidon) ZERO_VALUE count start :=
  foldlM_exact (insertLevel_exact zeros) _ inserted

theorem insertLevels_succ (bound : k < TREE_LEVELS) : insertLevels poseidon (k+1) start =
    insertLevels poseidon k start >>= fun state => insertLevel poseidon state ⟨k,bound⟩ := by
  have next : (List.finRange TREE_LEVELS)[k]? = some ⟨k,bound⟩ := by simp [bound]
  rw [insertLevels,List.take_add_one,next,List.foldlM_append,← insertLevels]
  simp

-- A walk that finishes has entered every level below.
theorem insertLevels_entered (k rest : Nat) (finished : insertLevels poseidon (k+rest) start = .ok result)
    (bound : k+rest ≤ TREE_LEVELS) : ∃ state, insertLevels poseidon k start = .ok state := by
  induction rest generalizing result with
  | zero => exact ⟨result,finished⟩
  | succ rest ih =>
    rw [← Nat.add_assoc,insertLevels_succ (k := k+rest) (Nat.lt_of_succ_le bound),do_ok] at finished
    obtain ⟨before,reached,_⟩ := finished
    exact ih reached (Nat.le_of_succ_le bound)

theorem insertLevel_canonical (inserted : insertLevel poseidon state i = .ok next) : Canonical state.current := by
  rcases insertLevel_cases inserted with ⟨_,hashed,_⟩ | ⟨_,hashed,_⟩
  · exact (hashv_compress hashed).2.1
  · exact (hashv_compress hashed).2.2

-- A leaf that is not a canonical field element stops the very first hash.
theorem insertLeaf_canonical (inserted : insertLeaf poseidon filled commitment leafIndex = .ok result) :
    Canonical commitment := by
  obtain ⟨_,reached⟩ := insertLevels_entered 1 (TREE_LEVELS - 1) inserted (by decide)
  rw [insertLevels_succ (k := 0) (by decide),do_ok] at reached
  obtain ⟨start,unmoved,first⟩ := reached
  cases unmoved
  exact insertLevel_canonical first

theorem maxLeaves_exact : MAX_LEAVES = 2 ^ TREE_LEVELS := by decide

structure PoolState (poseidon : List Fr → Fr) (denomination : UInt64) (commitments : List (Bytes 32))
    (pool : MixerPool) : Prop where
  denomination : pool.denomination = denomination
  leaves : pool.nextLeafIndex = commitments.length
  capacity : commitments.length ≤ MAX_LEAVES
  cached : Cached (compress poseidon) ZERO_VALUE commitments pool.filledSubtrees
  cursor : pool.currentRootIndex.toNat = commitments.length % ROOT_HISTORY_SIZE
  window : RingWindow.Window (fun k => treeRoot poseidon (commitments.take k)) commitments.length pool.rootHistory
  canonical : ∀ commitment ∈ commitments, Canonical commitment

-- Any cache will do for an empty tree: it is written before it is read.
theorem initialPool_valid (zeros : ZeroChain poseidon) (filled : Fin TREE_LEVELS → Bytes 32) :
    PoolState poseidon denomination [] { initialPool authority denomination bump with filledSubtrees := filled } where
  denomination := rfl
  leaves := rfl
  capacity := Nat.zero_le _
  cached := cached_nil _
  cursor := rfl
  window := fun _ => emptyRoot_exact zeros
  canonical := nofun

theorem pushRoot_cursor (pool : MixerPool) (root : Bytes 32) :
    (pool.pushRoot root).currentRootIndex.toNat = (pool.currentRootIndex.toNat + 1) % ROOT_HISTORY_SIZE :=
  UInt8.toNat_ofNat_of_lt' (Nat.mod_lt _ (by decide))

theorem deposit_preserves (zeros : ZeroChain poseidon) (valid : PoolState poseidon denomination commitments pool)
    (room : pool.nextLeafIndex < MAX_LEAVES)
    (insertion : insertLeaf poseidon pool.filledSubtrees commitment pool.nextLeafIndex = .ok inserted) :
    PoolState poseidon denomination (commitments ++ [commitment]) (depositedPool pool inserted) := by
  have walked := insertLevels_exact zeros insertion
  rw [valid.leaves] at walked room
  have fits : commitments.length < 2 ^ TREE_LEVELS := by rwa [← maxLeaves_exact]
  have newRoot : inserted.current = treeRoot poseidon (commitments ++ [commitment]) := by
    rw [walked]
    exact levels_root commitment valid.cached fits
  have index : (depositedPool pool inserted).currentRootIndex.toNat =
      (commitments.length + 1) % ROOT_HISTORY_SIZE := by
    have moved := pushRoot_cursor { pool with filledSubtrees := inserted.filled } inserted.current
    rw [valid.cursor,Nat.mod_add_mod] at moved
    exact moved
  refine ⟨valid.denomination,?_,?_,?_,?_,?_,?_⟩
  · rw [List.length_append,← valid.leaves]; rfl
  · rw [List.length_append]; exact room
  · have cached := levels_cached commitment valid.cached
    rw [← walked] at cached
    exact cached
  · rw [index,List.length_append]; rfl
  · rw [List.length_append]
    have old : RingWindow.Window (fun k => treeRoot poseidon ((commitments ++ [commitment]).take k))
        commitments.length pool.rootHistory :=
      RingWindow.window_congr valid.window fun k entered => by
        simp only [List.take_append_of_le_length entered]
    have pushed := RingWindow.window_push old
      (rootSlot (depositedPool pool inserted).currentRootIndex) index
    rw [List.take_of_length_le (by simp),← newRoot] at pushed
    exact pushed
  · intro leaf member
    rcases List.mem_append.mp member with old | new
    · exact valid.canonical leaf old
    · rw [List.mem_singleton.mp new]
      exact insertLeaf_canonical insertion

theorem pause_preserves (valid : PoolState poseidon denomination commitments pool) (paused : Bool) :
    PoolState poseidon denomination commitments (pausedPool pool paused) :=
  ⟨valid.denomination,valid.leaves,valid.capacity,valid.cached,valid.cursor,valid.window,valid.canonical⟩

theorem currentRoot_exact (valid : PoolState poseidon denomination commitments pool) :
    pool.currentRoot = treeRoot poseidon commitments := by
  have current := RingWindow.window_current valid.window (rootSlot pool.currentRootIndex) valid.cursor
  rw [List.take_length] at current
  exact current

theorem isKnownRoot_exact (valid : PoolState poseidon denomination commitments pool) (r : Bytes 32) :
    pool.isKnownRoot r ↔ ∃ k ≤ commitments.length, commitments.length < k + ROOT_HISTORY_SIZE ∧
      r = treeRoot poseidon (commitments.take k) :=
  RingWindow.window_known valid.window

end Octora
