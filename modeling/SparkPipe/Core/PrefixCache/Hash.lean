import Mathlib.Algebra.GroupWithZero.Nat

/-!
# Content hashes of token blocks

Block-sized spans of token ids are hashed into a parent-chained hash and into an unchained
content hash. Words are natural numbers; every product and sum that can leave the 64-bit
range is reduced explicitly.
-/

namespace SparkPipe

def emptyParentHash : Nat := 1469598103934665603

def fnvPrime : Nat := 1099511628211

def contentHashSeed : Nat := 7809847782465536322

def goldenGamma32 : Nat := 0x9e3779b9

def mixU64 (hashValue value : Nat) : Nat :=
  let mixed := ((hashValue ^^^ value) * fnvPrime) % 2 ^ 64
  mixed ^^^ (mixed >>> 32)

/-- Hash one block of tokens chained onto `parentHash`. -/
def hashBlock (tokenIds : List Nat) (parentHash : Nat) : Nat :=
  let hashValue := tokenIds.zipIdx.foldl
    (fun hashValue token => mixU64 hashValue ((token.1 + (token.2 <<< 32)) % 2 ^ 64))
    (parentHash ^^^ fnvPrime)
  mixU64 hashValue tokenIds.length

/-- Hash one block of tokens on its own. -/
def hashBlockContent (tokenIds : List Nat) : Nat :=
  let hashValue := tokenIds.zipIdx.foldl (fun hashValue token =>
      mixU64 hashValue ((token.1 <<< 1) ^^^ ((token.2 + goldenGamma32) % 2 ^ 32)))
    contentHashSeed
  mixU64 hashValue tokenIds.length

/-- The words that identify the content and the place of one cached block. -/
structure BlockLabel where
  parentHash : Nat
  blockHash : Nat
  contentHash : Nat
  firstTokenIndex : Nat
  tokenCount : Nat
  deriving DecidableEq

/-- The tokens `tokenIds[tokenOffset..tokenOffset + tokenCount]`. -/
def blockTokens (tokenIds : List Nat) (tokenOffset tokenCount : Nat) : List Nat :=
  (tokenIds.drop tokenOffset).take tokenCount

/-- The label of the block at `tokenOffset`, chained onto `parentHash`. -/
def labelAt (tokenIds : List Nat) (parentHash tokenOffset tokenCount : Nat) : BlockLabel :=
  let tokens := blockTokens tokenIds tokenOffset tokenCount
  { parentHash
    blockHash := hashBlock tokens parentHash
    contentHash := hashBlockContent tokens
    firstTokenIndex := tokenOffset
    tokenCount }

/-- The hash chained over the first `i` blocks of a prompt. -/
def chainHash (blockTokenCount : Nat) (tokenIds : List Nat) : Nat → Nat
  | 0 => emptyParentHash
  | i + 1 => hashBlock (blockTokens tokenIds (i * blockTokenCount) blockTokenCount)
      (chainHash blockTokenCount tokenIds i)

variable (blockTokenCount : Nat) {tokenIds : List Nat} {n : Nat}

/-- The label of the `i`-th full block of a prompt. -/
def promptLabel (tokenIds : List Nat) (i : Nat) : BlockLabel :=
  labelAt tokenIds (chainHash blockTokenCount tokenIds i) (i * blockTokenCount) blockTokenCount

theorem labelAt_chainHash (tokenIds : List Nat) (i : Nat) :
    labelAt tokenIds (chainHash blockTokenCount tokenIds i) (i * blockTokenCount) blockTokenCount =
      promptLabel blockTokenCount tokenIds i := rfl

theorem blockHash_promptLabel (tokenIds : List Nat) (i : Nat) :
    (promptLabel blockTokenCount tokenIds i).blockHash =
      chainHash blockTokenCount tokenIds (i + 1) := rfl

theorem blockTokens_take {tokenOffset tokenCount : Nat} (h : tokenOffset + tokenCount ≤ n) :
    blockTokens (tokenIds.take n) tokenOffset tokenCount =
      blockTokens tokenIds tokenOffset tokenCount := by
  unfold blockTokens
  rw [List.drop_take, List.take_take, Nat.min_eq_left (by omega)]

theorem chainHash_take {blockTokenCount : Nat} : ∀ {i : Nat}, i * blockTokenCount ≤ n →
      chainHash blockTokenCount (tokenIds.take n) i = chainHash blockTokenCount tokenIds i
  | 0, _ => rfl
  | i + 1, h => by
      rw [Nat.succ_mul] at h
      rw [chainHash, chainHash, blockTokens_take h, chainHash_take (Nat.le_of_add_right_le h)]

theorem promptLabel_take {blockTokenCount i : Nat} (h : (i + 1) * blockTokenCount ≤ n) :
    promptLabel blockTokenCount (tokenIds.take n) i = promptLabel blockTokenCount tokenIds i := by
  rw [Nat.succ_mul] at h
  unfold promptLabel labelAt
  rw [blockTokens_take h, chainHash_take (Nat.le_of_add_right_le h)]

/-- Along two prompts, equal chained hashes come from equal blocks and parents. -/
def CollisionFree (tokenIds tokenIds' : List Nat) (i : Nat) : Prop :=
  ∀ j ≤ i, chainHash blockTokenCount tokenIds (j + 1) =
      chainHash blockTokenCount tokenIds' (j + 1) →
    blockTokens tokenIds (j * blockTokenCount) blockTokenCount =
        blockTokens tokenIds' (j * blockTokenCount) blockTokenCount ∧
      chainHash blockTokenCount tokenIds j = chainHash blockTokenCount tokenIds' j

theorem CollisionFree.blockTokens_eq {blockTokenCount i : Nat} {tokenIds' : List Nat}
    (h : CollisionFree blockTokenCount tokenIds tokenIds' i)
    (heq : chainHash blockTokenCount tokenIds (i + 1) = chainHash blockTokenCount tokenIds' (i + 1))
    {j : Nat} (hj : j ≤ i) :
    blockTokens tokenIds (j * blockTokenCount) blockTokenCount =
      blockTokens tokenIds' (j * blockTokenCount) blockTokenCount := by
  induction i with
  | zero =>
    rw [Nat.le_zero.mp hj]
    exact (h 0 Nat.le.refl heq).1
  | succ i ih =>
    obtain ⟨hblock, hparent⟩ := h (i + 1) Nat.le.refl heq
    rcases Nat.le_succ_iff.mp hj with hj | rfl
    · exact ih (fun j hj => h j (Nat.le_succ_of_le hj)) hparent hj
    · exact hblock

end SparkPipe
