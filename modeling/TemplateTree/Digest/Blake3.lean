/-!
# BLAKE3

The BLAKE3 hash of a sequence of bytes. Input is cut into chunks of 1024 bytes and these into blocks
of 64; a binary tree of chaining values stands over the chunks, and the digest is the beginning of
the output of its root.
-/

namespace TemplateTree.Digest.Blake3

/-- Eight words that carry the hash from one compression to the next. -/
abbrev Chaining := Vector UInt32 8

abbrev Block := Vector UInt32 16

def initial : Chaining :=
  #v[0x6A09E667, 0xBB67AE85, 0x3C6EF372, 0xA54FF53A, 0x510E527F, 0x9B05688C, 0x1F83D9AB, 0x5BE0CD19]

def chunkStart : UInt32 := 1

def chunkEnd : UInt32 := 2

def parentNode : UInt32 := 4

def rootNode : UInt32 := 8

/-- A word with its bits moved to the right, the lowest ones coming in again at the top. -/
def rotateRight (word amount : UInt32) : UInt32 :=
  (word >>> amount) ||| (word <<< (32 - amount))

/-- Mixes two words of a block into four words of the state. -/
def mix (state : Block) (a b c d : Fin 16) (x y : UInt32) : Block :=
  let state := state.set a (state[a] + state[b] + x)
  let state := state.set d (rotateRight (state[d] ^^^ state[a]) 16)
  let state := state.set c (state[c] + state[d])
  let state := state.set b (rotateRight (state[b] ^^^ state[c]) 12)
  let state := state.set a (state[a] + state[b] + y)
  let state := state.set d (rotateRight (state[d] ^^^ state[a]) 8)
  let state := state.set c (state[c] + state[d])
  state.set b (rotateRight (state[b] ^^^ state[c]) 7)

/-- Mixes a block into the columns of the state and then into its diagonals. -/
def round (state block : Block) : Block :=
  let state := mix state 0 4 8 12 block[0] block[1]
  let state := mix state 1 5 9 13 block[2] block[3]
  let state := mix state 2 6 10 14 block[4] block[5]
  let state := mix state 3 7 11 15 block[6] block[7]
  let state := mix state 0 5 10 15 block[8] block[9]
  let state := mix state 1 6 11 12 block[10] block[11]
  let state := mix state 2 7 8 13 block[12] block[13]
  mix state 3 4 9 14 block[14] block[15]

/-- The words of a block in the order in which the next round takes them. -/
def permute (block : Block) : Block :=
  #v[block[2], block[6], block[3], block[10], block[7], block[0], block[4], block[13],
    block[1], block[11], block[12], block[5], block[9], block[14], block[15], block[8]]

/-- Several rounds, with the block permuted between them. -/
def rounds : Nat → Block → Block → Block
  | 0, state, _ => state
  | more + 1, state, block => rounds more (round state block) (permute block)

/-- Compresses a block of `length` bytes into a chaining value. -/
def compress (chaining : Chaining) (block : Block) (counter : Nat) (length flags : UInt32) :
    Chaining :=
  let state : Block :=
    #v[chaining[0], chaining[1], chaining[2], chaining[3],
      chaining[4], chaining[5], chaining[6], chaining[7],
      0x6A09E667, 0xBB67AE85, 0x3C6EF372, 0xA54FF53A,
      UInt32.ofNat counter, UInt32.ofNat (counter / 0x100000000), length, flags]
  let state := rounds 7 state block
  #v[state[0] ^^^ state[8], state[1] ^^^ state[9], state[2] ^^^ state[10], state[3] ^^^ state[11],
    state[4] ^^^ state[12], state[5] ^^^ state[13], state[6] ^^^ state[14], state[7] ^^^ state[15]]

def bytesOfWord (word : UInt32) : List UInt8 :=
  [word.toUInt8, (word >>> 8).toUInt8, (word >>> 16).toUInt8, (word >>> 24).toUInt8]

def wordOfBytes (first second third fourth : UInt8) : UInt32 :=
  first.toUInt32 ||| (second.toUInt32 <<< 8) ||| (third.toUInt32 <<< 16) |||
    (fourth.toUInt32 <<< 24)

/-- A number of words read from bytes, with zeros after the last byte. -/
def wordsOfBytes : Nat → List UInt8 → List UInt32
  | 0, _ => []
  | more + 1, first :: second :: third :: fourth :: rest =>
    wordOfBytes first second third fourth :: wordsOfBytes more rest
  | more + 1, bytes =>
    wordOfBytes (bytes.getD 0 0) (bytes.getD 1 0) (bytes.getD 2 0) 0 :: wordsOfBytes more []

theorem length_wordsOfBytes (count : Nat) (bytes : List UInt8) :
    (wordsOfBytes count bytes).length = count := by
  fun_induction wordsOfBytes count bytes <;> simp_all

def blockOfBytes (bytes : List UInt8) : Block :=
  ⟨(wordsOfBytes 16 bytes).toArray, by simp [length_wordsOfBytes]⟩

def blockOfPair (left right : Chaining) : Block :=
  left ++ right

/-- A compression that is still to be done, so that the one at the top can be marked. Chunks are
counted from 0; the nodes above them have the number 0. -/
structure Node where
  chaining : Chaining
  block : Block
  counter : Nat
  length : UInt32
  flags : UInt32

/-- The chaining value of a node below the top. -/
def Node.value (node : Node) : Chaining :=
  compress node.chaining node.block node.counter node.length node.flags

/-- The first 32 bytes of output of the node at the top. -/
def Node.digest (node : Node) : List UInt8 :=
  let words := compress node.chaining node.block node.counter node.length (node.flags ||| rootNode)
  words.toList.flatMap bytesOfWord

/-- The last block of a chunk, whose earlier blocks are compressed on the way. There are at most
`more + 1` blocks; `flags` marks the first of them. -/
def chunkNode (counter : Nat) : Nat → Chaining → UInt32 → List UInt8 → Node
  | more + 1, chaining, flags, bytes =>
    let rest := bytes.drop 64
    let block := blockOfBytes (bytes.take 64)
    if rest.isEmpty then ⟨chaining, block, counter, UInt32.ofNat bytes.length, flags ||| chunkEnd⟩
    else chunkNode counter more (compress chaining block counter 64 flags) 0 rest
  | 0, chaining, flags, bytes =>
    ⟨chaining, blockOfBytes bytes, counter, UInt32.ofNat bytes.length, flags ||| chunkEnd⟩

def ofChunk (counter : Nat) (bytes : List UInt8) : Node :=
  chunkNode counter 15 initial chunkStart bytes

def ofPair (left right : Node) : Node :=
  ⟨initial, blockOfPair left.value right.value, 0, 64, parentNode⟩

/-- The bytes of each chunk; `fuel` is at least the number of chunks. -/
def chunks : Nat → List UInt8 → List (List UInt8)
  | 0, _ => []
  | fuel + 1, bytes =>
    let rest := bytes.drop 1024
    if rest.isEmpty then [bytes] else bytes.take 1024 :: chunks fuel rest

/-- Puts each node beside the next one under a common node; a last one without a neighbour stays. -/
def pairUp : List Node → List Node
  | left :: right :: rest => ofPair left right :: pairUp rest
  | nodes => nodes

/-- The node above all others, after at most `levels` levels of pairs. -/
def top : Nat → List Node → Option Node
  | _, [] => none
  | _, [node] => some node
  | 0, node :: _ => some node
  | levels + 1, nodes => top levels (pairUp nodes)

/-- The 32 bytes of the digest. -/
def hash (bytes : List UInt8) : List UInt8 :=
  let leaves := (chunks (bytes.length / 1024 + 1) bytes).mapIdx ofChunk
  match top leaves.length leaves with
  | some node => node.digest
  | none => []

end TemplateTree.Digest.Blake3
