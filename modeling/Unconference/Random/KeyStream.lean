import Unconference.Random.Source

/-!
# Seeded streams

A seed of 64 bits determines a key of eight words, and the key a stream of words: the ChaCha
function with twelve rounds, applied to the key and to the block numbers 0, 1, 2, … in turn, gives
sixteen words a time.  A stream is a position in this sequence of words.  It keeps the block that
the position lies in, so a block is worked out once for the sixteen words read from it.
-/

namespace Unconference

/-- Sixteen words: constants, key, block number and the two words left zero. -/
abbrev Block := Vector UInt32 16

abbrev Key := Vector UInt32 8

def rotateLeft (word amount : UInt32) : UInt32 := (word <<< amount) ||| (word >>> (32 - amount))

def rotateRight (word amount : UInt32) : UInt32 := (word >>> amount) ||| (word <<< (32 - amount))

namespace Block

def quarterRound (block : Block) (a b c d : Fin 16) : Block :=
  let wa := block[a] + block[b]
  let wd := rotateLeft (block[d] ^^^ wa) 16
  let wc := block[c] + wd
  let wb := rotateLeft (block[b] ^^^ wc) 12
  let wa := wa + wb
  let wd := rotateLeft (wd ^^^ wa) 8
  let wc := wc + wd
  let wb := rotateLeft (wb ^^^ wc) 7
  (((block.set a wa).set b wb).set c wc).set d wd

/-- A round over the columns and one over the diagonals. -/
def doubleRound (block : Block) : Block :=
  let columns := (((block.quarterRound 0 4 8 12).quarterRound 1 5 9 13).quarterRound
    2 6 10 14).quarterRound 3 7 11 15
  (((columns.quarterRound 0 5 10 15).quarterRound 1 6 11 12).quarterRound 2 7 8 13).quarterRound
    3 4 9 14

def rounds : Nat → Block → Block
  | 0, block => block
  | n + 1, block => rounds n block.doubleRound

/-- Block number `index` before its rounds.  The number takes two words, the lower one first. -/
def initial (key : Key) (index : Nat) : Block :=
  #v[0x61707865, 0x3320646e, 0x79622d32, 0x6b206574,
    key[0], key[1], key[2], key[3], key[4], key[5], key[6], key[7],
    UInt32.ofNat index, UInt32.ofNat (index / UInt32.size), 0, 0]

/-- The words of block number `index`: six double rounds, added to the words before them. -/
def output (key : Key) (index : Nat) : Block :=
  Vector.zipWith (· + ·) (initial key index) (rounds 6 (initial key index))

end Block

/-- One step of the generator that spreads a seed over the words of a key. -/
def spreadStep (state : UInt64) : UInt64 := state * 6364136223846793005 + 11634580027462260723

/-- The word that a state of that generator stands for. -/
def spreadWord (state : UInt64) : UInt32 :=
  rotateRight (((state >>> 18) ^^^ state) >>> 27).toUInt32 (state >>> 59).toUInt32

def spreadState (seed : UInt64) : Nat → UInt64
  | 0 => seed
  | steps + 1 => spreadStep (spreadState seed steps)

def Key.ofSeed (seed : UInt64) : Key :=
  Vector.ofFn fun index => spreadWord (spreadState seed (index + 1))

structure KeyStream where
  key : Key
  position : Nat
  block : Block
  block_eq : block = Block.output key (position / 16)

namespace KeyStream

def ofKey (key : Key) : KeyStream where
  key
  position := 0
  block := Block.output key 0
  block_eq := rfl

def ofSeed (seed : UInt64) : KeyStream := ofKey (Key.ofSeed seed)

def word (stream : KeyStream) : UInt32 :=
  stream.block.get ⟨stream.position % 16, Nat.mod_lt _ (by decide)⟩

def advanced (stream : KeyStream) : KeyStream :=
  if h : (stream.position + 1) / 16 = stream.position / 16 then
    { stream with position := stream.position + 1, block_eq := h ▸ stream.block_eq }
  else
    { stream with
      position := stream.position + 1
      block := Block.output stream.key ((stream.position + 1) / 16)
      block_eq := rfl }

/-- A draw of 64 bits takes two words, the lower one first.  That every single one of as many words
as `patience` tells is thrown away has a chance of one in two to that power. -/
instance : RandomSource KeyStream where
  next32 stream := (stream.word, stream.advanced)
  next64 stream :=
    (stream.word.toUInt64 ||| (stream.advanced.word.toUInt64 <<< 32), stream.advanced.advanced)
  patience _ := 1000000

end KeyStream

end Unconference
