/-!
# Digests

The unkeyed BLAKE3 hash with 32 bytes of output. The input is cut into chunks
of 1024 bytes; a chunk is compressed block by block, and the chunks are the
leaves of a binary tree whose left subtrees hold the largest power of two of
chunks that leaves one over.

- `Digest`: the 32 bytes of a hash.
- `Digest.ofBytes`: the hash of some bytes.
- `Digest.hex`: its text.
-/

namespace HubAutomation

/-- The bytes of a hash. -/
structure Digest where
  bytes : List UInt8
deriving DecidableEq

namespace Digest

/-- The sixteen words of a block or of a compression state. -/
abbrev Words := Vector UInt32 16

/-- The eight words that one compression hands to the next. -/
abbrev Chain := Vector UInt32 8

def initial : Chain :=
  #v[0x6A09E667, 0xBB67AE85, 0x3C6EF372, 0xA54FF53A, 0x510E527F, 0x9B05688C, 0x1F83D9AB, 0x5BE0CD19]

/-- Where the words of a block stand in the next round. -/
def permutation : Vector (Fin 16) 16 := #v[2, 6, 3, 10, 7, 0, 4, 13, 1, 11, 12, 5, 9, 14, 15, 8]

def rotateRight (word count : UInt32) : UInt32 := (word >>> count) ||| (word <<< (32 - count))

/-- Mix two words of a block into four words of the state. -/
def mix (s : Words) (a b c d : Fin 16) (x y : UInt32) : Words :=
  let s := s.set a (s[a] + s[b] + x)
  let s := s.set d (rotateRight (s[d] ^^^ s[a]) 16)
  let s := s.set c (s[c] + s[d])
  let s := s.set b (rotateRight (s[b] ^^^ s[c]) 12)
  let s := s.set a (s[a] + s[b] + y)
  let s := s.set d (rotateRight (s[d] ^^^ s[a]) 8)
  let s := s.set c (s[c] + s[d])
  s.set b (rotateRight (s[b] ^^^ s[c]) 7)

/-- Columns first, then diagonals. -/
def round (s block : Words) : Words :=
  let s := mix s 0 4 8 12 block[0] block[1]
  let s := mix s 1 5 9 13 block[2] block[3]
  let s := mix s 2 6 10 14 block[4] block[5]
  let s := mix s 3 7 11 15 block[6] block[7]
  let s := mix s 0 5 10 15 block[8] block[9]
  let s := mix s 1 6 11 12 block[10] block[11]
  let s := mix s 2 7 8 13 block[12] block[13]
  mix s 3 4 9 14 block[14] block[15]

def permute (block : Words) : Words := permutation.map fun i => block[i]

/-- The given number of rounds, the block permuted between them. -/
def rounds : Nat → Words → Words → Words
  | 0, s, _ => s
  | n + 1, s, block => rounds n (round s block) (permute block)

/-- Compress a block of `length` bytes into a chain. -/
def compress (chain : Chain) (block : Words) (counter : Nat) (length flags : UInt32) : Chain :=
  let s : Words :=
    #v[chain[0], chain[1], chain[2], chain[3], chain[4], chain[5], chain[6], chain[7],
      0x6A09E667, 0xBB67AE85, 0x3C6EF372, 0xA54FF53A,
      UInt32.ofNat counter, UInt32.ofNat (counter / UInt32.size), length, flags]
  let s := rounds 7 s block
  #v[s[0] ^^^ s[8], s[1] ^^^ s[9], s[2] ^^^ s[10], s[3] ^^^ s[11],
    s[4] ^^^ s[12], s[5] ^^^ s[13], s[6] ^^^ s[14], s[7] ^^^ s[15]]

def flagChunkStart : UInt32 := 1

def flagChunkEnd : UInt32 := 2

def flagParent : UInt32 := 4

def flagRoot : UInt32 := 8

def wordOfBytes (a b c d : UInt8) : UInt32 :=
  a.toUInt32 ||| (b.toUInt32 <<< 8) ||| (c.toUInt32 <<< 16) ||| (d.toUInt32 <<< 24)

/-- The words of at most 64 bytes, filled up with zeros. -/
def blockWords (bytes : List UInt8) : Words :=
  let byte (i : Nat) : UInt8 := bytes.getD i 0
  Vector.ofFn fun i : Fin 16 =>
    wordOfBytes (byte (4 * i)) (byte (4 * i + 1)) (byte (4 * i + 2)) (byte (4 * i + 3))

/-- Compress the blocks of a chunk. `flags` are those of the next block, `last`
those that the last block of the chunk has in addition. -/
def chunkBlocks : (fuel : Nat) → Chain → List UInt8 → (counter : Nat) → (flags last : UInt32) → Chain
  | 0, chain, _, _, _, _ => chain
  | fuel + 1, chain, bytes, counter, flags, last =>
    if bytes.length ≤ 64 then
      compress chain (blockWords bytes) counter (UInt32.ofNat bytes.length) (flags ||| last)
    else
      chunkBlocks fuel (compress chain (blockWords (bytes.take 64)) counter 64 flags)
        (bytes.drop 64) counter 0 last

/-- The chain of a chunk; `extra` marks a chunk that is the whole input. -/
def chunk (bytes : List UInt8) (counter : Nat) (extra : UInt32) : Chain :=
  chunkBlocks 16 initial bytes counter flagChunkStart (flagChunkEnd ||| extra)

/-- The chain above two subtrees. -/
def parent (left right : Chain) (extra : UInt32) : Chain :=
  compress initial (left ++ right) 0 64 (flagParent ||| extra)

/-- The length of the left subtree of `length > 1024` bytes. -/
def leftLength (length : Nat) : Nat := 1024 * Nat.pow 2 ((length - 1) / 1024).log2

/-- The chain of a subtree whose first chunk has number `counter`. -/
def tree : (fuel : Nat) → List UInt8 → (counter : Nat) → (extra : UInt32) → Chain
  | 0, bytes, counter, extra => chunk bytes counter extra
  | fuel + 1, bytes, counter, extra =>
    if bytes.length ≤ 1024 then chunk bytes counter extra
    else
      let n := leftLength bytes.length
      parent (tree fuel (bytes.take n) counter 0) (tree fuel (bytes.drop n) (counter + n / 1024) 0)
        extra

def wordBytes (w : UInt32) : List UInt8 :=
  [w.toUInt8, (w >>> 8).toUInt8, (w >>> 16).toUInt8, (w >>> 24).toUInt8]

/-- The hash of some bytes. A tree is never deeper than the binary length of
its input. -/
def ofBytes (bytes : List UInt8) : Digest :=
  ⟨(tree (bytes.length.log2 + 1) bytes 0 flagRoot).toList.flatMap wordBytes⟩

/-- Two hexadecimal digits a byte, in lower case. -/
def hex (d : Digest) : String :=
  String.ofList (d.bytes.flatMap fun b => [Nat.digitChar (b.toNat / 16), Nat.digitChar (b.toNat % 16)])

end Digest

end HubAutomation
