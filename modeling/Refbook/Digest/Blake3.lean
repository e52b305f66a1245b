namespace Refbook
namespace Digest

/-!
# BLAKE3

The 256-bit BLAKE3 hash of a byte string, in lower-case hexadecimal.
Migration scripts are identified by it: a script whose text changed after
it was applied no longer has the recorded checksum.

The input is cut into chunks of 1024 bytes, each chunk into blocks of 64
bytes.  A chunk's blocks are compressed in turn into its chaining value;
chaining values are combined pairwise up a binary tree whose left subtree
holds the largest power of two of chunks that leaves the right one
non-empty.  The root node is compressed once more with the root flag.
-/

/-- The initial chaining value. -/
def iv : Array UInt32 :=
  #[0x6A09E667, 0xBB67AE85, 0x3C6EF372, 0xA54FF53A, 0x510E527F, 0x9B05688C, 0x1F83D9AB,
    0x5BE0CD19]

/-- The order in which message words are used in the next round. -/
def permutation : Array Nat :=
  #[2, 6, 3, 10, 7, 0, 4, 13, 1, 11, 12, 5, 9, 14, 15, 8]

def chunkStart : UInt32 := 1
def chunkEnd : UInt32 := 2
def parent : UInt32 := 4
def root : UInt32 := 8

/-- Bytes per block and per chunk. -/
def blockLength : Nat := 64
def chunkLength : Nat := 1024

/-- Rotate a word right. -/
def rotr (x : UInt32) (n : UInt32) : UInt32 :=
  (x >>> n) ||| (x <<< (32 - n))

/-- The mixing function, on four words of the state and two of the message. -/
def mix (s : Array UInt32) (a b c d : Nat) (x y : UInt32) : Array UInt32 :=
  let va := s.getD a 0 + s.getD b 0 + x
  let vd := rotr (s.getD d 0 ^^^ va) 16
  let vc := s.getD c 0 + vd
  let vb := rotr (s.getD b 0 ^^^ vc) 12
  let va := va + vb + y
  let vd := rotr (vd ^^^ va) 8
  let vc := vc + vd
  let vb := rotr (vb ^^^ vc) 7
  ((((s.setIfInBounds a va).setIfInBounds b vb).setIfInBounds c vc).setIfInBounds d vd)

/-- One round: mix the columns, then the diagonals. -/
def round (s : Array UInt32) (m : Array UInt32) : Array UInt32 :=
  let w := fun i => m.getD i 0
  let s := mix s 0 4 8 12 (w 0) (w 1)
  let s := mix s 1 5 9 13 (w 2) (w 3)
  let s := mix s 2 6 10 14 (w 4) (w 5)
  let s := mix s 3 7 11 15 (w 6) (w 7)
  let s := mix s 0 5 10 15 (w 8) (w 9)
  let s := mix s 1 6 11 12 (w 10) (w 11)
  let s := mix s 2 7 8 13 (w 12) (w 13)
  mix s 3 4 9 14 (w 14) (w 15)

/-- The message words in the order of the next round. -/
def permute (m : Array UInt32) : Array UInt32 :=
  permutation.map fun i => m.getD i 0

/-- Seven rounds, the message permuted between them. -/
def rounds : Nat -> Array UInt32 -> Array UInt32 -> Array UInt32
  | 0, s, _ => s
  | n + 1, s, m =>
    let s := round s m
    if n = 0 then s else rounds n s (permute m)

/-- The compression function: sixteen words of output. -/
def compress (cv : Array UInt32) (block : Array UInt32) (counter : Nat) (length : Nat)
    (flags : UInt32) : Array UInt32 :=
  let state := cv ++ iv.extract 0 4 ++
    #[UInt32.ofNat (counter % Nat.pow 2 32), UInt32.ofNat (counter / Nat.pow 2 32 % Nat.pow 2 32),
      UInt32.ofNat length, flags]
  let s := rounds 7 state block
  (Array.range 8).map (fun i => s.getD i 0 ^^^ s.getD (i + 8) 0) ++
    (Array.range 8).map (fun i => s.getD (i + 8) 0 ^^^ cv.getD i 0)

/-- Sixteen little-endian words of a block, zero-padded. -/
def words (block : Array UInt8) : Array UInt32 :=
  (Array.range 16).map fun i =>
    let byte := fun j => (block.getD (4 * i + j) 0).toUInt32
    byte 0 ||| (byte 1 <<< 8) ||| (byte 2 <<< 16) ||| (byte 3 <<< 24)

/-- What the last compression of a node takes, so that the root flag can be
added to it. -/
structure Output where
  cv : Array UInt32
  block : Array UInt32
  counter : Nat
  length : Nat
  flags : UInt32

/-- The chaining value of a node that is not the root. -/
def Output.chainingValue (o : Output) : Array UInt32 :=
  (compress o.cv o.block o.counter o.length o.flags).extract 0 8

/-- The blocks of a chunk: at least one, the last possibly short. -/
def blocksOf (chunk : Array UInt8) : List (Array UInt8) :=
  let count := max 1 ((chunk.size + blockLength - 1) / blockLength)
  (List.range count).map fun i => chunk.extract (i * blockLength) ((i + 1) * blockLength)

/-- The last compression of a chunk, its earlier blocks compressed into the
chaining value. -/
def chunkOutput (chunk : Array UInt8) (index : Nat) : Output :=
  let blocks := blocksOf chunk
  let start := fun (k : Nat) => if k = 0 then chunkStart else 0
  let (cv, _) := blocks.dropLast.foldl (fun (cv, k) block =>
    ((compress cv (words block) index blockLength (start k)).extract 0 8, k + 1)) (iv, 0)
  let last := blocks.getLastD #[]
  { cv, block := words last, counter := index, length := last.size,
    flags := start (blocks.length - 1) ||| chunkEnd }

/-- The largest power of two below `n`, for `n ≥ 2`. -/
def leftCount (n : Nat) : Nat :=
  Nat.pow 2 (Nat.log2 (n - 1))

theorem leftCount_pos (n : Nat) : 0 < leftCount n :=
  Nat.two_pow_pos _

theorem leftCount_lt (n : Nat) (h : 2 ≤ n) : leftCount n < n := by
  unfold leftCount
  rw [Nat.pow_eq]
  have hne : n - 1 ≠ 0 := by omega
  have := Nat.log2_self_le hne
  omega

/-- The output of the subtree over `count` chunks from chunk `first`. -/
def treeOutput (chunks : Array (Array UInt8)) (first count : Nat) : Output :=
  if h : count ≤ 1 then chunkOutput (chunks.getD first #[]) first
  else
    let left := leftCount count
    have smaller : left < count := leftCount_lt count (by omega)
    have positive : 0 < left := leftCount_pos count
    let l := treeOutput chunks first left
    let r := treeOutput chunks (first + left) (count - left)
    { cv := iv, block := l.chainingValue ++ r.chainingValue, counter := 0,
      length := blockLength, flags := parent }
termination_by count
decreasing_by
  · exact smaller
  · exact Nat.sub_lt (Nat.lt_trans positive smaller) positive

/-- Two hexadecimal digits of a byte. -/
def hexByte (b : Nat) : String :=
  let digit := fun (d : Nat) => if d < 10 then Char.ofNat (48 + d) else Char.ofNat (87 + d)
  String.ofList [digit (b / 16), digit (b % 16)]

/-- The hash of some bytes, in hexadecimal. -/
def hashHex (input : Array UInt8) : String :=
  let count := max 1 ((input.size + chunkLength - 1) / chunkLength)
  let chunks := (Array.range count).map fun i =>
    input.extract (i * chunkLength) ((i + 1) * chunkLength)
  let o := treeOutput chunks 0 count
  let out := (compress o.cv o.block o.counter o.length (o.flags ||| root)).extract 0 8
  String.join (out.toList.flatMap fun (w : UInt32) =>
    [w % 256, (w >>> 8) % 256, (w >>> 16) % 256, w >>> 24].map fun b => hexByte b.toNat)

/-- The checksum of a script: the hash of its UTF-8 text. -/
def checksum (script : String) : String :=
  hashHex script.toUTF8.data

end Digest
end Refbook
