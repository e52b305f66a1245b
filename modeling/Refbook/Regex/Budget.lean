import Std.Data.HashMap
import Refbook.Regex.Hir

namespace Refbook
namespace Regex

open Text

/-!
# The memory budget of a pattern

A pattern is refused when the automata it compiles to would take more than
10 MiB (`sizeLimit` bytes).  Two automata are built over the bytes of UTF-8
text: one that reads forward, with a state for each capturing group, and
one that reads backward, without them.  Each state costs 32 bytes, each
transition of a state with several byte ranges 8 more, and each branch of
a fork 4 more.  Memory only grows while states are added, so the limit is
passed during the build exactly when the whole automaton is over it; the
build stops as soon as it is.

The count depends on the order in which states are made, because a class
of characters outside ASCII is compiled with a table that shares equal
states, and the table is a hash table of fixed size indexed by hashing the
numbers of the states involved: when two keys fall in one slot the later one
wins and a state is built twice.

* Forward, a class is compiled from its UTF-8 byte sequences in increasing
  order, sharing equal suffix states through a table of 10000 slots.
* Backward, each byte sequence is a chain of states read from its last
  byte, sharing equal chains through a table of 1000 slots.
* An alternation of literals only is compiled as a trie of their bytes.

`Budget.fits` answers whether a pattern stays within the limit both ways.
-/

/-- The most bytes the automata of a pattern may take. -/
def sizeLimit : Nat := 10485760

/-- The bytes of one state. -/
def stateBytes : Nat := 32

/-- The automaton being counted: how many states it has, and the bytes of
transitions and fork branches beyond the states themselves. -/
structure Count where
  states : Nat
  extra : Nat

/-- Counting states, stopped as soon as the limit is passed. -/
abbrev CountM := StateT Count (Except Unit)

/-- Stop when the automaton so far is over the limit. -/
def checkLimit : CountM Unit := do
  let c ← get
  if stateBytes * c.states + c.extra > sizeLimit then throw ()

/-- Add a state with `extra` bytes beyond its own; its number comes back. -/
def addState (extra : Nat) : CountM Nat := do
  let c ← get
  set { states := c.states + 1, extra := c.extra + extra : Count }
  checkLimit
  return c.states

/-- Add a branch to a fork: 4 bytes. -/
def addBranch : CountM Unit := do
  modify fun c => { c with extra := c.extra + 4 }
  checkLimit

/-- Join the end of a fragment to what follows it: a branch when that end
is a fork, nothing otherwise. -/
def joinFrom (endIsFork : Bool) : CountM Unit :=
  if endIsFork then addBranch else pure ()

/-! ## Byte sequences of a range of characters -/

/-- The largest character of `n` bytes in UTF-8. -/
def maxOfWidth : Nat -> Nat
  | 1 => 0x7F
  | 2 => 0x7FF
  | 3 => 0xFFFF
  | _ => 0x10FFFF

/-- The UTF-8 bytes of a character. -/
def utf8Bytes (c : Nat) : List Nat :=
  if c < 0x80 then [c]
  else if c < 0x800 then [0xC0 + c / 64, 0x80 + c % 64]
  else if c < 0x10000 then [0xE0 + c / 4096, 0x80 + c / 64 % 64, 0x80 + c % 64]
  else [0xF0 + c / 262144, 0x80 + c / 4096 % 64, 0x80 + c / 64 % 64, 0x80 + c % 64]

/-- Split a range that crosses the largest character of some width: the
part up to it is kept, the rest set aside. -/
def splitAtWidth (lo hi : Nat) : Option (Nat × Nat) :=
  [1, 2, 3].findSome? fun n =>
    let m := maxOfWidth n
    if lo ≤ m && m < hi then some (m, m + 1) else none

/-- Split a range whose bytes do not all vary freely below some leading
byte: the part that keeps the range aligned comes first. -/
def splitAtBlock (lo hi : Nat) : Option (Nat × (Nat × Nat)) :=
  [1, 2, 3].findSome? fun n =>
    let size := Nat.pow 2 (6 * n)
    let m := size - 1
    if lo / size ≠ hi / size then
      if lo % size ≠ 0 then some (lo / size * size + m, (lo / size * size + size, hi))
      else if hi % size ≠ m then some (hi / size * size - 1, (hi / size * size, hi))
      else none
    else none

/-- The byte sequences of ranges of characters, in increasing order: each
is a list of byte ranges, one for each byte, whose product is a block of
characters of one width.  `current` is the range being split; ranges set
aside wait on the stack. -/
def sequencesFrom : Nat -> Option (Nat × Nat) -> List (Nat × Nat) -> List (List (Nat × Nat))
  | 0, _, _ => []
  | fuel + 1, none, stack =>
    match stack with
    | [] => []
    | r :: rest => sequencesFrom fuel (some r) rest
  | fuel + 1, some (lo, hi), stack =>
    if lo < 0xE000 && hi > 0xD7FF then
      sequencesFrom fuel (some (lo, 0xD7FF)) ((0xE000, hi) :: stack)
    else if hi < lo then sequencesFrom fuel none stack
    else
      match splitAtWidth lo hi with
      | some (m, next) => sequencesFrom fuel (some (lo, m)) ((next, hi) :: stack)
      | none =>
        if hi ≤ 0x7F then [(lo, hi)] :: sequencesFrom fuel none stack
        else
          match splitAtBlock lo hi with
          | some (newHi, set) => sequencesFrom fuel (some (lo, newHi)) (set :: stack)
          | none => (utf8Bytes lo).zip (utf8Bytes hi) :: sequencesFrom fuel none stack

/-- The byte sequences of a range of characters. -/
def byteSequences (lo hi : Nat) : List (List (Nat × Nat)) :=
  sequencesFrom 256 (some (lo, hi)) []

/-! ## Hashing -/

/-- The multiplier of the FNV-1a hash. -/
def fnvPrime : UInt64 := 1099511628211

/-- The starting value of the FNV-1a hash. -/
def fnvBasis : UInt64 := 14695981039346656037

/-- Mix one number into a hash. -/
def fnvMix (h : UInt64) (n : Nat) : UInt64 :=
  (h ^^^ n.toUInt64) * fnvPrime

/-- A transition of a compiled state: a byte range and the state it leads to. -/
abbrev Edge := Nat × Nat × Nat

/-- The slot of a state's transitions in the forward table. -/
def edgesSlot (edges : Array Edge) : Nat :=
  (edges.foldl (fun h (e : Edge) => fnvMix (fnvMix (fnvMix h e.1) e.2.1) e.2.2) fnvBasis).toNat % 10000

/-- The slot of a chain link in the backward table. -/
def linkSlot (key : Edge) : Nat :=
  (fnvMix (fnvMix (fnvMix fnvBasis key.1) key.2.1) key.2.2).toNat % 1000

/-! ## Classes read forward -/

/-- A state of the forward class compiler not built yet: its transitions so
far and the byte range of its last one, whose target is still open. -/
structure Pending where
  edges : Array Edge
  last : Option (Nat × Nat)

/-- Close a pending state's last transition on `next`. -/
def Pending.close (p : Pending) (next : Nat) : Pending :=
  match p.last with
  | some (a, b) => { edges := p.edges.push (a, b, next), last := none }
  | none => p

/-- The forward class compiler: built states by slot, and the pending states
from the first byte to the last. -/
structure Forward where
  built : Std.HashMap Nat (Array Edge × Nat)
  pending : Array Pending

/-- Build a state with these transitions, or find an equal one in its slot. -/
def Forward.build (f : Forward) (edges : Array Edge) : CountM (Forward × Nat) := do
  let ⟨built, pending⟩ := f
  let slot := edgesSlot edges
  match built.get? slot with
  | some (key, id) => if key == edges then return (⟨built, pending⟩, id) else pure ()
  | none => pure ()
  let id ← addState (8 * edges.size)
  return (⟨built.insert slot (edges, id), pending⟩, id)

/-- Build the pending states after the first `keep`, from the last, and close
the last kept one on the result. -/
def Forward.settle (target keep : Nat) : Nat -> Forward -> Nat -> CountM Forward
  | 0, f, next =>
    pure { f with pending := f.pending.modify (f.pending.size - 1) (·.close next) }
  | fuel + 1, f, next =>
    if keep + 1 < f.pending.size then do
      let p := (f.pending.back?.getD ⟨#[], none⟩).close next
      let (f, id) ← Forward.build { f with pending := f.pending.pop } p.edges
      Forward.settle target keep fuel f id
    else
      pure { f with pending := f.pending.modify (f.pending.size - 1) (·.close next) }

/-- The number of leading byte ranges a sequence shares with the pending
states. -/
def sharedLeading (pending : Array Pending) (seq : List (Nat × Nat)) : Nat :=
  let rec go (k : Nat) : List (Nat × Nat) -> Nat
    | [] => k
    | r :: rest =>
      match pending[k]? with
      | some p => if p.last == some r then go (k + 1) rest else k
      | none => k
  go 0 seq

/-- Add a byte sequence: settle what it does not share, then open states
for the rest of it. -/
def Forward.add (target : Nat) (f : Forward) (seq : List (Nat × Nat)) : CountM Forward := do
  let k := sharedLeading f.pending seq
  let f ← Forward.settle target k f.pending.size f target
  match seq.drop k with
  | [] => return f
  | first :: rest =>
    let pending := f.pending.modify (f.pending.size - 1) fun p => { p with last := some first }
    return { f with pending := rest.foldl (fun ps r => ps.push ⟨#[], some r⟩) pending }

/-- Compile a class outside ASCII forward. -/
def forwardClass (set : CodeSet) : CountM Bool := do
  let target ← addState 0
  let seqs := set.ranges.flatMap fun r => byteSequences r.lo r.hi
  let f ← seqs.foldlM (Forward.add target) { built := {}, pending := #[⟨#[], none⟩] }
  let f ← Forward.settle target 0 f.pending.size f target
  let root := (f.pending[0]?.getD (⟨#[], none⟩ : Pending)).edges
  discard (Forward.build { f with pending := #[] } root)
  return false

/-! ## Classes read backward -/

/-- Compile a class outside ASCII backward: a fork into a chain for each byte
sequence, chains sharing equal tails. -/
def backwardClass (set : CodeSet) : CountM Bool := do
  discard (addState 0)
  let altEnd ← addState 0
  let seqs := set.ranges.flatMap fun r => byteSequences r.lo r.hi
  discard (seqs.foldlM (fun (table : Std.HashMap Nat (Edge × Nat)) seq => do
    let (table, _) ← seq.foldlM (fun ((table : Std.HashMap Nat (Edge × Nat)), last) (a, b) => do
      let key : Edge := (last, a, b)
      let slot := linkSlot key
      match table.get? slot with
      | some (k, id) => if k == key then return (table, id) else pure ()
      | none => pure ()
      let id ← addState 0
      return (table.insert slot (key, id), id)) (table, altEnd)
    addBranch
    return table) ({} : Std.HashMap Nat (Edge × Nat)))
  return false

/-! ## Alternations of literals -/

/-- A node of a trie of byte strings: its transitions in byte order, and the
ends of the groups of transitions after which a string ends. -/
structure TrieNode where
  edges : Array (Nat × Nat)
  groups : Array Nat

/-- A trie of byte strings, its root first. -/
structure Trie where
  nodes : Array TrieNode

/-- Where the transitions still open to new strings begin. -/
def TrieNode.openFrom (n : TrieNode) : Nat :=
  n.groups.back?.getD 0

/-- Follow or add the transition on a byte from a node. -/
def Trie.step (t : Trie) (from_ : Nat) (byte : Nat) : Trie × Nat :=
  let node := t.nodes.getD from_ ⟨#[], #[]⟩
  let start := node.openFrom
  let open_ := (node.edges.extract start node.edges.size).toList
  match open_.find? (·.1 == byte) with
  | some (_, next) => (t, next)
  | none =>
    let pos := start + (open_.filter (·.1 < byte)).length
    let next := t.nodes.size
    let node := { node with edges := node.edges.insertIdxIfInBounds pos (byte, next) }
    ({ nodes := (t.nodes.set! from_ node).push ⟨#[], #[]⟩ }, next)

/-- Mark the end of a string at a node, unless the node is a leaf already
marked. -/
def Trie.mark (t : Trie) (at_ : Nat) : Trie :=
  let node := t.nodes.getD at_ ⟨#[], #[]⟩
  if node.edges.isEmpty && !node.groups.isEmpty then t
  else { nodes := t.nodes.set! at_ { node with groups := node.groups.push node.edges.size } }

/-- Add a byte string. -/
def Trie.add (t : Trie) (bytes : List Nat) : Trie :=
  let (t, last) := bytes.foldl (fun (t, at_) b => t.step at_ b) (t, 0)
  t.mark last

/-- The groups of transitions of a node: each marked group, then the open one. -/
def TrieNode.chunks (n : TrieNode) : List (List (Nat × Nat)) :=
  let bounds := n.groups.toList
  let starts := 0 :: bounds
  let closed := (starts.zip bounds).map fun (a, b) => (n.edges.extract a b).toList
  closed ++ [(n.edges.extract n.openFrom n.edges.size).toList]

/-- Compile the trie from a node: each group of transitions becomes one state
(a single range, or several), and the node a fork over its groups, with a
branch to the end between groups.  `fuel` bounds the depth. -/
def Trie.compileNode (t : Trie) : Nat -> Nat -> CountM Unit
  | 0, _ => pure ()
  | fuel + 1, at_ => do
    let node := t.nodes.getD at_ ⟨#[], #[]⟩
    let chunks := node.chunks
    let branches ← chunks.zipIdx.foldlM (fun branches (chunk, k) => do
      let branches := if k > 0 then branches + 1 else branches
      for (_, next) in chunk do
        if !(t.nodes.getD next ⟨#[], #[]⟩).edges.isEmpty then Trie.compileNode t fuel next
      if chunk.isEmpty then return branches
      discard (addState (if chunk.length = 1 then 0 else 8 * chunk.length))
      return branches + 1) 0
    discard (addState (4 * branches))

/-- Compile an alternation of literals as a trie, reading their bytes
backward when the automaton does. -/
def literalTrie (backward : Bool) (literals : List (List Nat)) : CountM Bool := do
  discard (addState 0)
  let t := literals.foldl (fun (t : Trie) bytes => t.add (if backward then bytes.reverse else bytes))
    ({ nodes := #[⟨#[], #[]⟩] } : Trie)
  t.compileNode (t.nodes.size + 1) 0
  return false

/-! ## Patterns -/

/-- A class: one state with a range per run when all of it is ASCII,
otherwise the class compiler of the direction. -/
def classFragment (backward : Bool) (c : CharClass) : CountM Bool := do
  if c.bytes || c.set.isAscii then
    discard (addState 0)
    discard (addState (8 * c.set.ranges.length))
    return false
  if backward then backwardClass c.set else forwardClass c.set

/-- The empty fragment: one state. -/
def emptyFragment : CountM Bool := do
  discard (addState 0)
  return false

/-- A concatenation of fragments, built in order (or from the last when the
automaton reads backward); whether its end is a fork comes back. -/
def concatFragments (backward : Bool) (parts : List (CountM Bool)) : CountM Bool := do
  match (if backward then parts.reverse else parts) with
  | [] => emptyFragment
  | first :: rest =>
    let endFork ← first
    rest.foldlM (fun endFork part => do
      let next ← part
      joinFrom endFork
      return next) endFork

/-- `n` copies of a fragment in a row. -/
def exactly (part : CountM Bool) : Nat -> CountM Bool
  | 0 => emptyFragment
  | n + 1 => do
    let endFork ← part
    let rec more : Nat -> Bool -> CountM Bool
      | 0, endFork => pure endFork
      | k + 1, endFork => do
        let next ← part
        joinFrom endFork
        more k next
    more n endFork

/-- At least `n` copies: a fork that loops back over the last copy. -/
def atLeast (part : CountM Bool) (minLen : Option Nat) : Nat -> CountM Bool
  | 0 =>
    if minLen.any (0 < ·) then do
      discard (addState 0)
      let endFork ← part
      addBranch
      joinFrom endFork
      return true
    else do
      let endFork ← part
      discard (addState 0)
      joinFrom endFork
      addBranch
      discard (addState 0)
      discard (addState 0)
      addBranch
      addBranch
      addBranch
      return false
  | 1 => do
    let endFork ← part
    discard (addState 0)
    joinFrom endFork
    addBranch
    return true
  | n + 2 => do
    let before ← exactly part (n + 1)
    let last ← part
    discard (addState 0)
    joinFrom before
    joinFrom last
    addBranch
    return true

/-- At most one copy: a fork past it. -/
def zeroOrOne (part : CountM Bool) : CountM Bool := do
  discard (addState 0)
  let endFork ← part
  discard (addState 0)
  addBranch
  addBranch
  joinFrom endFork
  return false

/-- Between `m` and `n` copies: `m` in a row, then each further one behind a
fork that may skip to the end. -/
def between (part : CountM Bool) (m n : Nat) : CountM Bool := do
  let before ← exactly part m
  if m = n then return before
  discard (addState 0)
  let rec optional : Nat -> Bool -> CountM Bool
    | 0, endFork => pure endFork
    | k + 1, endFork => do
      discard (addState 0)
      let next ← part
      joinFrom endFork
      addBranch
      addBranch
      optional k next
  let last ← optional (n - m) before
  joinFrom last
  return false

/-- A fork over fragments, built in order, with an end they all join. -/
def alternatives (parts : List (CountM Bool)) : CountM Bool := do
  match parts with
  | [] => emptyFragment
  | [only] => only
  | first :: second :: rest =>
    let f1 ← first
    let f2 ← second
    discard (addState 0)
    discard (addState 0)
    addBranch
    joinFrom f1
    addBranch
    joinFrom f2
    rest.foldlM (fun _ part => do
      let f ← part
      addBranch
      joinFrom f
      return false) false

/-- The literal bytes of every branch, if all branches are literals. -/
def allLiterals : List Hir -> Option (List (List Nat))
  | [] => some []
  | .literal cs :: rest => (allLiterals rest).map ((cs.flatMap fun c => utf8Bytes c.toNat) :: ·)
  | _ => none

mutual

/-- Count the fragment of a pattern; whether its end is a fork comes back. -/
def fragment (backward : Bool) : Hir -> CountM Bool
  | .empty => emptyFragment
  | .literal cs => do
    let n := (cs.flatMap fun c => utf8Bytes c.toNat).length
    for _ in List.range n do
      discard (addState 0)
    if n = 0 then emptyFragment else return false
  | .cls c => classFragment backward c
  | .look _ => emptyFragment
  | .repetition m n _ sub =>
    let part := fragment backward sub
    match m, n with
    | 0, some 1 => zeroOrOne part
    | m, none => atLeast part sub.minLen m
    | m, some n => if m = n then exactly part m else between part m n
  | .capture _ _ sub =>
    if backward then fragment backward sub
    else do
      discard (addState 0)
      let endFork ← fragment backward sub
      discard (addState 0)
      joinFrom endFork
      return false
  | .concat items => concatFragments backward (fragments backward items)
  | .alternation items =>
    match allLiterals items with
    | some lits => if lits.length > 1 then literalTrie backward lits else alternatives (fragments backward items)
    | none => alternatives (fragments backward items)

/-- The fragments of a list of patterns, not yet counted. -/
def fragments (backward : Bool) : List Hir -> List (CountM Bool)
  | [] => []
  | h :: rest => fragment backward h :: fragments backward rest

end

/-- Count a whole automaton: a lazy loop over any byte in front unless every
match is anchored at the side it starts reading from, the capturing group
of the whole match when reading forward, and the accepting state. -/
def automaton (backward : Bool) (h : Hir) : CountM Unit := do
  let anchored := if backward then h.anchoredEnd else h.anchoredStart
  let front ←
    if anchored then emptyFragment
    else atLeast (classFragment backward ⟨CodeSet.range 0 0xFF, true⟩) (some 1) 0
  let body ← (if backward then fragment backward h
    else do
      discard (addState 0)
      let endFork ← fragment backward h
      discard (addState 0)
      joinFrom endFork
      return false : CountM Bool)
  discard (addState 0)
  joinFrom body
  joinFrom front

/-- Whether a pattern's automata, forward and backward, stay within the limit. -/
def Budget.fits (h : Hir) : Bool :=
  match (automaton false h).run ⟨0, 0⟩ with
  | .error _ => false
  | .ok _ =>
    match (automaton true h).run ⟨0, 0⟩ with
    | .error _ => false
    | .ok _ => true

end Regex
end Refbook
