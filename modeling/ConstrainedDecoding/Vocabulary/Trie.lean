import ConstrainedDecoding.Error

/-!
A trie over the bytes of tokens. Nodes are numbered in the order in which they are made, the root
being 0; tokens with equal bytes share a node.
-/

namespace ConstrainedDecoding

/-- Numbers without a bound, which words of 32 bits hold in tries of up to 2 ^ 32 nodes. -/
abbrev NodeId := Nat

structure TrieNode where
  /-- Ascending by byte. -/
  children : List (UInt8 × NodeId) := []
  /-- The tokens that end here, in the order in which they came. -/
  tokens : List TokenId := []

structure Trie where
  nodes : Array TrieNode

namespace Trie

def root : NodeId := 0

/-- Only the root. -/
def empty : Trie := { nodes := #[{}] }

def size (t : Trie) : Nat := t.nodes.size

def children (t : Trie) (node : NodeId) : List (UInt8 × NodeId) := (t.nodes.getD node {}).children

/-- The tokens whose bytes end at a node. -/
def tokens (t : Trie) (node : NodeId) : List TokenId := (t.nodes.getD node {}).tokens

/-- The place of the first child from `lo` on whose byte is not below `b`; `hi` if there is none before. Of
children that ascend, each step leaves half of them out. -/
def placeBetween (children : List (UInt8 × NodeId)) (b : UInt8) (lo hi : Nat) : Nat :=
  if lo < hi then
    let mid := (lo + hi) / 2
    if children[mid]?.any (·.1 < b) then placeBetween children b (mid + 1) hi
    else placeBetween children b lo mid
  else lo
termination_by hi - lo

/-- Where the child for a byte is, or else where it belongs. -/
def place (children : List (UInt8 × NodeId)) (b : UInt8) : Nat :=
  placeBetween children b 0 children.length

/-- The child for a byte. -/
def search (children : List (UInt8 × NodeId)) (b : UInt8) : Option NodeId :=
  children[place children b]?.bind fun (c, child) => if c = b then some child else none

def child? (t : Trie) (node : NodeId) (b : UInt8) : Option NodeId := search (t.children node) b

/-- Put a child in its place. -/
def insertChild (b : UInt8) (child : NodeId) (children : List (UInt8 × NodeId)) :
    List (UInt8 × NodeId) :=
  children.take (place children b) ++ (b, child) :: children.drop (place children b)

/-- Go down by one byte, to a new node if there is none. -/
def descend (t : Trie) (node : NodeId) (b : UInt8) : Trie × NodeId :=
  match t.child? node b with
  | some child => (t, child)
  | none =>
    let child := t.size
    let link (n : TrieNode) : TrieNode := { n with children := insertChild b child n.children }
    ({ nodes := (t.nodes.modify node link).push {} }, child)

def insert (t : Trie) (bytes : List UInt8) (token : TokenId) : Trie :=
  let (t, node) := bytes.foldl (fun (t, node) b => t.descend node b) (t, root)
  { nodes := t.nodes.modify node fun n => { n with tokens := n.tokens ++ [token] } }

/-- The node where bytes end. -/
def find? (t : Trie) (bytes : List UInt8) : Option NodeId := bytes.foldlM t.child? root

end Trie

end ConstrainedDecoding
