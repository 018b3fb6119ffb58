import ConstrainedDecoding.Unicode.Segmentation

/-! Splitting texts into what a reader takes for single characters. -/

namespace ConstrainedDecoding.Unicode

/-- What a character does to the clusters around it. -/
inductive ClusterRole
  | carriageReturn
  | lineFeed
  | control
  | extend
  | joiner
  | regional
  | before
  | spacing
  | lead
  | vowel
  | trail
  | openSyllable
  | closedSyllable
  | pictograph
  | other
deriving DecidableEq

def clusterRoles : Thunk (List (ClusterRole × IntervalSet Char)) :=
  Thunk.mk fun _ =>
    let named : List (ClusterRole × String) := [
      (.carriageReturn, "cr"), (.lineFeed, "lf"), (.control, "control"), (.extend, "extend"),
      (.joiner, "zwj"), (.regional, "ri"), (.before, "prepend"), (.spacing, "spacingmark"),
      (.lead, "l"), (.vowel, "v"), (.trail, "t"), (.openSyllable, "lv"), (.closedSyllable, "lvt")]
    named.map (fun (role, name) => (role, (graphemeBreak? name).getD [])) ++
      [(.pictograph, listed "extendedpictographic")]

def clusterRole (c : Char) : ClusterRole :=
  ((clusterRoles.get.find? (·.2.contains c)).map (·.1)).getD .other

/-- What is known of the cluster that a text ends with: the role of its last character, how many
regional characters it ends with, and whether it ends with a pictograph and what extends that. -/
structure ClusterEnd where
  last : ClusterRole
  regionals : Nat
  pictographic : Bool

namespace ClusterEnd

def start (role : ClusterRole) : ClusterEnd :=
  { last := role, regionals := if role = .regional then 1 else 0
    pictographic := role = .pictograph }

def next (e : ClusterEnd) (role : ClusterRole) : ClusterEnd :=
  let isExtended : Bool := e.last ≠ .joiner && (role = .extend || role = .joiner)
  { last := role
    regionals := if role = .regional then e.regionals + 1 else 0
    pictographic := role = .pictograph || (e.pictographic && isExtended) }

/-- Whether a character goes on with the cluster. -/
def continues (e : ClusterEnd) (role : ClusterRole) : Bool :=
  let isBreaking (r : ClusterRole) : Bool := r = .control || r = .carriageReturn || r = .lineFeed
  if e.last = .carriageReturn && role = .lineFeed then true
  else if isBreaking e.last || isBreaking role then false
  else
    match e.last, role with
    | _, .extend | _, .joiner | _, .spacing | .before, _ => true
    | .lead, .lead | .lead, .vowel | .lead, .openSyllable | .lead, .closedSyllable => true
    | .openSyllable, .vowel | .openSyllable, .trail | .vowel, .vowel | .vowel, .trail => true
    | .closedSyllable, .trail | .trail, .trail => true
    | .joiner, .pictograph => e.pictographic
    | .regional, .regional => e.regionals % 2 = 1
    | _, _ => false

end ClusterEnd

/-- The clusters after a character; the first one is what goes on with the cluster of `e`. -/
def clustersAfter (e : ClusterEnd) : List Char → List Char × List (List Char)
  | [] => ([], [])
  | c :: cs =>
    let role := clusterRole c
    if e.continues role then
      let (rest, clusters) := clustersAfter (e.next role) cs
      (c :: rest, clusters)
    else
      let (rest, clusters) := clustersAfter (.start role) cs
      ([], (c :: rest) :: clusters)

def clusters : List Char → List (List Char)
  | [] => []
  | c :: cs =>
    let (rest, others) := clustersAfter (.start (clusterRole c)) cs
    (c :: rest) :: others

end ConstrainedDecoding.Unicode
