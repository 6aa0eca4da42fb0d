import RebasingProxy.Binary64

/-! # Similar names

How much two names resemble each other: how many letters they share at nearly the same
places, and how many of these are in the same order. The numbers are doubles, counted in
their smallest units.
-/
namespace RebasingProxy.Similarity
open Binary64

/-- For each letter of the first name in turn, whether it takes part, and which letters of
the second name are taken. A letter takes the first free one equal to it within `window`
places. -/
def pairUp (window : Nat) (second : Array Char) :
    Nat → List Char → List Bool → Array Bool → List Bool × Array Bool
  | _, [], taking, taken => (taking.reverse, taken)
  | i, c :: rest, taking, taken =>
    let places := (List.range second.size).filter fun j =>
      i ≤ j + window && j ≤ i + window && second[j]? == some c && taken[j]? == some false
    match places with
    | j :: _ => pairUp window second (i + 1) rest (true :: taking) (taken.setIfInBounds j true)
    | [] => pairUp window second (i + 1) rest (false :: taking) taken

def share (part whole : Nat) : Nat := nearestUnits (part * twoTo unitExponent) whole

def threshold : Nat := share 7 10

/-- The mean of three shares: of the first name and of the second that takes part, and of
the shared letters that keep their order. Each step is rounded. -/
def closeness (first second : List Char) : Nat :=
  let window := max first.length second.length / 2 - 1
  let (taking, taken) := pairUp window second.toArray 0 first [] (.replicate second.length false)
  let shared := ((first.zip taking).filter (·.2)).map (·.1)
  let sharedBelow := ((second.zip taken.toList).filter (·.2)).map (·.1)
  let moved := ((shared.zip sharedBelow).filter fun p => p.1 != p.2).length / 2
  let matched := shared.length
  let ofBoth := nearestUnits (share matched first.length + share matched second.length) 1
  if matched = 0 then 0
  else nearestUnits (nearestUnits (ofBoth + share (matched - moved) matched) 1) 3

def closest? {α : Type} (name : String) (candidates : List α) (nameOf : α → String) :
    Option α :=
  let graded := candidates.map fun candidate =>
    (closeness name.toList (nameOf candidate).toList, candidate)
  let best := (graded.filter fun g => g.1 > threshold).foldl
    (fun (best : Option (Nat × α)) next =>
      match best with
      | some held => if held.1 > next.1 then best else some next
      | none => some next) none
  best.map (·.2)

end RebasingProxy.Similarity
