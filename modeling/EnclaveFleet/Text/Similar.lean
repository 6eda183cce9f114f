import EnclaveFleet.Text.Points

/-!
# Similar names

* `commonCount`: how many characters two texts share, counted by their longest common runs
* `similar`: the names like enough to a word to be meant, the likest first

The longest common run is taken first, the earliest of equal ones; then the parts before and after
it are compared in the same way.
-/
namespace EnclaveFleet.Text
set_option autoImplicit false

variable {α : Type} [DecidableEq α]

/-- The length of the run that two texts start with. -/
def commonStart : List α → List α → Nat
  | a :: as, b :: bs => if a = b then commonStart as bs + 1 else 0
  | _, _ => 0

/-- A run of both texts: where it starts in each of them and its length. -/
structure CommonRun where
  left : Nat
  right : Nat
  length : Nat

def CommonRun.orLonger (r s : CommonRun) : CommonRun :=
  if r.length < s.length then s else r

/-- The runs that start at each pair of places, in the order of the places. -/
def commonRuns (as bs : List α) : List CommonRun :=
  (List.range as.length).flatMap fun i =>
    (List.range bs.length).map fun j => ⟨i, j, commonStart (as.drop i) (bs.drop j)⟩

def longestRun (as bs : List α) : CommonRun :=
  (commonRuns as bs).foldl CommonRun.orLonger ⟨0, 0, 0⟩

/-- The depth bounds how often the texts are parted. -/
def countRuns : Nat → List α → List α → Nat
  | 0, _, _ => 0
  | depth + 1, as, bs =>
    let r := longestRun as bs
    if r.length = 0 then 0
    else r.length + countRuns depth (as.take r.left) (bs.take r.right) +
      countRuns depth (as.drop (r.left + r.length)) (bs.drop (r.right + r.length))

def commonCount (as bs : List α) : Nat :=
  countRuns as.length as bs

/-- At least three fifths of both texts are shared. Texts of very different lengths need not be
compared for this, since no more is shared than the shorter one has. -/
def isSimilar (name word : String) : Bool :=
  let whole := name.points.length + word.points.length
  3 * whole ≤ 5 * (2 * min name.points.length word.points.length) &&
    3 * whole ≤ 5 * (2 * commonCount name.points word.points)

/-- A name is at least as like the word as another one; of equally like ones the later name wins. -/
def isLiker (word a b : String) : Bool :=
  let x := commonCount a.points word.points * (b.points.length + word.points.length)
  let y := commonCount b.points word.points * (a.points.length + word.points.length)
  y < x || (x = y && b ≤ a)

def maxSimilar : Nat := 3

def similar (word : String) (names : List String) : List String :=
  ((names.filter (isSimilar · word)).mergeSort (isLiker word)).take maxSimilar

end EnclaveFleet.Text
