/-!
# Cutting a text at a separator

* `splitAt`: the pieces between the separators, at least one
* `joinWith`: the inverse, for pieces without the separator (`splitAt_joinWith`)
* `cutAt`: what stands before the first separator and what follows it
* `afterLast`: what follows the last separator, the whole text if there is none
* `dropStart?`, `dropEnding?`: a text without a given start or ending
* `holds`: one text occurs in another one
-/
namespace EnclaveFleet.Text
set_option autoImplicit false

def splitAt (sep : Char) : List Char → List (List Char)
  | [] => [[]]
  | c :: cs =>
    if c = sep then [] :: splitAt sep cs
    else match splitAt sep cs with
      | [] => [[c]]
      | p :: ps => (c :: p) :: ps

def joinWith (sep : Char) : List (List Char) → List Char
  | [] => []
  | [p] => p
  | p :: ps => p ++ sep :: joinWith sep ps

theorem splitAt_ne_nil (sep : Char) (cs : List Char) : splitAt sep cs ≠ [] := by
  cases cs with
  | nil => simp [splitAt]
  | cons c cs =>
    unfold splitAt
    split
    · simp
    · split <;> simp

theorem splitAt_eq_singleton {sep : Char} {cs : List Char} (h : sep ∉ cs) :
    splitAt sep cs = [cs] := by
  induction cs with
  | nil => rfl
  | cons c cs ih =>
    obtain ⟨hc, hcs⟩ : sep ≠ c ∧ sep ∉ cs := by simpa using h
    rw [splitAt, if_neg hc.symm, ih hcs]

theorem splitAt_append_cons {sep : Char} {piece : List Char} (h : sep ∉ piece)
    (rest : List Char) : splitAt sep (piece ++ sep :: rest) = piece :: splitAt sep rest := by
  induction piece with
  | nil => simp [splitAt]
  | cons c piece ih =>
    obtain ⟨hc, hpiece⟩ : sep ≠ c ∧ sep ∉ piece := by simpa using h
    rw [List.cons_append, splitAt, if_neg hc.symm, ih hpiece]

theorem splitAt_joinWith {sep : Char} {pieces : List (List Char)} (hne : pieces ≠ [])
    (h : ∀ p ∈ pieces, sep ∉ p) : splitAt sep (joinWith sep pieces) = pieces := by
  induction pieces with
  | nil => exact absurd rfl hne
  | cons p ps ih =>
    cases ps with
    | nil => exact splitAt_eq_singleton (h p (by simp))
    | cons q qs =>
      have hrest := ih (by simp) fun r hr => h r (by simp [hr])
      rw [joinWith, splitAt_append_cons (h p (by simp)), hrest]
      simp

theorem notMem_of_mem_splitAt {sep : Char} {cs p : List Char} (h : p ∈ splitAt sep cs) :
    sep ∉ p := by
  induction cs generalizing p with
  | nil =>
    rw [List.mem_singleton.mp h]
    simp
  | cons c cs ih =>
    unfold splitAt at h
    split at h
    · obtain rfl | h := List.mem_cons.mp h
      · simp
      · exact ih h
    · next hc =>
      split at h
      · next hnil => exact absurd hnil (splitAt_ne_nil sep cs)
      · next first rest hcons =>
        rw [hcons] at ih
        obtain rfl | h := List.mem_cons.mp h
        · have hfirst : sep ∉ first := ih (by simp)
          simp [hfirst, Ne.symm hc]
        · exact ih (by simp [h])

def cutAt (sep : Char) (cs : List Char) : List Char × Option (List Char) :=
  (cs.takeWhile (· ≠ sep),
    match cs.dropWhile (· ≠ sep) with
    | [] => none
    | _ :: rest => some rest)

def afterLast (sep : Char) (cs : List Char) : List Char :=
  (cs.reverse.takeWhile (· ≠ sep)).reverse

def dropStart? : List Char → List Char → Option (List Char)
  | [], cs => some cs
  | _ :: _, [] => none
  | a :: start, c :: cs => if a = c then dropStart? start cs else none

def dropEnding? (ending cs : List Char) : Option (List Char) :=
  if ending.isSuffixOf cs then some (cs.take (cs.length - ending.length)) else none

def holds (part : List Char) : List Char → Bool
  | [] => part.isEmpty
  | c :: cs => part.isPrefixOf (c :: cs) || holds part cs

end EnclaveFleet.Text

namespace String

/-- The pieces of a text between the separators. -/
def piecesAt (sep : Char) (s : String) : List String :=
  (EnclaveFleet.Text.splitAt sep s.toList).map ofList

/-- What stands before the first separator, and what follows it if there is one. -/
def cutAt (sep : Char) (s : String) : String × Option String :=
  let (before, rest) := EnclaveFleet.Text.cutAt sep s.toList
  (ofList before, rest.map ofList)

end String
