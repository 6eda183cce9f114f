import EnclaveFleet.Json.Basic

/-!
# Looking up fields

* `getLast_append`: of two lists of fields the second one is asked first
* `getLast_append_cons`: a field stands unless the name comes again
* `Json.at?`: the value at the end of a path of names
-/
namespace EnclaveFleet.Json
set_option autoImplicit false

theorem getLast_append (name : String) (xs ys : List (String × Json)) :
    getLast? name (xs ++ ys) = (getLast? name ys).or (getLast? name xs) := by
  rw [getLast?, List.reverse_append, List.lookup_append]
  rfl

theorem getLast_cons_self (name : String) (j : Json) (fields : List (String × Json)) :
    getLast? name ((name, j) :: fields) = some ((getLast? name fields).getD j) := by
  have happend := getLast_append name [(name, j)] fields
  have hone : getLast? name [(name, j)] = some j := List.lookup_cons_self
  rw [hone] at happend
  refine happend.trans ?_
  cases getLast? name fields with
  | none => rfl
  | some k => rfl

theorem getLast_cons_of_ne {name other : String} (h : name ≠ other) (j : Json)
    (fields : List (String × Json)) :
    getLast? name ((other, j) :: fields) = getLast? name fields := by
  have happend := getLast_append name [(other, j)] fields
  have hone : getLast? name [(other, j)] = none := by
    have hbeq : (name == other) = false := by simpa using h
    rw [getLast?, List.reverse_singleton, List.lookup_cons, hbeq]
    rfl
  rw [hone, Option.or_none] at happend
  exact happend

theorem getLast_append_cons (name : String) (j : Json) (before after : List (String × Json)) :
    getLast? name (before ++ (name, j) :: after) = some ((getLast? name after).getD j) := by
  rw [getLast_append, getLast_cons_self, Option.some_or]

/-- The value that a path of names leads to. -/
def at? (j : Json) (path : List String) : Option Json :=
  path.foldlM get? j

end EnclaveFleet.Json
