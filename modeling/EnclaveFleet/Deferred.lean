/-!
# Text that is completed at deployment

* `PseudoParameter`: what the deployment knows and the template does not
* `Deferred`: a text with pseudo parameters in it
* `Deferred.resolve`: the text for given values
* `Deferred.normal`: the same text with neighbouring literals joined and empty ones dropped
* `Deferred.resolve_append`, `Deferred.resolve_joinWith`, `Deferred.resolve_normal`: what is done
  before deployment can as well be done after it
-/
namespace EnclaveFleet
set_option autoImplicit false

inductive PseudoParameter where
  | partition
  | region
  | accountId
deriving DecidableEq

def PseudoParameter.name : PseudoParameter → String
  | .partition => "AWS::Partition"
  | .region => "AWS::Region"
  | .accountId => "AWS::AccountId"

inductive Piece where
  | literal (s : String)
  | parameter (p : PseudoParameter)
deriving DecidableEq

abbrev Deferred := List Piece

def Piece.resolve (values : PseudoParameter → String) : Piece → String
  | .literal s => s
  | .parameter p => values p

namespace Deferred

def ofString (s : String) : Deferred := [.literal s]

instance : Coe String Deferred := ⟨ofString⟩

def ofParameter (p : PseudoParameter) : Deferred := [.parameter p]

def resolve (values : PseudoParameter → String) (d : Deferred) : String :=
  String.join (d.map (Piece.resolve values))

/-- The text, where no pseudo parameter occurs in it. -/
def plain (d : Deferred) : String :=
  d.resolve fun _ => ""

def isLiteral (d : Deferred) : Bool :=
  d.all fun
    | .literal _ => true
    | .parameter _ => false

def joinWith (sep : String) : List Deferred → Deferred
  | [] => []
  | [d] => d
  | d :: ds => d ++ .literal sep :: joinWith sep ds

def consNormal : Piece → Deferred → Deferred
  | .literal s, d =>
    if s = "" then d
    else
      match d with
      | .literal r :: rest => .literal (s ++ r) :: rest
      | d => .literal s :: d
  | .parameter p, d => .parameter p :: d

def normal (d : Deferred) : Deferred :=
  d.foldr consNormal []

/-! ## Values for the pseudo parameters -/

variable (values : PseudoParameter → String)

@[simp]
theorem resolve_nil : resolve values [] = "" := by
  simp [resolve]

@[simp]
theorem resolve_cons (p : Piece) (d : Deferred) :
    resolve values (p :: d) = p.resolve values ++ d.resolve values := by
  simp [resolve]

@[simp]
theorem resolve_append (d e : Deferred) :
    resolve values (d ++ e) = d.resolve values ++ e.resolve values := by
  simp [resolve]

@[simp]
theorem resolve_ofString (s : String) : (ofString s).resolve values = s := by
  simp [ofString, Piece.resolve]

@[simp]
theorem plain_ofString (s : String) : (ofString s).plain = s :=
  resolve_ofString (fun _ => "") s

theorem resolve_joinWith (sep : String) (ds : List Deferred) :
    (joinWith sep ds).resolve values = sep.intercalate (ds.map (resolve values)) := by
  induction ds with
  | nil => simp [joinWith]
  | cons d ds ih =>
    cases ds with
    | nil => simp [joinWith]
    | cons e es => simpa [joinWith, Piece.resolve, String.append_assoc] using ih

theorem resolve_consNormal (p : Piece) (d : Deferred) :
    (consNormal p d).resolve values = p.resolve values ++ d.resolve values := by
  cases p with
  | parameter p => simp [consNormal]
  | literal s =>
    by_cases e : s = ""
    · simp [consNormal, e, Piece.resolve]
    · rcases d with _ | ⟨_ | _, d⟩ <;> simp [consNormal, e, Piece.resolve, String.append_assoc]

theorem resolve_normal (d : Deferred) : d.normal.resolve values = d.resolve values := by
  induction d with
  | nil => rfl
  | cons p d ih =>
    rw [show normal (p :: d) = consNormal p (normal d) from rfl, resolve_consNormal, ih, resolve_cons]

end Deferred
end EnclaveFleet
