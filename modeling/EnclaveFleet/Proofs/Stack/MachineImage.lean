import EnclaveFleet.Proofs.Stack.LaunchedText

/-!
# The image that the hosts start from

An image is made for one architecture, and so are the machines of an instance type: the ones with a
Graviton processor are known by a letter among the attributes of the type. The stack has one image
for all types, so hosts of such a type do not start from it.

* `Architecture`, `Architecture.ofImage?`: the architectures, and the one an image is named after
* `InstanceName`: letters, digits and attributes, and a size behind a point
* `InstanceName.attributesOf_name`: the name says what the attributes are
* `bootImage?`: the image of the launch template, as a document refers to it
* `image_fits_iff`: the types that the image is right for
* `graviton_image_unfit`: a type that passes all checks and has the wrong image
-/
namespace EnclaveFleet.Stack
set_option autoImplicit false

open Template

/-! ## Architectures -/

inductive Architecture where
  | arm64
  | x86_64
deriving DecidableEq

namespace Architecture

def name : Architecture → String
  | .arm64 => "arm64"
  | .x86_64 => "x86_64"

/-- The architecture at the end of the path of an image. -/
def ofImage? (path : String) : Option Architecture :=
  [arm64, x86_64].find? fun a => ("-" ++ a.name).toList.isSuffixOf path.toList

end Architecture

/-! ## Names of instance types -/

/-- Behind the letters and digits of a family stand its attributes, and behind a point the size. -/
structure InstanceName where
  letters : List Char
  digits : List Char
  attributes : List Char
  size : List Char
  isAlpha : letters.all Char.isAlpha
  isDigit : digits.all Char.isDigit
  lettersFilled : letters ≠ []
  digitsFilled : digits ≠ []
  /-- All digits come before the attributes. -/
  attributesStart : attributes.head?.all (!·.isDigit)
  noPoint : '.' ∉ attributes

namespace InstanceName

def chars (n : InstanceName) : List Char :=
  n.letters ++ (n.digits ++ (n.attributes ++ '.' :: n.size))

def name (n : InstanceName) : String := String.ofList n.chars

/-- What stands between the digits and the point. -/
def attributesOf (instanceType : String) : List Char :=
  ((instanceType.toList.dropWhile Char.isAlpha).dropWhile Char.isDigit).takeWhile (· ≠ '.')

theorem isAlpha_of_isDigit {c : Char} (h : c.isDigit) : c.isAlpha = false := by
  have hrest : VariableName.isRest c := by
    rw [VariableName.isRest, Char.isAlphanum, h, Bool.or_true, Bool.true_or]
  have hc := VariableName.holds_of_isRest (p := fun c => !c.isDigit || !c.isAlpha) (by decide) hrest
  simpa [h] using hc

theorem dropWhile_append_of_stop {p : Char → Bool} {front rest : List Char}
    (hfront : front.all p) (hrest : rest.head?.all (!p ·)) :
    (front ++ rest).dropWhile p = rest := by
  rw [List.dropWhile_append_of_pos (List.all_eq_true.mp hfront)]
  cases rest with
  | nil => rfl
  | cons c cs =>
    have hc : p c = false := by simpa using hrest
    rw [List.dropWhile_cons, hc]
    rfl

/-- Each part ends where a character stands that is none of its own. -/
theorem attributesOf_name (n : InstanceName) : attributesOf n.name = n.attributes := by
  have hdigits : (n.digits ++ (n.attributes ++ '.' :: n.size)).head?.all (!·.isAlpha) := by
    cases hn : n.digits with
    | nil => exact absurd hn n.digitsFilled
    | cons d ds =>
      have hd : d.isDigit := List.all_eq_true.mp n.isDigit d (hn ▸ List.mem_cons_self)
      simp [isAlpha_of_isDigit hd]
  have hattributes : (n.attributes ++ '.' :: n.size).head?.all (!·.isDigit) := by
    cases hn : n.attributes with
    | nil => rfl
    | cons c cs =>
      have hstart := n.attributesStart
      rw [hn] at hstart
      exact hstart
  have hpoint : ∀ c ∈ n.attributes, decide (c ≠ '.') := by
    intro c hc
    exact decide_eq_true fun h => n.noPoint (h ▸ hc)
  rw [attributesOf, name, String.toList_ofList, chars, dropWhile_append_of_stop n.isAlpha hdigits,
    dropWhile_append_of_stop n.isDigit hattributes, List.takeWhile_append_of_pos hpoint]
  simp

end InstanceName

/-- The architecture of the machines of a type, by the attributes. -/
def Architecture.ofType (instanceType : String) : Architecture :=
  if 'g' ∈ InstanceName.attributesOf instanceType then .arm64 else .x86_64

/-! ## The image of the stack -/

/-- The image that the one launch template refers to, by the default of its parameter. -/
def bootImage? (document : Json) : Option String :=
  match resourcesOf document .launchTemplate with
  | [r] =>
    match r.at? ["Properties", "LaunchTemplateData", "ImageId", "Ref"] with
    | some (.text id) =>
      match document.at? ["Parameters", id, "Default"] with
      | some (.text path) => some path
      | _ => none
    | _ => none
  | _ => none

theorem bootImage_template (s : Settings) (p : Placement) (d : Deferred) :
    bootImage? (template s p d).document = some machineImage.default := by
  have href : (launchTemplate s p d).document.at?
      ["Properties", "LaunchTemplateData", "ImageId", "Ref"] = some (.text machineImage.id) := rfl
  have hdefault : (template s p d).document.at? ["Parameters", machineImage.id, "Default"] =
      some (.text machineImage.default) := by
    have hchapter : (template s p d).document.at? ["Parameters", machineImage.id, "Default"] =
        (((template s p d).document.get? "Parameters").bind (·.get? machineImage.id)).bind
          (·.at? ["Default"]) := by
      rw [Option.bind_assoc]
      rfl
    -- The parameter of the image comes last, so its id is not compared with the other one.
    have hparameter : (Json.object ((preparation :: [machineImage]).map fun q =>
        (q.id, q.document))).get? machineImage.id = some machineImage.document :=
      Json.getLast_append_cons _ _ [_] []
    rw [hchapter, get_parameters, Option.bind_some, show (template s p d).parameters =
      [machineImage] from rfl, hparameter]
    rfl
  rw [bootImage?, resourcesOf_document, ofKind_launchTemplate, List.map_cons, List.map_nil]
  simp only [href, hdefault]

/-- Every image is for the one architecture, and right for the types that have no `g` among their
attributes. -/
theorem image_fits_iff (s : Settings) (files : Tree) (p : Placement) (t : Template)
    (n : InstanceName) (hbuild : (build s files p).outcome = .ok t)
    (hname : s.instanceType = n.name) :
    (bootImage? t.document).bind Architecture.ofImage? = some .x86_64 ∧
    ((bootImage? t.document).bind Architecture.ofImage? =
      some (Architecture.ofType s.instanceType) ↔ 'g' ∉ n.attributes) := by
  obtain ⟨_, _, d, _, rfl⟩ := build_eq_ok_iff.mp hbuild
  have himage : Architecture.ofImage? machineImage.default = some .x86_64 := by decide
  rw [bootImage_template, Option.bind_some, himage, Architecture.ofType, hname,
    InstanceName.attributesOf_name]
  refine ⟨rfl, ?_⟩
  by_cases hgraviton : 'g' ∈ n.attributes
  · rw [if_pos hgraviton]
    exact iff_of_false (by decide) fun h => h hgraviton
  · rw [if_neg hgraviton]
    exact iff_of_true rfl hgraviton

/-- The type of hosts that is the default. -/
def defaultName : InstanceName where
  letters := ['m']
  digits := ['5']
  attributes := ['a']
  size := "4xlarge".toList
  isAlpha := by decide
  isDigit := by decide
  lettersFilled := by decide
  digitsFilled := by decide
  attributesStart := by decide
  noPoint := by decide

theorem image_fits_default :
    ∃ t, (build {} .empty (.ofSettings {})).outcome = .ok t ∧
      (bootImage? t.document).bind Architecture.ofImage? =
        some (Architecture.ofType "m5a.4xlarge") := by
  have hcheck : ({} : Settings).check .empty = .ok () := ok_of_toOption (by decide)
  have hbuild := build_of_inline (p := .ofSettings {}) hcheck (ok_of_toOption (by decide))
    (by decide)
  exact ⟨_, hbuild, (image_fits_iff {} .empty (.ofSettings {}) _ defaultName hbuild
    (by decide)).2.mpr (by decide)⟩

def graviton : Settings where
  instanceType := "m6g.xlarge"

def gravitonName : InstanceName where
  letters := ['m']
  digits := ['6']
  attributes := ['g']
  size := "xlarge".toList
  isAlpha := by decide
  isDigit := by decide
  lettersFilled := by decide
  digitsFilled := by decide
  attributesStart := by decide
  noPoint := by decide

/-- The settings pass and the stack is built, with an image for other machines. -/
theorem graviton_image_unfit :
    graviton.check .empty = .ok () ∧ graviton.instanceType = gravitonName.name ∧
    'g' ∈ gravitonName.attributes ∧
    ∃ t, (build graviton .empty (.ofSettings graviton)).outcome = .ok t ∧
      bootImage? t.document =
        some "/aws/service/ami-amazon-linux-latest/al2023-ami-kernel-6.1-x86_64" ∧
      Architecture.ofType graviton.instanceType = .arm64 := by
  have hcheck : graviton.check .empty = .ok () := ok_of_toOption (by decide)
  have hbuild := build_of_inline (p := .ofSettings graviton) hcheck (ok_of_toOption (by decide))
    (by decide)
  exact ⟨hcheck, by decide, by decide, _, hbuild, bootImage_template _ _ _, by decide⟩

end EnclaveFleet.Stack
