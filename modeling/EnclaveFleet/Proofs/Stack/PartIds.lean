import EnclaveFleet.Proofs.Text.Occurrences
import EnclaveFleet.Stack.Network
import Mathlib.Data.List.Nodup

/-!
# Ids that tell parts apart

An id ends in a digest, and nothing is known of digests but how long they are. So what tells two ids
apart is what they show: for a subnet whether it is public, the number of its zone, and what of it
is meant.

* `LogicalId.shown_eq_of_ofPath_eq`: equal ids of paths show the same
* `Part.shown_fitting`: what the id of a part of a subnet shows
* `Part.eq_of_id_eq`: parts with equal ids are equal
-/
namespace EnclaveFleet
set_option autoImplicit false

/-! ## Ids -/

namespace LogicalId

theorem toList_ofPath {path : List String} (hidle : idleLabel ∉ path) (hmany : 1 < path.length) :
    (ofPath path).toList = shown path ++ StackName.digest ("/".intercalate path) := by
  have hlabels : path.filter (· ≠ idleLabel) = path := by
    refine List.filter_eq_self.mpr fun label hlabel => decide_eq_true ?_
    rintro rfl
    exact hidle hlabel
  have hsingle : single? path = none := by
    match path, hmany with
    | _ :: _ :: _, _ => rfl
  rw [ofPath, hlabels, hsingle, Option.getD_none, String.toList_ofList]

theorem shown_eq_of_ofPath_eq {path path' : List String} (hidle : idleLabel ∉ path)
    (hidle' : idleLabel ∉ path') (hmany : 1 < path.length) (hmany' : 1 < path'.length)
    (h : ofPath path = ofPath path') : shown path = shown path' := by
  have hchars := congrArg String.toList h
  rw [toList_ofPath hidle hmany, toList_ofPath hidle' hmany'] at hchars
  exact (List.append_inj' hchars (by rw [StackName.length_digest, StackName.length_digest])).1

example : ofPath ["SP1_TEE_VPC", "Resource"] = "SP1TEEVPC2D62034E" := by decide +kernel

end LogicalId

namespace Stack

open LogicalId StackName

/-! ## Ends of labels -/

def endsInDigit (label : String) : Bool := label.toList.getLast?.any Char.isDigit

theorem endsInDigit_of_suffix {label longer : String} (hlabel : label ≠ "")
    (h : label.toList.isSuffixOf longer.toList) : endsInDigit label = endsInDigit longer := by
  obtain ⟨front, hfront⟩ := List.isSuffixOf_iff_suffix.mp h
  have hne : label.toList ≠ [] := fun hnil => hlabel (String.toList_eq_nil_iff.mp hnil)
  rw [endsInDigit, endsInDigit, ← hfront, List.getLast?_append_of_ne_nil _ hne]

namespace Plot

variable (n : Plot)

def digits : List Char := (toString (n.position + 1)).toList

theorem toList_title : n.title.toList = (n.reach.name ++ "Subnet").toList ++ n.digits := by
  rw [title, digits, String.toList_append]

theorem isDigit_of_mem_digits {c : Char} (h : c ∈ n.digits) : c.isDigit := isDigit_of_mem_repr h

theorem digits_ne_nil : n.digits ≠ [] := by
  rw [digits, Nat.toString_eq_ofList_toDigits, String.toList_ofList]
  exact List.ne_nil_of_length_pos Nat.length_toDigits_pos

theorem length_digits (h : n.position < maxZones) : n.digits.length ≤ 1 := by
  have hsmall : n.position + 1 < 10 ^ 1 := by
    rw [maxZones] at h
    omega
  rw [digits, Nat.toString_eq_ofList_toDigits, String.toList_ofList]
  exact (Nat.length_toDigits_le_iff (by decide) (by decide)).mpr hsmall

theorem endsInDigit_title : endsInDigit n.title := by
  rw [endsInDigit, toList_title, List.getLast?_append_of_ne_nil _ n.digits_ne_nil,
    List.getLast?_eq_some_getLast n.digits_ne_nil, Option.any_some]
  exact n.isDigit_of_mem_digits (List.getLast_mem _)

theorem title_ne {label : String} (h : endsInDigit label = false) : n.title ≠ label := by
  rintro rfl
  rw [n.endsInDigit_title] at h
  cases h

theorem plainChars_title : plainChars n.title.toList = n.title.toList := by
  refine List.filter_eq_self.mpr fun c hc => ?_
  rw [toList_title, List.mem_append] at hc
  obtain hc | hc := hc
  · have hfront : ((n.reach.name ++ "Subnet").toList).all Char.isAlphanum := by
      cases n.reach <;> decide
    exact List.all_eq_true.mp hfront c hc
  · rw [Char.isAlphanum, n.isDigit_of_mem_digits hc, Bool.or_true]

end Plot

theorem Plot.digits_inj {n m : Plot} (h : n.digits = m.digits) : n.position = m.position := by
  have hvalue := congrArg (fun cs => Nat.ofDigitChars 10 cs 0) h
  simpa [digits, Nat.toString_eq_ofList_toDigits] using hvalue

namespace Fitting

theorem endsInDigit_label (f : Fitting) : endsInDigit f.label = false := by
  cases f <;> decide

theorem takeWhile_label (f : Fitting) : f.label.toList.takeWhile Char.isDigit = [] := by
  cases f <;> decide

theorem label_inj {f g : Fitting} (h : f.label = g.label) : f = g := by
  revert h
  cases f <;> cases g <;> decide

end Fitting

/-! ## Parts of subnets -/

namespace Part

theorem idleLabel_notMem_path (x : Part) : idleLabel ∉ x.path := by
  cases x with
  | fitting n f =>
    have hlabel : f.label ≠ idleLabel := by cases f <;> decide
    simp only [path, List.mem_cons, List.not_mem_nil, or_false, not_or]
    exact ⟨by decide, (n.title_ne (by decide)).symm, hlabel.symm⟩
  | _ => decide

theorem length_path (x : Part) : 1 < x.path.length := by
  cases x <;> simp [path]

theorem shown_eq_of_id_eq {x y : Part} (h : x.id = y.id) : shown x.path = shown y.path :=
  shown_eq_of_ofPath_eq x.idleLabel_notMem_path y.idleLabel_notMem_path x.length_path y.length_path
    h

/-- No label of these is an echo of the one before: a title ends in a digit, and the others do
not. -/
theorem dropEchoes_fitting (n : Plot) (f : Fitting) :
    dropEchoes none (fitting n f).path = (fitting n f).path := by
  have htitle : n.title ≠ "" := n.title_ne (by decide)
  have hlabel : f.label ≠ "" := by cases f <;> decide
  have hnetwork : ¬n.title.toList.isSuffixOf networkLabel.toList := by
    intro h
    have hends := endsInDigit_of_suffix htitle h
    rw [n.endsInDigit_title] at hends
    revert hends
    decide
  have hpart : ¬f.label.toList.isSuffixOf n.title.toList := by
    intro h
    have hends := endsInDigit_of_suffix hlabel h
    rw [n.endsInDigit_title, f.endsInDigit_label] at hends
    cases hends
  simp [path, dropEchoes, hnetwork, hpart]

theorem shown_fitting {n : Plot} (f : Fitting) (h : n.position < maxZones) :
    shown (fitting n f).path =
      "SP1TEEVPC".toList ++ (n.title.toList ++ f.label.toList) := by
  have hhidden : ∀ label ∈ (fitting n f).path, decide (label ≠ hiddenLabel) := by
    have hlabel : f.label ≠ hiddenLabel := by cases f <;> decide
    simp only [path, List.mem_cons, List.not_mem_nil, or_false, forall_eq_or_imp, forall_eq,
      decide_eq_true_eq]
    exact ⟨by decide, n.title_ne (by decide), hlabel⟩
  have hlabel : plainChars f.label.toList = f.label.toList := by cases f <;> decide
  have hnetwork : plainChars networkLabel.toList = "SP1TEEVPC".toList := by decide
  have hshort : ("SP1TEEVPC".toList ++ (n.title.toList ++ f.label.toList)).length ≤ maxShown := by
    have hfront : (n.reach.name ++ "Subnet").toList.length ≤ 13 := by
      cases n.reach <;> decide
    have hend : f.label.toList.length ≤ 21 := by cases f <;> decide
    have hdigits := n.length_digits h
    have hstart : "SP1TEEVPC".toList.length = 9 := by decide
    rw [List.length_append, List.length_append, Plot.toList_title, List.length_append, hstart,
      maxShown]
    omega
  rw [shown, dropEchoes_fitting, List.filter_eq_self.mpr hhidden, path, List.flatMap_cons,
    List.flatMap_cons, List.flatMap_singleton, hnetwork, n.plainChars_title, hlabel,
    List.take_of_length_le hshort]

/-- The digits end where the label begins. -/
theorem takeWhile_digits (n : Plot) (f : Fitting) :
    (n.digits ++ f.label.toList).takeWhile Char.isDigit = n.digits := by
  rw [List.takeWhile_append_of_pos fun _ hc => n.isDigit_of_mem_digits hc, f.takeWhile_label,
    List.append_nil]

theorem fitting_eq_of_title_eq {n m : Plot} {f g : Fitting}
    (h : n.title.toList ++ f.label.toList = m.title.toList ++ g.label.toList) :
    fitting n f = fitting m g := by
  obtain ⟨reach, position⟩ := n
  obtain ⟨reach', position'⟩ := m
  rw [Plot.toList_title, Plot.toList_title, List.append_assoc, List.append_assoc] at h
  have hreach : reach = reach' := by
    have hsecond := congrArg (·[1]?) h
    cases reach <;> cases reach' <;> first | rfl | simp [Reach.name] at hsecond
  subst hreach
  have htail := List.append_cancel_left h
  have hdigits := congrArg (List.takeWhile Char.isDigit) htail
  rw [takeWhile_digits, takeWhile_digits] at hdigits
  rw [hdigits] at htail
  have hlabel := Fitting.label_inj (String.toList_inj.mp (List.append_cancel_left htail))
  have hposition : position = position' := Plot.digits_inj hdigits
  rw [hlabel, hposition]

/-! ## All parts -/

/-- The parts that belong to no subnet. -/
def fixed : List Part := [.network, .internetGateway, .attachment, .role, .policy,
  .instanceProfile, .securityGroup, .launchTemplate, .scalingGroup, .loadBalancer, .targetGroup,
  .listener]

theorem mem_fixed_or (x : Part) : x ∈ fixed ∨ ∃ n f, x = .fitting n f := by
  cases x with
  | fitting n f => exact .inr ⟨n, f, rfl⟩
  | _ => exact .inl (by decide)

/-- The parts of subnets show the network and a small letter behind it. -/
theorem shown_fixed_ne {x : Part} (hx : x ∈ fixed) {n : Plot} (f : Fitting)
    (hn : n.position < maxZones) : shown x.path ≠ shown (fitting n f).path := by
  intro h
  rw [shown_fitting f hn, Plot.toList_title] at h
  have hletter : ∀ y ∈ fixed, (shown y.path).take 10 ≠ "SP1TEEVPCp".toList := by decide +kernel
  refine hletter x hx ?_
  rw [h]
  cases n.reach <;> rfl

def position : Part → Nat
  | .fitting n _ => n.position
  | _ => 0

theorem eq_of_id_eq {x y : Part} (hx : x.position < maxZones) (hy : y.position < maxZones)
    (h : x.id = y.id) : x = y := by
  have hshown := shown_eq_of_id_eq h
  obtain hxfixed | ⟨n, f, rfl⟩ := x.mem_fixed_or
  · obtain hyfixed | ⟨m, g, rfl⟩ := y.mem_fixed_or
    · have hdistinct : (fixed.map fun z => shown z.path).Nodup := by decide +kernel
      exact List.inj_on_of_nodup_map hdistinct hxfixed hyfixed hshown
    · exact absurd hshown (shown_fixed_ne hxfixed g hy)
  · obtain hyfixed | ⟨m, g, rfl⟩ := y.mem_fixed_or
    · exact absurd hshown.symm (shown_fixed_ne hyfixed f hx)
    · rw [shown_fitting f hx, shown_fitting g hy] at hshown
      exact fitting_eq_of_title_eq (List.append_cancel_left hshown)

end Part
end Stack
end EnclaveFleet
