import EnclaveFleet.Files.Tree
import Mathlib.Tactic.SplitIfs

/-!
# What the file system does not tell

A name is looked up only when all that stands in front of it leads to a directory in which names can
be looked up. So the first step that cannot be taken counts, and a long name behind a missing one
does no harm.

* `Path.parse_eq_of_name`: a name is a path of its own
* `Tree.Bars`: a step that cannot be taken, though not for a want of what it leads to
* `Tree.locate_append`: what is found behind a directory is found from there
* `Tree.locate_eq_error_iff`: a way is barred where a step is, and everything in front of it is
  found
* `Tree.Refuses`: the paths about which nothing is told
* `Tree.isFile_eq_error_iff`: these are the paths that neither are files nor are none
-/
namespace EnclaveFleet
set_option autoImplicit false

theorem Path.parse_eq_of_name {name : String} (hempty : name ≠ "") (hdot : name ≠ ".")
    (hslash : '/' ∉ name.toList) : Path.parse name = ⟨.relative, [name]⟩ := by
  have hpieces : name.piecesAt '/' = [name] := by
    rw [String.piecesAt, Text.splitAt_eq_singleton hslash, List.map_singleton, String.ofList_toList]
  have hfront : name.toList.takeWhile (· = '/') = [] := by
    cases hname : name.toList with
    | nil => rfl
    | cons c cs =>
      have hc : c ≠ '/' := by
        rintro rfl
        exact hslash (hname ▸ List.mem_cons_self)
      simp [hc]
  rw [Path.parse, hpieces, hfront]
  simp [Path.anchorOf, hempty, hdot]

namespace Tree

variable {t : Tree} {fault : FileFault}

/-! ## Steps -/

/-- The system does not look a name up in a directory. -/
inductive Bars (t : Tree) (here : Location) (name : String) (fault : FileFault) : Prop
  | closed (hname : name ≠ "") (h : t.closed.lookup here = some fault)
  | long (hopen : t.closed.lookup here = none) (h : maxNameBytes < name.fileBytes)
      (hfault : fault = .nameTooLong)
  | refused (hopen : t.closed.lookup here = none) (hname : name ∉ ["", ".", ".."])
      (hshort : name.fileBytes ≤ maxNameBytes)
      (h : t.refused.lookup (here.child name) = some fault)

theorem look_eq_error_iff {l : Location} (hfault : fault ≠ .notFound) :
    t.look l = .error fault ↔ t.refused.lookup l = some fault := by
  rw [look]
  cases t.refused.lookup l with
  | some other => simp
  | none => cases t.find? l <;> simp [Ne.symm hfault]

theorem map_eq_error_iff {α β : Type} {r : Except FileFault α} {f : α → β} :
    r.map f = .error fault ↔ r = .error fault := by
  cases r <;> simp [Except.map]

theorem ne_of_long {name short : String} (h : maxNameBytes < name.fileBytes)
    (hshort : short.fileBytes ≤ maxNameBytes) : name ≠ short := by
  rintro rfl
  omega

theorem Bars.ne_empty {here : Location} {name : String} (h : t.Bars here name fault) :
    name ≠ "" := by
  cases h with
  | closed hname _ => exact hname
  | long _ h _ => exact ne_of_long h (by decide)
  | refused _ hname _ _ => exact fun hempty => hname (by simp [hempty])

theorem enter_eq_error_iff {here : Location} {name : String} (hfault : fault ≠ .notFound) :
    t.enter here name = .error fault ↔ t.Bars here name fault := by
  by_cases hempty : name = ""
  · rw [enter, if_pos hempty]
    exact iff_of_false nofun fun h => h.ne_empty hempty
  rw [enter, if_neg hempty]
  cases hclosed : t.closed.lookup here with
  | some other =>
    refine ⟨fun h => .closed hempty (Except.error.inj h ▸ hclosed), fun h => ?_⟩
    cases h with
    | closed _ h => rw [Option.some.inj (hclosed.symm.trans h)]
    | long hopen => cases hclosed.symm.trans hopen
    | refused hopen => cases hclosed.symm.trans hopen
  | none =>
    simp only
    constructor
    · intro h
      split_ifs at h with hdots hlength
      · exact .long hclosed hlength (Except.error.inj h).symm
      · have hname : name ∉ ["", ".", ".."] := by simpa [hempty] using hdots
        exact .refused hclosed hname (Nat.le_of_not_lt hlength)
          ((look_eq_error_iff hfault).mp (map_eq_error_iff.mp h))
    · intro h
      cases h with
      | closed _ h => cases hclosed.symm.trans h
      | long _ hlength hfault =>
        have hdots : ¬(name = "." ∨ name = "..") :=
          not_or.mpr ⟨ne_of_long hlength (by decide), ne_of_long hlength (by decide)⟩
        rw [if_neg hdots, if_pos hlength, hfault]
      | refused _ hname hshort hrefused =>
        have hdots : ¬(name = "." ∨ name = "..") := fun h => hname (by simp [h])
        rw [if_neg hdots, if_neg (Nat.not_lt.mpr hshort), (look_eq_error_iff hfault).mpr hrefused]
        rfl

/-! ## Ways -/

theorem locate_append {here there : Location} {before : List String}
    (h : t.locate here before = .ok (there, .directory)) (rest : List String) :
    t.locate here (before ++ rest) = t.locate there rest := by
  induction before generalizing here with
  | nil =>
    cases h
    rfl
  | cons name before ih =>
    rw [List.cons_append, locate]
    rw [locate] at h
    cases hstep : t.enter here name with
    | error other =>
      rw [hstep] at h
      cases h
    | ok found =>
      obtain ⟨l, e⟩ := found
      rw [hstep] at h
      cases e with
      | directory => exact ih h
      | file | unreadable | sink =>
        simp only at h
        split at h <;> cases h

theorem exists_bar_of_locate {here : Location} {names : List String}
    (h : t.locate here names = .error fault) (hfault : fault.isAbsence = false) :
    ∃ before name after there, names = before ++ name :: after ∧
      t.locate here before = .ok (there, .directory) ∧ t.Bars there name fault := by
  have hmissing : fault ≠ .notFound := by
    rintro rfl
    cases hfault
  induction names generalizing here with
  | nil => cases h
  | cons name rest ih =>
    rw [locate] at h
    cases hstep : t.enter here name with
    | error other =>
      rw [hstep] at h
      cases h
      exact ⟨[], name, rest, here, rfl, rfl, (enter_eq_error_iff hmissing).mp hstep⟩
    | ok found =>
      obtain ⟨l, e⟩ := found
      rw [hstep] at h
      cases e with
      | directory =>
        obtain ⟨before, barred, after, there, rfl, hbefore, hbar⟩ := ih h
        refine ⟨name :: before, barred, after, there, rfl, ?_, hbar⟩
        rw [locate, hstep]
        exact hbefore
      | file | unreadable | sink =>
        simp only at h
        split at h <;> cases h
        cases hfault

theorem locate_eq_error_iff {here : Location} {names : List String}
    (hfault : fault.isAbsence = false) :
    t.locate here names = .error fault ↔ ∃ before name after there,
      names = before ++ name :: after ∧ t.locate here before = .ok (there, .directory) ∧
        t.Bars there name fault := by
  refine ⟨fun h => exists_bar_of_locate h hfault, ?_⟩
  rintro ⟨before, name, after, there, rfl, hbefore, hbar⟩
  have hmissing : fault ≠ .notFound := by
    rintro rfl
    cases hfault
  rw [locate_append hbefore, locate, (enter_eq_error_iff hmissing).mpr hbar]

/-! ## Paths -/

/-- The system does not tell where the path leads: it is too long, or a step is barred that stands
behind directories only. -/
inductive Refuses (t : Tree) (p : Path) (fault : FileFault) : Prop
  | long (h : maxPathBytes < p.text.fileBytes) (hfault : fault = .nameTooLong)
  | step {before after : List String} {name : String} {there : Location}
      (hshort : p.text.fileBytes ≤ maxPathBytes) (hsteps : steps p = before ++ name :: after)
      (hbefore : t.locate (.start p.anchor) before = .ok (there, .directory))
      (hbar : t.Bars there name fault)

theorem status_eq_error_iff {p : Path} (hfault : fault.isAbsence = false) :
    t.status p = .error fault ↔ t.Refuses p fault := by
  rw [status]
  by_cases hlong : maxPathBytes < p.text.fileBytes
  · rw [if_pos hlong, Except.error.injEq, eq_comm]
    refine ⟨.long hlong, fun h => ?_⟩
    cases h with
    | long _ hfault => exact hfault
    | step hshort => exact absurd hlong (Nat.not_lt.mpr hshort)
  · rw [if_neg hlong, map_eq_error_iff, locate_eq_error_iff hfault]
    constructor
    · rintro ⟨before, name, after, there, hsteps, hbefore, hbar⟩
      exact .step (Nat.le_of_not_lt hlong) hsteps hbefore hbar
    · intro h
      cases h with
      | long h => exact absurd h hlong
      | step _ hsteps hbefore hbar => exact ⟨_, _, _, _, hsteps, hbefore, hbar⟩

theorem spelled_iff {p : Path} : (p.hasNul || p.text.pathFault?.isSome) = false ↔
    p.hasNul = false ∧ p.text.pathFault? = none := by
  simp

/-- Whether a path leads to a file is left open where the system refuses to tell where it leads, for
another reason than that nothing is there. -/
theorem isFile_eq_error_iff {p : Path} : t.isFile p = .error fault ↔
    p.hasNul = false ∧ p.text.pathFault? = none ∧ fault.isAbsence = false ∧ t.Refuses p fault := by
  rw [isFile, ← and_assoc, ← spelled_iff]
  cases p.hasNul || p.text.pathFault?.isSome with
  | true => simp
  | false =>
    rw [if_neg Bool.false_ne_true, eq_self, true_and]
    constructor
    · intro h
      cases hstatus : t.status p with
      | ok e =>
        rw [hstatus] at h
        cases e <;> cases h
      | error other =>
        rw [hstatus] at h
        simp only at h
        split_ifs at h with habsence
        cases h
        rw [Bool.not_eq_true] at habsence
        exact ⟨habsence, (status_eq_error_iff habsence).mp hstatus⟩
    · rintro ⟨habsence, hrefuses⟩
      rw [(status_eq_error_iff habsence).mpr hrefuses]
      simp only [habsence, Bool.false_eq_true, if_false]

end Tree
end EnclaveFleet
