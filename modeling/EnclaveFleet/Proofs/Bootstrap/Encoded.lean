import EnclaveFleet.Proofs.Bootstrap.Deployed

/-!
# Scripts of accepted settings

Settings that pass name a script that is there. Two things are left to fail when it is encoded: its
content is not had, or it has blanks only.

* `BootScript.spelled_of_isFile`: a script that is there has a path that can be looked at
* `Settings.check_error`: how settings are turned down
* `Bootstrap.Spoilt`: what is wrong with a script that is there
* `Bootstrap.encodeScript_of_check`, `Bootstrap.userData_of_check`: the script and the user data of
  settings that pass
-/
namespace EnclaveFleet
set_option autoImplicit false

theorem Tree.spelled_of_isFile {files : Tree} {p : Path} (h : files.isFile p = .ok true) :
    p.hasNul = false ∧ p.text.pathFault? = none := by
  rw [isFile] at h
  split at h
  · cases h
  · next hname => simpa using hname

theorem BootScript.spelled_of_isFile {files : Tree} {script : BootScript}
    (h : script.isFile files = .ok true) : script.hasNul = false ∧ script.pathFault? = none := by
  cases script with
  | shipped => exact ⟨rfl, rfl⟩
  | file p => exact Tree.spelled_of_isFile h

namespace Settings

variable {s : Settings} {files : Tree}

theorem isFile_of_check (h : s.check files = .ok ()) (hmode : s.mode? = some .script) :
    s.bootScript.isFile files = .ok true := by
  have hboot := (problems_of_check h).2
  rw [bootProblems, hmode] at hboot
  cases hfile : s.bootScript.isFile files with
  | error fault =>
    rw [hfile] at hboot
    cases hboot
  | ok found =>
    cases found with
    | true => rfl
    | false =>
      rw [hfile] at hboot
      cases hboot

theorem exists_mode_of_check (h : s.check files = .ok ()) : ∃ mode, s.mode? = some mode := by
  have hboot := (problems_of_check h).2
  rw [bootProblems] at hboot
  cases hmode : s.mode? with
  | none =>
    rw [hmode] at hboot
    cases hboot
  | some mode => exact ⟨mode, rfl⟩

/-- Settings are turned down with their problems, or because nothing is told about a path. -/
theorem check_error {e : Failure} (h : s.check files = .error e) :
    (∃ problems, e = .configuration problems) ∨ ∃ fault, s.bootProblems files = .error fault ∧
      e = .file fault s.bootScript.text := by
  rw [check, problems] at h
  cases hboot : s.bootProblems files with
  | error fault =>
    rw [hboot] at h
    cases h
    exact .inr ⟨fault, rfl, rfl⟩
  | ok ps =>
    rw [hboot] at h
    simp only [Except.map] at h
    split at h
    · next hfault => cases hfault
    · cases h
    · cases h
      exact .inl ⟨_, rfl⟩

end Settings

namespace Bootstrap

variable {s : Settings} {files : Tree}

/-- What is wrong with a script that is there. -/
inductive Spoilt (files : Tree) (script : BootScript) : Problem → Prop
  | unreadable {fault : ReadFault} (hread : script.read files = .error fault) :
      Spoilt files script (.scriptUnreadable script fault)
  | blank {content : List UInt8} (hread : script.read files = .ok content)
      (hblank : content.all isBlankByte) : Spoilt files script (.scriptBlank script)

theorem encodeScript_of_spoilt {script : BootScript} {problem : Problem}
    (hpath : script.pathFault? = none) (hnul : script.hasNul = false)
    (h : Spoilt files script problem) :
    encodeScript files script = .error (.configuration [problem]) := by
  cases h with
  | unreadable hread =>
    rw [encodeScript, hpath, hnul, hread]
    rfl
  | blank hread hblank => rw [encodeScript_of_readable hpath hnul hread, if_pos hblank]

theorem encodeScript_of_check (h : s.check files = .ok ()) (hmode : s.mode? = some .script) :
    (∃ encoded, encodeScript files s.bootScript = .ok encoded) ∨
      ∃ problem, Spoilt files s.bootScript problem := by
  obtain ⟨hnul, hpath⟩ := BootScript.spelled_of_isFile (Settings.isFile_of_check h hmode)
  cases hread : s.bootScript.read files with
  | error fault => exact .inr ⟨_, .unreadable hread⟩
  | ok content =>
    by_cases hblank : content.all isBlankByte
    · exact .inr ⟨_, .blank hread hblank⟩
    · refine .inl ⟨String.ofList (Base64.encode content), ?_⟩
      rw [encodeScript_of_readable hpath hnul hread, if_neg hblank]

theorem userData_of_spoilt {problem : Problem} (arn region : Deferred)
    (h : s.check files = .ok ()) (hmode : s.mode? = some .script)
    (hspoilt : Spoilt files s.bootScript problem) :
    userData s files arn region = .fail (.configuration [problem]) := by
  obtain ⟨hnul, hpath⟩ := BootScript.spelled_of_isFile (Settings.isFile_of_check h hmode)
  rw [userData, hmode, scriptCommands, encodeScript_of_spoilt hpath hnul hspoilt]
  rfl

/-- Accepted settings have user data unless their script is spoilt. -/
theorem userData_of_check (arn region : Deferred) (h : s.check files = .ok ()) :
    (∃ d, (userData s files arn region).outcome = .ok d) ∨
      s.mode? = some .script ∧ ∃ problem, Spoilt files s.bootScript problem := by
  obtain ⟨mode, hmode⟩ := Settings.exists_mode_of_check h
  cases mode with
  | inline => exact .inl ⟨_, userData_inline files arn region hmode⟩
  | script =>
    obtain ⟨encoded, henc⟩ | hspoilt := encodeScript_of_check h hmode
    · exact .inl ⟨_, userData_script arn region hmode henc⟩
    · exact .inr ⟨hmode, hspoilt⟩

end Bootstrap
end EnclaveFleet
