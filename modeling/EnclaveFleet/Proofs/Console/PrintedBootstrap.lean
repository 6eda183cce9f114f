import EnclaveFleet.Proofs.Bootstrap.Encoded
import EnclaveFleet.Proofs.Console.CommandLine

/-!
# The bootstrap that is printed

The command line puts the user data together by itself and has its own choice between the modes.
What it prints is nevertheless what is deployed, with placeholders for the ARN and the region.

* `deployed`: the user data that are deployed for the settings of a call
* `bootLines`, `deployed_eq`: the lines that are printed are those of the user data
* `commandLine`, `execute_commandLine`: the words of a call
* `printed_whole_or_not_at_all`: what a call shows and how it ends
* `script_cut_off`: environments in which the script is not printed whole
-/
namespace EnclaveFleet.Console
set_option autoImplicit false

open Bootstrap (shebang inlineCommands scriptCommands render)

/-! ## What is printed and what is deployed -/

/-- The user data of accepted settings. -/
def deployed (s : Settings) (files : Tree) : Except Failure Deferred :=
  (s.check files).bind fun _ =>
    (Bootstrap.userData s files arnPlaceholder regionPlaceholder).outcome

/-- The commands as the command line chooses them. -/
def bootCommands (s : Settings) (files : Tree) : Except Failure (List Deferred) :=
  match s.mode? with
  | some .script => scriptCommands s files arnPlaceholder regionPlaceholder
  | _ => .ok (inlineCommands s arnPlaceholder regionPlaceholder)

def bootLines (s : Settings) (files : Tree) : Except Failure (List String) :=
  (s.check files).bind fun _ =>
    (bootCommands s files).map fun commands => shebang :: commands.map Deferred.plain

theorem plain_render (commands : List Deferred) :
    (render commands).plain = "\n".intercalate (shebang :: commands.map Deferred.plain) := by
  rw [render, Deferred.plain, Deferred.resolve_joinWith, List.map_cons, Deferred.resolve_ofString]
  rfl

/-- Both ways to the user data agree, in what fails too. -/
theorem deployed_eq (s : Settings) (files : Tree) :
    (deployed s files).map Deferred.plain = (bootLines s files).map ("\n".intercalate ·) := by
  rw [deployed, bootLines]
  cases hcheck : s.check files with
  | error e => rfl
  | ok _ =>
    obtain ⟨mode, hmode⟩ := Settings.exists_mode_of_check hcheck
    rw [Bootstrap.userData, bootCommands, hmode]
    cases mode with
    | inline =>
      exact congrArg Except.ok (plain_render (inlineCommands s arnPlaceholder regionPlaceholder))
    | script =>
      cases hcommands : scriptCommands s files arnPlaceholder regionPlaceholder with
      | error e => rfl
      | ok commands => exact congrArg Except.ok (plain_render commands)

theorem userData_eq (w : World) (mode : Option BootMode) :
    userData w (mode.map BootMode.name) = Session.reporting
      ((Session.ofExcept (bootLines (chosen w mode) w.files)).bind fun lines =>
        lines.forM Session.say) := by
  have hload : loadSettings w ((mode.map BootMode.name).toList.map .bootMode) =
      (Session.ofExcept ((chosen w mode).check w.files)).bind fun _ => .pure (chosen w mode) :=
    loadSettings_eq w _
  have hcommands : userData w (mode.map BootMode.name) = Session.reporting
      ((loadSettings w ((mode.map BootMode.name).toList.map .bootMode)).bind fun s =>
        (Session.ofExcept (bootCommands s w.files)).bind fun commands =>
          (shebang :: commands.map Deferred.plain).forM Session.say) := rfl
  rw [hcommands, hload, bootLines]
  cases hcheck : (chosen w mode).check w.files with
  | error e => rfl
  | ok _ =>
    rw [Session.ofExcept_ok_bind, Session.pure_bind]
    cases hboot : bootCommands (chosen w mode) w.files with
    | error e => rfl
    | ok commands =>
      have hlines : ((Except.ok ()).bind fun _ =>
          (Except.ok commands).map fun commands => shebang :: commands.map Deferred.plain) =
          (.ok (shebang :: commands.map Deferred.plain) : Except Failure (List String)) := rfl
      rw [hlines, Session.ofExcept_ok_bind, Session.ofExcept_ok_bind]

/-! ## What a call shows -/

theorem bootLines_of_ok {s : Settings} {files : Tree} {d : Deferred}
    (h : deployed s files = .ok d) :
    ∃ lines, bootLines s files = .ok lines ∧ lines ≠ [] ∧ "\n".intercalate lines = d.plain := by
  have heq := deployed_eq s files
  rw [h, bootLines] at heq
  rw [bootLines]
  cases hcheck : s.check files with
  | error e =>
    rw [hcheck] at heq
    cases heq
  | ok _ =>
    cases hcommands : bootCommands s files with
    | error e =>
      rw [hcheck, hcommands] at heq
      cases heq
    | ok commands =>
      rw [hcheck, hcommands] at heq
      exact ⟨_, rfl, List.cons_ne_nil _ _, (Except.ok.inj heq).symm⟩

theorem bootLines_of_error {s : Settings} {files : Tree} {e : Failure}
    (h : deployed s files = .error e) : bootLines s files = .error e := by
  have heq := deployed_eq s files
  rw [h] at heq
  cases hlines : bootLines s files with
  | error f =>
    rw [hlines] at heq
    exact congrArg Except.error (Except.error.inj heq).symm
  | ok lines =>
    rw [hlines] at heq
    cases heq

theorem deployed_error {s : Settings} {files : Tree} {e : Failure}
    (h : deployed s files = .error e) :
    (∃ problems, e = .configuration problems) ∨ ∃ fault, s.bootProblems files = .error fault ∧
      e = .file fault s.bootScript.text := by
  rw [deployed] at h
  cases hcheck : s.check files with
  | error f =>
    rw [hcheck] at h
    cases h
    exact Settings.check_error hcheck
  | ok _ =>
    rw [hcheck] at h
    have hdata : (Bootstrap.userData s files arnPlaceholder regionPlaceholder).outcome =
        .error e := h
    obtain ⟨d, hd⟩ | ⟨hmode, problem, hspoilt⟩ :=
      Bootstrap.userData_of_check arnPlaceholder regionPlaceholder hcheck
    · rw [hd] at hdata
      cases hdata
    · rw [Bootstrap.userData_of_spoilt _ _ hcheck hmode hspoilt] at hdata
      cases hdata
      exact .inl ⟨_, rfl⟩

theorem deployed_of_check {s : Settings} {files : Tree} (hcheck : s.check files = .ok ())
    (hscript : s.mode? = some .script → ∃ content, s.bootScript.read files = .ok content ∧
      ¬content.all Bootstrap.isBlankByte) :
    ∃ d, (Bootstrap.userData s files arnPlaceholder regionPlaceholder).outcome = .ok d ∧
      deployed s files = .ok d := by
  obtain ⟨d, hd⟩ | ⟨hmode, problem, hspoilt⟩ :=
    Bootstrap.userData_of_check arnPlaceholder regionPlaceholder hcheck
  · refine ⟨d, hd, ?_⟩
    rw [deployed, hcheck]
    exact hd
  · obtain ⟨found, hfound, hfilled⟩ := hscript hmode
    cases hspoilt with
    | unreadable hread => cases hread.symm.trans hfound
    | blank hread hblank =>
      cases hread.symm.trans hfound
      exact absurd hblank hfilled

theorem userData_of_ok {w : World} {mode : Option BootMode} {d : Deferred}
    (h : deployed (chosen w mode) w.files = .ok d) (hd : Showable d.plain) :
    (userData w (mode.map BootMode.name)).exitCode = 0 ∧
    (userData w (mode.map BootMode.name)).failure? = none ∧
    (userData w (mode.map BootMode.name)).shown = d.plain ++ "\n" := by
  obtain ⟨lines, hlines, hne, htext⟩ := bootLines_of_ok h
  have hshowable : ∀ line ∈ lines, Showable line := by
    rw [← htext] at hd
    exact (showable_intercalate hne).mp hd
  have hall : userData w (mode.map BootMode.name) =
      { outcome := .ok (), output := lines.map fun line => .out (line ++ "\n") } := by
    rw [userData_eq, hlines, Session.ofExcept_ok_bind, Session.forM_say hshowable]
    rfl
  refine ⟨by rw [hall]; rfl, by rw [hall]; rfl, ?_⟩
  calc (userData w (mode.map BootMode.name)).shown
    _ = String.join (lines.map (· ++ "\n")) := by
      rw [hall, Session.shown, List.map_map]
      rfl
    _ = "\n".intercalate lines ++ "\n" := join_lines hne
    _ = d.plain ++ "\n" := by rw [htext]

theorem userData_of_error {w : World} {mode : Option BootMode} {e : Failure}
    (h : deployed (chosen w mode) w.files = .error e) :
    userData w (mode.map BootMode.name) = Session.report e := by
  rw [userData_eq, bootLines_of_error h, Session.ofExcept_error_bind]
  rfl

/-! ## The words of a call -/

def commandLine (level : Option String) (mode : Option BootMode) : List String :=
  (level.toList.flatMap fun l => [Switch.logLevel.long, l]) ++ Command.userData.name ::
    mode.toList.flatMap fun m => [Switch.mode.long, m.name]

theorem words_userData (level : Option String) (mode : Option BootMode) :
    commandLine level mode = (Invocation.userData mode).words level := by
  cases level <;> cases mode <;> rfl

theorem execute_commandLine {w : World} {level : Option String} {log : Nat} (mode : Option BootMode)
    (hcompletion : w.environment.nonempty w.program.completionVariable = none)
    (hlevel : threshold (level.getD w.program.logLevel) = .ok log) :
    execute w (commandLine level mode) = userData w (mode.map BootMode.name) := by
  rw [words_userData, execute_words (.userData mode) hcompletion hlevel]
  rfl

/-! ## The command -/

/-- What is printed is what is deployed, whole or not at all. -/
theorem printed_whole_or_not_at_all (w : World) (level : Option String) (mode : Option BootMode)
    (log : Nat) (hcompletion : w.environment.nonempty w.program.completionVariable = none)
    (hlevel : threshold (level.getD w.program.logLevel) = .ok log) :
    ((chosen w mode).check w.files = .ok () →
      ((chosen w mode).mode? = some .script → ∃ content,
        (chosen w mode).bootScript.read w.files = .ok content ∧
          ¬content.all Bootstrap.isBlankByte) →
      ∃ d, (Bootstrap.userData (chosen w mode) w.files arnPlaceholder regionPlaceholder).outcome =
          .ok d ∧
        (Showable d.plain →
          (execute w (commandLine level mode)).exitCode = 0 ∧
          (execute w (commandLine level mode)).failure? = none ∧
          (execute w (commandLine level mode)).shown = d.plain ++ "\n")) ∧
    (∀ e, deployed (chosen w mode) w.files = .error e →
      (execute w (commandLine level mode)).exitCode = 1 ∧
      (e.isForeseen → (execute w (commandLine level mode)).failure? = none ∧
        (execute w (commandLine level mode)).shown = "\n\n") ∧
      (e.isForeseen = false → (execute w (commandLine level mode)).failure? = some e ∧
        (execute w (commandLine level mode)).shown = "")) := by
  rw [execute_commandLine mode hcompletion hlevel]
  refine ⟨fun hcheck hscript => ?_, fun e he => ?_⟩
  · obtain ⟨d, hd, hdeployed⟩ := deployed_of_check hcheck hscript
    exact ⟨d, hd, userData_of_ok hdeployed⟩
  · rw [userData_of_error he]
    obtain ⟨problems, rfl⟩ | ⟨fault, _, rfl⟩ := deployed_error he
    · have hreport : (Session.report (.configuration problems) : Session Unit) =
          Session.giveUp (Failure.configuration problems).message := rfl
      have hshown := Session.shown_giveUp (α := Unit) (Failure.configuration problems).message
      rw [hreport]
      rw [Session.giveUp_eq] at hshown ⊢
      exact ⟨rfl, fun _ => ⟨rfl, hshown⟩, (nomatch ·)⟩
    · exact ⟨rfl, (nomatch ·), fun _ => ⟨rfl, rfl⟩⟩

/-! ## Environments that keep the script from being printed -/

theorem plain_default : ∀ line ∈ shebang :: (inlineCommands (chosen (worldOf []) none) arnPlaceholder
    regionPlaceholder).map Deferred.plain,
      Text.escapeChar ∉ line.toList ∧ Points.mark ∉ line.toList := by
  decide +kernel

theorem printed_whole_or_not_at_all_default :
    ∃ d, (Bootstrap.userData (chosen (worldOf []) none) .empty arnPlaceholder
        regionPlaceholder).outcome = .ok d ∧ Showable d.plain ∧
      (execute (worldOf []) (commandLine (some "debug") none)).exitCode = 0 ∧
      (execute (worldOf []) (commandLine (some "debug") none)).shown = d.plain ++ "\n" := by
  have hmode : (chosen (worldOf []) none).mode? = some .inline := by decide
  have hcheck : (chosen (worldOf []) none).check .empty = .ok () := ok_of_toOption (by decide)
  obtain ⟨d, hd, hshown⟩ := (printed_whole_or_not_at_all (worldOf []) (some "debug") none 10
    (by decide) (ok_of_toOption (by decide))).1 hcheck fun hscript => by
      rw [hmode] at hscript
      cases hscript
  have hplain : Showable d.plain := by
    rw [Bootstrap.userData_inline _ _ _ hmode] at hd
    rw [← Except.ok.inj hd, plain_render, showable_intercalate (by simp)]
    exact fun line hline => showable_of_no_mark (plain_default line hline)
  exact ⟨d, hd, hplain, (hshown hplain).1, (hshown hplain).2.2⟩

/-- The byte 0xFF stands in the name of the repository. -/
def undecodableUrl : String :=
  String.ofList ("https://example.com/".toList ++ Points.pointChars 0xDCFF ++ ".git".toList)

def undecodable : World := worldOf [("TEE_FLEET_REPO_URL", undecodableUrl)]

/-- Completions are asked for in a way that no shell has. -/
def completing : World := worldOf [(usualProgram.completionVariable, "x")]

theorem inline_front (s : Settings) (arn region : Deferred) :
    ∃ after, (inlineCommands s arn region).map Deferred.plain =
      ["su ec2-user", "sudo dnf install git aws-cli jq -y", "cd /home/ec2-user"] ++
        ("git clone " ++ s.repoUrl) :: after :=
  ⟨_, rfl⟩

/-- Where a surrogate stands in the repository's address, what is shown ends before it; and where
completions are asked for, nothing of the script is shown. -/
theorem script_cut_off :
    ((chosen undecodable none).check undecodable.files = .ok () ∧
      (chosen undecodable none).mode? = some .inline ∧
      (∀ d ∈ inlineCommands (chosen undecodable none) arnPlaceholder regionPlaceholder,
        Text.escapeChar ∉ d.plain.toList) ∧
      (execute undecodable (commandLine none none)).exitCode = 1 ∧
      (execute undecodable (commandLine none none)).shown =
        "#!/bin/bash\nsu ec2-user\nsudo dnf install git aws-cli jq -y\ncd /home/ec2-user\n") ∧
    ((chosen completing none).check completing.files = .ok () ∧
      (chosen completing none).mode? = some .inline ∧
      (∀ d ∈ inlineCommands (chosen completing none) arnPlaceholder regionPlaceholder,
        Text.escapeChar ∉ d.plain.toList) ∧
      (execute completing (commandLine none none)).exitCode = 1 ∧
      (execute completing (commandLine none none)).shown = "") := by
  have hcheck : (chosen undecodable none).check undecodable.files = .ok () :=
    ok_of_toOption (by decide)
  have hmode : (chosen undecodable none).mode? = some .inline := by decide
  have hurl : (chosen undecodable none).repoUrl = undecodableUrl := by decide
  have hdefault : chosen completing none = chosen (worldOf []) none := by decide
  refine ⟨⟨hcheck, hmode, by decide +kernel, ?_⟩,
    ⟨ok_of_toOption (by decide), by decide, fun d hd => ?_, rfl, rfl⟩⟩
  case refine_2 =>
    rw [hdefault] at hd
    exact (plain_default _ (List.mem_cons_of_mem _ (List.mem_map_of_mem hd))).1
  obtain ⟨after, hafter⟩ :=
    inline_front (chosen undecodable none) arnPlaceholder regionPlaceholder
  have hlines : bootLines (chosen undecodable none) undecodable.files = .ok ([shebang,
      "su ec2-user", "sudo dnf install git aws-cli jq -y", "cd /home/ec2-user"] ++
        ("git clone " ++ undecodableUrl) :: after) := by
    rw [bootLines, hcheck, bootCommands, hmode]
    rw [hurl] at hafter
    exact congrArg (fun lines => Except.ok (shebang :: lines)) hafter
  have hfault : ("git clone " ++ undecodableUrl ++ "\n").showFault? = some ⟨0xDCFF, 30, 1⟩ := by
    decide
  have hshowable : ∀ line ∈ [shebang, "su ec2-user", "sudo dnf install git aws-cli jq -y",
      "cd /home/ec2-user"], Showable line := by
    have hplain : ∀ line ∈ [shebang, "su ec2-user", "sudo dnf install git aws-cli jq -y",
        "cd /home/ec2-user"], Text.escapeChar ∉ line.toList ∧
          ∀ n ∈ line.points, Points.isSurrogate n = false := by decide
    exact fun line hline => ⟨(hplain line hline).1, (hplain line hline).2⟩
  have hlevel : threshold ((none : Option String).getD usualProgram.logLevel) = .ok 20 :=
    ok_of_toOption (by decide)
  have hexecute : execute undecodable (commandLine none none) = userData undecodable none :=
    execute_commandLine none (by decide) hlevel
  have hall : userData undecodable none =
      { outcome := .error (.failed (.unencodable ⟨0xDCFF, 30, 1⟩))
        output := [shebang, "su ec2-user", "sudo dnf install git aws-cli jq -y",
          "cd /home/ec2-user"].map fun line => .out (line ++ "\n") } := by
    have heq := userData_eq undecodable none
    rw [hlines, Session.ofExcept_ok_bind,
      Session.forM_say_of_fault hshowable (by decide) hfault] at heq
    exact heq
  rw [hexecute, hall]
  exact ⟨rfl, by decide⟩

end EnclaveFleet.Console
