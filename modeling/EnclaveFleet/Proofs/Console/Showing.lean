import EnclaveFleet.Console.Session
import EnclaveFleet.Proofs.Text.Cuts

/-!
# What a session shows

Lines without terminal escapes and surrogates appear as they are. The first line with a surrogate
ends the session where it is.

* `Session.shown`, `Session.shownBeside`: what was shown of the answers and beside them
* `Session.standardOutput_eq`, `Session.standardError_eq`: the two streams are that with plain
  breaks
* `Showable`: the texts that appear as they are
* `Writable`: the lines that appear, with their terminal escapes left out
* `showable_intercalate`: lines appear as they are if all of them do
* `say_of_showable`, `forM_say`: one line, and line after line
* `forM_put`, `forM_put_of_not`: lines of which something else is shown, all of them or up to one
  with a surrogate
* `forM_say_of_writable`, `forM_print`: the same for lines said and fields printed
* `forM_say_of_fault`: the lines up to one with a surrogate
* `giveUp_eq`: a failure that is told shows two blank lines
* `reporting_of_failed`, `exitCode_report`: a session that fails ends with a report
-/
namespace EnclaveFleet.Console
set_option autoImplicit false

variable {α β : Type}

/-! ## Answers -/

def Output.answer : Output → String
  | .out text => text
  | .err _ | .record _ => ""

def Session.shown (r : Session α) : String := String.join (r.output.map Output.answer)

theorem Session.standardOutput_eq (r : Session α) : r.standardOutput = r.shown.plainBreaks := by
  rw [standardOutput, shown]
  congr 3

def Output.remark (time : String) : Output → String
  | .out _ => ""
  | .err text => text.escapeSurrogates
  | .record r => (r.line time ++ "\n").escapeSurrogates

def Session.shownBeside (r : Session α) (time : String) : String :=
  String.join (r.output.map (Output.remark time))

theorem Session.standardError_eq (r : Session α) (time : String) :
    r.standardError time = (r.shownBeside time).plainBreaks := by
  rw [standardError, shownBeside]
  congr 3

theorem Session.shown_andThen (r : Session α) (t : Session β) :
    (r.andThen t).shown = r.shown ++ t.shown := by
  rw [shown, andThen, List.map_append, String.join_append]
  rfl

theorem Session.shownBeside_andThen (r : Session α) (t : Session β) (time : String) :
    (r.andThen t).shownBeside time = r.shownBeside time ++ t.shownBeside time := by
  rw [shownBeside, andThen, List.map_append, String.join_append]
  rfl

theorem answers_out (f : α → String) (items : List α) :
    String.join ((items.map fun item => Output.out (f item)).map Output.answer) =
      String.join (items.map f) := by
  rw [List.map_map]
  rfl

theorem remarks_out (time : String) (f : α → String) (items : List α) :
    String.join ((items.map fun item => Output.out (f item)).map (Output.remark time)) = "" := by
  induction items with
  | nil => rfl
  | cons item items ih =>
    rw [List.map_cons, List.map_cons, String.join_cons, ih]
    rfl

theorem Session.shown_ofRun (threshold : Nat) (r : Run α) : (ofRun threshold r).shown = "" := by
  rw [shown, ofRun]
  induction r.logs.filter fun record => decide (threshold ≤ record.level.severity) with
  | nil => rfl
  | cons record records ih =>
    rw [List.map_cons, List.map_cons, String.join_cons, ih]
    rfl

theorem escapeSurrogates_append {front : String} (h : Points.mark ∉ front.toList) (s : String) :
    (front ++ s).escapeSurrogates = front ++ s.escapeSurrogates := by
  have hpoints : (front ++ s).points = front.toList.map Char.toNat ++ s.points := by
    rw [String.points, String.toList_append, Points.ofChars_append_of_no_mark h]
    rfl
  have hescape : Text.escapeSurrogates (front.toList.map Char.toNat) =
      front.toList.map Char.toNat := by
    rw [Text.escapeSurrogates, List.flatMap_map, List.map_eq_flatMap]
    simp only [Points.isSurrogate_toNat, Bool.false_eq_true, if_false]
  have hsplit : Text.escapeSurrogates (front.toList.map Char.toNat ++ s.points) =
      front.toList.map Char.toNat ++ Text.escapeSurrogates s.points := by
    rw [Text.escapeSurrogates, List.flatMap_append]
    exact congrArg (· ++ _) hescape
  rw [String.escapeSurrogates, hpoints, hsplit, String.ofPoints, Points.toChars,
    List.flatMap_append, String.ofList_append]
  refine congrArg (· ++ s.escapeSurrogates) ?_
  exact (congrArg String.ofList (Points.toChars_of_no_mark h)).trans String.ofList_toList

theorem escapeSurrogates_eq_self {s : String} (h : Points.mark ∉ s.toList) :
    s.escapeSurrogates = s := by
  have hall := escapeSurrogates_append h ""
  rwa [String.append_empty, show "".escapeSurrogates = "" from rfl, String.append_empty] at hall

/-! ## Texts that appear as they are -/

structure Showable (text : String) : Prop where
  noEscape : Text.escapeChar ∉ text.toList
  noSurrogate : ∀ n ∈ text.points, Points.isSurrogate n = false

theorem points_append_cut {cut : String} {c : Char} (hcut : cut.toList = [c]) (hc : isAscii c)
    (front rest : String) : (front ++ cut ++ rest).points =
      front.points ++ c.toNat :: rest.points := by
  rw [String.points, String.toList_append, String.toList_append, hcut, List.append_assoc,
    List.singleton_append, Points.ofChars_append_cons hc]
  rfl

theorem points_line (line : String) : (line ++ "\n").points = line.points ++ [10] := by
  have h := points_append_cut (show "\n".toList = ['\n'] by decide) (by decide) line ""
  rwa [String.append_empty] at h

theorem escapeSurrogates_line (line : String) :
    (line ++ "\n").escapeSurrogates = line.escapeSurrogates ++ "\n" := by
  rw [String.escapeSurrogates, points_line, Text.escapeSurrogates, List.flatMap_append,
    String.ofPoints, Points.toChars, List.flatMap_append, String.ofList_append]
  rfl

theorem dropEscapes_append_line {front : String} (h : Text.escapeChar ∉ front.toList)
    (line : String) : (front ++ line ++ "\n").dropEscapes = front ++ line.dropEscapes ++ "\n" := by
  have hbreak : "\n".toList = ['\n'] := by decide
  rw [String.dropEscapes, String.toList_append, String.toList_append, List.append_assoc,
    Text.dropEscapes_append h, hbreak, Text.dropEscapes_append_newline, ← List.append_assoc,
    String.ofList_append, String.ofList_append, String.ofList_toList]
  rfl

theorem dropEscapes_line {line : String} (h : Text.escapeChar ∉ line.toList) :
    (line ++ "\n").dropEscapes = line ++ "\n" := by
  have hline := dropEscapes_append_line h ""
  rwa [String.append_empty, show "".dropEscapes = "" from rfl, String.append_empty] at hline

theorem showFault_line_eq_none_iff {line : String} :
    (line ++ "\n").showFault? = none ↔ ∀ n ∈ line.points, Points.isSurrogate n = false := by
  rw [String.showFault?, Points.encodingFault?, Points.encodingFaultFrom_eq_none_iff, points_line]
  constructor
  · intro h n hn
    exact Bool.eq_false_iff.mpr fun hsurrogate =>
      Bool.false_ne_true (h n (List.mem_append_left _ hn) hsurrogate)
  · intro h n hn
    obtain hn | hn := List.mem_append.mp hn
    · rw [h n hn]
      exact fun hfalse => hfalse
    · rw [List.mem_singleton.mp hn]
      decide

theorem showable_of_no_mark {text : String}
    (h : Text.escapeChar ∉ text.toList ∧ Points.mark ∉ text.toList) : Showable text := by
  refine ⟨h.1, fun n hn => ?_⟩
  rw [String.points, Points.ofChars_of_no_mark h.2] at hn
  obtain ⟨c, _, rfl⟩ := List.mem_map.mp hn
  exact Points.isSurrogate_toNat c

theorem showable_append_cut {cut : String} {c : Char} (hcut : cut.toList = [c]) (hc : isAscii c)
    (hescape : Text.escapeChar ≠ c) {front rest : String} :
    Showable (front ++ cut ++ rest) ↔ Showable front ∧ Showable rest := by
  have hnot : Text.escapeChar ∉ cut.toList := by rwa [hcut, List.mem_singleton]
  constructor
  · rintro ⟨hescape, hsurrogate⟩
    rw [String.toList_append, String.toList_append] at hescape
    rw [points_append_cut hcut hc] at hsurrogate
    simp only [List.mem_append, not_or] at hescape
    exact ⟨⟨hescape.1.1, fun n hn => hsurrogate n (by simp [hn])⟩,
      ⟨hescape.2, fun n hn => hsurrogate n (by simp [hn])⟩⟩
  · rintro ⟨⟨hescape, hsurrogate⟩, hescape', hsurrogate'⟩
    refine ⟨?_, fun n hn => ?_⟩
    · rw [String.toList_append, String.toList_append, List.mem_append, List.mem_append]
      exact not_or.mpr ⟨not_or.mpr ⟨hescape, hnot⟩, hescape'⟩
    · rw [points_append_cut hcut hc, List.mem_append, List.mem_cons] at hn
      obtain hn | rfl | hn := hn
      · exact hsurrogate n hn
      · exact Points.isSurrogate_toNat c
      · exact hsurrogate' n hn

theorem showable_append_newline {line rest : String} :
    Showable (line ++ "\n" ++ rest) ↔ Showable line ∧ Showable rest :=
  showable_append_cut (show "\n".toList = ['\n'] by decide) (by decide) (by decide)

theorem showable_append_space {front rest : String} :
    Showable (front ++ " " ++ rest) ↔ Showable front ∧ Showable rest :=
  showable_append_cut (show " ".toList = [' '] by decide) (by decide) (by decide)

theorem showable_intercalate {lines : List String} (hne : lines ≠ []) :
    Showable ("\n".intercalate lines) ↔ ∀ line ∈ lines, Showable line := by
  induction lines with
  | nil => exact absurd rfl hne
  | cons line lines ih =>
    cases lines with
    | nil => simp
    | cons next lines =>
      rw [String.intercalate_cons_cons, showable_append_newline, ih (by simp)]
      exact List.forall_mem_cons.symm

/-- What is left of the line without terminal escapes has bytes. -/
def Writable (line : String) : Prop := (line ++ "\n").dropEscapes.showFault? = none

instance (line : String) : Decidable (Writable line) :=
  inferInstanceAs (Decidable ((line ++ "\n").dropEscapes.showFault? = none))

theorem writable_of_showable {line : String} (h : Showable line) : Writable line := by
  rw [Writable, dropEscapes_line h.noEscape, showFault_line_eq_none_iff]
  exact h.noSurrogate

theorem join_lines {lines : List String} (hne : lines ≠ []) :
    String.join (lines.map (· ++ "\n")) = "\n".intercalate lines ++ "\n" := by
  induction lines with
  | nil => exact absurd rfl hne
  | cons line lines ih =>
    cases lines with
    | nil => simp
    | cons next lines =>
      rw [List.map_cons, String.join_cons, ih (by simp), String.intercalate_cons_cons]
      simp only [String.append_assoc]

/-! ## Lines -/

namespace Session

theorem say_of_showable {line : String} (h : Showable line) :
    say line = emit (.out (line ++ "\n")) := by
  rw [say, dropEscapes_line h.noEscape, put,
    showFault_line_eq_none_iff.mpr h.noSurrogate]

theorem forM_cons (f : String → Session Unit) (line : String) (lines : List String) :
    (line :: lines).forM f = (f line).bind fun _ => lines.forM f := rfl

/-- What is shown of each line has bytes. -/
theorem forM_put {f : String → String} {lines : List String}
    (h : ∀ line ∈ lines, (f line).showFault? = none) :
    lines.forM (fun line => put (f line)) =
      { outcome := .ok (), output := lines.map fun line => .out (f line) } := by
  induction lines with
  | nil => rfl
  | cons line lines ih =>
    obtain ⟨hline, hlines⟩ := List.forall_mem_cons.mp h
    rw [forM_cons, ih hlines, put, hline]
    rfl

/-- What is shown of some line has none, and the session ends there. -/
theorem forM_put_of_not {f : String → String} {lines : List String}
    (h : ¬∀ line ∈ lines, (f line).showFault? = none) :
    ∃ fault output, lines.forM (fun line => put (f line)) =
      { outcome := .error (.failed (.unencodable fault)), output := output } := by
  induction lines with
  | nil => exact absurd (fun line hline => nomatch hline) h
  | cons line lines ih =>
    rw [forM_cons, put]
    cases hline : (f line).showFault? with
    | some fault => exact ⟨fault, [], rfl⟩
    | none =>
      obtain ⟨fault, output, hlines⟩ := ih fun hall => h (List.forall_mem_cons.mpr ⟨hline, hall⟩)
      refine ⟨fault, .out (f line) :: output, ?_⟩
      rw [hlines]
      rfl

theorem forM_say_of_writable {lines : List String} (h : ∀ line ∈ lines, Writable line) :
    lines.forM say =
      { outcome := .ok (), output := lines.map fun line => .out (line ++ "\n").dropEscapes } :=
  forM_put h

theorem forM_say_of_not {lines : List String} (h : ¬∀ line ∈ lines, Writable line) :
    ∃ fault output, lines.forM say =
      { outcome := .error (.failed (.unencodable fault)), output := output } :=
  forM_put_of_not h

theorem outcome_forM_say_iff {lines : List String} {a : Unit} :
    (lines.forM say).outcome = .ok a ↔ ∀ line ∈ lines, Writable line := by
  by_cases h : ∀ line ∈ lines, Writable line
  · rw [forM_say_of_writable h]
    exact iff_of_true rfl h
  · obtain ⟨fault, output, hsay⟩ := forM_say_of_not h
    rw [hsay]
    exact iff_of_false (by simp) h

theorem forM_say_ne_exit (lines : List String) (code : Nat) :
    (lines.forM say).outcome ≠ .error (.exit code) := by
  by_cases h : ∀ line ∈ lines, Writable line
  · rw [forM_say_of_writable h]
    simp
  · obtain ⟨fault, output, hsay⟩ := forM_say_of_not h
    rw [hsay]
    simp

theorem forM_say {lines : List String} (h : ∀ line ∈ lines, Showable line) :
    lines.forM say =
      { outcome := .ok (), output := lines.map fun line => .out (line ++ "\n") } := by
  have houtput : lines.map (fun line => Output.out (line ++ "\n").dropEscapes) =
      lines.map fun line => .out (line ++ "\n") :=
    List.map_congr_left fun line hline => by rw [dropEscapes_line (h line hline).noEscape]
  rw [forM_say_of_writable fun line hline => writable_of_showable (h line hline), houtput]

theorem forM_print {lines : List String}
    (h : ∀ line ∈ lines, ∀ n ∈ line.points, Points.isSurrogate n = false) :
    lines.forM print =
      { outcome := .ok (), output := lines.map fun line => .out (line ++ "\n") } :=
  forM_put fun line hline => showFault_line_eq_none_iff.mpr (h line hline)

theorem forM_print_of_not {lines : List String}
    (h : ¬∀ line ∈ lines, ∀ n ∈ line.points, Points.isSurrogate n = false) :
    ∃ fault output, lines.forM print =
      { outcome := .error (.failed (.unencodable fault)), output := output } :=
  forM_put_of_not fun hall => h fun line hline => showFault_line_eq_none_iff.mp (hall line hline)

/-- The lines before one with a surrogate are shown, and nothing after them. -/
theorem forM_say_of_fault {before after : List String} {line : String} {fault : EncodingFault}
    (hbefore : ∀ l ∈ before, Showable l) (hescape : Text.escapeChar ∉ line.toList)
    (hfault : (line ++ "\n").showFault? = some fault) :
    (before ++ line :: after).forM say =
      { outcome := .error (.failed (.unencodable fault))
        output := before.map fun l => .out (l ++ "\n") } := by
  induction before with
  | nil =>
    have hline : say line = stop (.failed (.unencodable fault)) := by
      rw [say, dropEscapes_line hescape, put, hfault]
    rw [List.nil_append, forM_cons, hline]
    rfl
  | cons l before ih =>
    have hline := say_of_showable (hbefore l (by simp))
    have hlines := ih fun m hm => hbefore m (by simp [hm])
    rw [List.cons_append, forM_cons, hline, hlines]
    rfl

theorem ofExcept_ok_bind (a : α) (f : α → Session β) :
    (ofExcept (.ok a)).bind f = f a :=
  pure_bind a f

theorem ofExcept_error_bind (e : Failure) (f : α → Session β) :
    (ofExcept (.error e)).bind f = stop (.failed e) := rfl

theorem say_blank : say "" = emit (.out "\n") :=
  say_of_showable ⟨by decide, fun n hn => by cases hn⟩

theorem giveUp_eq (message : String) :
    (giveUp message : Session α) =
      { outcome := .error (.exit 1)
        output := [.out "\n", .err ("❌ " ++ message ++ "\n").dropEscapes, .out "\n"] } := by
  have hsteps : (giveUp message : Session α) = (say "").bind fun _ =>
      (complain ("❌ " ++ message)).bind fun _ => (say "").bind fun _ => exit 1 := rfl
  rw [hsteps, say_blank]
  rfl

theorem exitCode_report (e : Failure) : (report e : Session α).exitCode = 1 := by
  unfold report
  split
  · rw [giveUp_eq]
    rfl
  · split
    · rw [giveUp_eq]
      rfl
    · rfl

theorem reporting_of_failed {r : Session α} {e : Failure} (h : r.outcome = .error (.failed e)) :
    reporting r = r.andThen (report e) := by
  unfold reporting
  rw [h]

theorem reporting_of_none {r : Session α} (h : r.failure? = none) : reporting r = r := by
  unfold reporting
  split
  · next e he =>
    rw [failure?, he] at h
    cases h
  · rfl

/-- A report does not change the exit code. -/
theorem exitCode_reporting (r : Session α) : (reporting r).exitCode = r.exitCode := by
  cases hr : r.outcome with
  | ok a => rw [reporting, hr]
  | error s =>
    cases s with
    | exit code => rw [reporting, hr]
    | failed e =>
      have hfailed : r.exitCode = 1 := by rw [exitCode, hr]
      rw [reporting_of_failed hr, hfailed]
      exact exitCode_report e

theorem shown_giveUp (message : String) : (giveUp message : Session α).shown = "\n\n" := by
  rw [giveUp_eq]
  rfl

end Session
end EnclaveFleet.Console
