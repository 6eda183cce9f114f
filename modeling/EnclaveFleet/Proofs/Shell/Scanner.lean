import Mathlib.Data.List.Forall2

/-!
# Scanners

A scanner goes through a text character by character. With each of them its mode changes and tokens
come out; where it does not know what the text means it stops.

* `Scanner.run`: the mode behind a text and its tokens
* `Scanner.tokens?`, `Scanner.commands?`: the tokens of a script, and its lines of them
* `S.Reads m cs n ts`: from `m` the characters lead to `n` and give the tokens; `reads_cons` and
  `reads_append` take a text apart, `Reads.rest` goes on behind what was read
* `reads_along`: characters that are taken into a word one by one
* `Scanner.Lines`, `Scanner.ReadsLine`: the lines of tokens of a text, and those of one line;
  `lines_kept` takes away a line
* `commands_of_lines`: a script by its lines
-/
namespace EnclaveFleet.Shell
set_option autoImplicit false

structure Scanner (M T : Type) where
  step : M → Char → Option (M × List T)
  /-- At the beginning of a line. -/
  start : M
  /-- Ends a line. -/
  newline : T

namespace Scanner

section Run

variable {M T : Type} (S : Scanner M T)

def run : M → List Char → Option (M × List T)
  | m, [] => some (m, [])
  | m, c :: cs => do
    let (m, ts) ← S.step m c
    let (m, us) ← run m cs
    return (m, ts ++ us)

def Reads (m : M) (cs : List Char) (n : M) (ts : List T) : Prop := S.run m cs = some (n, ts)

instance [DecidableEq M] [DecidableEq T] (m n : M) (cs : List Char) (ts : List T) :
    Decidable (S.Reads m cs n ts) :=
  inferInstanceAs (Decidable (S.run m cs = some (n, ts)))

variable {S}

theorem Reads.nil (m : M) : S.Reads m [] m [] := rfl

theorem reads_nil {m n : M} {ts : List T} : S.Reads m [] n ts ↔ n = m ∧ ts = [] := by
  simp [Reads, run, eq_comm]

theorem reads_cons {m n : M} {c : Char} {cs : List Char} {ts : List T} :
    S.Reads m (c :: cs) n ts ↔
      ∃ k us vs, S.step m c = some (k, us) ∧ S.Reads k cs n vs ∧ ts = us ++ vs := by
  rw [Reads, run]
  cases hstep : S.step m c with
  | none => simp
  | some first =>
    obtain ⟨k, us⟩ := first
    cases hrun : S.run k cs with
    | none => simp [Reads, hrun]
    | some rest =>
      obtain ⟨j, vs⟩ := rest
      constructor
      · intro h
        obtain ⟨rfl, rfl⟩ : j = n ∧ us ++ vs = ts := by simpa [hrun] using h
        exact ⟨k, us, vs, rfl, hrun, rfl⟩
      · rintro ⟨k', us', vs', heq, hreads, rfl⟩
        cases heq
        rw [Reads, hrun] at hreads
        cases hreads
        simp [hrun]

theorem Reads.cons {m n k : M} {c : Char} {cs : List Char} {ts us : List T}
    (h : S.step m c = some (n, ts)) (hr : S.Reads n cs k us) : S.Reads m (c :: cs) k (ts ++ us) :=
  reads_cons.mpr ⟨n, ts, us, h, hr, rfl⟩

theorem reads_append {m n : M} {xs ys : List Char} {ts : List T} :
    S.Reads m (xs ++ ys) n ts ↔
      ∃ k us vs, S.Reads m xs k us ∧ S.Reads k ys n vs ∧ ts = us ++ vs := by
  induction xs generalizing m ts with
  | nil =>
    constructor
    · exact fun h => ⟨m, [], ts, .nil m, h, rfl⟩
    · rintro ⟨k, us, vs, hnil, h, rfl⟩
      obtain ⟨rfl, rfl⟩ := reads_nil.mp hnil
      exact h
  | cons x xs ih =>
    rw [List.cons_append, reads_cons]
    constructor
    · rintro ⟨j, us, vs, hstep, hrest, rfl⟩
      obtain ⟨k, ws, zs, hxs, hys, rfl⟩ := ih.mp hrest
      exact ⟨k, us ++ ws, zs, hxs.cons hstep, hys, (List.append_assoc us ws zs).symm⟩
    · rintro ⟨k, us, vs, hxs, hys, rfl⟩
      obtain ⟨j, ws, zs, hstep, hrest, rfl⟩ := reads_cons.mp hxs
      exact ⟨j, ws, zs ++ vs, hstep, ih.mpr ⟨k, zs, vs, hrest, hys, rfl⟩,
        List.append_assoc ws zs vs⟩

theorem Reads.append {m n k : M} {xs ys : List Char} {ts us : List T}
    (h : S.Reads m xs n ts) (hr : S.Reads n ys k us) : S.Reads m (xs ++ ys) k (ts ++ us) :=
  reads_append.mpr ⟨n, ts, us, h, hr, rfl⟩

/-- What is read of a text is determined. -/
theorem Reads.rest {m n k : M} {xs ys : List Char} {ts us : List T}
    (h : S.Reads m xs k us) (hall : S.Reads m (xs ++ ys) n ts) :
    ∃ vs, S.Reads k ys n vs ∧ ts = us ++ vs := by
  obtain ⟨k', us', vs, hxs, hys, rfl⟩ := reads_append.mp hall
  cases h.symm.trans hxs
  exact ⟨vs, hys, rfl⟩

/-- Characters that a mode takes into its word one by one. -/
theorem reads_along {G : Type} (mode : List G → M) (glyph : Char → G) (w : List G)
    {cs : List Char} (h : ∀ c ∈ cs, ∀ v, S.step (mode v) c = some (mode (v ++ [glyph c]), [])) :
    S.Reads (mode w) cs (mode (w ++ cs.map glyph)) [] := by
  induction cs generalizing w with
  | nil => simpa using Reads.nil (mode w)
  | cons c cs ih =>
    have hrest := ih (w ++ [glyph c]) fun d hd => h d (List.mem_cons_of_mem c hd)
    rw [List.append_assoc] at hrest
    exact hrest.cons (h c (by simp) w)

end Run

/-! ## Lines -/

section Lines

variable {M T : Type} [DecidableEq T] (S : Scanner M T)

/-- The lines that hold something. -/
def commands (ts : List T) : List (List T) :=
  (ts.splitOnP (· = S.newline)).filter (!·.isEmpty)

/-- The lines of tokens of a text, from the beginning of a line on. -/
def Lines (cs : List Char) (lines : List (List T)) : Prop :=
  ∃ ts, S.Reads S.start cs S.start ts ∧ S.commands ts = lines

def ReadsLine (line : List Char) (ts : List T) : Prop :=
  S.Reads S.start (line ++ ['\n']) S.start (ts ++ [S.newline]) ∧ S.newline ∉ ts

instance [DecidableEq M] (line : List Char) (ts : List T) : Decidable (S.ReadsLine line ts) :=
  inferInstanceAs (Decidable (_ ∧ _))

variable {S}

theorem commands_nil : S.commands [] = [] := by
  simp [commands]

theorem commands_of_no_newline {ts : List T} (hne : ts ≠ []) (h : S.newline ∉ ts) :
    S.commands ts = [ts] := by
  have hts : ∀ t ∈ ts, decide (t = S.newline) = false := fun t ht =>
    decide_eq_false fun e => h (e ▸ ht)
  rw [commands, List.splitOnP_eq_singleton hts]
  simpa using hne

theorem commands_line {ts : List T} (h : S.newline ∉ ts) (us : List T) :
    S.commands (ts ++ S.newline :: us) = [ts].filter (!·.isEmpty) ++ S.commands us := by
  have hts : ∀ t ∈ ts, decide (t = S.newline) = false := fun t ht =>
    decide_eq_false fun e => h (e ▸ ht)
  have hsplit := List.splitOnP_append_cons_of_forall_mem hts S.newline (by simp) us
  rw [commands, hsplit, ← List.singleton_append, List.filter_append]
  rfl

/-- The rest of a line that has begun. -/
theorem line_of_commands {ts us line : List T} {more : List (List T)} (hne : ts ≠ [])
    (h : S.newline ∉ ts) (hcommands : S.commands (ts ++ us) = (ts ++ line) :: more)
    (hmore : more ≠ []) :
    ∃ vs, us = line ++ S.newline :: vs := by
  by_cases hnew : S.newline ∈ us
  · obtain ⟨start, vs, rfl, hstart⟩ := List.eq_append_cons_of_mem hnew
    have hline : S.newline ∉ ts ++ start := by simp [h, hstart]
    have hfilter : [ts ++ start].filter (!·.isEmpty) = [ts ++ start] := by simp [hne]
    rw [← List.append_assoc, commands_line hline, hfilter, List.singleton_append] at hcommands
    exact ⟨vs, by rw [List.append_cancel_left (List.cons.inj hcommands).1]⟩
  · have hnone : S.newline ∉ ts ++ us := by simp [h, hnew]
    rw [commands_of_no_newline (by simp [hne]) hnone] at hcommands
    exact absurd (List.cons.inj hcommands).2.symm hmore

theorem lines_nil : S.Lines [] [] := ⟨[], .nil _, commands_nil⟩

theorem lines_kept {line : List Char} {ts : List T} (h : S.ReadsLine line ts) (cs : List Char)
    (more : List (List T)) :
    S.Lines (line ++ '\n' :: cs) ([ts].filter (!·.isEmpty) ++ more) ↔ S.Lines cs more := by
  have hsplit : line ++ '\n' :: cs = (line ++ ['\n']) ++ cs := by simp
  have hcommands (us : List T) : S.commands ((ts ++ [S.newline]) ++ us) =
      [ts].filter (!·.isEmpty) ++ S.commands us := by
    rw [List.append_assoc, List.singleton_append, commands_line h.2]
  rw [hsplit]
  constructor
  · rintro ⟨us, hall, hlines⟩
    obtain ⟨vs, hcs, rfl⟩ := h.1.rest hall
    rw [hcommands] at hlines
    exact ⟨vs, hcs, List.append_cancel_left hlines⟩
  · rintro ⟨us, hcs, rfl⟩
    exact ⟨_, h.1.append hcs, hcommands us⟩

theorem lines_blank {line cs : List Char} {more : List (List T)} (h : S.ReadsLine line []) :
    S.Lines (line ++ '\n' :: cs) more ↔ S.Lines cs more :=
  lines_kept h cs more

theorem lines_line {line cs : List Char} {ts : List T} {more : List (List T)}
    (h : S.ReadsLine line ts) (hne : ts ≠ []) :
    S.Lines (line ++ '\n' :: cs) (ts :: more) ↔ S.Lines cs more := by
  have hkept : [ts].filter (!·.isEmpty) = [ts] := by simp [hne]
  have hlines := lines_kept h cs more
  rwa [hkept] at hlines

theorem lines_flatMap {lines : List (List Char)} {tss : List (List T)}
    (h : List.Forall₂ S.ReadsLine lines tss) :
    S.Lines (lines.flatMap (· ++ ['\n'])) (tss.filter (!·.isEmpty)) := by
  induction h with
  | nil => exact lines_nil
  | @cons line ts lines tss hline _ ih =>
    have hrest := (lines_kept hline _ _).mpr ih
    rw [← List.filter_append] at hrest
    simpa using hrest

theorem lines_flatMap_of_ne_nil {lines : List (List Char)} {tss : List (List T)}
    (h : List.Forall₂ S.ReadsLine lines tss) (hne : ∀ ts ∈ tss, ts ≠ []) :
    S.Lines (lines.flatMap (· ++ ['\n'])) tss := by
  have hkept : tss.filter (!·.isEmpty) = tss :=
    List.filter_eq_self.mpr fun ts hts => by simpa using hne ts hts
  exact hkept ▸ lines_flatMap h

end Lines

/-! ## Scripts -/

section Script

variable {M T : Type} [DecidableEq M] (S : Scanner M T)

/-- The last line ends like the others. -/
def tokens? (text : String) : Option (List T) :=
  match S.run S.start (text.toList ++ ['\n']) with
  | some (m, ts) => if m = S.start then some ts else none
  | none => none

theorem tokens_eq_some_iff {S : Scanner M T} {text : String} {ts : List T} :
    S.tokens? text = some ts ↔ S.Reads S.start (text.toList ++ ['\n']) S.start ts := by
  rw [tokens?, Reads]
  cases S.run S.start (text.toList ++ ['\n']) with
  | none => simp
  | some last =>
    obtain ⟨m, us⟩ := last
    by_cases hm : m = S.start <;> simp [hm]

variable [DecidableEq T]

def commands? (text : String) : Option (List (List T)) :=
  (S.tokens? text).map S.commands

variable {S}

theorem commands_eq_some_iff {text : String} {lines : List (List T)} :
    S.commands? text = some lines ↔ S.Lines (text.toList ++ ['\n']) lines := by
  rw [commands?, Option.map_eq_some_iff]
  constructor
  · rintro ⟨ts, hts, rfl⟩
    exact ⟨ts, tokens_eq_some_iff.mp hts, rfl⟩
  · rintro ⟨ts, hts, rfl⟩
    exact ⟨ts, tokens_eq_some_iff.mpr hts, rfl⟩

theorem intercalate_newline (line : List Char) (lines : List (List Char)) :
    ['\n'].intercalate (line :: lines) ++ ['\n'] = (line :: lines).flatMap (· ++ ['\n']) := by
  induction lines generalizing line with
  | nil => simp
  | cons next lines ih =>
    rw [List.intercalate_cons_cons, List.append_assoc, ih next, List.flatMap_cons]
    simp

theorem commands_of_lines {text : String} {lines : List (List Char)} {tss : List (List T)}
    (ht : text.toList = ['\n'].intercalate lines) (hne : lines ≠ [])
    (h : List.Forall₂ S.ReadsLine lines tss) :
    S.commands? text = some (tss.filter (!·.isEmpty)) := by
  obtain ⟨line, rest, rfl⟩ := List.exists_cons_of_ne_nil hne
  rw [commands_eq_some_iff, ht, intercalate_newline]
  exact lines_flatMap h

end Script

end Scanner
end EnclaveFleet.Shell
