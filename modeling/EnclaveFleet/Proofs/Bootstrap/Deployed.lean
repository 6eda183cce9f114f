import EnclaveFleet.Proofs.Bootstrap.ScriptWords
import EnclaveFleet.Proofs.Template.Flatten

/-!
# User data that are completed at deployment

The commands are written, and in mode script quoted, before the ARN and the region are known.

* `fenced_inline`, `fenced_script`: a document keeps the user data whole
* `resolve_inline`: mode inline says the same as if all had been known
* `Quoting.paired`: quotes hold where surrogates are joined
* `commands_of_paired_script`: mode script has the same words as if all had been known
-/
namespace EnclaveFleet
set_option autoImplicit false

open Template

/-! ## Quotes -/

namespace Shell

theorem isAscii_of_isPlain {c : Char} (h : isPlain c) : isAscii c := by
  rw [isPlain, Bool.or_eq_true] at h
  obtain h | h := h
  · have hrest : VariableName.isRest c := by
      rw [VariableName.isRest, Bool.or_eq_true]
      exact .inl h
    simpa [isAscii] using VariableName.ascii_of_isRest hrest
  · have hall : "_@%+=:,./-".toList.all isAscii = true := by decide
    exact List.all_eq_true.mp hall c (by simpa using h)

theorem endsAscii_enclosed {s : String} (h : endsAscii s) :
    endsAscii (String.ofList (enclosedChars s.toList)) := by
  rw [endsAscii] at h ⊢
  cases hlast : s.toList.getLast? with
  | none => simp [hlast] at h
  | some c =>
    have hc : isAscii c := by simpa [hlast] using h
    obtain ⟨init, hinit⟩ := List.getLast?_eq_some_iff.mp hlast
    rw [String.toList_ofList, hinit, Lexer.enclosedChars_append, enclosedChars, enclosedChars,
      List.flatMap_singleton]
    by_cases hquote : c = '\''
    · rw [if_pos hquote, List.getLast?_append]
      rfl
    · rw [if_neg hquote, List.getLast?_append]
      exact hc

theorem startsAscii_enclosed {s : String} (h : startsAscii s) :
    startsAscii (String.ofList (enclosedChars s.toList)) := by
  rw [startsAscii] at h ⊢
  rw [String.toList_ofList]
  cases hs : s.toList with
  | nil => simp [hs] at h
  | cons c cs =>
    have hc : isAscii c := by simpa [hs] using h
    rw [enclosedChars, List.flatMap_cons]
    by_cases hquote : c = '\''
    · rw [if_pos hquote]
      rfl
    · rw [if_neg hquote]
      exact hc

theorem fenced_enclosed {d : Deferred} (h : Fenced d) : Fenced (d.map enclosed) := by
  induction h with
  | nil => exact .nil
  | literal s _ ih => exact .literal _ ih
  | parameter p hs ht _ ih =>
    exact .parameter p (endsAscii_enclosed hs) (startsAscii_enclosed ht) ih

theorem fenced_quote {d : Deferred} (h : Fenced d) : Fenced (quote d) := by
  rw [quote]
  split
  · exact h
  · exact .literal "'" ((fenced_enclosed h).append (.literal "'" .nil))

theorem fenced_quote_single {d : Deferred} (h : Single d) : Fenced (quote d) := by
  obtain ⟨s, rfl⟩ | ⟨p, rfl⟩ := h
  · exact fenced_quote (.ofString s)
  · exact .parameter p (by decide) (by decide) (.literal "'" .nil)

/-- No quote appears where surrogates are joined, and none goes away. -/
theorem pairedChars_enclosedChars (cs : List Char) :
    pairedChars (enclosedChars cs) = enclosedChars (pairedChars cs) := by
  have hquote : isAscii '\'' := by decide
  -- The text is cut at its first quote, so the induction is on the length.
  induction hn : cs.length using Nat.strongRecOn generalizing cs with
  | ind n ih =>
    by_cases hmem : '\'' ∈ cs
    · obtain ⟨xs, ys, rfl, hxs⟩ := List.eq_append_cons_of_mem hmem
      have hlength : ys.length < n := by
        rw [← hn, List.length_append, List.length_cons]
        omega
      have hplain : '\'' ∉ pairedChars xs := fun h =>
        hxs (mem_of_mem_pairedChars hquote (by decide) h)
      have hwritten : ∀ as bs, '\'' ∉ as → enclosedChars (as ++ '\'' :: bs) =
          as ++ '\'' :: (['"', '\'', '"', '\''] ++ enclosedChars bs) := by
        intro as bs has
        rw [Lexer.enclosedChars_append, Lexer.enclosedChars_eq_self has]
        rfl
      have hquotes : ['"', '\'', '"', '\''].all isAscii = true := by decide
      rw [hwritten xs ys hxs, pairedChars_append_cons hquote, pairedChars_append_cons hquote,
        hwritten _ _ hplain, pairedChars_append_left (List.all_eq_true.mp hquotes),
        ih ys.length hlength ys rfl]
    · have hplain : '\'' ∉ pairedChars cs := fun h =>
        hmem (mem_of_mem_pairedChars hquote (by decide) h)
      rw [Lexer.enclosedChars_eq_self hmem, Lexer.enclosedChars_eq_self hplain]

theorem Lexer.Quoting.paired {q v : List Char} (h : Lexer.Quoting q v) :
    Lexer.Quoting (pairedChars q) (pairedChars v) := by
  cases h with
  | plain hne hall =>
    rw [pairedChars_of_ascii fun c hc => isAscii_of_isPlain (hall c hc)]
    exact .plain hne hall
  | enclosed =>
    have hquotes : pairedChars ('\'' :: enclosedChars v ++ ['\'']) =
        '\'' :: enclosedChars (pairedChars v) ++ ['\''] := by
      have hclose : pairedChars (enclosedChars v ++ ['\'']) =
          enclosedChars (pairedChars v) ++ ['\''] := by
        have hquote : ['\''].all isAscii = true := by decide
        rw [pairedChars_append_right (List.all_eq_true.mp hquote), pairedChars_enclosedChars]
      have hopen := pairedChars_append_cons (c := '\'') (by decide) [] (enclosedChars v ++ ['\''])
      rw [hclose] at hopen
      exact hopen
    rw [hquotes]
    exact .enclosed _

end Shell

namespace Bootstrap
open Shell.Lexer

/-! ## Fences -/

theorem fenced_fetchSecret {arn region : Deferred} (harn : Fenced arn) (hregion : Single region) :
    Fenced (fetchSecret arn region) := by
  have hrest : Fenced (.literal " --region " :: region ++
      .literal " --query SecretString --output text)" :: []) :=
    Fenced.between hregion (by decide) (by decide) (.literal _ .nil)
  have hall := Fenced.literal "SECRET_JSON=$(aws secretsmanager get-secret-value --secret-id "
    (harn.append hrest)
  simpa [fetchSecret] using hall

theorem fenced_checkout (s : Settings) : ∀ d ∈ checkout s, Fenced d := by
  rw [checkout, List.forall_mem_append]
  constructor
  · simp only [List.forall_mem_cons]
    exact ⟨.ofString _, .ofString _, by simp⟩
  · cases s.ref? with
    | none => simp
    | some ref =>
      simp only [List.forall_mem_singleton]
      exact .ofString _

theorem fenced_render {commands : List Deferred} (h : ∀ d ∈ commands, Fenced d) :
    Fenced (render commands) :=
  Fenced.joinWith "\n" (List.forall_mem_cons.mpr ⟨.ofString shebang, h⟩)

theorem fenced_inline (s : Settings) {arn region : Deferred} (harn : Fenced arn)
    (hregion : Single region) : Fenced (render (inlineCommands s arn region)) := by
  have hlines : ∀ f : String → String, ∀ d ∈ s.secretKeys.map (fun key => Deferred.ofString (f key)),
      Fenced d := by
    intro f d hd
    obtain ⟨key, _, rfl⟩ := List.mem_map.mp hd
    exact .ofString (f key)
  refine fenced_render ?_
  simp only [inlineCommands, List.forall_mem_append, List.forall_mem_cons, List.not_mem_nil,
    false_imp_iff, implies_true, and_true]
  exact ⟨⟨⟨⟨⟨⟨.ofString _, .ofString _, .ofString _⟩, fenced_checkout s⟩, .ofString _,
    fenced_fetchSecret harn hregion⟩, hlines extract⟩, hlines store⟩, .ofString _⟩

theorem fenced_script (s : Settings) {arn region : Deferred} (harn : Fenced arn)
    (hregion : Single region) (encoded : String) :
    Fenced (render ((exports s arn region).map (fun (name, value) => exportCommand name value) ++
      unpack encoded)) := by
  have hunpack : ∀ d ∈ unpack encoded, Fenced d := by
    simp only [unpack, List.forall_mem_cons, List.not_mem_nil, false_imp_iff, implies_true, and_true]
    exact ⟨.ofString _, .ofString _, .ofString _, .ofString _⟩
  refine fenced_render (List.forall_mem_append.mpr ⟨?_, hunpack⟩)
  simp only [exports, List.map_cons, List.map_nil, List.forall_mem_cons, List.not_mem_nil,
    false_imp_iff, implies_true, and_true, exportCommand]
  exact ⟨.literal _ (Shell.fenced_quote harn), .literal _ (Shell.fenced_quote_single hregion),
    .literal _ (Shell.fenced_quote (.ofString _)), .literal _ (Shell.fenced_quote (.ofString _)),
    .literal _ (Shell.fenced_quote (.ofString _)), .literal _ (Shell.fenced_quote (.ofString _)),
    .literal _ (Shell.fenced_quote (.ofString _))⟩

/-! ## Mode inline -/

variable (values : PseudoParameter → String)

theorem resolve_fetchSecret (arn region : Deferred) :
    (fetchSecret arn region).resolve values =
      (fetchSecret (.ofString (arn.resolve values)) (.ofString (region.resolve values))).plain := by
  simp [fetchSecret, Deferred.plain, Piece.resolve]

theorem resolve_checkout (s : Settings) :
    (checkout s).map (Deferred.resolve values) = (checkout s).map Deferred.plain := by
  rw [checkout]
  cases s.ref? with
  | none => simp [Deferred.plain]
  | some ref => simp [Deferred.plain]

theorem resolve_inline (s : Settings) (arn region : Deferred) :
    (render (inlineCommands s arn region)).resolve values =
      (render (inlineCommands s (.ofString (arn.resolve values))
        (.ofString (region.resolve values)))).plain := by
  have hcommands : (inlineCommands s arn region).map (Deferred.resolve values) =
      (inlineCommands s (.ofString (arn.resolve values)) (.ofString (region.resolve values))).map
        Deferred.plain := by
    have hlines : ∀ f : String → String,
        (s.secretKeys.map fun key => Deferred.ofString (f key)).map (Deferred.resolve values) =
          (s.secretKeys.map fun key => Deferred.ofString (f key)).map Deferred.plain := by
      intro f
      simp [Deferred.plain]
    simp only [inlineCommands, List.map_append, resolve_checkout, hlines extract, hlines store,
      List.map_cons, List.map_nil, resolve_fetchSecret, Deferred.resolve_ofString,
      Deferred.plain_ofString]
  rw [render, render, Deferred.plain, Deferred.resolve_joinWith, Deferred.resolve_joinWith,
    List.map_cons, List.map_cons, hcommands, Deferred.resolve_ofString, Deferred.resolve_ofString]
  rfl

theorem userData_inline {s : Settings} (files : Tree) (arn region : Deferred)
    (hmode : s.mode? = some .inline) :
    (userData s files arn region).outcome = .ok (render (inlineCommands s arn region)) := by
  rw [userData, hmode]
  rfl

/-! ## Mode script -/

theorem encodeScript_of_userData {s : Settings} {files : Tree} {arn region d : Deferred}
    (hmode : s.mode? = some .script) (h : (userData s files arn region).outcome = .ok d) :
    ∃ encoded, encodeScript files s.bootScript = .ok encoded := by
  rw [userData, hmode] at h
  obtain ⟨commands, hcommands, _⟩ := Run.exists_of_bind_ok h
  cases henc : encodeScript files s.bootScript with
  | error e =>
    rw [Run.ofExcept, scriptCommands, henc] at hcommands
    cases hcommands
  | ok encoded => exact ⟨encoded, rfl⟩

theorem resolve_exports (s : Settings) (arn region : Deferred) :
    (exports s arn region).map (fun (name, value) => (name, value.resolve values)) =
      (exports s (.ofString (arn.resolve values)) (.ofString (region.resolve values))).map
        fun (name, value) => (name, value.plain) := by
  simp only [exports, List.map_cons, List.map_nil, Deferred.resolve_ofString,
    Deferred.plain_ofString]

theorem pairedChars_intercalate (lines : List (List Char)) :
    pairedChars (['\n'].intercalate lines) = ['\n'].intercalate (lines.map pairedChars) := by
  induction lines with
  | nil => rfl
  | cons line lines ih =>
    cases lines with
    | nil => simp
    | cons next lines =>
      rw [List.intercalate_cons_cons, List.append_assoc, List.singleton_append,
        pairedChars_append_cons (by decide), ih]
      simp only [List.map_cons, List.intercalate_cons_cons, List.append_assoc,
        List.singleton_append]

theorem pairedChars_exportLine {name : String} (h : ∀ c ∈ name.toList, Shell.isPlain c)
    (quoted : List Char) : pairedChars (exportLine name quoted) =
      exportLine name (pairedChars quoted) := by
  rw [exportLine, exportLine]
  refine pairedChars_append_left (fun c hc => ?_) quoted
  rw [String.toList_append, String.toList_append, List.mem_append, List.mem_append] at hc
  obtain (hc | hc) | hc := hc
  · have hall : "export ".toList.all isAscii = true := by decide
    exact List.all_eq_true.mp hall c hc
  · exact Shell.isAscii_of_isPlain (h c hc)
  · obtain rfl : c = '=' := by simpa using hc
    decide

theorem pairedChars_unpackLines {encoded : String} (h : ∀ c ∈ encoded.toList, Shell.isPlain c) :
    (unpackLines encoded).map pairedChars = unpackLines encoded := by
  have hecho : ∀ c ∈ ("echo " ++ encoded ++ " | base64 --decode > " ++ scriptTarget).toList,
      isAscii c := by
    intro c hc
    rw [String.toList_append, String.toList_append, String.toList_append, List.mem_append,
      List.mem_append, List.mem_append] at hc
    have hall : "echo ".toList.all isAscii ∧ " | base64 --decode > ".toList.all isAscii ∧
        scriptTarget.toList.all isAscii := by decide
    obtain ((hc | hc) | hc) | hc := hc
    · exact List.all_eq_true.mp hall.1 c hc
    · exact Shell.isAscii_of_isPlain (h c hc)
    · exact List.all_eq_true.mp hall.2.1 c hc
    · exact List.all_eq_true.mp hall.2.2 c hc
  have hclosed : "mkdir -p /opt/tee-fleet".toList.all isAscii ∧
      ("chmod +x " ++ scriptTarget).toList.all isAscii ∧ scriptTarget.toList.all isAscii := by
    decide
  simp only [unpackLines, unpack, List.map_cons, List.map_nil, Deferred.plain_ofString,
    pairedChars_of_ascii hecho, pairedChars_of_ascii (List.all_eq_true.mp hclosed.1),
    pairedChars_of_ascii (List.all_eq_true.mp hclosed.2.1),
    pairedChars_of_ascii (List.all_eq_true.mp hclosed.2.2)]

theorem pairedChars_scriptLines {exports : List (String × List Char)} {encoded : String}
    (hnames : ∀ e ∈ exports, ∀ c ∈ e.1.toList, Shell.isPlain c)
    (hplain : ∀ c ∈ encoded.toList, Shell.isPlain c) :
    (scriptLines exports encoded).map pairedChars =
      scriptLines (exports.map fun (name, quoted) => (name, pairedChars quoted)) encoded := by
  have hshebang : shebang.toList.all isAscii = true := by decide
  have hexports : (exports.map fun (name, quoted) => exportLine name quoted).map pairedChars =
      (exports.map fun (name, quoted) => (name, pairedChars quoted)).map
        fun (name, quoted) => exportLine name quoted := by
    rw [List.map_map, List.map_map]
    refine List.map_congr_left fun e he => ?_
    obtain ⟨name, quoted⟩ := e
    simp only [Function.comp_apply, pairedChars_exportLine (hnames (name, quoted) he)]
  rw [scriptLines, scriptLines, List.map_append, List.map_cons, hexports,
    pairedChars_unpackLines hplain, pairedChars_of_ascii (List.all_eq_true.mp hshebang)]

/-- In a document the words of the user data hold the values as documents have them. -/
theorem commands_of_paired_script {s : Settings} {files : Tree} {encoded : String}
    (hv : ∀ p, '\'' ∉ (values p).toList) (arn region : Deferred)
    (henc : encodeScript files s.bootScript = .ok encoded) :
    commands? ((render ((exports s arn region).map (fun (name, value) => exportCommand name value) ++
      unpack encoded)).resolve values).paired =
    some ((exports s arn region).map
        (fun (name, value) => exportWords name (value.resolve values).paired) ++
      unpackWords encoded) := by
  obtain ⟨hne, hplain⟩ := isPlain_of_encodeScript henc
  have htext : ((render ((exports s arn region).map (fun (name, value) => exportCommand name value) ++
      unpack encoded)).resolve values).paired.toList =
      ['\n'].intercalate (scriptLines ((quotedExports values (exports s arn region)).map
        fun (name, quoted) => (name, pairedChars quoted)) encoded) := by
    rw [toList_paired, toList_resolve_script, pairedChars_intercalate,
      pairedChars_scriptLines isPlain_of_mem_quotedExports hplain]
  have hnames : ∀ e ∈ (quotedExports values (exports s arn region)).map
      (fun (name, quoted) => (name, pairedChars quoted)), ∀ c ∈ e.1.toList, Shell.isPlain c := by
    intro e he
    obtain ⟨x, hx, rfl⟩ := List.mem_map.mp he
    exact isPlain_of_mem_quotedExports x hx
  have hq : List.Forall₂ (fun e v => e.1 = v.1 ∧ Quoting e.2 v.2.toList)
      ((quotedExports values (exports s arn region)).map
        fun (name, quoted) => (name, pairedChars quoted))
      ((exports s arn region).map fun (name, value) => (name, (value.resolve values).paired)) := by
    rw [quotedExports, List.map_map, List.forall₂_map_left_iff, List.forall₂_map_right_iff]
    refine List.forall₂_same.mpr fun e _ => ?_
    obtain ⟨name, value⟩ := e
    simp only [Function.comp_apply, toList_paired, true_and]
    exact (quoting_quote values hv value).paired
  have hcommands := commands_of_exports htext hnames hq hne hplain
  rw [hcommands, List.map_map]
  rfl

/-- The words are those of the user data that are rendered for the values. -/
theorem commands_of_paired_plain {s : Settings} {files : Tree} {encoded : String}
    (arn region : Deferred)
    (henc : encodeScript files s.bootScript = .ok encoded) :
    commands? (render ((exports s (.ofString (arn.resolve values))
        (.ofString (region.resolve values))).map (fun (name, value) => exportCommand name value) ++
      unpack encoded)).plain.paired =
    some ((exports s arn region).map
        (fun (name, value) => exportWords name (value.resolve values).paired) ++
      unpackWords encoded) := by
  have hwords : (exports s arn region).map
      (fun (name, value) => exportWords name (value.resolve values).paired) =
      (exports s (.ofString (arn.resolve values)) (.ofString (region.resolve values))).map
        fun (name, value) => exportWords name value.plain.paired := by
    have hexports := congrArg (List.map fun e => exportWords e.1 e.2.paired)
      (resolve_exports values s arn region)
    rw [List.map_map, List.map_map] at hexports
    exact hexports
  rw [hwords]
  exact commands_of_paired_script (fun _ => "") (by simp) _ _ henc

end Bootstrap

end EnclaveFleet
