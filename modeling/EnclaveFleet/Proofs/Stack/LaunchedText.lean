import EnclaveFleet.Proofs.Bootstrap.Deployed
import EnclaveFleet.Proofs.Stack.Layout
import EnclaveFleet.Stack.Assembly

/-!
# What a deployed stack boots

The template of a stack holds the user data in pieces. Once the deployment has put them together,
the hosts get what would have been written for the ARN and the region of the deployment, and their
role lets them read the secret of that ARN. A document has the surrogates of a text joined, which
`String.paired` says; a text without surrogates is in it as it is (`paired_eq_self_of_no_mark`).

* `build_eq_ok_iff`: when a stack is built, and what it is
* `build_of_inline`, `build_of_script`: stacks of accepted settings are built
* `build_of_synthesizeAt`, `build_of_synthesize`: every stack that is synthesized was built
* `ofKind_launchTemplate`, `ofKind_policy`: the one launch template and the one policy
* `bootText?`, `readableSecret?`: what a document says of both, once it is deployed
* `boots_what_is_rendered`: the two as they are for the values of the deployment
-/
namespace EnclaveFleet.Stack
set_option autoImplicit false

open Template

/-! ## The ARN and the region -/

theorem single_region (p : Placement) : Single p.region := by
  rw [Placement.region]
  cases p.region? with
  | none => exact .inr ⟨.region, rfl⟩
  | some r => exact .inl ⟨r, rfl⟩

theorem single_account (p : Placement) : Single p.account := by
  rw [Placement.account]
  cases p.account? with
  | none => exact .inr ⟨.accountId, rfl⟩
  | some a => exact .inl ⟨a, rfl⟩

theorem fenced_secretArn (s : Settings) (p : Placement) : Fenced (secretArn s p) := by
  have hname : startsAscii (":secret:" ++ s.secretName) :=
    startsAscii_append (by decide) s.secretName
  have haccount : Fenced
      (.literal ":" :: p.account ++ .literal (":secret:" ++ s.secretName) :: []) :=
    Fenced.between (single_account p) (by decide) hname (.literal _ .nil)
  have hregion : Fenced (.literal ":secretsmanager:" :: p.region ++
      .literal ":" :: (p.account ++ .literal (":secret:" ++ s.secretName) :: [])) :=
    Fenced.between (single_region p) (by decide) (by decide) haccount
  have hall := Fenced.parameter (s := "arn:") .partition (by decide) (by decide) hregion
  simpa [secretArn] using hall

def regionAt (values : PseudoParameter → String) (p : Placement) : String :=
  p.region?.getD (values .region)

def arnAt (values : PseudoParameter → String) (s : Settings) (p : Placement) : String :=
  "arn:" ++ values .partition ++ ":secretsmanager:" ++ regionAt values p ++ ":" ++
    p.account?.getD (values .accountId) ++ ":secret:" ++ s.secretName

theorem resolve_region (values : PseudoParameter → String) (p : Placement) :
    p.region.resolve values = regionAt values p := by
  rw [Placement.region, regionAt]
  cases p.region? with
  | none => simp [Deferred.ofParameter, Piece.resolve]
  | some r => simp

theorem resolve_secretArn (values : PseudoParameter → String) (s : Settings) (p : Placement) :
    (secretArn s p).resolve values = arnAt values s p := by
  have haccount : p.account.resolve values = p.account?.getD (values .accountId) := by
    rw [Placement.account]
    cases p.account? with
    | none => simp [Deferred.ofParameter, Piece.resolve]
    | some a => simp
  simp [secretArn, arnAt, Piece.resolve, haccount, resolve_region, String.append_assoc]

/-! ## Stacks that are built -/

theorem build_eq_ok_iff {s : Settings} {files : Tree} {p : Placement} {t : Template} :
    (build s files p).outcome = .ok t ↔
      s.check files = .ok () ∧ p.checkName = .ok () ∧ ∃ d,
        (Bootstrap.userData s files (secretArn s p) p.region).outcome = .ok d ∧
          t = template s p d := by
  constructor
  · intro h
    rw [build] at h
    obtain ⟨_, hcheck, h⟩ := Run.exists_of_bind_ok h
    obtain ⟨_, hname, h⟩ := Run.exists_of_bind_ok h
    obtain ⟨_, _, h⟩ := Run.exists_of_bind_ok h
    obtain ⟨d, hd, h⟩ := Run.exists_of_bind_ok h
    have ht : Except.ok (template s p d) = (Except.ok t : Except Failure Template) := h
    injection ht with ht
    exact ⟨hcheck, hname, d, hd, ht.symm⟩
  · rintro ⟨hcheck, hname, d, hd, rfl⟩
    have hlast : ((Bootstrap.userData s files (secretArn s p) p.region).bind fun d =>
        Run.pure (template s p d)).outcome = .ok (template s p d) := by
      rw [Run.outcome_bind, hd]
      rfl
    rw [build, hcheck, hname]
    exact hlast

theorem build_of_inline {s : Settings} {files : Tree} {p : Placement}
    (hcheck : s.check files = .ok ()) (hname : p.checkName = .ok ())
    (hmode : s.mode? = some .inline) :
    (build s files p).outcome = .ok (template s p
      (Bootstrap.render (Bootstrap.inlineCommands s (secretArn s p) p.region))) :=
  build_eq_ok_iff.mpr ⟨hcheck, hname, _, Bootstrap.userData_inline files _ _ hmode, rfl⟩

theorem build_of_script {s : Settings} {files : Tree} {p : Placement} {encoded : String}
    (hcheck : s.check files = .ok ()) (hname : p.checkName = .ok ())
    (hmode : s.mode? = some .script)
    (henc : Bootstrap.encodeScript files s.bootScript = .ok encoded) :
    ∃ d, (build s files p).outcome = .ok (template s p d) :=
  ⟨_, build_eq_ok_iff.mpr ⟨hcheck, hname, _,
    Bootstrap.userData_script (secretArn s p) p.region hmode henc, rfl⟩⟩

theorem eq_of_complete {files : Tree} {directory : Option String} {p : Placement}
    {t u : Template} (h : (Assembly.complete files directory p t).outcome = .ok u) : t = u := by
  rw [Assembly.complete, Run.ofExcept] at h
  cases hcheck : Assembly.checkTemplate files directory p t with
  | error e =>
    rw [hcheck] at h
    cases h
  | ok _ =>
    cases hfinish : Assembly.finish files directory p with
    | error e =>
      rw [hcheck, hfinish] at h
      cases h
    | ok _ =>
      rw [hcheck, hfinish] at h
      cases h
      rfl

theorem build_of_synthesizeAt {s : Settings} {files : Tree} {p : Placement} {t : Template}
    (h : (Assembly.synthesizeAt p s files).outcome = .ok t) :
    (build s files p).outcome = .ok t := by
  rw [Assembly.synthesizeAt] at h
  obtain ⟨u, hu, h⟩ := Run.exists_of_bind_ok h
  rw [← eq_of_complete h]
  exact hu

/-- The directory of the assembly is there when the fleet is built. -/
theorem build_of_synthesize {s : Settings} {files : Tree} {directory : Option String}
    {known : Lookup} {t : Template}
    (h : (Assembly.synthesize s files directory known).outcome = .ok t) :
    ∃ started, (Assembly.start files directory).outcome = .ok started ∧
      (build s started ((Placement.ofSettings s).knowing known)).outcome = .ok t := by
  rw [Assembly.synthesize] at h
  obtain ⟨started, hstarted, h⟩ := Run.exists_of_bind_ok h
  obtain ⟨u, hu, h⟩ := Run.exists_of_bind_ok h
  rw [buildFleet] at hu
  obtain ⟨v, hv, hu⟩ := Run.exists_of_bind_ok hu
  have hvu : Except.ok v = (Except.ok u : Except Failure Template) := hu
  injection hvu with hvu
  rw [← eq_of_complete h, ← hvu]
  exact ⟨started, hstarted, hv⟩

/-! ## The launch template and the policy -/

theorem ofKind_template (s : Settings) (p : Placement) (d : Deferred) {kind : Kind}
    (h : kind ∉ networkKinds) :
    (template s p d).ofKind kind =
      (hostResources s p d ++ balancerResources s p).filter (·.kind = kind) := by
  rw [ofKind, template, List.append_assoc, List.filter_append, filter_network s p h,
    List.nil_append]

theorem resourcesOf_template (s : Settings) (p : Placement) (d : Deferred) {kind : Kind}
    (h : kind ∉ networkKinds) :
    resourcesOf (template s p d).document kind =
      ((hostResources s p d ++ balancerResources s p).filter (·.kind = kind)).map
        Resource.document := by
  rw [resourcesOf_document, ofKind_template s p d h]

theorem ofKind_launchTemplate (s : Settings) (p : Placement) (d : Deferred) :
    (template s p d).ofKind .launchTemplate = [launchTemplate s p d] := by
  rw [ofKind_template s p d (by decide)]
  rfl

/-- What the hosts may do about the secret. -/
def secretStatement (s : Settings) (p : Placement) : Value :=
  .record [("Effect", .text "Allow"),
    ("Action", .list [.text "secretsmanager:GetSecretValue",
      .text "secretsmanager:DescribeSecret"]),
    ("Resource", .deferred (secretPattern s p))]

theorem ofKind_policy (s : Settings) (p : Placement) (d : Deferred) :
    ∃ r, (template s p d).ofKind .policy = [r] ∧
      r.document.at? ["Properties", "PolicyDocument", "Statement"] =
        some (.array [(secretStatement s p).document]) := by
  rw [ofKind_template s p d (by decide)]
  exact ⟨_, rfl, rfl⟩

/-! ## Documents -/

/-- The user data of the one launch template. -/
def bootText? (values : PseudoParameter → String) (document : Json) : Option String :=
  match resourcesOf document .launchTemplate with
  | [r] => (r.at? ["Properties", "LaunchTemplateData", "UserData"]).bind (flattenEncoded? values)
  | _ => none

def isSecretStatement (statement : Json) : Bool :=
  match statement.get? "Action" with
  | some (.array actions) => actions.any (·.isText "secretsmanager:GetSecretValue")
  | _ => false

/-- The resource that the one policy lets the secret be read at. -/
def readableSecret? (values : PseudoParameter → String) (document : Json) : Option String :=
  match resourcesOf document .policy with
  | [r] =>
    match r.at? ["Properties", "PolicyDocument", "Statement"] with
    | some (.array statements) =>
      match statements.filter isSecretStatement with
      | [statement] => (statement.get? "Resource").bind (flatten? values)
      | _ => none
    | _ => none
  | _ => none

theorem at_launchTemplate (s : Settings) (p : Placement) (d : Deferred) :
    (launchTemplate s p d).document.at? ["Properties", "LaunchTemplateData", "UserData"] =
      some (intrinsic "Fn::Base64" (deferredDocument d)) := rfl

theorem bootText_template (values : PseudoParameter → String) (s : Settings) (p : Placement)
    {d : Deferred} (h : Fenced d) :
    bootText? (fun q => (values q).paired) (template s p d).document =
      some (d.resolve values).paired := by
  rw [bootText?, resourcesOf_document, ofKind_launchTemplate, List.map_cons, List.map_nil]
  simp only [at_launchTemplate, Option.bind_some]
  exact flatten_deferredDocument values h

theorem fenced_secretPattern (s : Settings) (p : Placement) : Fenced (secretPattern s p) :=
  (fenced_secretArn s p).append (.literal "-??????" .nil)

theorem resolve_secretPattern (values : PseudoParameter → String) (s : Settings) (p : Placement) :
    (secretPattern s p).resolve values = arnAt values s p ++ "-??????" := by
  rw [secretPattern, Deferred.resolve_append, resolve_secretArn]
  simp [Piece.resolve]

theorem readableSecret_template (values : PseudoParameter → String) (s : Settings) (p : Placement)
    (d : Deferred) :
    readableSecret? (fun q => (values q).paired) (template s p d).document =
      some (arnAt values s p ++ "-??????").paired := by
  obtain ⟨r, hr, hstatement⟩ := ofKind_policy s p d
  have hsecret : isSecretStatement (secretStatement s p).document = true := rfl
  have hresource : (secretStatement s p).document.get? "Resource" =
      some (deferredDocument (secretPattern s p)) := rfl
  rw [readableSecret?, resourcesOf_document, hr, List.map_cons, List.map_nil]
  simp only [hstatement, List.filter_cons, hsecret, if_true, List.filter_nil, hresource,
    Option.bind_some]
  rw [flatten_deferredDocument values (fenced_secretPattern s p), resolve_secretPattern]

/-- The hosts of a deployed stack boot what is rendered for the ARN and the region of the
deployment, word for word, and their role may read the secret of this ARN. -/
theorem boots_what_is_rendered (s : Settings) (files : Tree) (p : Placement) (t : Template)
    (values : PseudoParameter → String) (hbuild : (build s files p).outcome = .ok t)
    (hquote : ∀ q, '\'' ∉ (values q).toList) :
    ∃ d, (Bootstrap.userData s files (.ofString (arnAt values s p))
        (.ofString (regionAt values p))).outcome = .ok d ∧
      (s.mode? = some .inline →
        bootText? (fun q => (values q).paired) t.document = some d.plain.paired) ∧
      (s.mode? = some .script → ∃ text words,
        bootText? (fun q => (values q).paired) t.document = some text ∧
        Shell.Lexer.commands? text = some words ∧
        Shell.Lexer.commands? d.plain.paired = some words) ∧
      readableSecret? (fun q => (values q).paired) t.document =
        some (arnAt values s p ++ "-??????").paired := by
  obtain ⟨_, _, d, hd, rfl⟩ := build_eq_ok_iff.mp hbuild
  have hsecret := readableSecret_template values s p d
  have harn := fenced_secretArn s p
  have hregion := single_region p
  cases hmode : s.mode? with
  | none =>
    rw [Bootstrap.userData, hmode] at hd
    cases hd
  | some mode =>
    cases mode with
    | inline =>
      rw [Bootstrap.userData_inline files _ _ hmode] at hd
      cases hd
      have hboot := bootText_template values s p (Bootstrap.fenced_inline s harn hregion)
      rw [Bootstrap.resolve_inline, resolve_secretArn, resolve_region] at hboot
      refine ⟨_, Bootstrap.userData_inline files _ _ hmode, fun _ => hboot, fun h => ?_, hsecret⟩
      cases h
    | script =>
      obtain ⟨encoded, henc⟩ := Bootstrap.encodeScript_of_userData hmode hd
      rw [Bootstrap.userData_script _ _ hmode henc] at hd
      cases hd
      have hboot := bootText_template values s p (Bootstrap.fenced_script s harn hregion encoded)
      have hwords := Bootstrap.commands_of_paired_script values hquote (secretArn s p) p.region henc
      have hplain := Bootstrap.commands_of_paired_plain values (secretArn s p) p.region henc
      rw [resolve_secretArn, resolve_region] at hplain
      refine ⟨_, Bootstrap.userData_script _ _ hmode henc, fun h => ?_,
        fun _ => ⟨_, _, hboot, hwords, hplain⟩, hsecret⟩
      cases h

def deployed : PseudoParameter → String
  | .partition => "aws"
  | .region => "us-east-1"
  | .accountId => "123456789012"

/-- Neither the account nor the region is known before the deployment here. -/
theorem boots_what_is_rendered_hostile :
    ∃ t, (build Bootstrap.hostile Bootstrap.hostileFiles (.ofSettings Bootstrap.hostile)).outcome =
        .ok t ∧ (∀ q, '\'' ∉ (deployed q).toList) ∧ ∃ d text words,
      (Bootstrap.userData Bootstrap.hostile Bootstrap.hostileFiles
        (.ofString "arn:aws:secretsmanager:us-east-1:123456789012:secret:sp1_tee")
        (.ofString "us-east-1")).outcome = .ok d ∧
      bootText? (fun q => (deployed q).paired) t.document = some text ∧
      Shell.Lexer.commands? text = some words ∧
      Shell.Lexer.commands? d.plain.paired = some words ∧
      readableSecret? (fun q => (deployed q).paired) t.document =
        some "arn:aws:secretsmanager:us-east-1:123456789012:secret:sp1_tee-??????" := by
  have hcheck : Bootstrap.hostile.check Bootstrap.hostileFiles = .ok () :=
    ok_of_toOption (by decide)
  have hname : (Placement.ofSettings Bootstrap.hostile).checkName = .ok () :=
    ok_of_toOption (by decide)
  have hmode : Bootstrap.hostile.mode? = some .script := by decide
  have henc : Bootstrap.encodeScript Bootstrap.hostileFiles Bootstrap.hostile.bootScript =
      .ok "aWQK" := ok_of_toOption (by decide)
  have hquote : ∀ q, '\'' ∉ (deployed q).toList := by
    intro q
    cases q <;> decide
  obtain ⟨_, hbuild⟩ := build_of_script hcheck hname hmode henc
  obtain ⟨d, hd, _, hscript, hsecret⟩ := boots_what_is_rendered Bootstrap.hostile
    Bootstrap.hostileFiles (.ofSettings Bootstrap.hostile) _ deployed hbuild hquote
  obtain ⟨text, words, htext, hwords, hplain⟩ := hscript hmode
  have harn : arnAt deployed Bootstrap.hostile (.ofSettings Bootstrap.hostile) =
      "arn:aws:secretsmanager:us-east-1:123456789012:secret:sp1_tee" := by decide
  have hregion : regionAt deployed (.ofSettings Bootstrap.hostile) = "us-east-1" := by decide
  have hpattern : ("arn:aws:secretsmanager:us-east-1:123456789012:secret:sp1_tee" ++
      "-??????").paired =
      "arn:aws:secretsmanager:us-east-1:123456789012:secret:sp1_tee-??????" :=
    paired_eq_self_of_no_mark (by decide)
  rw [harn, hregion] at hd
  rw [harn, hpattern] at hsecret
  exact ⟨_, hbuild, hquote, d, text, words, hd, htext, hwords, hplain, hsecret⟩

end EnclaveFleet.Stack
