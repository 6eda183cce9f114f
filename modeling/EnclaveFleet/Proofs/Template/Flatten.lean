import EnclaveFleet.Proofs.Text.Cuts
import EnclaveFleet.Template.Document

/-!
# Texts of a document as the deployment completes them

* `flatten?`, `flattenEncoded?`: references to pseudo parameters get their values and what is to be
  joined is joined
* `Fenced`: every parameter of a text stands between literals, with ASCII next to it
* `Solid`: the same for a text whose literals are joined, where literals and parameters take turns
* `solid_normal`: joining the literals keeps the fences
* `flatten_deferredDocument`: what is cut into pieces for a document is put together again
-/
namespace EnclaveFleet.Template
set_option autoImplicit false

/-! ## Flattening -/

def parameterOf? (id : String) : Option PseudoParameter :=
  [.partition, .region, .accountId].find? (·.name = id)

def flattenPart? (values : PseudoParameter → String) : Json → Option String
  | .text s => some s
  | .object [("Ref", .text id)] => (parameterOf? id).map values
  | _ => none

def flatten? (values : PseudoParameter → String) : Json → Option String
  | .object [("Fn::Join", .array [.text sep, .array parts])] =>
    (parts.mapM (flattenPart? values)).map sep.intercalate
  | j => flattenPart? values j

/-- The text that is handed over in base64. -/
def flattenEncoded? (values : PseudoParameter → String) : Json → Option String
  | .object [("Fn::Base64", j)] => flatten? values j
  | _ => none

/-! ## Fences -/

inductive Fenced : Deferred → Prop
  | nil : Fenced []
  | literal (s : String) {d : Deferred} (h : Fenced d) : Fenced (.literal s :: d)
  | parameter {s t : String} (p : PseudoParameter) {d : Deferred} (hs : endsAscii s)
      (ht : startsAscii t) (h : Fenced (.literal t :: d)) :
      Fenced (.literal s :: .parameter p :: .literal t :: d)

inductive Solid : Deferred → Prop
  | nil : Solid []
  | literal (s : String) : Solid [.literal s]
  | parameter {s t : String} (p : PseudoParameter) {d : Deferred} (hs : endsAscii s)
      (ht : startsAscii t) (h : Solid (.literal t :: d)) :
      Solid (.literal s :: .parameter p :: .literal t :: d)

theorem Fenced.append {d e : Deferred} (hd : Fenced d) (he : Fenced e) : Fenced (d ++ e) := by
  induction hd with
  | nil => exact he
  | literal s _ ih => exact .literal s ih
  | parameter p hs ht _ ih => exact .parameter p hs ht ih

theorem Fenced.ofString (s : String) : Fenced (.ofString s) := .literal s .nil

theorem Fenced.joinWith (sep : String) {ds : List Deferred} (h : ∀ d ∈ ds, Fenced d) :
    Fenced (Deferred.joinWith sep ds) := by
  induction ds with
  | nil => exact .nil
  | cons d ds ih =>
    have hd : Fenced d := h d (by simp)
    have hds := ih fun e he => h e (by simp [he])
    cases ds with
    | nil => exact hd
    | cons e es => exact hd.append (.literal sep hds)

/-- A text that is one piece. -/
def Single (d : Deferred) : Prop :=
  (∃ s, d = Deferred.ofString s) ∨ ∃ p, d = Deferred.ofParameter p

theorem Fenced.between {d e : Deferred} (hd : Single d) {s t : String} (hs : endsAscii s)
    (ht : startsAscii t) (he : Fenced (.literal t :: e)) :
    Fenced (.literal s :: d ++ .literal t :: e) := by
  obtain ⟨u, rfl⟩ | ⟨p, rfl⟩ := hd
  · exact .literal s (.literal u he)
  · exact .parameter p hs ht he

theorem solid_consNormal {d : Deferred} (h : Solid d) (s : String) :
    Solid (Deferred.consNormal (.literal s) d) := by
  by_cases hs : s = ""
  · simpa [Deferred.consNormal, hs] using h
  · cases h with
    | nil => simpa [Deferred.consNormal, hs] using Solid.literal s
    | literal t => simpa [Deferred.consNormal, hs] using Solid.literal (s ++ t)
    | parameter p ht hu hd =>
      simpa [Deferred.consNormal, hs] using Solid.parameter p (endsAscii_append s ht) hu hd

theorem starts_normal {t : String} (ht : startsAscii t) (d : Deferred) :
    ∃ u e, Deferred.normal (.literal t :: d) = .literal u :: e ∧ startsAscii u := by
  have hne : t ≠ "" := ne_empty_of_startsAscii ht
  have hcons : Deferred.normal (.literal t :: d) =
      Deferred.consNormal (.literal t) (Deferred.normal d) := rfl
  rw [hcons]
  cases Deferred.normal d with
  | nil => exact ⟨t, [], by simp [Deferred.consNormal, hne], ht⟩
  | cons piece e =>
    cases piece with
    | literal u => exact ⟨t ++ u, e, by simp [Deferred.consNormal, hne], startsAscii_append ht u⟩
    | parameter p => exact ⟨t, .parameter p :: e, by simp [Deferred.consNormal, hne], ht⟩

theorem solid_normal {d : Deferred} (h : Fenced d) : Solid d.normal := by
  induction h with
  | nil => exact .nil
  | literal s _ ih => exact solid_consNormal ih s
  | @parameter s t p d hs ht _ ih =>
    -- The literal behind the parameter may grow, but only at its end.
    have hne : s ≠ "" := ne_empty_of_endsAscii hs
    obtain ⟨u, e, hnormal, hu⟩ := starts_normal ht d
    have hcons : Deferred.normal (.literal s :: .parameter p :: .literal t :: d) =
        .literal s :: .parameter p :: Deferred.normal (.literal t :: d) := by
      simp [Deferred.normal, Deferred.consNormal, hne]
    rw [hcons, hnormal]
    rw [hnormal] at ih
    exact .parameter p hs hu ih

/-! ## Putting together -/

variable (values : PseudoParameter → String)

/-- The value that takes the place of a piece; a document holds texts with surrogates joined. -/
def pairedPiece (piece : Piece) : String := (piece.resolve values).paired

theorem flattenPart_pieceDocument (piece : Piece) :
    flattenPart? (fun p => (values p).paired) (pieceDocument piece) =
      some (pairedPiece values piece) := by
  cases piece with
  | literal s => rfl
  | parameter p =>
    have hname : parameterOf? p.name = some p := by cases p <;> decide
    rw [pieceDocument, reference, intrinsic, flattenPart?, hname]
    rfl

theorem mapM_flattenPart (pieces : Deferred) :
    (pieces.map pieceDocument).mapM (flattenPart? fun p => (values p).paired) =
      some (pieces.map (pairedPiece values)) := by
  induction pieces with
  | nil => rfl
  | cons piece pieces ih =>
    rw [List.map_cons, List.mapM_cons, flattenPart_pieceDocument, ih]
    rfl

theorem intercalate_empty_cons (s : String) (ss : List String) :
    "".intercalate (s :: ss) = s ++ "".intercalate ss := by
  cases ss with
  | nil => simp
  | cons t ss => rw [String.intercalate_cons_cons, String.append_empty]

theorem intercalate_of_solid {d : Deferred} (h : Solid d) :
    "".intercalate (d.map (pairedPiece values)) = (d.resolve values).paired := by
  induction h with
  | nil => rfl
  | literal s =>
    rw [List.map_cons, List.map_nil, String.intercalate_singleton, Deferred.resolve_cons,
      Deferred.resolve_nil, String.append_empty]
    rfl
  | @parameter s t p d hs ht _ ih =>
    have hstart : startsAscii (Deferred.resolve values (.literal t :: d)) := by
      rw [Deferred.resolve_cons]
      exact startsAscii_append ht _
    have hresolve : Deferred.resolve values (.literal s :: .parameter p :: .literal t :: d) =
        s ++ (values p ++ Deferred.resolve values (.literal t :: d)) := by
      rw [Deferred.resolve_cons, Deferred.resolve_cons]
      rfl
    rw [hresolve, paired_append_of_ends hs, paired_append_of_starts hstart, ← ih, List.map_cons,
      List.map_cons, intercalate_empty_cons, intercalate_empty_cons]
    rfl

/-- The pieces of a text make up the text again. -/
theorem flatten_deferredDocument {d : Deferred} (h : Fenced d) :
    flatten? (fun p => (values p).paired) (deferredDocument d) =
      some (d.resolve values).paired := by
  have hjoin := intercalate_of_solid values (solid_normal h)
  rw [Deferred.resolve_normal] at hjoin
  rw [← hjoin, deferredDocument]
  split
  · next hnil =>
    rw [hnil]
    rfl
  · next piece hpiece =>
    rw [hpiece, List.map_cons, List.map_nil, String.intercalate_singleton]
    cases piece with
    | literal s => rfl
    | parameter p => exact flattenPart_pieceDocument values (.parameter p)
  · rw [intrinsic, flatten?, mapM_flattenPart]
    rfl

end EnclaveFleet.Template
