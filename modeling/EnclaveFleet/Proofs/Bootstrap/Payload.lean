import EnclaveFleet.Proofs.Bootstrap.ScriptWords
import EnclaveFleet.Proofs.Bytes.Regrouping

/-!
# The payload of a script

The bytes of a script come to a host as base64 text on a line of the user data.

* `Payload text content`: what is known of the text that carries the bytes
* `payload_encode`: the base64 text of the bytes is their payload
* `encodeScript_carries`: a script has a payload unless it is blank, and no other script has the same
-/
namespace EnclaveFleet.Bootstrap
set_option autoImplicit false

/-- The text is the base64 text of the bytes, and a shell takes it as one word. -/
structure Payload (text : String) (content : List UInt8) : Prop where
  length : text.length = 4 * ((content.length + 2) / 3)
  padded : ∃ letters pads, pads < 3 ∧ (∀ c ∈ letters, c ∈ Base64.alphabet) ∧
    text.toList = letters ++ List.replicate pads '='
  spelled : Base64.Writes text.toList content
  decoded : Base64.decode? text.toList = some content
  only_bytes : ∀ bytes, Base64.Writes text.toList bytes → bytes = content
  only_text : ∀ other, Base64.Writes other content → other = text.toList
  word : Shell.Lexer.tokens? text = some [.word text, .newline]
  plain : ∀ c ∈ text.toList, c ∉ Shell.Lexer.special

def IsBlank (content : List UInt8) : Prop :=
  ∀ b ∈ content, (0x09 ≤ b ∧ b ≤ 0x0D) ∨ b = 0x20

theorem isBlank_iff (content : List UInt8) : IsBlank content ↔ content.all isBlankByte = true := by
  simp [IsBlank, isBlankByte]

theorem tokens_of_isPlain {text : String} (hne : text.toList ≠ [])
    (h : ∀ c ∈ text.toList, Shell.isPlain c) :
    Shell.Lexer.tokens? text = some [.word text, .newline] := by
  have hend := Shell.Lexer.reads_break text.toList
  rw [String.ofList_toList] at hend
  exact Shell.Scanner.tokens_eq_some_iff.mpr ((Shell.Lexer.reads_word _ hne h).append hend)

theorem payload_encode {content : List UInt8} (hne : content ≠ []) :
    Payload (String.ofList (Base64.encode content)) content := by
  have htext : (String.ofList (Base64.encode content)).toList = Base64.encode content :=
    String.toList_ofList
  have hspelled := Base64.writes_encode content
  rw [← htext] at hspelled
  have hplain : ∀ c ∈ (String.ofList (Base64.encode content)).toList, Shell.isPlain c := by
    rw [htext]
    exact fun c hc => Base64.isPlain_of_mem_encode hc
  have hne' : (String.ofList (Base64.encode content)).toList ≠ [] := by
    rw [htext]
    exact Base64.encode_ne_nil hne
  exact {
    length := by rw [← String.length_toList, hspelled.length_eq]
    padded := hspelled.padded
    spelled := hspelled
    decoded := Base64.decode_eq_some_iff.mpr hspelled
    only_bytes := fun _ h => h.bytes_unique hspelled
    only_text := fun _ h => h.text_unique hspelled
    word := tokens_of_isPlain hne' hplain
    plain := fun c hc => Shell.Lexer.not_special_of_isPlain (hplain c hc) }

/-- A script that is not blank has a payload, which no other content has. -/
theorem encodeScript_carries {files : Tree} {script : BootScript} {content : List UInt8}
    (hpath : script.pathFault? = none) (hnul : script.hasNul = false)
    (hread : script.read files = .ok content) :
    (IsBlank content →
      encodeScript files script = .error (.configuration [.scriptBlank script])) ∧
    (¬IsBlank content → ∃ payload, encodeScript files script = .ok payload ∧
      Payload payload content ∧
      ∀ (files' : Tree) (script' : BootScript) (content' : List UInt8),
        script'.read files' = .ok content' → encodeScript files' script' = .ok payload →
          content' = content) := by
  rw [encodeScript_of_readable hpath hnul hread, isBlank_iff]
  constructor
  · exact fun hblank => if_pos hblank
  · intro hblank
    have hne : content ≠ [] := by
      rintro rfl
      exact hblank rfl
    have hpayload := payload_encode hne
    refine ⟨_, if_neg hblank, hpayload, fun files' script' content' hread' henc => ?_⟩
    obtain ⟨found, hfound, -, htext⟩ := exists_content_of_encodeScript henc
    cases hread'.symm.trans hfound
    refine hpayload.only_bytes content' ?_
    rw [htext, String.toList_ofList]
    exact Base64.writes_encode content'

/-- The script holds a NUL and a byte that is not UTF-8. -/
def binaryFiles : Tree := Tree.empty.insert (.near 0 ["a.bin"]) (.file [0x00, 0xFF, 0x0A, 0x61])

theorem encodeScript_carries_binary :
    encodeScript binaryFiles (.file ⟨.relative, ["a.bin"]⟩) = .ok "AP8KYQ==" := by
  have hread : BootScript.read binaryFiles (.file ⟨.relative, ["a.bin"]⟩) =
      .ok [0x00, 0xFF, 0x0A, 0x61] := ok_of_toOption (by decide)
  have hblank : ¬IsBlank [0x00, 0xFF, 0x0A, 0x61] := by
    rw [isBlank_iff]
    decide
  obtain ⟨payload, hencoded, hpayload, -⟩ :=
    (encodeScript_carries (by decide) (by decide) hread).2 hblank
  have htext : "AP8KYQ==".toList = payload.toList :=
    hpayload.only_text _ (Base64.writes_iff.mpr (by decide))
  rw [hencoded, String.toList_injective htext]

end EnclaveFleet.Bootstrap
