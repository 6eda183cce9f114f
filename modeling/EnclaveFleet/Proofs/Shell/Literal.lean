import EnclaveFleet.Proofs.Shell.Recognition

/-!
# Which texts stand for themselves

A text between a command and the next line stands for itself in one case only: it is literal. Quotes
cannot make up for what they cost, not even with the help of the text behind them.

* `Follows`, `Path`: steps within a word that is plain, and what comes of them along a text
* `Path.load_le`, `Path.yield_le`: how long the word can become
* `literal_of_path`: a text whose word is the text is literal
* `not_path_of_keyword`, `not_path_of_keyword_end`: the word does not end in or behind the first
  word of the next line
* `literal_of_reads`: a text that is read as itself in front of another line is literal
* `lines_value`: the lines of a script with a value in it
-/
namespace EnclaveFleet.Shell.Recognition
set_option autoImplicit false

open Lexer (isBlank isOperator)
open Scanner (reads_nil reads_cons)

/-! ## The word so far -/

def Word.IsPlain (w : Word) : Prop := ∃ cs, w = Word.plain cs

def Mode.word : Mode → Word
  | .outside word? | .escaped word? => word?.getD []
  | .single word | .double word | .escapedInside word | .dollar _ word | .variable _ word
  | .command word => word
  | .comment => []

/-- Nothing is put in here. -/
def Mode.isCalm : Mode → Bool
  | .dollar _ _ | .variable _ _ | .command _ => false
  | _ => true

theorem Word.IsPlain.of_append {v w : Word} (h : (v ++ w).IsPlain) : v.IsPlain := by
  obtain ⟨cs, hcs⟩ := h
  obtain ⟨xs, ys, _, hxs, _⟩ := List.map_eq_append_iff.mp hcs.symm
  exact ⟨xs, hxs.symm⟩

theorem Word.not_isPlain_active (w : Word) (c : Char) : ¬(w ++ [Glyph.active c]).IsPlain := by
  rintro ⟨cs, hcs⟩
  have hmem : Glyph.active c ∈ Word.plain cs := hcs ▸ by simp
  obtain ⟨d, _, hd⟩ := List.mem_map.mp hmem
  cases hd

/-! ## Steps within a word -/

inductive Follows : Mode → Char → Mode → Prop
  | blank {c : Char} (h : isBlank c) : Follows (.outside none) c (.outside none)
  | ordinary {word? : Option Word} {c : Char} (h : isOrdinary c)
      (hcomment : c = '#' → word? ≠ none) :
      Follows (.outside word?) c (.outside (some (grown word? (.plain c))))
  | openSingle {word? : Option Word} : Follows (.outside word?) '\'' (.single (word?.getD []))
  | openDouble {word? : Option Word} : Follows (.outside word?) '"' (.double (word?.getD []))
  | escape {word? : Option Word} : Follows (.outside word?) '\\' (.escaped word?)
  | openComment : Follows (.outside none) '#' .comment
  | single {word : Word} {c : Char} (h : c ≠ '\'') :
      Follows (.single word) c (.single (word ++ [.plain c]))
  | closeSingle {word : Word} : Follows (.single word) '\'' (.outside (some word))
  | double {word : Word} {c : Char} (h : c ≠ '"') (hescape : c ≠ '\\') :
      Follows (.double word) c (.double (word ++ [.plain c]))
  | escapeInside {word : Word} : Follows (.double word) '\\' (.escapedInside word)
  | closeDouble {word : Word} : Follows (.double word) '"' (.outside (some word))
  | joined {word? : Option Word} : Follows (.escaped word?) '\n' (.outside word?)
  | escaped {word? : Option Word} {c : Char} (h : c ≠ '\n') :
      Follows (.escaped word?) c (.outside (some (grown word? (.plain c))))
  | joinedInside {word : Word} : Follows (.escapedInside word) '\n' (.double word)
  | escapedInside {word : Word} {c : Char} (h : isEscapable c) :
      Follows (.escapedInside word) c (.double (word ++ [.plain c]))
  /-- The backslash has no meaning here and stays. -/
  | kept {word : Word} {c : Char} (hbreak : c ≠ '\n') (h : isEscapable c = false) :
      Follows (.escapedInside word) c (.double (word ++ [.plain '\\', .plain c]))
  | comment {c : Char} (h : c ≠ '\n') : Follows .comment c .comment

theorem ended_eq_nil {word? : Option Word} : ended word? = [] ↔ word? = none := by
  cases word? <;> simp [ended]

theorem quiet_iff {m n : Mode} {ts : List Token} :
    some (m, ts) = some (n, []) ↔ m = n ∧ ts = [] := by
  simp

theorem word_stepOutside {word? : Option Word} {c : Char} {n : Mode}
    (h : stepOutside word? c = some (n, [])) : word?.getD [] <+: n.word := by
  unfold stepOutside at h
  split_ifs at h <;> obtain ⟨rfl, hts⟩ := quiet_iff.mp h <;>
    simp_all [Mode.word, grown, ended_eq_nil]

theorem word_stepDouble {word : Word} {c : Char} {n : Mode}
    (h : stepDouble word c = some (n, [])) : word <+: n.word := by
  unfold stepDouble at h
  split_ifs at h <;> obtain ⟨rfl, _⟩ := quiet_iff.mp h <;> simp [Mode.word]

/-- Without a token the word only grows. -/
theorem word_step {m n : Mode} {c : Char} (h : step m c = some (n, [])) : m.word <+: n.word := by
  cases m
  case outside => exact word_stepOutside h
  case double => exact word_stepDouble h
  case «variable» =>
    simp only [step] at h
    split_ifs at h
    · obtain ⟨rfl, _⟩ := quiet_iff.mp h
      simp [Mode.word]
    · exact word_stepDouble h
    · exact word_stepOutside h
  all_goals
    simp only [step] at h
    split_ifs at h <;> obtain ⟨rfl, hts⟩ := quiet_iff.mp h <;> simp_all [Mode.word, grown]

theorem follows_of_stepOutside {word? : Option Word} {n : Mode} {c : Char}
    (h : stepOutside word? c = some (n, [])) (hn : n.word.IsPlain) :
    Follows (.outside word?) c n := by
  unfold stepOutside at h
  split_ifs at h with hblank hbreak hoperator hsingle hdouble hescape hdollar hback hcomment <;>
    obtain ⟨rfl, hts⟩ := quiet_iff.mp h
  · obtain rfl := ended_eq_nil.mp hts
    exact .blank hblank
  · simp at hts
  · simp at hts
  · subst hsingle
    exact .openSingle
  · subst hdouble
    exact .openDouble
  · subst hescape
    exact .escape
  · exact absurd hn (Word.not_isPlain_active _ c)
  · obtain ⟨rfl, rfl⟩ := hcomment
    exact .openComment
  · refine .ordinary ?_ fun hsharp hnone => hcomment ⟨hsharp, hnone⟩
    simp only [isBlank, isOperator] at hblank hoperator
    rw [isOrdinary_iff]
    simp_all [special]

theorem follows_of_stepDouble {word : Word} {n : Mode} {c : Char}
    (h : stepDouble word c = some (n, [])) (hn : n.word.IsPlain) : Follows (.double word) c n := by
  unfold stepDouble at h
  split_ifs at h with hclose hescape hdollar hback <;> obtain ⟨rfl, _⟩ := quiet_iff.mp h
  · subst hclose
    exact .closeDouble
  · subst hescape
    exact .escapeInside
  · exact absurd hn (Word.not_isPlain_active _ c)
  · exact .double hclose hescape

theorem follows_of_step {m n : Mode} {c : Char} (h : step m c = some (n, [])) (hm : m.isCalm)
    (hn : n.word.IsPlain) : Follows m c n := by
  cases m with
  | outside word? => exact follows_of_stepOutside h hn
  | double word => exact follows_of_stepDouble h hn
  | single word =>
    simp only [step] at h
    split_ifs at h with hclose <;> obtain ⟨rfl, _⟩ := quiet_iff.mp h
    · subst hclose
      exact .closeSingle
    · exact .single hclose
  | escaped word? =>
    simp only [step] at h
    split_ifs at h with hbreak <;> obtain ⟨rfl, _⟩ := quiet_iff.mp h
    · subst hbreak
      exact .joined
    · exact .escaped hbreak
  | escapedInside word =>
    simp only [step] at h
    split_ifs at h with hbreak hescapable <;> obtain ⟨rfl, _⟩ := quiet_iff.mp h
    · subst hbreak
      exact .joinedInside
    · exact .escapedInside hescapable
    · exact .kept hbreak (by simpa using hescapable)
  | comment =>
    simp only [step] at h
    split_ifs at h with hbreak <;> obtain ⟨rfl, hts⟩ := quiet_iff.mp h
    · cases hts
    · exact .comment hbreak
  | dollar => cases hm
  | «variable» => cases hm
  | command => cases hm

/-! ## Paths -/

inductive Path : Mode → List Char → Mode → Prop
  | nil (m : Mode) : Path m [] m
  | cons {m k n : Mode} {c : Char} {cs : List Char} (h : Follows m c k) (hp : Path k cs n) :
      Path m (c :: cs) n

theorem path_cons {m n : Mode} {c : Char} {cs : List Char} :
    Path m (c :: cs) n ↔ ∃ k, Follows m c k ∧ Path k cs n := by
  constructor
  · rintro (_ | ⟨h, hp⟩)
    exact ⟨_, h, hp⟩
  · rintro ⟨k, h, hp⟩
    exact .cons h hp

theorem path_append {m n : Mode} {xs ys : List Char} :
    Path m (xs ++ ys) n ↔ ∃ k, Path m xs k ∧ Path k ys n := by
  induction xs generalizing m with
  | nil =>
    constructor
    · exact fun h => ⟨m, .nil m, h⟩
    · rintro ⟨k, ⟨⟩, h⟩
      exact h
  | cons x xs ih =>
    rw [List.cons_append, path_cons]
    constructor
    · rintro ⟨j, h, hrest⟩
      obtain ⟨k, hxs, hys⟩ := ih.mp hrest
      exact ⟨k, .cons h hxs, hys⟩
    · rintro ⟨k, hxs, hys⟩
      obtain ⟨j, h, hrest⟩ := path_cons.mp hxs
      exact ⟨j, h, ih.mpr ⟨k, hrest, hys⟩⟩

theorem Follows.isCalm {m n : Mode} {c : Char} (h : Follows m c n) : n.isCalm := by
  cases h <;> rfl

theorem Path.isCalm {m n : Mode} {cs : List Char} (h : Path m cs n) (hm : m.isCalm) : n.isCalm := by
  induction h with
  | nil => exact hm
  | cons h _ ih => exact ih h.isCalm

theorem word_reads {m n : Mode} {cs : List Char} (h : Reads m cs n []) : m.word <+: n.word := by
  induction cs generalizing m with
  | nil =>
    obtain ⟨rfl, _⟩ := reads_nil.mp h
    exact List.prefix_rfl
  | cons c cs ih =>
    obtain ⟨k, us, vs, hstep, hrest, hnil⟩ := reads_cons.mp h
    obtain ⟨rfl, rfl⟩ := List.append_eq_nil_iff.mp hnil.symm
    exact (word_step hstep).trans (ih hrest)

theorem path_of_reads {m n : Mode} {cs : List Char} (h : Reads m cs n []) (hm : m.isCalm)
    (hn : n.word.IsPlain) : Path m cs n := by
  induction cs generalizing m with
  | nil =>
    rw [(reads_nil.mp h).1]
    exact .nil m
  | cons c cs ih =>
    obtain ⟨k, us, vs, hstep, hrest, hnil⟩ := reads_cons.mp h
    obtain ⟨rfl, rfl⟩ := List.append_eq_nil_iff.mp hnil.symm
    obtain ⟨g, hg⟩ := word_reads hrest
    have hk : k.word.IsPlain := Word.IsPlain.of_append (hg ▸ hn)
    have hfollows := follows_of_step hstep hm hk
    exact .cons hfollows (ih hrest hfollows.isCalm)

theorem Follows.word {m n : Mode} {c : Char} (h : Follows m c n) : m.word <+: n.word := by
  cases h <;> simp [Mode.word, grown]

theorem Path.word {m n : Mode} {cs : List Char} (h : Path m cs n) : m.word <+: n.word := by
  induction h with
  | nil m => exact List.prefix_rfl
  | cons h _ ih => exact h.word.trans ih

/-! ## How long a word becomes -/

/-- The characters that it took to come here, at least. -/
def Mode.load : Mode → Nat
  | .outside word? => (word?.getD []).length
  | .escaped word? => (word?.getD []).length + 1
  | .single word | .double word => word.length + 1
  | .escapedInside word => word.length + 2
  | .dollar _ _ | .variable _ _ | .command _ | .comment => 0

theorem Follows.load_le {m n : Mode} {c : Char} (h : Follows m c n) : n.load ≤ m.load + 1 := by
  cases h <;> simp [Mode.load, grown] <;> omega

theorem Path.load_le {m n : Mode} {cs : List Char} (h : Path m cs n) :
    n.load ≤ m.load + cs.length := by
  induction h with
  | nil => simp
  | cons h _ ih =>
    have hstep := h.load_le
    rw [List.length_cons]
    omega

/-- One more than the word can have in the end, apart from the characters that are still to come. A
quote that is open has to be closed by one of them. -/
def Mode.yield : Mode → Nat
  | .outside word? | .escaped word? => (word?.getD []).length + 1
  | .single word | .double word => word.length
  | .escapedInside word => word.length + 1
  | .dollar _ _ | .variable _ _ | .command _ | .comment => 1

theorem Follows.yield_le {m n : Mode} {c : Char} (h : Follows m c n) : n.yield ≤ m.yield + 1 := by
  cases h <;> simp [Mode.yield, grown] <;> omega

theorem Path.yield_le {m n : Mode} {cs : List Char} (h : Path m cs n) :
    n.yield ≤ m.yield + cs.length := by
  induction h with
  | nil => simp
  | cons h _ ih =>
    have hstep := h.yield_le
    rw [List.length_cons]
    omega

/-! ## Words as long as their texts -/

theorem ordinary_of_path (word? : Option Word) {v : List Char}
    (h : Path (.outside word?) v (.outside (some (word?.getD [] ++ Word.plain v)))) :
    (∀ c ∈ v, isOrdinary c) ∧ (word? = none → v.head? ≠ some '#') := by
  induction v generalizing word? with
  | nil => simp
  | cons c v ih =>
    obtain ⟨k, hstep, hrest⟩ := path_cons.mp h
    -- Whatever is no ordinary character leaves too little room for the rest of the word.
    have hroom : (word?.getD []).length + 2 ≤ k.yield := by
      have hle := hrest.yield_le
      have hend : (Mode.outside (some (word?.getD [] ++ Word.plain (c :: v)))).yield =
          (word?.getD []).length + (v.length + 1) + 1 := by
        simp [Mode.yield, Word.plain]
      omega
    cases hstep with
    | ordinary hordinary hcomment =>
      have hword : word?.getD [] ++ Word.plain (c :: v) =
          (some (grown word? (.plain c))).getD [] ++ Word.plain v := by
        simp [grown, Word.plain]
      rw [hword] at hrest
      have hv := (ih _ hrest).1
      refine ⟨List.forall_mem_cons.mpr ⟨hordinary, hv⟩, fun hnone hsharp => ?_⟩
      exact hcomment (Option.some.inj hsharp) hnone
    | blank | openSingle | openDouble | escape | openComment =>
      simp only [Mode.yield] at hroom
      omega

theorem literal_of_path {v : List Char}
    (h : Path (.outside none) v (.outside (some (Word.plain v)))) : Literal v := by
  obtain ⟨hordinary, hcomment⟩ := ordinary_of_path none h
  refine ⟨?_, hcomment rfl, hordinary⟩
  rintro rfl
  cases h

/-! ## The next line on the way -/

theorem path_comment {cs : List Char} {n : Mode} (h : Path .comment cs n) : n = .comment := by
  induction cs with
  | nil =>
    cases h
    rfl
  | cons c cs ih =>
    obtain ⟨k, hstep, hrest⟩ := path_cons.mp h
    cases hstep
    exact ih hrest

theorem special_of_isBlank {c : Char} (h : isBlank c) : c ∈ special := by
  have hsub : [' ', '\t'] ⊆ special := by decide
  have hc : c ∈ [' ', '\t'] := by simpa [isBlank] using h
  exact hsub hc

theorem special_of_isOperator {c : Char} (h : isOperator c) : c ∈ special := by
  have hsub : ['|', '&', ';', '<', '>', '(', ')'] ⊆ special := by decide
  exact hsub (List.contains_iff_mem.mp h)

theorem special_of_isEscapable {c : Char} (h : isEscapable c) : c ∈ special := by
  have hsub : ['$', '\u0060', '"', '\\'] ⊆ special := by decide
  exact hsub (List.contains_iff_mem.mp h)

theorem path_along (mode : Word → Mode)
    (h : ∀ w c n, isOrdinary c → Follows (mode w) c n → n = mode (w ++ [.plain c])) {w : Word}
    {cs : List Char} {n : Mode} (hcs : ∀ c ∈ cs, isOrdinary c) (hp : Path (mode w) cs n) :
    n = mode (w ++ Word.plain cs) := by
  induction cs generalizing w with
  | nil =>
    cases hp
    simp [Word.plain]
  | cons c cs ih =>
    obtain ⟨k, hstep, hrest⟩ := path_cons.mp hp
    obtain rfl := h w c k (hcs c (by simp)) hstep
    rw [ih (fun d hd => hcs d (by simp [hd])) hrest]
    simp [Word.plain]

theorem path_ordinary_outside {w : Word} {cs : List Char} {n : Mode} (hcs : ∀ c ∈ cs, isOrdinary c)
    (h : Path (.outside (some w)) cs n) : n = .outside (some (w ++ Word.plain cs)) := by
  refine path_along (fun w => .outside (some w)) (fun w c n hc hstep => ?_) hcs h
  cases hstep with
  | ordinary => rfl
  | openSingle | openDouble | escape => exact absurd hc (by decide)

theorem path_ordinary_single {w : Word} {cs : List Char} {n : Mode} (hcs : ∀ c ∈ cs, isOrdinary c)
    (h : Path (.single w) cs n) : n = .single (w ++ Word.plain cs) := by
  refine path_along .single (fun w c n hc hstep => ?_) hcs h
  cases hstep with
  | single => rfl
  | closeSingle => exact absurd hc (by decide)

theorem path_ordinary_double {w : Word} {cs : List Char} {n : Mode} (hcs : ∀ c ∈ cs, isOrdinary c)
    (h : Path (.double w) cs n) : n = .double (w ++ Word.plain cs) := by
  refine path_along .double (fun w c n hc hstep => ?_) hcs h
  cases hstep with
  | double => rfl
  | escapeInside | closeDouble => exact absurd hc (by decide)

/-- A keyword of the next line is read outside of quotes or inside, or it belongs to a comment.
Opening the quotes took a character, so that the word then begins earlier than the keyword. -/
theorem path_keyword {m n : Mode} {k : List Char} (hk : ∀ c ∈ k, isOrdinary c) (hne : k ≠ [])
    (h : Path m k n) :
    (n = .outside (some (m.word ++ Word.plain k)) ∧
      ∃ word?, m = .outside word? ∨ m = .escaped word?) ∨
    (∃ w, (n = .single (w ++ Word.plain k) ∨ n = .double (w ++ Word.plain k)) ∧
      w.length < m.load) ∨
    n = .comment := by
  cases k with
  | nil => exact absurd rfl hne
  | cons c cs =>
    have hcs : ∀ d ∈ cs, isOrdinary d := fun d hd => hk d (by simp [hd])
    have hc : isOrdinary c := hk c (by simp)
    obtain ⟨j, hstep, hrest⟩ := path_cons.mp h
    cases hstep with
    | ordinary =>
      refine .inl ⟨?_, _, .inl rfl⟩
      rw [path_ordinary_outside hcs hrest]
      simp [Mode.word, grown, Word.plain]
    | escaped =>
      refine .inl ⟨?_, _, .inr rfl⟩
      rw [path_ordinary_outside hcs hrest]
      simp [Mode.word, grown, Word.plain]
    | single =>
      refine .inr (.inl ⟨_, .inl ?_, Nat.lt_succ_self _⟩)
      rw [path_ordinary_single hcs hrest]
      simp [Word.plain]
    | double =>
      refine .inr (.inl ⟨_, .inr ?_, Nat.lt_succ_self _⟩)
      rw [path_ordinary_double hcs hrest]
      simp [Word.plain]
    | @kept word =>
      refine .inr (.inl ⟨word ++ [.plain '\\'], .inr ?_, ?_⟩)
      · rw [path_ordinary_double hcs hrest]
        simp [Word.plain]
      · simp [Mode.load]
    | openComment => exact .inr (.inr (path_comment hrest))
    | comment => exact .inr (.inr (path_comment hrest))
    | escapedInside hescapable =>
      exact absurd (special_of_isEscapable hescapable) (isOrdinary_iff.mp hc)
    | blank hblank => exact absurd (special_of_isBlank hblank) (isOrdinary_iff.mp hc)
    | openSingle | openDouble | escape | closeSingle | escapeInside | closeDouble | joined
      | joinedInside => exact absurd hc (by decide)

theorem Word.plain_inj {xs ys : List Char} (h : Word.plain xs = Word.plain ys) : xs = ys :=
  List.map_injective_iff.mpr (fun _ _ => Glyph.plain.inj) h

/-- What a plain word begins with is found in its text at the same place. -/
theorem Word.eq_of_prefix {w : Word} {ks v : List Char} (h : w ++ Word.plain ks <+: Word.plain v) :
    ∃ xs ys, v = xs ++ (ks ++ ys) ∧ xs.length = w.length := by
  obtain ⟨rest, hrest⟩ := h
  rw [List.append_assoc] at hrest
  obtain ⟨xs, zs, rfl, rfl, hzs⟩ := List.map_eq_append_iff.mp hrest.symm
  obtain ⟨ks', ys, rfl, hks, _⟩ := List.map_eq_append_iff.mp hzs
  obtain rfl := Word.plain_inj hks
  exact ⟨xs, ys, rfl, (List.length_map _).symm⟩

theorem keyword_descends {k x y v : List Char} (hk : ∀ c ∈ k, isOrdinary c) (hne : k ≠ [])
    (h : Path (.outside none) (x ++ (k ++ ' ' :: y)) (.outside (some (Word.plain v)))) :
    ∃ x' y', v = x' ++ (k ++ ' ' :: y') ∧ x'.length < x.length := by
  obtain ⟨m, hx, hrest⟩ := path_append.mp h
  obtain ⟨n, hkey, hblank⟩ := path_append.mp hrest
  obtain ⟨j, hstep, hy⟩ := path_cons.mp hblank
  have hload : m.load ≤ x.length := by simpa [Mode.load] using hx.load_le
  rcases path_keyword hk hne hkey with ⟨rfl, _⟩ | ⟨w, hn, hw⟩ | rfl
  · cases hstep with
    | ordinary h => exact absurd h (by decide)
  · have hj : j.word = w ++ Word.plain (k ++ [' ']) := by
      rcases hn with rfl | rfl
      · cases hstep
        simp [Mode.word, Word.plain]
      · cases hstep
        simp [Mode.word, Word.plain]
    have hprefix : j.word <+: Word.plain v := hy.word
    rw [hj] at hprefix
    obtain ⟨x', y', rfl, hx'⟩ := Word.eq_of_prefix hprefix
    exact ⟨x', y', by simp, by omega⟩
  · cases hstep
    cases path_comment hy

/-- In quotes a keyword and its blank become part of the word, which has them further in front than
the text does. A word that the text begins with would have them ever further in front. -/
theorem not_path_of_keyword {k x y v z : List Char} (hk : ∀ c ∈ k, isOrdinary c) (hne : k ≠ [])
    (htext : v ++ z = x ++ (k ++ ' ' :: y)) :
    ¬Path (.outside none) (v ++ z) (.outside (some (Word.plain v))) := by
  intro h
  obtain ⟨x', y', hv, hlt⟩ := keyword_descends hk hne (htext ▸ h)
  exact not_path_of_keyword hk hne (x := x') (y := y' ++ z) (by simp [hv]) h
termination_by x.length

/-! ## The first word -/

theorem word_of_stepOutside {word? : Option Word} {n : Mode} {c : Char} {w : Word} {ts : List Token}
    (h : stepOutside word? c = some (n, .word w :: ts)) : word? = some w ∧ c ∈ special := by
  unfold stepOutside at h
  split_ifs at h with hblank hbreak hoperator <;> simp only [Option.some.injEq, Prod.mk.injEq] at h
  · exact ⟨by cases word? <;> simp_all [ended], special_of_isBlank hblank⟩
  · exact ⟨by cases word? <;> simp_all [ended], by simp [hbreak, special]⟩
  · exact ⟨by cases word? <;> simp_all [ended], special_of_isOperator hoperator⟩
  all_goals simp at h

theorem stepDouble_ne_cons {word : Word} {n : Mode} {c : Char} {t : Token} {ts : List Token} :
    stepDouble word c ≠ some (n, t :: ts) := by
  intro h
  unfold stepDouble at h
  split_ifs at h <;> simp at h

/-- A word ends where the reader has it, at a character that is not its own. -/
theorem word_of_step {m n : Mode} {c : Char} {w : Word} {ts : List Token}
    (h : step m c = some (n, .word w :: ts)) :
    m.word = w ∧ c ∈ special ∧ (m.isCalm → m = .outside (some w)) := by
  cases m
  case outside =>
    obtain ⟨rfl, hc⟩ := word_of_stepOutside h
    exact ⟨rfl, hc, fun _ => rfl⟩
  case double => exact absurd h stepDouble_ne_cons
  case «variable» =>
    simp only [step] at h
    split_ifs at h
    · simp at h
    · exact absurd h stepDouble_ne_cons
    · obtain ⟨hword, hc⟩ := word_of_stepOutside h
      exact ⟨Option.some.inj hword, hc, fun hcalm => by cases hcalm⟩
  all_goals
    simp only [step] at h
    split_ifs at h <;> simp at h

theorem reads_first {m n : Mode} {cs : List Char} {t : Token} {ts : List Token}
    (h : Reads m cs n (t :: ts)) :
    ∃ xs c ys k j us, cs = xs ++ c :: ys ∧ Reads m xs k [] ∧ step k c = some (j, t :: us) := by
  induction cs generalizing m with
  | nil => cases (reads_nil.mp h).2
  | cons c cs ih =>
    obtain ⟨k, us, vs, hstep, hrest, hts⟩ := reads_cons.mp h
    cases us with
    | nil =>
      obtain ⟨xs, d, ys, j, i, ws, rfl, hxs, hd⟩ := ih (show Reads k cs n (t :: ts) from hts ▸ hrest)
      exact ⟨c :: xs, d, ys, j, i, ws, rfl, hxs.cons hstep, hd⟩
    | cons u us =>
      obtain ⟨rfl, _⟩ := List.cons.inj hts
      exact ⟨[], c, cs, m, k, us, rfl, .nil m, hstep⟩

/-- The first word, where it is plain, is what comes of a text up to a character that ends it. -/
theorem path_of_first {cs : List Char} {n : Mode} {v : List Char} {ts : List Token}
    (h : Reads (.outside none) cs n (.word (Word.plain v) :: ts)) :
    ∃ xs c ys, cs = xs ++ c :: ys ∧ c ∈ special ∧
      Path (.outside none) xs (.outside (some (Word.plain v))) := by
  obtain ⟨xs, c, ys, k, j, us, rfl, hxs, hc⟩ := reads_first h
  obtain ⟨hword, hspecial, hmode⟩ := word_of_step hc
  have hpath := path_of_reads hxs rfl ⟨v, hword⟩
  exact ⟨xs, c, ys, rfl, hspecial, hmode (hpath.isCalm rfl) ▸ hpath⟩

theorem path_escaped {cs : List Char} {word? word'? : Option Word}
    (h : Path (.outside word?) cs (.escaped word'?)) : cs.getLast? = some '\\' := by
  obtain rfl | ⟨xs, c, rfl⟩ := List.eq_nil_or_concat' cs
  · cases h
  · obtain ⟨k, _, hlast⟩ := path_append.mp h
    obtain ⟨j, hstep, hnil⟩ := path_cons.mp hlast
    cases hnil
    cases hstep
    simp

/-- Behind the end of a line a word of the next one is reached only with a backslash, which the
word would then end with as well. -/
theorem not_path_of_keyword_end {k v : List Char} (hk : ∀ c ∈ k, isOrdinary c) (hne : k ≠ []) :
    ¬Path (.outside none) (v ++ '\n' :: k) (.outside (some (Word.plain v))) := by
  intro h
  obtain ⟨m, hv, hrest⟩ := path_append.mp h
  obtain ⟨n, hstep, hkey⟩ := path_cons.mp hrest
  rcases path_keyword hk hne hkey with ⟨hend, word?, hn⟩ | ⟨w, hend, _⟩ | hend
  · have hword : Word.plain v = n.word ++ Word.plain k := by
      injection hend with hend
      exact Option.some.inj hend
    obtain ⟨xs, ys, rfl, _, hys⟩ := List.map_eq_append_iff.mp hword
    obtain rfl := Word.plain_inj hys
    cases hstep with
    | joined =>
      have hslash := path_escaped hv
      rw [List.getLast?_append_of_ne_nil xs hne] at hslash
      exact absurd (hk _ (List.mem_of_getLast? hslash)) (by decide)
    | blank h => exact absurd h (by decide)
    | ordinary h => exact absurd h (by decide)
    | escaped h => exact absurd rfl h
    | single | double | joinedInside | escapedInside | kept | comment => simp at hn
  · rcases hend with hend | hend <;> cases hend
  · cases hend

/-- What the lines of a script begin with: a keyword and a blank. -/
def StartsWord (cs : List Char) : Prop :=
  ∃ k rest, cs = k ++ ' ' :: rest ∧ k ≠ [] ∧ ∀ c ∈ k, isOrdinary c

/-- A text is literal if it is read as itself in front of another line. -/
theorem literal_of_reads {v cs : List Char} {n : Mode} {ts : List Token} (hnext : StartsWord cs)
    (h : Reads (.outside none) (v ++ '\n' :: cs) n (.word (Word.plain v) :: ts)) : Literal v := by
  obtain ⟨k, rest, rfl, hne, hk⟩ := hnext
  obtain ⟨xs, c, ys, htext, hspecial, hpath⟩ := path_of_first h
  have hlen : v.length ≤ xs.length := by simpa [Mode.load, Word.plain] using hpath.load_le
  -- The word ends with the text, with the keyword or behind it.
  rcases List.append_eq_append_iff.mp htext with ⟨zs, rfl, hzs⟩ | ⟨zs, rfl, _⟩
  · obtain _ | ⟨z, zs⟩ := zs
    · rw [List.append_nil] at hpath
      exact literal_of_path hpath
    obtain ⟨rfl, hline⟩ := List.cons.inj hzs
    rcases List.append_eq_append_iff.mp hline with ⟨y, rfl, hy⟩ | ⟨y, rfl, hy⟩
    · obtain _ | ⟨b, y⟩ := y
      · rw [List.append_nil] at hpath
        exact absurd hpath (not_path_of_keyword_end hk hne)
      · obtain ⟨rfl, _⟩ := List.cons.inj hy
        exact absurd hpath (not_path_of_keyword hk hne (x := v ++ ['\n']) (y := y) (by simp))
    · obtain _ | ⟨b, y⟩ := y
      · rw [List.append_nil] at hk hne
        exact absurd hpath (not_path_of_keyword_end hk hne)
      · obtain ⟨rfl, _⟩ := List.cons.inj hy
        exact absurd hspecial (isOrdinary_iff.mp (hk c (by simp)))
  · rw [List.length_append] at hlen
    obtain rfl := List.length_eq_zero_iff.mp (show zs.length = 0 by omega)
    rw [List.append_nil] at hpath ⊢
    exact literal_of_path hpath

/-! ## Values at the end of a line -/

/-- A value that ends a line is a word of its own if and only if it is literal. -/
theorem lines_value {front v cs : List Char} {ts : List Token} {more : List (List Token)}
    (hfront : Reads (.outside none) front (.outside none) ts) (hts : ts ≠ []) (hnew : .newline ∉ ts)
    (hnext : StartsWord cs) (hmore : more ≠ []) :
    Lines (front ++ v ++ '\n' :: cs) ((ts ++ [.word (Word.plain v)]) :: more) ↔
      Literal v ∧ Lines cs more := by
  have hline (h : Literal v) :
      Lines (front ++ v ++ '\n' :: cs) ((ts ++ [.word (Word.plain v)]) :: more) ↔ Lines cs more :=
    Scanner.lines_line (h.readsLine hfront hnew) (by simp)
  have hliteral : Lines (front ++ v ++ '\n' :: cs) ((ts ++ [.word (Word.plain v)]) :: more) →
      Literal v := by
    rintro ⟨us, hall, hlines⟩
    rw [List.append_assoc] at hall
    obtain ⟨vs, hvs, rfl⟩ := hfront.rest hall
    obtain ⟨ws, rfl⟩ := Scanner.line_of_commands hts hnew hlines hmore
    exact literal_of_reads hnext hvs
  constructor
  · intro h
    exact ⟨hliteral h, (hline (hliteral h)).mp h⟩
  · rintro ⟨h, hrest⟩
    exact (hline h).mpr hrest

end EnclaveFleet.Shell.Recognition
