import EnclaveFleet.Proofs.Text.Trimming
import EnclaveFleet.Settings.Basic

/-!
# The directory of a clone

The settings name the directory of the repository by what follows the last slash of its address. A
clone is made in a directory whose name is found by more rules than this one, and the two agree on
plain addresses only.

* `Remote`: the address of a repository, a URL or a path on a host that a user logs in to
* `cloneName`: the directory that a clone is made in
* `lastName`, `repoDirChars_eq`: the directory of the settings comes from what follows the last slash
* `slash_notMem_repoDirChars`, `repoDirChars_append_slashes`: it is a single name, and slashes behind
  the address do not count
* `Remote.Plain`: the last name of the address is the repository's
* `Remote.plain_of_repoDir_eq`, `Remote.repoDir_eq_of_plain`: where the two agree
* `cloned_into_repoDir`: both in one
-/
namespace EnclaveFleet
set_option autoImplicit false

/-! ## Where a clone is made -/

namespace Clone

/-- Scheme and user end at the first of these. -/
def isSchemeChar (c : Char) : Bool := c ≠ ':' && c ≠ '/' && c ≠ '@'

def withoutScheme (url : List Char) : List Char :=
  match url.dropWhile isSchemeChar with
  | ':' :: '/' :: '/' :: rest => rest
  | _ => url

/-- The host stands in front of the first slash, and what it has in front of its last at sign is no
part of it. -/
def withoutUser (cs : List Char) : List Char :=
  (cs.takeWhile (· ≠ '/')).rtakeWhile (· ≠ '@') ++ cs.dropWhile (· ≠ '/')

def isTrailing (c : Char) : Bool := c.isWhitespace || c = '/'

/-- The entry `.git` stands for the directory that it is in. -/
def withoutGitEntry (cs : List Char) : List Char :=
  match cs.dropSuffix? "/.git".toList with
  | some front => front.rdropWhile (· = '/')
  | none => cs

def lastPart (cs : List Char) : List Char :=
  cs.rtakeWhile fun c => c ≠ '/' && c ≠ ':'

def withoutGitEnding (name : List Char) : List Char :=
  (name.dropSuffix? ".git".toList).getD name

end Clone

open Clone in
/-- The name of the directory that a clone of the address is made in. -/
def cloneName (url : List Char) : List Char :=
  withoutGitEnding (lastPart (withoutGitEntry
    ((withoutUser (withoutScheme url)).rdropWhile isTrailing)))

/-! ## Addresses -/

inductive Remote where
  | url (scheme host path : List Char)
  /-- A path on a host that a user logs in to. -/
  | login (user host path : List Char)

namespace Remote

def text : Remote → List Char
  | .url scheme host path => scheme ++ ':' :: '/' :: '/' :: (host ++ '/' :: path)
  | .login user host path => (user ++ '@' :: host) ++ ':' :: path

/-- The parts of the address are found again in its text. -/
inductive WellFormed : Remote → Prop
  | url {scheme host path : List Char} (hscheme : ∀ c ∈ scheme, Clone.isSchemeChar c)
      (hhost : '/' ∉ host) (hpath : path ≠ []) : WellFormed (.url scheme host path)
  | login {user host path : List Char} (huser : ':' ∉ user ∧ '/' ∉ user) (hpath : path ≠ []) :
      WellFormed (.login user host path)

end Remote

/-! ## What follows the last slash -/

/-- What follows the last slash, not counting slashes at the end. -/
def lastName (url : List Char) : List Char :=
  (url.rdropWhile (· = '/')).rtakeWhile (· ≠ '/')

theorem dropEnding_eq (ending cs : List Char) :
    Text.dropEnding? ending cs = cs.dropSuffix? ending := by
  ext front
  rw [List.dropSuffix?_eq_some_iff, Text.dropEnding?]
  constructor
  · intro h
    split at h
    · next hsuffix =>
      obtain ⟨start, rfl⟩ := List.isSuffixOf_iff_suffix.mp hsuffix
      obtain rfl : start = front := by simpa using h
      exact ⟨ending, rfl, beq_self_eq_true ending⟩
    · cases h
  · rintro ⟨found, rfl, hfound⟩
    obtain rfl := eq_of_beq hfound
    have hsuffix : found.isSuffixOf (front ++ found) :=
      List.isSuffixOf_iff_suffix.mpr ⟨front, rfl⟩
    rw [if_pos hsuffix]
    simp

theorem repoDirChars_eq (url : List Char) :
    Settings.repoDirChars url = Clone.withoutGitEnding (lastName url) := by
  simp only [Settings.repoDirChars, dropEnding_eq]
  rfl

/-! ## The ending -/

namespace Clone

theorem withoutGitEnding_cases (name : List Char) :
    withoutGitEnding name = name ∨ name = withoutGitEnding name ++ ".git".toList := by
  unfold withoutGitEnding
  cases h : name.dropSuffix? ".git".toList with
  | none => exact .inl rfl
  | some front =>
    obtain ⟨ending, hname, hending⟩ := List.dropSuffix?_eq_some_iff.mp h
    rw [eq_of_beq hending] at hname
    exact .inr hname

theorem mem_of_mem_withoutGitEnding {name : List Char} {c : Char}
    (h : c ∈ withoutGitEnding name) : c ∈ name := by
  obtain heq | heq := withoutGitEnding_cases name
  · rwa [heq] at h
  · rw [heq]
    exact List.mem_append_left _ h

theorem mem_withoutGitEnding {name : List Char} {c : Char} (h : c ∈ name)
    (hc : c ∉ ".git".toList) : c ∈ withoutGitEnding name := by
  obtain heq | heq := withoutGitEnding_cases name
  · rwa [heq]
  · rw [heq] at h
    exact (List.mem_append.mp h).resolve_right hc

theorem withoutGitEnding_of_getLast {name : List Char} {c : Char} (h : name.getLast? = some c)
    (hc : c ≠ 't') : withoutGitEnding name = name := by
  obtain heq | heq := withoutGitEnding_cases name
  · exact heq
  · rw [heq, List.getLast?_append] at h
    exact absurd (Option.some.inj h).symm hc

end Clone

/-! ## One name -/

theorem slash_notMem_lastName (url : List Char) : '/' ∉ lastName url := fun h => by
  simpa using List.mem_rtakeWhile_imp h

theorem slash_notMem_repoDirChars (url : List Char) : '/' ∉ Settings.repoDirChars url := by
  rw [repoDirChars_eq]
  exact fun h => slash_notMem_lastName url (Clone.mem_of_mem_withoutGitEnding h)

theorem lastName_append_slashes {slashes : List Char} (h : ∀ c ∈ slashes, c = '/')
    (url : List Char) : lastName (url ++ slashes) = lastName url := by
  unfold lastName
  rw [rdropWhile_append_of_all (fun c hc => by simpa using h c hc)]

theorem repoDirChars_append_slashes (url : List Char) (n : Nat) :
    Settings.repoDirChars (url ++ List.replicate n '/') = Settings.repoDirChars url := by
  rw [repoDirChars_eq, repoDirChars_eq,
    lastName_append_slashes fun c hc => List.eq_of_mem_replicate hc]

/-! ## Where the last name begins -/

theorem forall_ne_of_notMem {cs : List Char} {d : Char} (h : d ∉ cs) :
    ∀ c ∈ cs, decide (c ≠ d) = true := fun c hc => by
  simpa using ne_of_mem_of_not_mem hc h

theorem rtakeWhile_append_of_all {p : Char → Bool} {tail : List Char} (h : ∀ c ∈ tail, p c)
    (cs : List Char) : (cs ++ tail).rtakeWhile p = cs.rtakeWhile p ++ tail := by
  induction tail using List.reverseRecOn with
  | nil => simp
  | append_singleton tail c ih =>
    have hc : p c := h c (by simp)
    rw [← List.append_assoc, List.rtakeWhile_concat_pos _ _ _ hc,
      ih fun d hd => h d (by simp [hd]), List.append_assoc]

theorem rtakeWhile_append_cons {p : Char → Bool} {c : Char} {tail : List Char} (hc : ¬p c)
    (h : ∀ d ∈ tail, p d) (cs : List Char) : (cs ++ c :: tail).rtakeWhile p = tail := by
  have hcut : cs ++ c :: tail = (cs ++ [c]) ++ tail := by simp
  rw [hcut, rtakeWhile_append_of_all h, List.rtakeWhile_concat_neg _ _ _ hc, List.nil_append]

theorem getLast_cons_concat (front start : List Char) (c d : Char) :
    (front ++ c :: (start ++ [d])).getLast? = some d :=
  List.getLast?_eq_some_iff.mpr ⟨front ++ c :: start, by simp⟩

theorem rdropWhile_of_getLast {p : Char → Bool} {cs : List Char} {c : Char}
    (h : cs.getLast? = some c) (hc : ¬p c) : cs.rdropWhile p = cs := by
  obtain ⟨front, rfl⟩ := List.getLast?_eq_some_iff.mp h
  exact List.rdropWhile_concat_neg _ _ _ hc

/-- All of a text is taken from its end, or there is something before what is taken. -/
theorem rtakeWhile_cases (p : Char → Bool) (cs : List Char) :
    (∀ c ∈ cs, p c) ∨ ∃ front c, ¬p c ∧ cs = front ++ c :: cs.rtakeWhile p := by
  have hcut : cs.rdropWhile p ++ cs.rtakeWhile p = cs := List.rdropWhile_append_rtakeWhile
  cases hlast : (cs.rdropWhile p).getLast? with
  | none => exact .inl (List.rdropWhile_eq_nil_iff.mp (List.getLast?_eq_none_iff.mp hlast))
  | some c =>
    obtain ⟨front, hfront⟩ := List.getLast?_eq_some_iff.mp hlast
    refine .inr ⟨front, c, getLast_rdropWhile hlast, ?_⟩
    rw [hfront, List.append_assoc] at hcut
    exact hcut.symm

/-- A text that ends in no slash. -/
def Closed (cs : List Char) : Prop := ∀ c, cs.getLast? = some c → c ≠ '/'

theorem lastName_of_closed {front kept slashes : List Char} {c : Char} (hc : c ≠ '/')
    (hkept : Closed kept) (hslashes : ∀ d ∈ slashes, d = '/') :
    lastName (front ++ c :: (kept ++ slashes)) = (front ++ c :: kept).rtakeWhile (· ≠ '/') := by
  have hassoc : front ++ c :: (kept ++ slashes) = (front ++ c :: kept) ++ slashes := by simp
  obtain ⟨d, hlast, hd⟩ : ∃ d, (front ++ c :: kept).getLast? = some d ∧ d ≠ '/' := by
    cases hlast : kept.getLast? with
    | none =>
      obtain rfl := List.getLast?_eq_none_iff.mp hlast
      exact ⟨c, by simp, hc⟩
    | some d =>
      obtain ⟨start, rfl⟩ := List.getLast?_eq_some_iff.mp hlast
      exact ⟨d, getLast_cons_concat front start c d, hkept d hlast⟩
  rw [hassoc, lastName_append_slashes hslashes, lastName,
    rdropWhile_of_getLast hlast (by simpa using hd)]

/-- A character that the last name does not have stands in front of the slash before the name. -/
theorem exists_of_notMem_lastName {front tail : List Char} {c : Char} (hc : c ≠ '/')
    (h : c ∉ lastName (front ++ c :: tail)) :
    ∃ before slashes, (∀ d ∈ slashes, d = '/') ∧ lastName (front ++ c :: tail) ≠ [] ∧
      tail = before ++ '/' :: (lastName (front ++ c :: tail) ++ slashes) := by
  have htail : tail.rdropWhile (· = '/') ++ tail.rtakeWhile (· = '/') = tail :=
    List.rdropWhile_append_rtakeWhile
  have hslashes : ∀ d ∈ tail.rtakeWhile (· = '/'), d = '/' := fun d hd => by
    simpa using List.mem_rtakeWhile_imp hd
  have hkept : Closed (tail.rdropWhile (· = '/')) := fun d hd => by
    simpa using getLast_rdropWhile hd
  generalize tail.rdropWhile (· = '/') = kept at htail hkept
  generalize tail.rtakeWhile (· = '/') = slashes at htail hslashes
  subst htail
  rw [lastName_of_closed hc hkept hslashes] at h ⊢
  obtain hall | ⟨before, d, hd, hcut⟩ := rtakeWhile_cases (· ≠ '/') kept
  · refine absurd ?_ h
    have hname : ∀ d ∈ c :: kept, d ≠ '/' := by simpa [hc] using hall
    rw [rtakeWhile_append_of_all (by simpa using hname)]
    simp
  · obtain rfl : d = '/' := by simpa using hd
    have hname : (front ++ c :: kept).rtakeWhile (· ≠ '/') = kept.rtakeWhile (· ≠ '/') := by
      have hassoc : front ++ c :: kept = (front ++ c :: before) ++
          '/' :: kept.rtakeWhile (· ≠ '/') := by
        conv_lhs => rw [hcut]
        simp
      rw [hassoc, rtakeWhile_append_cons (by simp) fun d hd => List.mem_rtakeWhile_imp hd]
    rw [hname]
    refine ⟨before, slashes, hslashes, fun hnil => ?_, ?_⟩
    · rw [hnil] at hcut
      exact hkept '/' (by simp [hcut]) rfl
    · conv_lhs => rw [hcut]
      simp

/-! ## Scheme and user -/

namespace Clone

theorem withoutScheme_url {scheme : List Char} (hscheme : ∀ c ∈ scheme, isSchemeChar c)
    (rest : List Char) : withoutScheme (scheme ++ ':' :: '/' :: '/' :: rest) = rest := by
  rw [withoutScheme, List.dropWhile_append_of_pos hscheme]
  rfl

/-- The at sign behind the user comes before any end of a scheme. -/
theorem withoutScheme_login {user : List Char} (huser : ':' ∉ user ∧ '/' ∉ user)
    (rest : List Char) : withoutScheme (user ++ '@' :: rest) = user ++ '@' :: rest := by
  obtain ⟨tail, htail⟩ : ∃ tail, (user ++ '@' :: rest).dropWhile isSchemeChar = '@' :: tail := by
    induction user with
    | nil => exact ⟨rest, rfl⟩
    | cons c user ih =>
      simp only [List.mem_cons, not_or] at huser
      by_cases hc : c = '@'
      · exact ⟨user ++ '@' :: rest, by simp [hc, isSchemeChar]⟩
      · have hscheme : isSchemeChar c := by
          simp [isSchemeChar, hc, Ne.symm huser.1.1, Ne.symm huser.2.1]
        rw [List.cons_append, List.dropWhile_cons_of_pos hscheme]
        exact ih ⟨huser.1.2, huser.2.2⟩
  simp [withoutScheme, htail]

theorem exists_withoutUser (front tail : List Char) :
    ∃ start, withoutUser (front ++ '/' :: tail) = start ++ '/' :: tail := by
  have hdrop : (front ++ '/' :: tail).dropWhile (· ≠ '/') =
      front.dropWhile (· ≠ '/') ++ '/' :: tail := by
    rw [List.dropWhile_append]
    split
    · next hnil =>
      rw [List.isEmpty_iff.mp hnil]
      rfl
    · rfl
  rw [withoutUser, hdrop, ← List.append_assoc]
  exact ⟨_, rfl⟩

theorem takeWhile_host {host : List Char} (hhost : '/' ∉ host) (path : List Char) :
    (host ++ '/' :: path).takeWhile (· ≠ '/') = host := by
  rw [List.takeWhile_append_of_pos (forall_ne_of_notMem hhost)]
  simp

theorem dropWhile_host {host : List Char} (hhost : '/' ∉ host) (path : List Char) :
    (host ++ '/' :: path).dropWhile (· ≠ '/') = '/' :: path := by
  rw [List.dropWhile_append_of_pos (forall_ne_of_notMem hhost)]
  rfl

theorem withoutUser_host {host : List Char} (hhost : '/' ∉ host) (path : List Char) :
    withoutUser (host ++ '/' :: path) = host.rtakeWhile (· ≠ '@') ++ '/' :: path := by
  rw [withoutUser, takeWhile_host hhost, dropWhile_host hhost]

/-- Where slashes follow a single name, nothing else follows the host. -/
theorem slashes_of_host {host path name slashes : List Char} (hhost : '/' ∉ host)
    (hname : '/' ∉ name) (hslashes : ∀ c ∈ slashes, c = '/')
    (h : host ++ '/' :: path = name ++ slashes) : ∀ c ∈ path, c = '/' := by
  have hpath : '/' :: path = slashes.dropWhile (· ≠ '/') := by
    rw [← dropWhile_host hhost path, h,
      List.dropWhile_append_of_pos (forall_ne_of_notMem hname)]
  intro c hc
  have hmem : c ∈ slashes.dropWhile (· ≠ '/') := hpath ▸ List.mem_cons_of_mem _ hc
  exact hslashes c ((List.dropWhile_suffix _).mem hmem)

end Clone

/-! ## Plain addresses -/

/-- What stands in front of a whole name: nothing, or a text that ends in a slash. -/
def Boundary (cs : List Char) : Prop := ∀ c, cs.getLast? = some c → c = '/'

theorem boundary_concat (cs : List Char) : Boundary (cs ++ ['/']) := fun c hc => by
  rw [List.getLast?_concat] at hc
  exact (Option.some.inj hc).symm

theorem rtakeWhile_of_boundary {p : Char → Bool} {before name : List Char}
    (hbefore : Boundary before) (hp : ¬p '/') (h : ∀ c ∈ name, p c) :
    (before ++ name).rtakeWhile p = name := by
  cases hlast : before.getLast? with
  | none =>
    obtain rfl := List.getLast?_eq_none_iff.mp hlast
    exact List.rtakeWhile_eq_self_iff.mpr h
  | some c =>
    obtain rfl := hbefore c hlast
    obtain ⟨front, rfl⟩ := List.getLast?_eq_some_iff.mp hlast
    rw [List.append_assoc]
    exact rtakeWhile_append_cons hp h front

def EndsBlank (cs : List Char) : Prop := ∃ c, cs.getLast? = some c ∧ c.isWhitespace

namespace Clone

/-- The directory of a clone where a whole name stands at the end. -/
theorem name_of_boundary {before name slashes : List Char} (hbefore : Boundary before)
    (hslashes : ∀ c ∈ slashes, c = '/') (hne : name ≠ []) (hone : '/' ∉ name ∧ ':' ∉ name)
    (hentry : name ≠ ".git".toList) (hblank : ¬EndsBlank name) :
    withoutGitEnding (lastPart (withoutGitEntry
      ((before ++ (name ++ slashes)).rdropWhile isTrailing))) = withoutGitEnding name := by
  have htrim : (before ++ (name ++ slashes)).rdropWhile isTrailing = before ++ name := by
    obtain ⟨front, c, rfl⟩ : ∃ front c, name = front ++ [c] :=
      ⟨_, _, (List.dropLast_append_getLast hne).symm⟩
    have hc : ¬isTrailing c := by
      have hslash : c ≠ '/' := fun hc => hone.1 (by simp [hc])
      have hspace : ¬c.isWhitespace := fun hc => hblank ⟨c, by simp, hc⟩
      simpa [isTrailing, hslash] using hspace
    rw [← List.append_assoc,
      rdropWhile_append_of_all fun d hd => by simp [isTrailing, hslashes d hd],
      ← List.append_assoc, List.rdropWhile_concat_neg _ _ _ hc]
  have hgit : withoutGitEntry (before ++ name) = before ++ name := by
    rw [withoutGitEntry]
    cases hfound : (before ++ name).dropSuffix? "/.git".toList with
    | none => rfl
    | some front =>
      obtain ⟨ending, hcut, hending⟩ := List.dropSuffix?_eq_some_iff.mp hfound
      rw [eq_of_beq hending, show "/.git".toList = '/' :: ".git".toList by decide] at hcut
      have hname : (before ++ name).rtakeWhile (· ≠ '/') = name :=
        rtakeWhile_of_boundary hbefore (by simp) (forall_ne_of_notMem hone.1)
      have hlast : (front ++ '/' :: ".git".toList).rtakeWhile (· ≠ '/') = ".git".toList :=
        rtakeWhile_append_cons (by decide) (List.all_eq_true.mp (by decide)) front
      rw [← hname, hcut] at hentry
      exact absurd hlast hentry
  rw [htrim, hgit, lastPart, rtakeWhile_of_boundary hbefore (by simp)]
  exact fun c hc => by
    simpa using ⟨ne_of_mem_of_not_mem hc hone.1, ne_of_mem_of_not_mem hc hone.2⟩

end Clone

namespace Remote

/-- A URL of a host alone, with a user in front of it. -/
def NamesUser : Remote → Prop
  | .url _ host path => (∀ c ∈ path, c = '/') ∧ '@' ∈ host
  | .login .. => False

/-- The last name of the address is a part of its own and names the repository. -/
structure Plain (a : Remote) : Prop where
  colon : ':' ∉ lastName a.text
  entry : lastName a.text ≠ ".git".toList
  blank : ¬EndsBlank (lastName a.text)
  user : ¬a.NamesUser

/-- The last name is whole at the end of what a clone looks at. -/
def EndsInName (a : Remote) : Prop :=
  lastName a.text ≠ [] ∧ ∃ before slashes, Boundary before ∧ (∀ c ∈ slashes, c = '/') ∧
    Clone.withoutUser (Clone.withoutScheme a.text) = before ++ (lastName a.text ++ slashes)

theorem endsInName_url {scheme host path : List Char}
    (hscheme : ∀ c ∈ scheme, Clone.isSchemeChar c) (hhost : '/' ∉ host)
    (h : (url scheme host path).Plain) : (url scheme host path).EndsInName := by
  obtain ⟨before, slashes, hslashes, hne, hcut⟩ :=
    exists_of_notMem_lastName (by decide) h.colon
  have hone := slash_notMem_lastName (url scheme host path).text
  refine ⟨hne, ?_⟩
  have hrest : Clone.withoutScheme (url scheme host path).text = host ++ '/' :: path :=
    Clone.withoutScheme_url hscheme _
  rw [hrest]
  change lastName (url scheme host path).text ≠ [] at hne
  change _ = before ++ '/' :: (lastName (url scheme host path).text ++ slashes) at hcut
  generalize lastName (url scheme host path).text = name at hne hone hcut
  -- the slash in front of the name is the second one, the first one or one of the path
  match before, hcut with
  | [], hcut =>
    have hhead : '/' :: (host ++ '/' :: path) = name ++ slashes := List.tail_eq_of_cons_eq hcut
    obtain ⟨c, tail, rfl⟩ := List.exists_cons_of_ne_nil hne
    have hc : '/' = c := List.head_eq_of_cons_eq hhead
    exact absurd (hc ▸ List.mem_cons_self) hone
  | [_], hcut =>
    have hhost' : host ++ '/' :: path = name ++ slashes :=
      List.tail_eq_of_cons_eq (List.tail_eq_of_cons_eq hcut)
    have huser : '@' ∉ host := fun hat =>
      h.user ⟨Clone.slashes_of_host hhost hone hslashes hhost', hat⟩
    have hall : host.rtakeWhile (· ≠ '@') = host :=
      List.rtakeWhile_eq_self_iff.mpr (forall_ne_of_notMem huser)
    refine ⟨[], slashes, by simp [Boundary], hslashes, ?_⟩
    rw [Clone.withoutUser_host hhost, hall, hhost', List.nil_append]
  | _ :: _ :: front, hcut =>
    have hpath : host ++ '/' :: path = front ++ '/' :: (name ++ slashes) :=
      List.tail_eq_of_cons_eq (List.tail_eq_of_cons_eq hcut)
    obtain ⟨start, hstart⟩ := Clone.exists_withoutUser front (name ++ slashes)
    refine ⟨start ++ ['/'], slashes, boundary_concat start, hslashes, ?_⟩
    rw [hpath, hstart, List.append_assoc, List.singleton_append]

theorem endsInName_login {user host path : List Char} (huser : ':' ∉ user ∧ '/' ∉ user)
    (h : (login user host path).Plain) : (login user host path).EndsInName := by
  obtain ⟨before, slashes, hslashes, hne, hcut⟩ :=
    exists_of_notMem_lastName (by decide) h.colon
  refine ⟨hne, ?_⟩
  have hscheme : Clone.withoutScheme (login user host path).text =
      (user ++ '@' :: host) ++ ':' :: path := by
    rw [text, List.append_assoc, List.cons_append]
    exact Clone.withoutScheme_login huser _
  change path = before ++ '/' :: (lastName (login user host path).text ++ slashes) at hcut
  generalize lastName (login user host path).text = name at hcut
  obtain ⟨start, hstart⟩ := Clone.exists_withoutUser ((user ++ '@' :: host) ++ ':' :: before)
    (name ++ slashes)
  refine ⟨start ++ ['/'], slashes, boundary_concat start, hslashes, ?_⟩
  rw [List.append_assoc, List.cons_append, ← hcut] at hstart
  rw [hscheme, hstart, List.append_assoc, List.singleton_append]

theorem endsInName_of_plain {a : Remote} (hform : a.WellFormed) (h : a.Plain) : a.EndsInName := by
  cases hform with
  | url hscheme hhost _ => exact endsInName_url hscheme hhost h
  | login huser _ => exact endsInName_login huser h

theorem repoDir_eq_of_plain {a : Remote} (hform : a.WellFormed) (h : a.Plain) :
    Settings.repoDirChars a.text = cloneName a.text := by
  obtain ⟨hne, before, slashes, hbefore, hslashes, hrest⟩ := endsInName_of_plain hform h
  rw [repoDirChars_eq, cloneName, hrest,
    Clone.name_of_boundary hbefore hslashes hne ⟨slash_notMem_lastName _, h.colon⟩ h.entry h.blank]

end Remote

/-! ## Where the names differ -/

namespace Clone

theorem mem_of_mem_withoutGitEntry {cs : List Char} {c : Char} (h : c ∈ withoutGitEntry cs) :
    c ∈ cs := by
  unfold withoutGitEntry at h
  split at h
  · next front hfound =>
    obtain ⟨ending, rfl, -⟩ := List.dropSuffix?_eq_some_iff.mp hfound
    exact List.mem_append_left _ ((List.rdropWhile_prefix _ _).mem h)
  · exact h

theorem mem_of_mem_cloneName {url : List Char} {c : Char} (h : c ∈ cloneName url) :
    c ∈ withoutUser (withoutScheme url) :=
  (List.rdropWhile_prefix _ _).mem (mem_of_mem_withoutGitEntry
    ((List.rtakeWhile_suffix _ _).mem (mem_of_mem_withoutGitEnding h)))

theorem colon_notMem_cloneName (url : List Char) : ':' ∉ cloneName url := fun h => by
  simpa using List.mem_rtakeWhile_imp (mem_of_mem_withoutGitEnding h)

end Clone

namespace Remote

/-- With a user in front of a bare host, the clone drops the user and the last name keeps it. -/
theorem at_of_namesUser {a : Remote} (hform : a.WellFormed) (h : a.NamesUser) :
    '@' ∈ lastName a.text ∧ '@' ∉ cloneName a.text := by
  cases hform with
  | login _ _ => exact h.elim
  | @url scheme host path hscheme hhost _ =>
    obtain ⟨hpath, hat⟩ := h
    have hslashes : ∀ c ∈ '/' :: path, c = '/' := List.forall_mem_cons.mpr ⟨rfl, hpath⟩
    constructor
    · obtain ⟨front, c, hlast⟩ : ∃ front c, host = front ++ [c] :=
        ⟨_, _, (List.dropLast_append_getLast (List.ne_nil_of_mem hat)).symm⟩
      have hc : c ≠ '/' := ne_of_mem_of_not_mem (by simp [hlast]) hhost
      have htext : (url scheme host path).text =
          ((scheme ++ [':', '/']) ++ '/' :: host) ++ '/' :: path := by simp [text]
      have hclosed : ((scheme ++ [':', '/']) ++ '/' :: host).rdropWhile (· = '/') =
          (scheme ++ [':', '/']) ++ '/' :: host :=
        rdropWhile_of_getLast (hlast ▸ getLast_cons_concat _ front '/' c) (by simpa using hc)
      rw [htext, lastName_append_slashes hslashes, lastName, hclosed,
        rtakeWhile_append_cons (by simp) (forall_ne_of_notMem hhost)]
      exact hat
    · intro hmem
      have hrest := Clone.mem_of_mem_cloneName hmem
      rw [text, Clone.withoutScheme_url hscheme, Clone.withoutUser_host hhost] at hrest
      obtain hrest | hrest := List.mem_append.mp hrest
      · simpa using List.mem_rtakeWhile_imp hrest
      · exact absurd (hslashes '@' hrest) (by decide)

theorem plain_of_repoDir_eq {a : Remote} (hform : a.WellFormed) (hname : cloneName a.text ≠ [])
    (h : Settings.repoDirChars a.text = cloneName a.text) :
    a.Plain ∨ EndsBlank (cloneName a.text) := by
  rw [repoDirChars_eq] at h
  by_cases hblank : EndsBlank (lastName a.text)
  · obtain ⟨c, hlast, hspace⟩ := hblank
    have hc : c ≠ 't' := by
      rintro rfl
      exact absurd hspace (by decide)
    rw [Clone.withoutGitEnding_of_getLast hlast hc] at h
    exact .inr ⟨c, h ▸ hlast, hspace⟩
  · refine .inl ⟨fun hmem => ?_, fun hentry => ?_, hblank, fun huser => ?_⟩
    · have hcolon := Clone.mem_withoutGitEnding hmem (by decide)
      exact Clone.colon_notMem_cloneName a.text (h ▸ hcolon)
    · rw [hentry] at h
      exact hname (h ▸ by decide)
    · obtain ⟨hmem, hnot⟩ := at_of_namesUser hform huser
      exact hnot (h ▸ Clone.mem_withoutGitEnding hmem (by decide))

end Remote

/-! ## The directory of the settings -/

/-- The directory of the settings is the one of the clone where the last name of the address is the
repository's, and else only where the name ends in a blank. -/
theorem cloned_into_repoDir {s : Settings} {a : Remote} (hurl : s.repoUrl.toList = a.text)
    (hform : a.WellFormed) (hname : cloneName a.text ≠ []) :
    (a.Plain → s.repoDir.toList = cloneName a.text) ∧
    (s.repoDir.toList = cloneName a.text → a.Plain ∨ EndsBlank (cloneName a.text)) ∧
    '/' ∉ s.repoDir.toList ∧
    ∀ n, { s with repoUrl := s.repoUrl ++ String.ofList (List.replicate n '/') }.repoDir =
      s.repoDir := by
  have hdir : s.repoDir.toList = Settings.repoDirChars a.text := by
    rw [Settings.repoDir, String.toList_ofList, hurl]
  rw [hdir]
  refine ⟨Remote.repoDir_eq_of_plain hform, Remote.plain_of_repoDir_eq hform hname,
    slash_notMem_repoDirChars _, fun n => ?_⟩
  rw [Settings.repoDir, String.toList_append, String.toList_ofList, repoDirChars_append_slashes]
  rfl

theorem cloned_into_repoDir_https :
    ({ } : Settings).repoUrl.toList =
      (Remote.url "https".toList "github.com".toList "succinctlabs/sp1-tee.git".toList).text ∧
    ({ } : Settings).repoDir.toList = "sp1-tee".toList ∧
    cloneName ({ } : Settings).repoUrl.toList = "sp1-tee".toList := by
  have hurl : ({ } : Settings).repoUrl.toList =
      (Remote.url "https".toList "github.com".toList "succinctlabs/sp1-tee.git".toList).text := by
    decide
  have hform : (Remote.url "https".toList "github.com".toList
      "succinctlabs/sp1-tee.git".toList).WellFormed :=
    .url (List.all_eq_true.mp (by decide)) (by decide) (by decide)
  have hname : cloneName (Remote.url "https".toList "github.com".toList
      "succinctlabs/sp1-tee.git".toList).text = "sp1-tee".toList := by decide
  have hlast : lastName (Remote.url "https".toList "github.com".toList
      "succinctlabs/sp1-tee.git".toList).text = "sp1-tee.git".toList := by decide
  obtain ⟨heq, -⟩ := cloned_into_repoDir hurl hform (by rw [hname]; decide)
  have hplain : (Remote.url "https".toList "github.com".toList
      "succinctlabs/sp1-tee.git".toList).Plain := by
    refine ⟨by rw [hlast]; decide, by rw [hlast]; decide, ?_, fun huser => ?_⟩
    · rintro ⟨c, hc, hspace⟩
      rw [hlast] at hc
      obtain rfl : 't' = c := by simpa using hc
      exact absurd hspace (by decide)
    · exact absurd huser.2 (by decide)
  exact ⟨hurl, (heq hplain).trans hname, hurl ▸ hname⟩

/-- A colon is no slash, and the entry `.git` is dropped whole by a clone only. -/
theorem repoDir_ne_clone :
    (Remote.login "git".toList "github.com".toList "repo.git".toList).WellFormed ∧
    cloneName "git@github.com:repo.git".toList = "repo".toList ∧
    ({ repoUrl := "git@github.com:repo.git" } : Settings).repoDir = "git@github.com:repo" ∧
    cloneName "https://example.com/org/app/.git".toList = "app".toList ∧
    ({ repoUrl := "https://example.com/org/app/.git" } : Settings).repoDir = "" :=
  ⟨.login (by decide) (by decide), by decide, by decide, by decide, by decide⟩

end EnclaveFleet
