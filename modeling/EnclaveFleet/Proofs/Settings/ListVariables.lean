import EnclaveFleet.Proofs.Text.Trimming
import EnclaveFleet.Settings.Environment

/-!
# Variables that hold lists

The items of a list stand between commas. Blanks around an item do not count, and neither does a
segment that has nothing but blanks in it.

* `Item`: the texts that a list can hold
* `Segments`: what can stand between the commas of a list
* `listed_of_segments`: the items are found again in every text of the list
* `item_of_listed`: nothing but items is found in a text
* `lists_read_back`: both for a variable, and what is read of one that is blank
-/
namespace EnclaveFleet
set_option autoImplicit false

open Text (isBlank Bare joinWith splitAt)

/-- A text without a comma that begins and ends with something else than a blank. -/
structure Item (s : String) : Prop where
  ne_empty : s ≠ ""
  comma : ',' ∉ s.toList
  bare : Bare isBlank s.toList

theorem item_iff (s : String) :
    Item s ↔ s ≠ "" ∧ ',' ∉ s.toList ∧ Text.trim s.toList = s.toList := by
  have hbare : Bare isBlank s.toList ↔ Text.trim s.toList = s.toList := Text.bare_iff
  rw [← hbare]
  exact ⟨fun h => ⟨h.ne_empty, h.comma, h.bare⟩, fun h => ⟨h.1, h.2.1, h.2.2⟩⟩

instance decidableItem : DecidablePred Item := fun s =>
  decidable_of_iff _ (item_iff s).symm

/-- The segments of a list: its items in order, each with blanks around it, and blank ones
anywhere. -/
inductive Segments : List String → List (List Char) → Prop
  | nil : Segments [] []
  | blank {segment : List Char} {items : List String} {segments : List (List Char)}
      (hblank : ∀ c ∈ segment, isBlank c) (hrest : Segments items segments) :
      Segments items (segment :: segments)
  | item {before after : List Char} {item : String} {items : List String}
      {segments : List (List Char)} (hitem : Item item) (hbefore : ∀ c ∈ before, isBlank c)
      (hafter : ∀ c ∈ after, isBlank c) (hrest : Segments items segments) :
      Segments (item :: items) ((before ++ item.toList ++ after) :: segments)

/-! ## Texts -/

theorem trimBlanks_ofList (cs : List Char) :
    (String.ofList cs).trimBlanks = String.ofList (Text.trim cs) := by
  rw [String.trimBlanks, String.toList_ofList]

/-- What is listed between the commas of a text. -/
def listed (text : List Char) : List String :=
  ((splitAt ',' text).map fun piece => String.ofList (Text.trim piece)).filter (· ≠ "")

theorem items_of_filled {env : Environment} {name value : String}
    (h : env name = some value) (hblank : value.isAllBlank = false) (default : List String) :
    env.items name default = listed value.toList := by
  unfold Environment.items
  rw [Environment.filled_eq_some_iff.mpr ⟨h, hblank⟩]
  simp only [String.piecesAt, List.map_map, listed]
  congr 2
  funext piece
  exact trimBlanks_ofList piece

theorem items_of_blank {env : Environment} {name : String}
    (h : ∀ value, env name = some value → value.isAllBlank) (default : List String) :
    env.items name default = default := by
  unfold Environment.items
  rw [Environment.filled_eq_none_iff.mpr h]

/-! ## Items are found again -/

theorem comma_of_blank {cs : List Char} (h : ∀ c ∈ cs, isBlank c) : ',' ∉ cs := by
  intro hc
  have hcomma : isBlank ',' = false := by decide
  rw [h ',' hc] at hcomma
  cases hcomma

theorem Segments.comma {items : List String} {segments : List (List Char)}
    (h : Segments items segments) : ∀ segment ∈ segments, ',' ∉ segment := by
  induction h with
  | nil => exact fun segment h => nomatch h
  | blank hblank _ ih =>
    rw [List.forall_mem_cons]
    exact ⟨comma_of_blank hblank, ih⟩
  | item hitem hbefore hafter _ ih =>
    rw [List.forall_mem_cons]
    refine ⟨?_, ih⟩
    simp [hitem.comma, comma_of_blank hbefore, comma_of_blank hafter]

theorem Segments.ne_nil {items : List String} {segments : List (List Char)}
    (h : Segments items segments) (hne : items ≠ []) : segments ≠ [] := by
  cases h with
  | nil => exact absurd rfl hne
  | blank => simp
  | item => simp

theorem Segments.kept {items : List String} {segments : List (List Char)}
    (h : Segments items segments) :
    (segments.map fun segment => String.ofList (Text.trim segment)).filter (· ≠ "") = items := by
  induction h with
  | nil => rfl
  | @blank segment _ _ hblank _ ih =>
    have htrim : Text.trim segment = [] := Text.trimWhile_eq_nil_iff.mpr hblank
    rw [List.map_cons, htrim, List.filter_cons_of_neg (by simp)]
    exact ih
  | @item before after item _ _ hitem hbefore hafter _ ih =>
    have htrim : Text.trim (before ++ item.toList ++ after) = item.toList :=
      Text.trimWhile_around hitem.bare hbefore hafter
    rw [List.map_cons, htrim, String.ofList_toList,
      List.filter_cons_of_pos (by simpa using hitem.ne_empty), ih]

theorem listed_of_segments {items : List String} {segments : List (List Char)}
    (h : Segments items segments) (hne : items ≠ []) :
    listed (joinWith ',' segments) = items := by
  unfold listed
  rw [Text.splitAt_joinWith (h.ne_nil hne) h.comma]
  exact h.kept

/-! ## Nothing else is found -/

theorem item_of_listed {text : List Char} {item : String} (h : item ∈ listed text) :
    Item item := by
  obtain ⟨hmem, hne⟩ := List.mem_filter.mp h
  obtain ⟨piece, hpiece, rfl⟩ := List.mem_map.mp hmem
  refine ⟨by simpa using hne, ?_, ?_⟩
  · rw [String.toList_ofList]
    exact fun hc => Text.notMem_of_mem_splitAt hpiece (Text.mem_of_mem_trimWhile hc)
  · rw [String.toList_ofList]
    exact Text.bare_trimWhile isBlank piece

theorem listed_of_allBlank {text : List Char} (h : Text.allBlank text) : listed text = [] := by
  have hall : ∀ c ∈ text, isBlank c := List.all_eq_true.mp h
  unfold listed
  rw [Text.splitAt_eq_singleton (comma_of_blank hall), List.map_singleton, Text.trim,
    Text.trimWhile_eq_nil_iff.mpr hall]
  rfl

/-! ## Items that are joined -/

theorem segments_of_items {items : List String} (h : ∀ item ∈ items, Item item) :
    Segments items (items.map String.toList) := by
  induction items with
  | nil => exact .nil
  | cons item items ih =>
    obtain ⟨hitem, hitems⟩ := List.forall_mem_cons.mp h
    have hplain := Segments.item hitem (fun c hc => nomatch hc : ∀ c ∈ [], isBlank c)
      (fun c hc => nomatch hc : ∀ c ∈ [], isBlank c) (ih hitems)
    rwa [List.nil_append, List.append_nil] at hplain

theorem toList_intercalate (items : List String) :
    (",".intercalate items).toList = joinWith ',' (items.map String.toList) := by
  induction items with
  | nil => rfl
  | cons item items ih =>
    cases items with
    | nil => simp [joinWith]
    | cons next items =>
      rw [String.intercalate_cons_cons, String.toList_append, ih, String.toList_append,
        List.append_assoc]
      rfl

/-! ## Variables -/

theorem items_of_segments {env : Environment} {name value : String} {items : List String}
    {segments : List (List Char)} (hne : items ≠ []) (h : Segments items segments)
    (hvalue : env name = some value) (htext : value.toList = joinWith ',' segments)
    (default : List String) : env.items name default = items := by
  have hlisted : listed value.toList = items := by rw [htext, listed_of_segments h hne]
  cases hblank : value.isAllBlank with
  | true => exact absurd (hlisted.symm.trans (listed_of_allBlank hblank)) hne
  | false => rw [items_of_filled hvalue hblank, hlisted]

/-- Every text of a list is read as the list, and what is read can be written and read again. -/
theorem lists_read_back (env : Environment) (name : String) (default : List String) :
    (∀ items segments, items ≠ [] → Segments items segments →
      env name = some (String.ofList (joinWith ',' segments)) →
      env.items name default = items) ∧
    (∀ value, env name = some value → value.isAllBlank = false →
      (∀ other, env.items name other = env.items name default) ∧
      (∀ item ∈ env.items name default, Item item) ∧
      (env.items name default ≠ [] → ∀ (again : Environment) other,
        again name = some (",".intercalate (env.items name default)) →
        again.items name other = env.items name default)) ∧
    ((∀ value, env name = some value → value.isAllBlank) → env.items name default = default) := by
  refine ⟨?_, ?_, fun h => items_of_blank h default⟩
  · intro items segments hne h hvalue
    exact items_of_segments hne h hvalue (String.toList_ofList) default
  · intro value hvalue hblank
    have hlisted := items_of_filled hvalue hblank
    rw [hlisted default]
    have hitems : ∀ item ∈ listed value.toList, Item item := fun item h => item_of_listed h
    refine ⟨hlisted, hitems, ?_⟩
    intro hne again other hagain
    exact items_of_segments hne (segments_of_items hitems) hagain (toList_intercalate _) other

/-- A list with an item twice, one that has nothing in it, and one that is left out. -/
def someLists : Environment := .ofList [("TWICE", " a b,,\u2003a b ,\t,c\n"), ("NONE", " , ,"),
  ("LEFT_OUT", "\x1c")]

theorem lists_read_back_twice :
    someLists.items "TWICE" ["d"] = ["a b", "a b", "c"] ∧
    someLists.items "NONE" ["d"] = someLists.items "NONE" [] ∧
    (∀ item ∈ someLists.items "TWICE" [], Item item) ∧
    (Environment.ofList [("TWICE", "a b,a b,c")]).items "TWICE" ["d"] = ["a b", "a b", "c"] ∧
    someLists.items "LEFT_OUT" ["d"] = ["d"] := by
  have hcharacter : Item "c" := by decide
  have hwords : Item "a b" := by decide
  have hnone : ∀ c ∈ [], isBlank c := List.all_eq_true.mp (by decide)
  have hspace : ∀ c ∈ [' '], isBlank c := List.all_eq_true.mp (by decide)
  have hwide : ∀ c ∈ ['\u2003'], isBlank c := List.all_eq_true.mp (by decide)
  have htab : ∀ c ∈ ['\t'], isBlank c := List.all_eq_true.mp (by decide)
  have hbreak : ∀ c ∈ ['\n'], isBlank c := List.all_eq_true.mp (by decide)
  have hsegments : Segments ["a b", "a b", "c"]
      [" a b".toList, [], "\u2003a b ".toList, "\t".toList, "c\n".toList] :=
    .item hwords hspace hnone <| .blank hnone <| .item hwords hwide hspace <| .blank htab <|
      .item hcharacter hnone hbreak .nil
  have htwice : someLists.items "TWICE" ["d"] = ["a b", "a b", "c"] :=
    (lists_read_back someLists "TWICE" ["d"]).1 _ _ (by decide) hsegments (by decide)
  obtain ⟨hother, hitems, hagain⟩ := (lists_read_back someLists "TWICE" ["d"]).2.1
    " a b,,\u2003a b ,\t,c\n" (by decide) (by decide)
  refine ⟨htwice, ?_, ?_, ?_, ?_⟩
  · exact (lists_read_back someLists "NONE" []).2.1 " , ," (by decide) (by decide) |>.1 ["d"]
  · rw [hother]
    exact hitems
  · rw [htwice] at hagain
    exact hagain (by decide) _ ["d"] (by decide)
  · refine (lists_read_back someLists "LEFT_OUT" ["d"]).2.2 fun value hvalue => ?_
    have hseparator : someLists "LEFT_OUT" = some "\x1c" := by decide
    rw [hseparator] at hvalue
    rw [← Option.some.inj hvalue]
    decide

end EnclaveFleet
