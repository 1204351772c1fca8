import Recommendation.Proofs.Facets
import Recommendation.Proofs.Relational.RuleRows

/-!
Which rows make rules that cover anything. A row is taken as long as its value is not empty, and
whatever its list of items. So there are rows that are taken and whose rules cover no item that has
an identifier and tags which are not blank: those with a blank value, those with no identifier in
their list, and, among those about a brand or a category, those whose value has a capital beyond
ASCII and those for which no start begins any tag.
-/

namespace Recommendation

/-! ### Texts -/

namespace Text

variable {c d : Char} {cs ds front back : List Char} {s t : String}

theorem fold_eq_empty_iff : fold s = "" ↔ s = "" := by
  rw [← String.toList_eq_nil_iff, fold, String.toList_ofList, List.map_eq_nil_iff,
    String.toList_eq_nil_iff]

theorem ne_empty_of_fold_eq (h : fold s = fold t) (hs : s ≠ "") : t ≠ "" := by
  rintro rfl
  exact hs (fold_eq_empty_iff.1 (h.trans (fold_eq_empty_iff.2 rfl)))

/-- What folding cannot tell from a text in lower case is taken to lower case by folding. -/
theorem foldsToLower_of_map_foldChar_eq (hds : ∀ d ∈ ds, lowercaseChar d = [d])
    (h : ds.map foldChar = cs.map foldChar) : ∀ c ∈ cs, FoldsToLower c := by
  intro c hc
  have hmem : foldChar c ∈ ds.map foldChar := h ▸ List.mem_map_of_mem hc
  obtain ⟨d, hd, hfold⟩ := List.mem_map.1 hmem
  have hlower : lowercaseChar c = [d] := by
    rw [← lowercaseChar_foldChar c, ← hfold, lowercaseChar_foldChar d, hds d hd]
  exact foldsToLower_of_foldChar_eq hlower hfold

theorem mem_of_mem_trimChars (h : c ∈ trimChars cs) : c ∈ cs := by
  obtain ⟨before, behind, hcs, -⟩ := eq_between_trimChars cs
  rw [hcs]
  simp [h]

theorem isTrimmed_append (hfront : ∀ c ∈ front.head?, isBlank c = false) (hback : IsTrimmed back)
    (hne : back ≠ []) : IsTrimmed (front ++ back) := by
  constructor
  · cases front with
    | nil => exact hback.first
    | cons c front => exact hfront
  · rw [List.getLast?_append_of_ne_nil _ hne]
    exact hback.last

end Text

/-! ### Facets -/

def OpensTags (start : String) : Prop := ∀ c ∈ start.toList.head?, Text.isBlank c = false

instance (start : String) : Decidable (OpensTags start) :=
  Option.decidableForallMem start.toList.head?

/-- Some tag can carry what a rule names: there is a start for it, and the value is neither blank
nor has a capital beyond ASCII. -/
structure NamesFacet (starts : List String) (value : String) : Prop where
  opens : ∃ start ∈ starts, OpensTags start
  nonblank : Text.trim value ≠ ""
  plain : Text.FoldsWhole (Text.trim value)

variable {starts before behind : List String} {start tag value v : String}

theorem of_facetValue?_eq_some (h : facetValue? starts tag = some v) : ∃ start ∈ starts, ∃ rest,
    Text.dropStart? (normalTag tag) (Text.lowercase start) = some rest ∧ v = Text.trim rest ∧
      v ≠ "" := by
  obtain ⟨start, hstart, hread⟩ := List.exists_of_findSome?_eq_some h
  obtain ⟨hread, hsome⟩ := Option.filter_eq_some_iff.1 hread
  obtain ⟨rest, hrest, rfl⟩ := Option.map_eq_some_iff.1 hread
  exact ⟨start, hstart, rest, hrest, rfl, by simpa using hsome⟩

theorem lowercaseChar_of_facetValue? (h : facetValue? starts tag = some v) :
    ∀ c ∈ v.toList, Text.lowercaseChar c = [c] := by
  obtain ⟨start, -, rest, hrest, rfl, -⟩ := of_facetValue?_eq_some h
  intro c hc
  rw [Text.toList_trim] at hc
  have hmem : c ∈ (normalTag tag).toList := by
    rw [Text.dropStart?_eq_some_iff.1 hrest]
    exact List.mem_append_right _ (Text.mem_of_mem_trimChars hc)
  exact (Text.lowers_lowercase _).lowercaseChar_eq c hmem

theorem Carries.namesFacet (h : Carries starts tag value) : NamesFacet starts value := by
  obtain ⟨v, hv, hfold⟩ := h
  obtain ⟨start, hstart, rest, hrest, -, hsome⟩ := of_facetValue?_eq_some hv
  exact ⟨⟨start, hstart, (startsTag_of_dropStart? hrest).first⟩,
    Text.ne_empty_of_fold_eq hfold hsome,
    Text.foldsToLower_of_map_foldChar_eq (lowercaseChar_of_facetValue? hv)
      (Text.fold_eq_fold_iff.1 hfold)⟩

/-- No blank tag carries anything. -/
theorem Carries.trim_ne_empty (h : Carries starts tag value) : Text.trim tag ≠ "" := by
  obtain ⟨v, hv, -⟩ := h
  obtain ⟨start, -, rest, hrest, rfl, hsome⟩ := of_facetValue?_eq_some hv
  intro hblank
  have hnormal : normalTag tag = "" := by
    rw [normalTag, hblank]
    rfl
  have hsplit := Text.dropStart?_eq_some_iff.1 hrest
  rw [hnormal] at hsplit
  have hnone : rest = "" := String.toList_eq_nil_iff.1 (List.append_eq_nil_iff.1 hsplit.symm).2
  rw [hnone] at hsome
  exact hsome rfl

/-- The value written in lower case behind a start in lower case is a tag in normal form. -/
theorem normalTag_lowercase_append (hstart : OpensTags start) (hvalue : Text.trim value ≠ "") :
    normalTag (Text.lowercase start ++ Text.lowercase (Text.trim value)) =
      Text.lowercase start ++ Text.lowercase (Text.trim value) := by
  have hvalue : (Text.lowercase (Text.trim value)).toList ≠ [] := by
    rw [ne_eq, String.toList_eq_nil_iff]
    exact Text.lowercase_ne_empty hvalue
  have htrimmed : Text.IsTrimmed
      (Text.lowercase start ++ Text.lowercase (Text.trim value)).toList := by
    rw [String.toList_append]
    refine Text.isTrimmed_append ((Text.lowers_lowercase start).first_iff.2 hstart) ?_ hvalue
    rw [← Text.trim_lowercase_trim, Text.toList_trim]
    exact Text.isTrimmed_trimChars _
  have hlower : ∀ c ∈ (Text.lowercase start ++ Text.lowercase (Text.trim value)).toList,
      Text.lowercaseChar c = [c] := by
    rw [String.toList_append]
    exact List.forall_mem_append.2 ⟨(Text.lowers_lowercase _).lowercaseChar_eq,
      (Text.lowers_lowercase _).lowercaseChar_eq⟩
  rw [normalTag, Text.trim, Text.trimChars_of_isTrimmed htrimmed, String.ofList_toList,
    Text.lowercase, Text.lowercaseFrom_of_lowercaseChar_eq hlower, String.ofList_toList]

/-- A tag is read by the first of the starts that begin it. -/
theorem facetValue?_of_first (hbefore : ∀ s ∈ before, ¬StartsTag s tag)
    (hread : ((Text.dropStart? (normalTag tag) (Text.lowercase start)).map Text.trim).filter
      (· != "") = some v) : facetValue? (before ++ start :: behind) tag = some v := by
  have hnone : before.findSome? (fun s =>
      ((Text.dropStart? (normalTag tag) (Text.lowercase s)).map Text.trim).filter (· != "")) =
        none := by
    refine List.findSome?_eq_none_iff.2 fun s hs => ?_
    cases hdrop : Text.dropStart? (normalTag tag) (Text.lowercase s) with
    | none => rfl
    | some rest => exact absurd (startsTag_of_dropStart? hdrop) (hbefore s hs)
  rw [facetValue?, List.findSome?_append, hnone, Option.none_or, List.findSome?_cons, hread]

theorem NamesFacet.exists_carries (h : NamesFacet starts value) :
    ∃ tag, Carries starts tag value := by
  obtain ⟨⟨s, hs, hopens⟩, hvalue, hplain⟩ := h
  have hfind : (starts.find? fun s => OpensTags s).isSome :=
    List.find?_isSome.2 ⟨s, hs, decide_eq_true hopens⟩
  obtain ⟨start, hstart⟩ := Option.isSome_iff_exists.1 hfind
  obtain ⟨hopens, before, behind, rfl, hbefore⟩ := List.find?_eq_some_iff_append.1 hstart
  have hopens : OpensTags start := of_decide_eq_true hopens
  -- The starts in front of it have blanks in front of them and begin no tag.
  have hbefore : ∀ s ∈ before, ∀ tag, ¬StartsTag s tag := by
    intro s hs tag hbegins
    exact absurd hbegins.first (by simpa [OpensTags] using hbefore s hs)
  have hnormal := normalTag_lowercase_append hopens hvalue
  have hdrop :
      Text.dropStart? (normalTag (Text.lowercase start ++ Text.lowercase (Text.trim value)))
        (Text.lowercase start) = some (Text.lowercase (Text.trim value)) := by
    rw [hnormal, Text.dropStart?_eq_some_iff, String.toList_append]
  refine ⟨Text.lowercase start ++ Text.lowercase (Text.trim value),
    Text.lowercase (Text.trim value), facetValue?_of_first (fun s hs => hbefore s hs _) ?_,
    Text.fold_lowercase_eq_iff.2 hplain⟩
  rw [hdrop, Option.map_some, Text.trim_lowercase_trim, Option.filter_some,
    if_pos (by simpa using Text.lowercase_ne_empty hvalue)]

/-! ### Targets -/

/-- Neither the identifier of the item nor a tag is blank. -/
structure Item.IsProper (item : Item) : Prop where
  id : Text.trim item.id ≠ ""
  tags : ∀ tag ∈ item.tags, Text.trim tag ≠ ""

def Item.bearing (tag : String) : Item := { id := "1", tags := [tag] }

theorem Item.isProper_bearing (h : Text.trim tag ≠ "") : (bearing tag).IsProper :=
  ⟨(by decide +kernel : Text.trim "1" ≠ ""), List.forall_mem_singleton.2 h⟩

def RuleTarget.CanCover (target : RuleTarget) (facets : FacetStarts) : Prop :=
  ∃ item : Item, item.IsProper ∧ target.covers facets item = true

namespace RuleTarget

variable {facets : FacetStarts} {ids : List String}

theorem canCover_tag_iff : (RuleTarget.tag tag).CanCover facets ↔ Text.trim tag ≠ "" := by
  constructor
  · rintro ⟨item, hproper, hcovers⟩
    obtain ⟨t, ht, hfold⟩ := Item.hasTag_iff.1 hcovers
    exact Text.ne_empty_of_fold_eq hfold (hproper.tags t ht)
  · intro h
    exact ⟨.bearing tag, Item.isProper_bearing h,
      Item.hasTag_iff.2 ⟨tag, List.mem_singleton_self tag, rfl⟩⟩

theorem Names.canCover_iff {target : RuleTarget} (h : target.Names facets starts value) :
    target.CanCover facets ↔ NamesFacet starts value := by
  constructor
  · rintro ⟨item, -, hcovers⟩
    obtain ⟨tag, -, hcarries⟩ := h.covers_iff.1 hcovers
    exact hcarries.namesFacet
  · intro hnames
    obtain ⟨tag, hcarries⟩ := hnames.exists_carries
    exact ⟨.bearing tag, Item.isProper_bearing hcarries.trim_ne_empty,
      h.covers_iff.2 ⟨tag, List.mem_singleton_self tag, hcarries⟩⟩

theorem canCover_items_iff :
    (RuleTarget.items ids).CanCover facets ↔ ∃ id ∈ ids, Text.trim id ≠ "" := by
  constructor
  · rintro ⟨item, hproper, hcovers⟩
    exact ⟨item.id, List.contains_iff_mem.1 hcovers, hproper.id⟩
  · rintro ⟨id, hmem, hid⟩
    exact ⟨{ id := id }, ⟨hid, List.forall_mem_nil _⟩, List.contains_iff_mem.2 hmem⟩

end RuleTarget

namespace Relational.RuleRow

/-! ### Rows -/

variable {row : RuleRow} {facets : FacetStarts}

def NamesItems (row : RuleRow) (facets : FacetStarts) : Prop :=
  let word := Text.lowercase row.targetType
  let value := row.targetValue.getD ""
  word = "tag" ∧ Text.trim value ≠ "" ∨
    word = "brand" ∧ NamesFacet facets.brand value ∨
    word = "category" ∧ NamesFacet facets.category value ∨
    (word = "items" ∨ word = "item") ∧ ∃ id ∈ row.itemIds.getD [], Text.trim id ≠ ""

theorem IsAbout.canCover_iff {target : RuleTarget} (h : row.IsAbout target) :
    target.CanCover facets ↔ row.NamesItems facets := by
  cases h with
  | tag hword hvalue _ =>
      rw [RuleTarget.canCover_tag_iff]
      simp [NamesItems, hword, hvalue]
  | brand hword hvalue _ =>
      rw [RuleTarget.Names.canCover_iff (.inl ⟨rfl, rfl⟩)]
      simp [NamesItems, hword, hvalue]
  | category hword hvalue _ =>
      rw [RuleTarget.Names.canCover_iff (.inr ⟨rfl, rfl⟩)]
      simp [NamesItems, hword, hvalue]
  | items hword =>
      rw [RuleTarget.canCover_items_iff]
      rcases hword with hword | hword <;> simp [NamesItems, hword]

theorem exists_value_iff :
    (∃ value, row.targetValue = some value ∧ value ≠ "") ↔ row.targetValue.getD "" ≠ "" := by
  constructor
  · rintro ⟨value, hvalue, hsome⟩
    rwa [hvalue]
  · exact fun h => ⟨_, targetValue_eq_some h, h⟩

theorem rule_eq_target_error_iff {word : String} : row.rule = .error (.target word) ↔
    word = Text.lowercase row.targetType ∧
      ¬(word ∈ ["tag", "brand", "category"] ∧ row.targetValue.getD "" ≠ "" ∨
        word ∈ ["items", "item"]) := by
  rw [rule_eq_error_iff, ← exists_value_iff]
  constructor
  · intro h
    cases h with
    | target h =>
        rw [← exists_isAbout_iff, not_exists]
        exact ⟨rfl, h⟩
    | action htarget h => cases h
  · rintro ⟨rfl, h⟩
    rw [← exists_isAbout_iff, not_exists] at h
    exact .target h

/-- A row is rejected for what it is about if its word for this is unknown, or if the word asks for
a value and there is none or an empty one, and for nothing else. The rule that a row makes covers
some proper item just if the row names items: by a tag that is not blank, by a brand or a category
that is not blank and has no capital beyond ASCII while some start begins tags, or by an identifier
in its list that is not blank. -/
theorem accepted_rows_cover_iff (facets : FacetStarts) :
    (∀ (row : RuleRow) (word : String), row.rule = .error (.target word) ↔
      word = Text.lowercase row.targetType ∧
        ¬(word ∈ ["tag", "brand", "category"] ∧ row.targetValue.getD "" ≠ "" ∨
          word ∈ ["items", "item"])) ∧
      ∀ rows rules, RuleRow.rules rows = .ok rules →
        List.Forall₂ (fun row rule => rule.target.CanCover facets ↔ row.NamesItems facets)
          rows rules := by
  refine ⟨fun row word => rule_eq_target_error_iff, fun rows rules hrules => ?_⟩
  simp only [RuleRow.rules, Except.mapM_eq_ok_iff, Except.mapError_eq_ok_iff, rule_eq_ok_iff]
    at hrules
  exact hrules.imp fun row rule hmakes => hmakes.target.canCover_iff

def blocking (targetType : String) (value : Option String) (ids : Option (List String)) :
    RuleRow :=
  { id := .none, space := "shop", surface := "", targetType, targetValue := value, itemIds := ids
    action := "block", boostValue := none, pinPosition := none, maxPins := none, priority := 0
    enabled := true, validFrom := none, validUntil := none }

def blockOn (target : RuleTarget) : Rule :=
  { id := .none, space := "shop", target, action := .block }

def usualStarts : FacetStarts := ⟨["brand:"], ["category:"]⟩

/-- A block on a brand can cover something, and one on a blank identifier cannot. -/
theorem accepted_rows_cover_iff_blocking :
    RuleRow.rules [blocking "Brand" (some " Acme") none, blocking "items" none (some [" "])] =
        .ok [blockOn (.brand " Acme"), blockOn (.items [" "])] ∧
      (blockOn (.brand " Acme")).target.CanCover usualStarts ∧
      ¬(blockOn (.items [" "])).target.CanCover usualStarts := by
  have hrules : RuleRow.rules
      [blocking "Brand" (some " Acme") none, blocking "items" none (some [" "])] =
        .ok [blockOn (.brand " Acme"), blockOn (.items [" "])] := rfl
  have hcover := (accepted_rows_cover_iff usualStarts).2 _ _ hrules
  rw [List.forall₂_cons, List.forall₂_cons] at hcover
  obtain ⟨hbrand, hitems, -⟩ := hcover
  have hacme : NamesFacet usualStarts.brand " Acme" :=
    ⟨⟨"brand:", List.mem_singleton_self _, by decide +kernel⟩, by decide +kernel,
      by decide +kernel⟩
  refine ⟨hrules, hbrand.2 (.inr (.inl ⟨by decide +kernel, hacme⟩)), fun h => ?_⟩
  have hword : Text.lowercase (blocking "items" none (some [" "])).targetType = "items" := by
    decide +kernel
  obtain ⟨hwrong, -⟩ | ⟨hwrong, -⟩ | ⟨hwrong, -⟩ | ⟨-, id, hid, hnonblank⟩ := hitems.1 h
  · exact absurd (hword.symm.trans hwrong) (by decide)
  · exact absurd (hword.symm.trans hwrong) (by decide)
  · exact absurd (hword.symm.trans hwrong) (by decide)
  · rw [List.mem_singleton.1 hid] at hnonblank
    exact hnonblank (by decide +kernel)

/-- A block on items without a list of them is taken, and covers no item at all. -/
theorem blocking_without_items_idle :
    (∃ start ∈ usualStarts.brand, Text.trim start ≠ "") ∧
      (∃ start ∈ usualStarts.category, Text.trim start ≠ "") ∧
      RuleRow.rules [blocking "items" none none] = .ok [blockOn (.items [])] ∧
      ∀ item, (blockOn (.items [])).target.covers usualStarts item = false :=
  ⟨⟨"brand:", by decide, by decide +kernel⟩, ⟨"category:", by decide, by decide +kernel⟩,
    rfl, fun _ => rfl⟩

end Relational.RuleRow

end Recommendation
