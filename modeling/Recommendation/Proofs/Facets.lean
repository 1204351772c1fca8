import Recommendation.Proofs.RuleEffects
import Recommendation.Proofs.Tags

/-!
What rules on brands and categories make of the tags in a catalog. The value of a facet
is read from the lower case of a tag, while a rule folds the letters of ASCII only. So a
rule that names a value as the catalog writes it covers the item if and only if the
value has no capital beyond ASCII, given that the tag begins with a start at all: a
start with a blank in front begins no tag, and a capital sigma in it may change in sight
of the value behind it.
-/

namespace Recommendation

/-! ### Starts -/

/-- The tag begins with the start, both in lower case and the tag without blanks at its ends. -/
def StartsTag (start tag : String) : Prop :=
  (Text.lowercase start).toList <+: (normalTag tag).toList

instance (start tag : String) : Decidable (StartsTag start tag) :=
  inferInstanceAs (Decidable (_ <+: _))

/-- The tag carries a value of the facet that a rule takes for the one it names. -/
def Carries (starts : List String) (tag value : String) : Prop :=
  ∃ v, facetValue? starts tag = some v ∧ Text.fold v = Text.fold (Text.trim value)

namespace Text

theorem dropStart?_eq_some_iff {s start rest : String} :
    dropStart? s start = some rest ↔ s.toList = start.toList ++ rest.toList := by
  rw [dropStart?]
  constructor
  · intro h
    split at h
    · rename_i hprefix
      obtain ⟨rest', hrest⟩ := List.isPrefixOf_iff_prefix.1 hprefix
      cases h
      rw [← hrest, List.drop_left, String.toList_ofList]
    · cases h
  · intro h
    rw [h, if_pos (List.isPrefixOf_iff_prefix.2 (List.prefix_append _ _)), List.drop_left,
      String.ofList_toList]

/-- Trimming a text in front of which something stands takes blanks away behind it alone. -/
theorem exists_trimChars_append {front cs : List Char}
    (hfront : ∀ c ∈ front.head?, isBlank c = false) (hcs : trimChars cs ≠ []) :
    ∃ back, trimChars (front ++ cs) = front ++ back ∧ trimChars back = trimChars cs := by
  obtain ⟨before, behind, heq, hblank⟩ := eq_between_trimChars cs
  obtain ⟨hbefore, hbehind⟩ := List.forall_mem_append.1 hblank
  have hlast := (isTrimmed_trimChars cs).last
  cases front with
  | nil => exact ⟨trimChars cs, rfl, trimChars_of_isTrimmed (isTrimmed_trimChars cs)⟩
  | cons c front =>
      refine ⟨before ++ trimChars cs, ?_, ?_⟩
      · have htrimmed : IsTrimmed (c :: front ++ (before ++ trimChars cs)) := by
          refine ⟨hfront, ?_⟩
          rw [← List.append_assoc, List.getLast?_append_of_ne_nil _ hcs]
          exact hlast
        have hwhole : c :: front ++ cs =
            [] ++ (c :: front ++ (before ++ trimChars cs)) ++ behind := by
          conv_lhs => rw [heq]
          simp
        rw [hwhole, trimChars_between (List.forall_mem_nil _) hbehind htrimmed]
      · have hback : before ++ trimChars cs = before ++ trimChars cs ++ [] := by simp
        rw [hback, trimChars_between hbefore (List.forall_mem_nil _) (isTrimmed_trimChars cs)]

end Text

section

variable {starts : List String} {start value tag : String}

/-- The normal form of a tag is the lower case of its parts. -/
theorem exists_lowers_normalTag (hfirst : ∀ c ∈ start.toList.head?, Text.isBlank c = false)
    (hvalue : Text.trim value ≠ "") :
    ∃ front back, (normalTag (start ++ value)).toList = front ++ back ∧
      Text.Lowers start.toList front ∧
      Text.Lowers (Text.trimChars value.toList) (Text.trimChars back) := by
  obtain ⟨rest, htrim, hrest⟩ :=
    Text.exists_trimChars_append hfirst (Text.trimChars_ne_nil_iff.2 hvalue)
  have hlower := Text.lowers_lowercase (Text.trim (start ++ value))
  rw [Text.toList_trim, String.toList_append, htrim] at hlower
  obtain ⟨front, back, hsplit, hfront, hback⟩ := hlower.split
  refine ⟨front, back, hsplit, hfront, ?_⟩
  rw [← hrest]
  exact hback.trim

theorem startsTag_of_dropStart? {rest : String}
    (h : Text.dropStart? (normalTag tag) (Text.lowercase start) = some rest) :
    StartsTag start tag :=
  ⟨rest.toList, (Text.dropStart?_eq_some_iff.1 h).symm⟩

/-- No start with a blank in front begins a tag. -/
theorem StartsTag.first (h : StartsTag start tag) :
    ∀ c ∈ start.toList.head?, Text.isBlank c = false := by
  have htrimmed : Text.IsTrimmed (Text.trim tag).toList := by
    rw [Text.toList_trim]
    exact Text.isTrimmed_trimChars _
  rw [← (Text.lowers_lowercase start).first_iff]
  intro c hc
  obtain ⟨rest, hrest⟩ := h
  apply ((Text.lowers_lowercase _).isTrimmed htrimmed).first c
  change c ∈ (normalTag tag).toList.head?
  rw [← hrest, List.head?_append, hc]
  rfl

/-- A start without a capital sigma begins each tag that is written with it, unless there is a blank
in front of it. -/
theorem startsTag_append_iff (hsigma : 'Σ' ∉ start.toList) (hvalue : Text.trim value ≠ "") :
    StartsTag start (start ++ value) ↔ ∀ c ∈ start.toList.head?, Text.isBlank c = false := by
  refine ⟨StartsTag.first, fun hfirst => ?_⟩
  obtain ⟨front, back, hsplit, hfront, -⟩ := exists_lowers_normalTag hfirst hvalue
  rw [StartsTag, hsplit, hfront.unique (Text.lowers_lowercase start) hsigma]
  exact List.prefix_append _ _

/-! ### Values -/

/-- A tag is read by the only start that begins it. -/
theorem facetValue?_eq (hstart : start ∈ starts)
    (honly : ∀ s ∈ starts, StartsTag s tag → s = start) :
    facetValue? starts tag = ((Text.dropStart? (normalTag tag) (Text.lowercase start)).map
      Text.trim).filter (· != "") := by
  have hnone : ∀ s ∈ starts, s ≠ start →
      Text.dropStart? (normalTag tag) (Text.lowercase s) = none := by
    intro s hs hne
    rw [Option.eq_none_iff_forall_ne_some]
    intro rest hrest
    exact hne (honly s hs (startsTag_of_dropStart? hrest))
  rw [facetValue?]
  cases hfind : starts.findSome? _ with
  | none => exact (List.findSome?_eq_none_iff.1 hfind start hstart).symm
  | some v =>
      obtain ⟨s, hs, hread⟩ := List.exists_of_findSome?_eq_some hfind
      by_cases hsame : s = start
      · rw [← hread, hsame]
      · rw [hnone s hs hsame] at hread
        cases hread

theorem facetValue?_append (hstart : start ∈ starts)
    (honly : ∀ s ∈ starts, StartsTag s (start ++ value) → s = start)
    (hvalue : Text.trim value ≠ "") (hbegins : StartsTag start (start ++ value)) :
    ∃ v, facetValue? starts (start ++ value) = some v ∧
      Text.Lowers (Text.trim value).toList v.toList := by
  obtain ⟨front, back, hsplit, hfront, hback⟩ := exists_lowers_normalTag hbegins.first hvalue
  -- In lower case the start is as long by itself as in front of the value.
  have hsame : (Text.lowercase start).toList = front := by
    rw [StartsTag, hsplit] at hbegins
    have hlength := (Text.lowers_lowercase start).length_eq hfront
    exact (List.prefix_of_prefix_length_le hbegins (List.prefix_append _ _) hlength.le).eq_of_length
      hlength
  have hdrop : Text.dropStart? (normalTag (start ++ value)) (Text.lowercase start) =
      some (String.ofList back) := by
    rw [Text.dropStart?_eq_some_iff, hsplit, hsame, String.toList_ofList]
  refine ⟨Text.trim (String.ofList back), ?_, ?_⟩
  · have hne : Text.trim (String.ofList back) ≠ "" := by
      rw [← Text.trimChars_ne_nil_iff, String.toList_ofList]
      exact hback.ne_nil (Text.trimChars_ne_nil_iff.2 hvalue)
    rw [facetValue?_eq hstart honly, hdrop, Option.map_some, Option.filter_some,
      if_pos (by simpa using hne)]
  · rw [Text.toList_trim, Text.toList_trim, String.toList_ofList]
    exact hback

theorem Carries.startsTag (hstart : start ∈ starts)
    (honly : ∀ s ∈ starts, StartsTag s tag → s = start) {w : String} (h : Carries starts tag w) :
    StartsTag start tag := by
  obtain ⟨v, hv, -⟩ := h
  rw [facetValue?_eq hstart honly] at hv
  obtain ⟨hv, -⟩ := Option.filter_eq_some_iff.1 hv
  obtain ⟨rest, hrest, -⟩ := Option.map_eq_some_iff.1 hv
  exact startsTag_of_dropStart? hrest

theorem carries_iff (hstart : start ∈ starts) (honly : ∀ s ∈ starts, StartsTag s tag → s = start)
    {w : String} {P : Prop} (hread : StartsTag start tag → ∃ v, facetValue? starts tag = some v ∧
      (Text.fold v = Text.fold (Text.trim w) ↔ P)) :
    Carries starts tag w ↔ StartsTag start tag ∧ P := by
  by_cases hbegins : StartsTag start tag
  · obtain ⟨v, hv, hiff⟩ := hread hbegins
    have hcarries : Carries starts tag w ↔ Text.fold v = Text.fold (Text.trim w) := by
      simp [Carries, hv]
    rw [hcarries, hiff, and_iff_right hbegins]
  · exact iff_of_false (fun h => hbegins (h.startsTag hstart honly)) fun h => hbegins h.1

/-- A tag that is written with the start, which no other start begins, carries the value as it is
written if the start begins it and the value has no capital beyond ASCII. -/
theorem carries_written_iff (hstart : start ∈ starts)
    (honly : ∀ s ∈ starts, StartsTag s (start ++ value) → s = start)
    (hvalue : Text.trim value ≠ "") :
    Carries starts (start ++ value) value ↔
      StartsTag start (start ++ value) ∧ Text.FoldsWhole (Text.trim value) := by
  refine carries_iff hstart honly fun hbegins => ?_
  obtain ⟨v, hv, hlower⟩ := facetValue?_append hstart honly hvalue hbegins
  refine ⟨v, hv, ?_⟩
  rw [Text.fold_eq_fold_iff, hlower.map_foldChar_eq_iff, Text.FoldsWhole]

/-- The same of any other spelling of a value without a capital sigma. -/
theorem carries_spelling_iff (hstart : start ∈ starts)
    (honly : ∀ s ∈ starts, StartsTag s (start ++ value) → s = start)
    (hvalue : Text.trim value ≠ "") (hsigma : 'Σ' ∉ (Text.trim value).toList) {w : String}
    (hw : normalTag w = normalTag value) :
    Carries starts (start ++ value) w ↔
      StartsTag start (start ++ value) ∧ Text.FoldsWhole (Text.trim w) := by
  refine carries_iff hstart honly fun hbegins => ?_
  obtain ⟨v, hv, hlower⟩ := facetValue?_append hstart honly hvalue hbegins
  have hsame : v = normalTag value :=
    String.toList_injective (hlower.unique (Text.lowers_lowercase _) hsigma)
  refine ⟨v, hv, ?_⟩
  rw [hsame, ← hw]
  exact Text.fold_lowercase_eq_iff

end

/-! ### Rules -/

def RuleTarget.Names (target : RuleTarget) (facets : FacetStarts) (starts : List String)
    (value : String) : Prop :=
  target = .brand value ∧ facets.brand = starts ∨
    target = .category value ∧ facets.category = starts

section

variable {target : RuleTarget} {facets : FacetStarts} {starts : List String} {value : String}
  {item : Item}

theorem Item.hasFacet_iff :
    item.hasFacet starts value = true ↔ ∃ tag ∈ item.tags, Carries starts tag value := by
  simp only [hasFacet, facetValues, List.any_eq_true, mem_sortedTexts, List.mem_filterMap,
    Text.equalFolded_iff, Carries]
  constructor
  · rintro ⟨v, ⟨tag, htag, hv⟩, hfold⟩
    exact ⟨tag, htag, v, hv, hfold⟩
  · rintro ⟨tag, htag, v, hv, hfold⟩
    exact ⟨v, ⟨tag, htag, hv⟩, hfold⟩

theorem RuleTarget.Names.covers_iff (h : target.Names facets starts value) :
    target.covers facets item = true ↔ ∃ tag ∈ item.tags, Carries starts tag value := by
  rcases h with ⟨rfl, rfl⟩ | ⟨rfl, rfl⟩ <;> exact Item.hasFacet_iff

end

/-- Rules on a brand or a category written as the catalog writes it, in a tag that no start but the
one it is written with could begin. If there is no capital sigma in the start, it begins the tag
unless it has a blank in front. The tag then carries the value as it is written if and only if the
value has no capital beyond ASCII, and any other spelling of a value without a capital sigma under
the same condition on the spelling. A rule covers the items with the tag if the tag carries what the
rule names, and items with no other tag only then; and a block that covers an item blocks it. -/
theorem facet_rules_cover_written {α : Type} [Score α] {starts : List String}
    {start value : String} (hstart : start ∈ starts)
    (honly : ∀ s ∈ starts, StartsTag s (start ++ value) → s = start)
    (hvalue : Text.trim value ≠ "") :
    ('Σ' ∉ start.toList → (StartsTag start (start ++ value) ↔
        ∀ c ∈ start.toList.head?, Text.isBlank c = false)) ∧
      (Carries starts (start ++ value) value ↔
        StartsTag start (start ++ value) ∧ Text.FoldsWhole (Text.trim value)) ∧
      ('Σ' ∉ (Text.trim value).toList → ∀ w, normalTag w = normalTag value →
        (Carries starts (start ++ value) w ↔
          StartsTag start (start ++ value) ∧ Text.FoldsWhole (Text.trim w))) ∧
      ∀ (w : String) (target : RuleTarget) (facets : FacetStarts), target.Names facets starts w →
        (∀ item : Item, item.tags = [start ++ value] →
          (target.covers facets item = true ↔ Carries starts (start ++ value) w)) ∧
        (Carries starts (start ++ value) w → ∀ item : Item, start ++ value ∈ item.tags →
          target.covers facets item = true ∧
          ∀ (slots : Slots) (rules : List Rule) (pool : List PoolEntry),
            ∀ rule ∈ rules, rule.target = target → rule.action = .block →
            ∀ entry ∈ pool, entry.item = item →
              item.id ∈ (RuleEffects.ofRules facets slots rules pool : RuleEffects α).blocked) := by
  refine ⟨fun hsigma => startsTag_append_iff hsigma hvalue,
    carries_written_iff hstart honly hvalue,
    fun hsigma w hw => carries_spelling_iff hstart honly hvalue hsigma hw,
    fun w target facets hnames => ⟨fun item htags => ?_, fun hcarries item htag => ?_⟩⟩
  · rw [hnames.covers_iff, htags]
    simp only [List.mem_singleton, exists_eq_left]
  · have hcovers : target.covers facets item = true :=
      hnames.covers_iff.2 ⟨_, htag, hcarries⟩
    refine ⟨hcovers, fun slots rules pool rule hrule htarget haction entry hentry hitem => ?_⟩
    subst htarget hitem
    exact RuleEffects.mem_blocked_ofRules_iff.2 ⟨rule, hrule, entry, hentry, hcovers, haction, rfl⟩

def acmeBoot : Item := { id := "boot", tags := ["winter", "brand: Acme "] }

theorem facet_rules_cover_written_acme :
    "brand:" ∈ ["brand:", "maker:"] ∧
      (∀ s ∈ ["brand:", "maker:"], StartsTag s ("brand:" ++ " Acme ") → s = "brand:") ∧
      Text.trim " Acme " ≠ "" ∧
      (RuleTarget.brand "ACME").covers ⟨["brand:", "maker:"], []⟩ acmeBoot = true ∧
      ∀ rule : Rule, rule.target = .brand "ACME" → rule.action = .block →
        "boot" ∈ (RuleEffects.ofRules ⟨["brand:", "maker:"], []⟩ none [rule]
          [⟨acmeBoot, true⟩] : RuleEffects Rat).blocked := by
  have hstart : "brand:" ∈ ["brand:", "maker:"] := by decide
  have honly : ∀ s ∈ ["brand:", "maker:"],
      StartsTag s ("brand:" ++ " Acme ") → s = "brand:" := by decide +kernel
  have hvalue : Text.trim " Acme " ≠ "" := by decide +kernel
  obtain ⟨-, -, hspelling, hcovers⟩ := facet_rules_cover_written (α := Rat) hstart honly hvalue
  have hcarries : Carries ["brand:", "maker:"] ("brand:" ++ " Acme ") "ACME" :=
    (hspelling (by decide +kernel) "ACME" (by decide +kernel)).2
      ⟨by decide +kernel, by decide +kernel⟩
  have hboot := (hcovers "ACME" (.brand "ACME") ⟨["brand:", "maker:"], []⟩ (.inl ⟨rfl, rfl⟩)).2
    hcarries acmeBoot (by decide)
  exact ⟨hstart, honly, hvalue, hboot.1, fun rule htarget haction =>
    hboot.2 none [rule] [⟨acmeBoot, true⟩] rule (List.mem_singleton_self _) htarget haction
      ⟨acmeBoot, true⟩ (List.mem_singleton_self _) rfl⟩

def accentBoot : Item := { id := "boot", tags := ["brand:Élan"] }

/-- The brand is written just as in the catalog, and still no rule on it covers the boot. -/
theorem accentBoot_not_covered_as_written :
    (∀ s ∈ ["brand:"], StartsTag s ("brand:" ++ "Élan") → s = "brand:") ∧
      Text.trim "Élan" ≠ "" ∧ "brand:" ++ "Élan" ∈ accentBoot.tags ∧
      (RuleTarget.brand "Élan").covers ⟨["brand:"], []⟩ accentBoot = false := by
  decide +kernel

end Recommendation
