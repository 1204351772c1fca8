import Recommendation.Proofs.Policy
import Recommendation.Proofs.Text.LetterCase

/-!
How rules and requests tell tags apart. A rule on a tag compares by folding the letters
of ASCII, a request for a tag by full lower case. A tag that a rule is about is thus
always one that a request for it finds, and for tags without capitals beyond ASCII the
converse holds as well; but each text with such a capital is a tag for which there are
items that a request finds and a rule is not about.
-/

namespace Recommendation

def Constraints.wanting (tag : String) : Constraints := { includeTagsAny := [tag] }

section

variable {tag : String} {item : Item}

theorem normalTag_ne_empty (h : Text.trim tag ≠ "") : normalTag tag ≠ "" :=
  Text.lowercase_ne_empty h

theorem Item.hasTag_iff : item.hasTag tag = true ↔
    ∃ t ∈ item.tags, Text.fold (Text.trim t) = Text.fold (Text.trim tag) := by
  simp only [hasTag, List.any_eq_true, Text.equalFolded_iff]

theorem Constraints.allows_wanting_iff (h : Text.trim tag ≠ "") :
    (wanting tag).allows item = true ↔ ∃ t ∈ item.tags, normalTag t = normalTag tag := by
  have hne := normalTag_ne_empty h
  have hadmits : (wanting tag).Admits item ↔ normalTag tag ∈ item.normalTags := by
    constructor
    · intro hitem
      obtain ⟨t, ht, -, hmem⟩ := hitem.tags ⟨tag, by simp [wanting], hne⟩
      obtain rfl : t = tag := by simpa [wanting] using ht
      exact hmem
    · exact fun hmem => ⟨fun _ => ⟨tag, by simp [wanting], hne, hmem⟩, nofun, nofun⟩
  rw [allows_iff, hadmits, Item.normalTags, List.mem_map]

/-- The lower case of a tag is one spelling of it. -/
theorem normalTag_lowercase_trim (tag : String) :
    normalTag (Text.lowercase (Text.trim tag)) = normalTag tag := by
  rw [normalTag, Text.trim_lowercase_trim, Text.lowercase_lowercase, normalTag]

end

/-- Of the tags with one lower case a rule about one without capitals beyond ASCII takes those
that have none either. -/
theorem fold_trim_eq_iff {tag t : String} (hplain : Text.FoldsWhole (Text.trim tag)) :
    Text.fold (Text.trim t) = Text.fold (Text.trim tag) ↔
      normalTag t = normalTag tag ∧ Text.FoldsWhole (Text.trim t) := by
  have htag : normalTag tag = Text.fold (Text.trim tag) := Text.lowercase_eq_fold hplain
  rw [← Text.lowercase_eq_fold_iff, htag]
  constructor
  · intro hfold
    have hlower : normalTag t = normalTag tag := Text.lowercase_eq_of_fold_eq hfold
    rw [htag] at hlower
    exact ⟨hlower, hlower.trans hfold.symm⟩
  · rintro ⟨hlower, hwhole⟩
    exact hwhole.symm.trans hlower

/-- The items that a rule about a tag covers are among those that a request for the tag gets. If
the tag has no capital beyond ASCII, they are those of them that bear the tag without such capitals,
so that rule and request agree on items whose tags have none; and if it has one, there is an item
that the request gets and the rule does not cover. -/
theorem tag_rules_cover_wanted {tag : String} (h : Text.trim tag ≠ "") (starts : FacetStarts) :
    (∀ item, (RuleTarget.tag tag).covers starts item = true →
        (Constraints.wanting tag).allows item = true) ∧
      (Text.FoldsWhole (Text.trim tag) → ∀ item,
        ((RuleTarget.tag tag).covers starts item = true ↔ ∃ t ∈ item.tags,
            normalTag t = normalTag tag ∧ Text.FoldsWhole (Text.trim t)) ∧
          ((∀ t ∈ item.tags, Text.FoldsWhole (Text.trim t)) →
            ((RuleTarget.tag tag).covers starts item = true ↔
              (Constraints.wanting tag).allows item = true))) ∧
      (¬Text.FoldsWhole (Text.trim tag) →
        ∃ item, (Constraints.wanting tag).allows item = true ∧
          (RuleTarget.tag tag).covers starts item = false) := by
  refine ⟨fun item hcovers => ?_, fun hplain item => ?_, fun hcapital => ?_⟩
  · obtain ⟨t, ht, hfold⟩ := Item.hasTag_iff.1 hcovers
    exact (Constraints.allows_wanting_iff h).2 ⟨t, ht, Text.lowercase_eq_of_fold_eq hfold⟩
  · have hcovers : (RuleTarget.tag tag).covers starts item = true ↔ ∃ t ∈ item.tags,
        normalTag t = normalTag tag ∧ Text.FoldsWhole (Text.trim t) := by
      simp only [RuleTarget.covers, Item.hasTag_iff, fold_trim_eq_iff hplain]
    refine ⟨hcovers, fun htags => ?_⟩
    rw [hcovers, Constraints.allows_wanting_iff h]
    exact exists_congr fun t => and_congr_right fun ht => and_iff_left (htags t ht)
  · -- The item bears the tag in lower case.
    refine ⟨{ id := "", tags := [Text.lowercase (Text.trim tag)] },
      (Constraints.allows_wanting_iff h).2 ⟨_, List.mem_singleton_self _,
        normalTag_lowercase_trim tag⟩, ?_⟩
    rw [Bool.eq_false_iff]
    intro hcovers
    obtain ⟨t, ht, hfold⟩ := Item.hasTag_iff.1 hcovers
    obtain rfl := List.mem_singleton.1 ht
    rw [Text.trim_lowercase_trim] at hfold
    exact hcapital (Text.fold_lowercase_eq_iff.1 hfold)

def summerBoot : Item := { id := "boot", tags := ["SALE ", "ÉTÉ"] }

theorem tag_rules_cover_wanted_sale :
    Text.trim " Sale" ≠ "" ∧ Text.FoldsWhole (Text.trim " Sale") ∧
      (RuleTarget.tag " Sale").covers ⟨[], []⟩ summerBoot = true ∧
      (Constraints.wanting " Sale").allows summerBoot = true ∧
      Text.trim "ÉTÉ" ≠ "" ∧ ¬Text.FoldsWhole (Text.trim "ÉTÉ") ∧
      ∃ item, (Constraints.wanting "ÉTÉ").allows item = true ∧
        (RuleTarget.tag "ÉTÉ").covers ⟨[], []⟩ item = false := by
  have hsale : Text.trim " Sale" ≠ "" := by decide +kernel
  have hplain : Text.FoldsWhole (Text.trim " Sale") := by decide +kernel
  have hsummer : Text.trim "ÉTÉ" ≠ "" := by decide +kernel
  have hcapital : ¬Text.FoldsWhole (Text.trim "ÉTÉ") := by decide +kernel
  obtain ⟨hwithin, hexact, -⟩ := tag_rules_cover_wanted hsale ⟨[], []⟩
  have hcovers : (RuleTarget.tag " Sale").covers ⟨[], []⟩ summerBoot = true :=
    (hexact hplain summerBoot).1.2 ⟨"SALE ", by decide, by decide +kernel, by decide +kernel⟩
  exact ⟨hsale, hplain, hcovers, hwithin summerBoot hcovers, hsummer, hcapital,
    (tag_rules_cover_wanted hsummer ⟨[], []⟩).2.2 hcapital⟩

/-- A request for the summer sale gets the boot, and a rule on the summer sale does not cover it. -/
theorem summerBoot_wanted_not_covered : Text.trim "été" ≠ "" ∧
    (Constraints.wanting "été").allows summerBoot = true ∧
    (RuleTarget.tag "été").covers ⟨[], []⟩ summerBoot = false := by
  decide +kernel

end Recommendation
