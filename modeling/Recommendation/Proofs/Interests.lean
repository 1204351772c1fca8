import Mathlib.Algebra.Order.BigOperators.Group.List
import Mathlib.Algebra.Order.Ring.Rat
import Recommendation.Proofs.Orders
import Recommendation.Proofs.Signals
import Recommendation.Store.Memory

/-!
How much a profile makes of tags that are spelled in several ways. The rows of a history tell
spellings apart, while the profile has one weight for all spellings of a tag. Of several it keeps
the weight of the one that comes last among the top tags, the lightest, and the others are lost.
-/

namespace Recommendation.Signal

/-! ### The order of tags -/

instance : Std.TransCmp tagOrder :=
  have : Std.TransCmp fun a b : String × Float => floatOrder b.2 a.2 :=
    @Std.TransCmp.opposite _ _
      (transCmp_on (Score.order : Float → Float → Ordering) Prod.snd)
  inferInstanceAs (Std.TransCmp
    (compareLex (fun a b : String × Float => floatOrder b.2 a.2) (compareOn Prod.fst)))

theorem eq_of_tagOrder {a b : String × Float} (h : tagOrder a b = .eq) : a = b := by
  obtain ⟨hweight, htag⟩ := Ordering.then_eq_eq.1 h
  exact Prod.ext (Std.LawfulEqOrd.eq_of_compare htag)
    (Std.LawfulEqCmp.eq_of_compare hweight).symm

variable {history : Dictionary Float} {rows : List (String × Float)} {limit : Nat}

theorem take_sortWith_of_perm (hperm : rows.Perm history.entries) :
    (sortWith tagOrder rows).take limit = topTags limit history := by
  rw [topTags, sortWith_eq_of_perm tagOrder hperm fun _ _ _ _ => eq_of_tagOrder]

theorem topTags_eq_sortWith (hfits : history.size ≤ limit) :
    topTags limit history = sortWith tagOrder history.entries := by
  refine List.take_of_length_le ?_
  rw [(sortWith_perm tagOrder history.entries).length_eq]
  exact hfits

/-! ### Spellings -/

/-- The rows of a history whose tags are spellings of one tag. -/
def spellings (history : Dictionary Float) (tag : String) : List (String × Float) :=
  history.entries.filter fun row => normalTag row.1 == tag

/-- The row is a spelling of the tag and no other one comes behind it in the order of tags: none
weighs less, and of those that weigh as much none has a greater text. -/
def IsLightest (history : Dictionary Float) (tag : String) (row : String × Float) : Prop :=
  row ∈ spellings history tag ∧ ∀ other ∈ spellings history tag, (tagOrder other row).isLE

variable {tag : String}

theorem mem_sortWith_spellings {row : String × Float} :
    row ∈ (sortWith tagOrder history.entries).filter (fun row => normalTag row.1 == tag) ↔
      row ∈ spellings history tag := by
  rw [spellings, List.mem_filter, List.mem_filter, mem_sortWith]

/-- The last spelling among the sorted rows is the lightest. -/
theorem getLast?_sorted_eq_some_iff {row : String × Float} :
    ((sortWith tagOrder history.entries).filter fun row => normalTag row.1 == tag).getLast? =
        some row ↔ IsLightest history tag row := by
  have hsorted := (pairwise_sortWith tagOrder history.entries).filter
    fun row => normalTag row.1 == tag
  have hlast {last : String × Float}
      (h : ((sortWith tagOrder history.entries).filter
        fun row => normalTag row.1 == tag).getLast? = some last) :
      IsLightest history tag last := by
    obtain ⟨front, hfront⟩ := List.getLast?_eq_some_iff.1 h
    rw [IsLightest]
    simp only [← mem_sortWith_spellings]
    rw [hfront] at hsorted ⊢
    refine ⟨by simp, fun other hother => ?_⟩
    rcases List.mem_append.1 hother with hother | hother
    · exact (List.pairwise_append.1 hsorted).2.2 other hother last (by simp)
    · rw [List.mem_singleton.1 hother]
      exact Std.ReflCmp.isLE_rfl
  refine ⟨hlast, fun hrow => ?_⟩
  cases hget : ((sortWith tagOrder history.entries).filter
      fun row => normalTag row.1 == tag).getLast? with
  | none =>
      rw [List.getLast?_eq_none_iff] at hget
      have hmem := mem_sortWith_spellings.2 hrow.1
      rw [hget] at hmem
      cases hmem
  | some last =>
      have h := hlast hget
      rw [eq_of_tagOrder (Std.OrientedCmp.isLE_antisymm (hrow.2 last h.1) (h.2 row hrow.1))]

/-! ### Profiles -/

variable {α : Type} [Score α] {settings : Settings} {attenuation : Float}

/-- Of the spellings of a tag the lightest gives the profile its weight. -/
theorem get?_profileOf (hfits : history.size ≤ settings.profileTags) :
    (profileOf settings history attenuation : TagProfile α).weights.get? tag =
      ((sortWith tagOrder history.entries).filter fun row => normalTag row.1 == tag).getLast?.map
        fun row => Score.ofFloat row.2 := by
  rw [profileOf, TagProfile.ofTags, Dictionary.get?_ofList, topTags_eq_sortWith hfits,
    List.map_map, ← List.map_reverse, List.find?_map, Option.map_map, List.getLast?_filter]
  rfl

theorem get?_profileOf_eq_some_iff (hfits : history.size ≤ settings.profileTags) {weight : α} :
    (profileOf settings history attenuation).weights.get? tag = some weight ↔
      ∃ row, IsLightest history tag row ∧ weight = Score.ofFloat row.2 := by
  rw [get?_profileOf hfits, Option.map_eq_some_iff]
  refine exists_congr fun row => ?_
  rw [getLast?_sorted_eq_some_iff, eq_comm (a := weight)]

/-- Positive numbers add up to one of them just if there are no others. -/
theorem sum_eq_iff_length_eq_one {weights : List Rat} (hpos : ∀ w ∈ weights, 0 < w) {weight : Rat}
    (hmem : weight ∈ weights) : weights.sum = weight ↔ weights.length = 1 := by
  obtain ⟨before, after, rfl⟩ := List.append_of_mem hmem
  have hrest : ∀ w ∈ before ++ after, 0 < w := fun w hw =>
    hpos w (by simp only [List.mem_append, List.mem_cons] at hw ⊢; tauto)
  have hsum : (before ++ weight :: after).sum = weight + (before ++ after).sum := by
    rw [List.sum_append, List.sum_cons, List.sum_append, add_left_comm]
  have hlength : (before ++ weight :: after).length = 1 ↔ before ++ after = [] := by
    rw [List.append_eq_nil_iff, ← List.length_eq_zero_iff, ← List.length_eq_zero_iff,
      List.length_append, List.length_cons]
    omega
  rw [hsum, hlength, add_eq_left]
  refine ⟨fun hzero => ?_, fun hnil => by rw [hnil, List.sum_nil]⟩
  by_contra hne
  exact (List.sum_pos _ hrest hne).ne' hzero

theorem exists_isLightest (h : spellings history tag ≠ []) : ∃ row, IsLightest history tag row := by
  obtain ⟨row, hrow⟩ := List.exists_mem_of_ne_nil _ h
  have hne : (sortWith tagOrder history.entries).filter (fun row => normalTag row.1 == tag) ≠ [] :=
    List.ne_nil_of_mem (mem_sortWith_spellings.2 hrow)
  exact ⟨_, getLast?_sorted_eq_some_iff.1 (List.getLast?_eq_some_getLast hne)⟩

/-- The profile that a user's history makes does not depend on the order in which the store hands
over its rows. If all their tags are top tags, the profile weighs a tag if the history has a
spelling of it, namely by the lightest spelling. If the weights are positive, that is the sum over
all spellings just if there is only one. -/
theorem interesting_keeps_lightest {σ : Type} {store : Store σ} {ctx : Context}
    {input : SignalInput} {user : String} (huser : input.user = some user) {w w' : World σ}
    {set : CandidateSet α} (h : Returns (interesting settings store ctx input) w set w')
    {profile : TagProfile α} (hprofile : set.profile = some profile) :
    ∃ history w₁, Returns (store.tagProfile ctx input.scope user
        (ctx.now.minusDays settings.profileWindow) input.types) w history w₁ ∧
      (∃ attenuation, ∀ rows, rows.Perm history.entries →
        profile = .ofTags (((sortWith tagOrder rows).take settings.profileTags).map fun row =>
          (row.1, Score.ofFloat row.2)) (Score.ofFloat attenuation)) ∧
      (history.size ≤ settings.profileTags → ∀ tag,
        (spellings history tag = [] → profile.weights.get? tag = none) ∧
        (spellings history tag ≠ [] → ∃ row, IsLightest history tag row ∧
          profile.weights.get? tag = some (Score.ofFloat row.2) ∧
          ((∀ other ∈ spellings history tag, 0 < exactValue other.2) →
            (((spellings history tag).map fun other => exactValue other.2).sum =
                exactValue row.2 ↔
              (spellings history tag).length = 1)))) := by
  obtain ⟨history, w₁, hhistory, rfl | ⟨attenuation, items, rfl⟩⟩ := of_returns_interesting huser h
  · cases hprofile
  obtain rfl : profileOf settings history attenuation = profile := Option.some.inj hprofile
  refine ⟨history, w₁, hhistory, ⟨attenuation, fun rows hperm => ?_⟩, fun hfits tag =>
    ⟨fun hnone => ?_, fun hsome => ?_⟩⟩
  · rw [profileOf, take_sortWith_of_perm hperm]
  · rw [Option.eq_none_iff_forall_ne_some]
    intro weight hget
    obtain ⟨row, hrow, -⟩ := (get?_profileOf_eq_some_iff hfits).1 hget
    exact List.ne_nil_of_mem hrow.1 hnone
  · obtain ⟨row, hrow⟩ := exists_isLightest hsome
    refine ⟨row, hrow, (get?_profileOf_eq_some_iff hfits).2 ⟨row, hrow, rfl⟩, fun hpos => ?_⟩
    rw [sum_eq_iff_length_eq_one (List.forall_mem_map.2 hpos) (List.mem_map_of_mem hrow.1),
      List.length_map]

def shoeHistory : Dictionary Float := .ofList [(" shoes", 2.0), ("shoes", 1.0)]

def shoeStore : Store Unit :=
  { Store.memory [] with tagProfile := fun _ _ _ _ _ => pure shoeHistory }

def shoeContext : Context := { org := .none, now := ⟨0, 0⟩ }

def shoeInput : SignalInput := ⟨⟨.none, "shop"⟩, some "ann", none, [], .defaults⟩

def shoeProfile : TagProfile Float := profileOf {} shoeHistory 0.5

theorem interesting_keeps_lightest_shoes : ∃ set : CandidateSet Float,
    shoeInput.user = some "ann" ∧
      Returns (interesting {} shoeStore shoeContext shoeInput) ⟨0, ()⟩ set ⟨0, ()⟩ ∧
      set.profile = some shoeProfile ∧
      ∃ row, IsLightest shoeHistory "shoes" row ∧
        shoeProfile.weights.get? "shoes" = some row.2 := by
  have hreturns : Returns (interesting {} shoeStore shoeContext shoeInput) ⟨0, ()⟩
      (ofTagged 200 shoeProfile []) ⟨0, ()⟩ :=
    rfl
  have huser : shoeInput.user = some "ann" := rfl
  obtain ⟨history, w₁, hhistory, -, hspellings⟩ := interesting_keeps_lightest huser hreturns rfl
  obtain ⟨rfl, -⟩ := returns_pure_iff.1 hhistory
  have hsome : spellings shoeHistory "shoes" ≠ [] := by decide +kernel
  obtain ⟨row, hrow, hweight, -⟩ := (hspellings (by decide +kernel) "shoes").2 hsome
  exact ⟨_, huser, hreturns, rfl, row, hrow, hweight⟩

/-- Two spellings of shoes weigh three together, and the profile makes one of them. -/
theorem shoes_weigh_less_than_spellings :
    shoeHistory.size ≤ ({} : Settings).profileTags ∧
      Score.sum ((spellings shoeHistory "shoes").map (·.2)) = 3.0 ∧
      shoeProfile.weights.get? "shoes" = some 1.0 ∧ (1.0 : Float) ≠ 3.0 := by
  decide +kernel

end Recommendation.Signal
