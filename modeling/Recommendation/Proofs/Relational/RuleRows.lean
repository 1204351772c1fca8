import Recommendation.Proofs.Results
import Recommendation.Relational.RuleRow

/-!
Which rows make rules. What a row says is told by three relations, one for each of the readings, and
a row is well formed if all three have something to say. The rows of a read are then either all well
formed, and make a rule each, or the first one that is not fails the read by the first thing that is
wrong with it.
-/

namespace Recommendation

namespace Relational

namespace RuleRow

/-! ### What a row says -/

inductive IsAbout (row : RuleRow) : RuleTarget → Prop
  | tag {value : String} (hword : Text.lowercase row.targetType = "tag")
    (hvalue : row.targetValue = some value) (hsome : value ≠ "") : IsAbout row (.tag value)
  | brand {value : String} (hword : Text.lowercase row.targetType = "brand")
    (hvalue : row.targetValue = some value) (hsome : value ≠ "") : IsAbout row (.brand value)
  | category {value : String} (hword : Text.lowercase row.targetType = "category")
    (hvalue : row.targetValue = some value) (hsome : value ≠ "") : IsAbout row (.category value)
  | items (hword : Text.lowercase row.targetType = "items" ∨
      Text.lowercase row.targetType = "item") : IsAbout row (.items (row.itemIds.getD []))

inductive Does (row : RuleRow) : RuleAction → Prop
  | block (hword : Text.lowercase row.action = "block") : Does row .block
  | pin {position : Nat} (hword : Text.lowercase row.action = "pin")
    (hposition : row.pinPosition = some (position : Int)) (hpos : 1 ≤ position) :
    Does row (.pin position)
  | boost {strength : Float} (hword : Text.lowercase row.action = "boost")
    (hstrength : row.boostValue = some strength) (hfinite : strength.isFinite = true)
    (hpos : -1.0 < strength) : Does row (.boost strength)

inductive MayPin (row : RuleRow) : Option Nat → Prop
  | all (h : row.maxPins = none) : MayPin row none
  | most {limit : Nat} (h : row.maxPins = some (limit : Int)) : MayPin row (some limit)

/-- The rule says what the row says, and has its other columns as they are. -/
structure Makes (row : RuleRow) (rule : Rule) : Prop where
  target : row.IsAbout rule.target
  action : row.Does rule.action
  maxPins : row.MayPin rule.maxPins
  id : rule.id = row.id
  space : rule.space = row.space
  surface : rule.surface = row.surface
  priority : rule.priority = row.priority
  enabled : rule.enabled = row.enabled
  validFrom : rule.validFrom = row.validFrom
  validUntil : rule.validUntil = row.validUntil

/-- The row makes a rule: there is something that it is about, an action that has what it needs, and
no limit below nought. -/
structure WellFormed (row : RuleRow) : Prop where
  target : Text.lowercase row.targetType ∈ ["tag", "brand", "category"] ∧
      (∃ value, row.targetValue = some value ∧ value ≠ "") ∨
    Text.lowercase row.targetType ∈ ["items", "item"]
  action : Text.lowercase row.action = "block" ∨
    (Text.lowercase row.action = "pin" ∧
      ∃ position, row.pinPosition = some position ∧ 1 ≤ position) ∨
    Text.lowercase row.action = "boost" ∧
      ∃ strength, row.boostValue = some strength ∧ strength.isFinite = true ∧ -1.0 < strength
  limit : ∀ limit, row.maxPins = some limit → 0 ≤ limit

inductive ActionFault (row : RuleRow) : RowFault → Prop
  | pinPosition (hword : Text.lowercase row.action = "pin")
    (h : ∀ position, row.pinPosition = some position → position < 1) : ActionFault row .pinPosition
  | boostValue (hword : Text.lowercase row.action = "boost")
    (h : ∀ strength, row.boostValue = some strength →
      ¬(strength.isFinite = true ∧ -1.0 < strength)) : ActionFault row .boostValue
  | action (hword : Text.lowercase row.action ∉ ["block", "pin", "boost"]) :
    ActionFault row (.action (Text.lowercase row.action))

/-- The first thing that is wrong with a row: its target, or else its action, or else its limit. -/
inductive FirstFault (row : RuleRow) : RowFault → Prop
  | target (h : ∀ target, ¬row.IsAbout target) :
    FirstFault row (.target (Text.lowercase row.targetType))
  | action {target : RuleTarget} {fault : RowFault} (htarget : row.IsAbout target)
    (h : row.ActionFault fault) : FirstFault row fault
  | maxPins {target : RuleTarget} {action : RuleAction} {limit : Int}
    (htarget : row.IsAbout target) (haction : row.Does action)
    (hlimit : row.maxPins = some limit) (hneg : limit < 0) : FirstFault row (.maxPins limit)

variable {row : RuleRow}

/-! ### The readings -/

theorem targetValue_eq_some (h : row.targetValue.getD "" ≠ "") :
    row.targetValue = some (row.targetValue.getD "") := by
  cases hvalue : row.targetValue with
  | none => exact absurd (by rw [hvalue]; rfl) h
  | some value => rfl

theorem target_eq_ok_iff {target : RuleTarget} : row.target = .ok target ↔ row.IsAbout target := by
  constructor
  · intro h
    simp only [RuleRow.target, Bool.and_eq_true, Bool.or_eq_true, beq_iff_eq, bne_iff_ne] at h
    split_ifs at h with htag hbrand hcategory hitems
    · cases h
      exact .tag htag.1 (targetValue_eq_some htag.2) htag.2
    · cases h
      exact .brand hbrand.1 (targetValue_eq_some hbrand.2) hbrand.2
    · cases h
      exact .category hcategory.1 (targetValue_eq_some hcategory.2) hcategory.2
    · cases h
      exact .items hitems
  · intro h
    cases h with
    | tag hword hvalue hsome => simp [RuleRow.target, hword, hvalue, hsome, pure, Except.pure]
    | brand hword hvalue hsome => simp [RuleRow.target, hword, hvalue, hsome, pure, Except.pure]
    | category hword hvalue hsome => simp [RuleRow.target, hword, hvalue, hsome, pure, Except.pure]
    | items hword =>
        rcases hword with hword | hword <;> simp [RuleRow.target, hword, pure, Except.pure]

theorem target_eq_error_iff {fault : RowFault} : row.target = .error fault ↔
    (∀ target, ¬row.IsAbout target) ∧ fault = .target (Text.lowercase row.targetType) := by
  refine Except.eq_error_iff (fun _ => target_eq_ok_iff) fun fault h => ?_
  rw [RuleRow.target] at h
  split_ifs at h <;> cases h
  rfl

theorem position_eq_ok_iff {position : Nat} : row.position = .ok position ↔
    row.pinPosition = some (position : Int) ∧ 1 ≤ position := by
  rw [RuleRow.position]
  cases row.pinPosition with
  | none => exact iff_of_false nofun nofun
  | some n =>
      simp only [Option.some.injEq]
      split_ifs with hpos
      · simp only [pure, Except.pure, Except.ok.injEq]
        omega
      · refine iff_of_false nofun ?_
        rintro ⟨rfl, h⟩
        omega

theorem position_eq_error_iff {fault : RowFault} : row.position = .error fault ↔
    (∀ position, row.pinPosition = some position → position < 1) ∧ fault = .pinPosition := by
  rw [RuleRow.position]
  cases row.pinPosition with
  | none => exact Except.throw_eq_error_iff.trans (and_iff_right nofun).symm
  | some n =>
      simp only [Option.some.injEq, forall_eq']
      split_ifs with hpos
      · exact iff_of_false nofun fun h => absurd hpos (by omega)
      · rw [Except.throw_eq_error_iff, and_iff_right (by omega)]

theorem strength_eq_ok_iff {strength : Float} : row.strength = .ok strength ↔
    row.boostValue = some strength ∧ strength.isFinite = true ∧ -1.0 < strength := by
  rw [RuleRow.strength]
  cases row.boostValue with
  | none => exact iff_of_false nofun nofun
  | some x =>
      simp only [Option.some.injEq, Bool.and_eq_true, decide_eq_true_eq]
      split_ifs with husable
      · simp only [pure, Except.pure, Except.ok.injEq]
        exact ⟨fun h => h ▸ ⟨rfl, husable⟩, And.left⟩
      · refine iff_of_false nofun ?_
        rintro ⟨rfl, h⟩
        exact husable h

theorem strength_eq_error_iff {fault : RowFault} : row.strength = .error fault ↔
    (∀ strength, row.boostValue = some strength → ¬(strength.isFinite = true ∧ -1.0 < strength)) ∧
      fault = .boostValue := by
  rw [RuleRow.strength]
  cases row.boostValue with
  | none => exact Except.throw_eq_error_iff.trans (and_iff_right nofun).symm
  | some x =>
      simp only [Option.some.injEq, forall_eq', Bool.and_eq_true, decide_eq_true_eq]
      split_ifs with husable
      · exact iff_of_false nofun fun h => h.1 husable
      · rw [Except.throw_eq_error_iff, and_iff_right husable]

theorem ruleAction_eq_ok_iff {action : RuleAction} :
    row.ruleAction = .ok action ↔ row.Does action := by
  constructor
  · intro h
    rw [ruleAction] at h
    split at h
    next hword =>
      cases h
      exact .block hword
    next hword =>
      obtain ⟨position, hposition, ⟨⟩⟩ := Except.bind_eq_ok_iff.1 h
      obtain ⟨hcolumn, hpos⟩ := position_eq_ok_iff.1 hposition
      exact .pin hword hcolumn hpos
    next hword =>
      obtain ⟨strength, hstrength, ⟨⟩⟩ := Except.bind_eq_ok_iff.1 h
      obtain ⟨hcolumn, hfinite, hpos⟩ := strength_eq_ok_iff.1 hstrength
      exact .boost hword hcolumn hfinite hpos
    next => cases h
  · intro h
    cases h with
    | block hword => rw [ruleAction, hword]; rfl
    | pin hword hposition hpos =>
        rw [ruleAction, hword]
        exact Except.bind_eq_ok_iff.2 ⟨_, position_eq_ok_iff.2 ⟨hposition, hpos⟩, rfl⟩
    | boost hword hstrength hfinite hpos =>
        rw [ruleAction, hword]
        exact Except.bind_eq_ok_iff.2 ⟨_, strength_eq_ok_iff.2 ⟨hstrength, hfinite, hpos⟩, rfl⟩

theorem ruleAction_eq_error_iff {fault : RowFault} :
    row.ruleAction = .error fault ↔ row.ActionFault fault := by
  constructor
  · intro h
    rw [ruleAction] at h
    split at h
    next => cases h
    next hword =>
      rcases Except.bind_eq_error_iff.1 h with h | ⟨_, _, ⟨⟩⟩
      obtain ⟨hcolumn, rfl⟩ := position_eq_error_iff.1 h
      exact .pinPosition hword hcolumn
    next hword =>
      rcases Except.bind_eq_error_iff.1 h with h | ⟨_, _, ⟨⟩⟩
      obtain ⟨hcolumn, rfl⟩ := strength_eq_error_iff.1 h
      exact .boostValue hword hcolumn
    next hblock hpin hboost =>
      cases h
      refine .action fun hmem => ?_
      simp only [List.mem_cons, List.not_mem_nil, or_false] at hmem
      exact hmem.elim hblock fun hmem => hmem.elim hpin hboost
  · intro h
    cases h with
    | pinPosition hword hcolumn =>
        rw [ruleAction, hword]
        exact Except.bind_eq_error_iff.2 (.inl (position_eq_error_iff.2 ⟨hcolumn, rfl⟩))
    | boostValue hword hcolumn =>
        rw [ruleAction, hword]
        exact Except.bind_eq_error_iff.2 (.inl (strength_eq_error_iff.2 ⟨hcolumn, rfl⟩))
    | action hword =>
        rw [ruleAction]
        split
        next hblock => simp [hblock] at hword
        next hpin => simp [hpin] at hword
        next hboost => simp [hboost] at hword
        next => rfl

theorem pinLimit_eq_ok_iff {limit : Option Nat} : row.pinLimit = .ok limit ↔ row.MayPin limit := by
  constructor
  · intro h
    rw [pinLimit] at h
    split at h
    next hnone =>
      cases h
      exact .all hnone
    next n hsome =>
      split_ifs at h with hnonneg
      cases h
      exact .most (hsome.trans (congrArg some (Int.toNat_of_nonneg hnonneg).symm))
  · intro h
    cases h with
    | all hnone => rw [pinLimit, hnone]; rfl
    | most hsome => rw [pinLimit, hsome]; rfl

theorem pinLimit_eq_error_iff {fault : RowFault} : row.pinLimit = .error fault ↔
    ∃ limit, row.maxPins = some limit ∧ limit < 0 ∧ fault = .maxPins limit := by
  rw [pinLimit]
  cases row.maxPins with
  | none => exact iff_of_false nofun nofun
  | some n =>
      simp only [Option.some.injEq, exists_eq_left']
      split_ifs with hnonneg
      · exact iff_of_false nofun fun h => absurd hnonneg (by omega)
      · rw [Except.throw_eq_error_iff, and_iff_right (by omega)]

/-! ### Rows and rules -/

theorem rule_eq_ok_iff {rule : Rule} : row.rule = .ok rule ↔ row.Makes rule := by
  simp only [RuleRow.rule, Except.bind_eq_ok_iff, target_eq_ok_iff, ruleAction_eq_ok_iff,
    pinLimit_eq_ok_iff]
  constructor
  · rintro ⟨target, htarget, action, haction, maxPins, hmax, ⟨⟩⟩
    exact ⟨htarget, haction, hmax, rfl, rfl, rfl, rfl, rfl, rfl, rfl⟩
  · obtain ⟨id, space, surface, target, action, priority, maxPins, enabled, start, stop⟩ := rule
    rintro ⟨htarget, haction, hmax, rfl, rfl, rfl, rfl, rfl, rfl, rfl⟩
    exact ⟨target, htarget, action, haction, maxPins, hmax, rfl⟩

theorem rule_eq_error_iff {fault : RowFault} : row.rule = .error fault ↔ row.FirstFault fault := by
  simp only [RuleRow.rule, Except.bind_eq_error_iff, target_eq_ok_iff, target_eq_error_iff,
    ruleAction_eq_ok_iff, ruleAction_eq_error_iff, pinLimit_eq_error_iff]
  constructor
  · rintro (⟨htarget, rfl⟩ | ⟨target, htarget, haction | ⟨action, haction, hmax | ⟨_, _, ⟨⟩⟩⟩⟩)
    · exact .target htarget
    · exact .action htarget haction
    · obtain ⟨limit, hlimit, hneg, rfl⟩ := hmax
      exact .maxPins htarget haction hlimit hneg
  · rintro (htarget | ⟨htarget, haction⟩ | ⟨htarget, haction, hlimit, hneg⟩)
    · exact .inl ⟨htarget, rfl⟩
    · exact .inr ⟨_, htarget, .inl haction⟩
    · exact .inr ⟨_, htarget, .inr ⟨_, haction, .inl ⟨_, hlimit, hneg, rfl⟩⟩⟩

theorem exists_isAbout_iff : (∃ target, row.IsAbout target) ↔
    Text.lowercase row.targetType ∈ ["tag", "brand", "category"] ∧
        (∃ value, row.targetValue = some value ∧ value ≠ "") ∨
      Text.lowercase row.targetType ∈ ["items", "item"] := by
  simp only [List.mem_cons, List.not_mem_nil, or_false]
  constructor
  · rintro ⟨_, ⟨hword, hvalue, hsome⟩ | ⟨hword, hvalue, hsome⟩ | ⟨hword, hvalue, hsome⟩ | hword⟩
    · exact .inl ⟨.inl hword, _, hvalue, hsome⟩
    · exact .inl ⟨.inr (.inl hword), _, hvalue, hsome⟩
    · exact .inl ⟨.inr (.inr hword), _, hvalue, hsome⟩
    · exact .inr hword
  · rintro (⟨hword | hword | hword, value, hvalue, hsome⟩ | hword)
    · exact ⟨_, .tag hword hvalue hsome⟩
    · exact ⟨_, .brand hword hvalue hsome⟩
    · exact ⟨_, .category hword hvalue hsome⟩
    · exact ⟨_, .items hword⟩

theorem exists_does_iff : (∃ action, row.Does action) ↔
    Text.lowercase row.action = "block" ∨
      (Text.lowercase row.action = "pin" ∧
        ∃ position, row.pinPosition = some position ∧ 1 ≤ position) ∨
      Text.lowercase row.action = "boost" ∧
        ∃ strength, row.boostValue = some strength ∧ strength.isFinite = true ∧
          -1.0 < strength := by
  constructor
  · rintro ⟨_, hword | ⟨hword, hposition, hpos⟩ | ⟨hword, hstrength, hfinite, hpos⟩⟩
    · exact .inl hword
    · exact .inr (.inl ⟨hword, _, hposition, by omega⟩)
    · exact .inr (.inr ⟨hword, _, hstrength, hfinite, hpos⟩)
  · rintro (hword | ⟨hword, position, hposition, hpos⟩ |
      ⟨hword, strength, hstrength, hfinite, hpos⟩)
    · exact ⟨_, .block hword⟩
    · lift position to ℕ using by omega
      exact ⟨_, .pin hword hposition (by omega)⟩
    · exact ⟨_, .boost hword hstrength hfinite hpos⟩

theorem exists_mayPin_iff : (∃ maxPins, row.MayPin maxPins) ↔
    ∀ limit, row.maxPins = some limit → 0 ≤ limit := by
  constructor
  · rintro ⟨_, hnone | hsome⟩ limit hlimit
    · rw [hnone] at hlimit
      cases hlimit
    · rw [hsome] at hlimit
      cases hlimit
      omega
  · intro h
    cases hlimit : row.maxPins with
    | none => exact ⟨none, .all hlimit⟩
    | some limit =>
        have hnonneg := h limit hlimit
        lift limit to ℕ using hnonneg
        exact ⟨some limit, .most hlimit⟩

theorem wellFormed_iff : row.WellFormed ↔ ∃ rule, row.rule = .ok rule := by
  simp only [rule_eq_ok_iff]
  constructor
  · rintro ⟨htarget, haction, hlimit⟩
    obtain ⟨target, htarget⟩ := exists_isAbout_iff.2 htarget
    obtain ⟨action, haction⟩ := exists_does_iff.2 haction
    obtain ⟨maxPins, hmax⟩ := exists_mayPin_iff.2 hlimit
    exact ⟨⟨row.id, row.space, row.surface, target, action, row.priority, maxPins, row.enabled,
      row.validFrom, row.validUntil⟩, htarget, haction, hmax, rfl, rfl, rfl, rfl, rfl, rfl, rfl⟩
  · rintro ⟨rule, h⟩
    exact ⟨exists_isAbout_iff.1 ⟨_, h.target⟩, exists_does_iff.1 ⟨_, h.action⟩,
      exists_mayPin_iff.1 ⟨_, h.maxPins⟩⟩

/-- Rows are taken all or none. A read gives rules just if they are, in the order of the rows, what
each row makes, and it gives some just if every row is well formed. It fails just if there is a
first row that is not, by naming this row and the first thing that is wrong with it. -/
theorem rules_all_or_none (rows : List RuleRow) :
    (∀ rules, RuleRow.rules rows = .ok rules ↔ List.Forall₂ Makes rows rules) ∧
      ((∃ rules, RuleRow.rules rows = .ok rules) ↔ ∀ row ∈ rows, row.WellFormed) ∧
      ∀ e, RuleRow.rules rows = .error e ↔ ∃ before row behind fault,
        rows = before ++ row :: behind ∧ (∀ earlier ∈ before, earlier.WellFormed) ∧
          row.FirstFault fault ∧
          e = .permanent ("malformed rule " ++ row.id.toText ++ ": " ++ fault.message) := by
  refine ⟨fun rules => ?_, ?_, fun e => ?_⟩
  · simp only [RuleRow.rules, Except.mapM_eq_ok_iff, Except.mapError_eq_ok_iff, rule_eq_ok_iff]
  · simp only [RuleRow.rules, Except.exists_mapM_eq_ok_iff, Except.mapError_eq_ok_iff,
      wellFormed_iff]
  · simp only [RuleRow.rules, Except.mapM_eq_error_iff, Except.mapError_eq_ok_iff,
      Except.mapError_eq_error_iff, rule_eq_error_iff, wellFormed_iff]
    constructor
    · rintro ⟨before, row, behind, hrows, hbefore, fault, hfault, he⟩
      exact ⟨before, row, behind, fault, hrows, hbefore, hfault, he⟩
    · rintro ⟨before, row, behind, fault, hrows, hbefore, hfault, he⟩
      exact ⟨before, row, behind, hrows, hbefore, fault, hfault, he⟩

end RuleRow

end Relational

end Recommendation
