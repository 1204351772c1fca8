import Recommendation.Proofs.Text.Trimming
import Recommendation.Service.RequestId

/-!
Which identifier a request gets. A caller names a request by a header that holds one to
128 visible characters between blanks. Any other header, and none, leaves the request
with the fresh identifier.
-/

namespace Recommendation

namespace Text

theorem isBlank_eq_false_of_visible {c : Char} (h : '!' ≤ c ∧ c ≤ '~') : isBlank c = false := by
  have hlow : 0x21 ≤ c.toNat := h.1
  have hhigh : c.toNat ≤ 0x7E := h.2
  simp only [isBlank, Bool.or_eq_false_iff, Bool.and_eq_false_iff, beq_eq_false_iff_ne,
    decide_eq_false_iff_not]
  omega

theorem isBlank_plain_iff {c : Char} (h : c = '\t' ∨ ' ' ≤ c ∧ c ≤ '~') :
    isBlank c ↔ c = ' ' ∨ c = '\t' := by
  constructor
  · intro hblank
    rcases h with h | ⟨hlow, hhigh⟩
    · exact .inr h
    · by_cases hspace : c = ' '
      · exact .inl hspace
      · have hvisible : '!' ≤ c := by
          have hne : c.toNat ≠ 0x20 := fun heq => hspace (Char.ext (UInt32.toNat_inj.1 heq))
          have hlow : 0x20 ≤ c.toNat := hlow
          show 0x21 ≤ c.toNat
          omega
        rw [isBlank_eq_false_of_visible ⟨hvisible, hhigh⟩] at hblank
        cases hblank
  · rintro (rfl | rfl) <;> decide

end Text

namespace Service

/-- What a caller may call a request: visible characters, not too many. -/
structure IsRequestId (id : String) : Prop where
  nonempty : 1 ≤ id.length
  short : id.length ≤ 128
  visible : ∀ c ∈ id.toList, '!' ≤ c ∧ c ≤ '~'

/-- The caller calls the request so: in the header stands the identifier between blanks. -/
def Request.Names (r : Request) (id : String) : Prop :=
  IsRequestId id ∧ ∃ value before behind, r.header? "x-request-id" = some value ∧
    value.toList = before ++ id.toList ++ behind ∧ ∀ c ∈ before ++ behind, c = ' ' ∨ c = '\t'

theorem plainValue?_eq_some_iff {value plain : String} : plainValue? value = some plain ↔
    (∀ c ∈ value.toList, c = '\t' ∨ ' ' ≤ c ∧ c ≤ '~') ∧ plain = value := by
  have hall : (value.toList.all fun c => c == '\t' || (' ' ≤ c && c ≤ '~')) = true ↔
      ∀ c ∈ value.toList, c = '\t' ∨ ' ' ≤ c ∧ c ≤ '~' := by
    simp
  rw [plainValue?, Option.ite_none_right_eq_some, hall, Option.some_inj, eq_comm (a := value)]

theorem IsRequestId.trim_between {id value : String} {before behind : List Char}
    (hid : IsRequestId id) (hvalue : value.toList = before ++ id.toList ++ behind)
    (hblank : ∀ c ∈ before ++ behind, c = ' ' ∨ c = '\t') : Text.trim value = id := by
  have hblank (c : Char) (hc : c ∈ before ++ behind) : Text.isBlank c := by
    rcases hblank c hc with rfl | rfl <;> decide
  rw [Text.trim, hvalue, Text.trimChars_between
    (fun c hc => hblank c (List.mem_append_left _ hc))
    (fun c hc => hblank c (List.mem_append_right _ hc))
    (.of_forall fun c hc => Text.isBlank_eq_false_of_visible (hid.visible c hc))]
  exact String.ofList_toList

theorem isRequestId_iff {id : String} : IsRequestId id ↔
    (id != "" && id.length ≤ longestRequestId && id.toList.all fun c => '!' ≤ c && c ≤ '~') =
      true := by
  have hempty : 1 ≤ id.length ↔ id ≠ "" := by
    rw [Nat.one_le_iff_ne_zero, ne_eq, String.length_eq_zero_iff]
  simp only [Bool.and_eq_true, bne_iff_ne, decide_eq_true_eq, List.all_eq_true]
  constructor
  · rintro ⟨hnonempty, hshort, hvisible⟩
    exact ⟨⟨hempty.1 hnonempty, hshort⟩, hvisible⟩
  · rintro ⟨⟨hnonempty, hshort⟩, hvisible⟩
    exact ⟨hempty.2 hnonempty, hshort, hvisible⟩

/-- An identifier is read from a header if it stands there between blanks. -/
theorem requestIdOf?_eq_some_iff {value id : String} : requestIdOf? value = some id ↔
    IsRequestId id ∧ ∃ before behind, value.toList = before ++ id.toList ++ behind ∧
      ∀ c ∈ before ++ behind, c = ' ' ∨ c = '\t' := by
  rw [requestIdOf?, Option.filter_eq_some_iff, ← isRequestId_iff, and_comm]
  refine and_congr_right fun hid => ?_
  simp only [Option.map_eq_some_iff, plainValue?_eq_some_iff]
  constructor
  · rintro ⟨plain, ⟨hplain, hvalue⟩, htrim⟩
    rw [hvalue] at htrim
    obtain ⟨before, behind, hvalue, hblank⟩ := Text.eq_between_trimChars value.toList
    have hchars : Text.trimChars value.toList = id.toList := by
      rw [← htrim, Text.trim, String.toList_ofList]
    refine ⟨before, behind, hchars ▸ hvalue, fun c hc => ?_⟩
    have hmem : c ∈ value.toList := by
      rw [hvalue]
      grind
    exact (Text.isBlank_plain_iff (hplain c hmem)).1 (hblank c hc)
  · rintro ⟨before, behind, hvalue, hblank⟩
    refine ⟨value, ⟨fun c hc => ?_, rfl⟩, hid.trim_between hvalue hblank⟩
    rw [hvalue] at hc
    have hparts : c ∈ id.toList ∨ c ∈ before ++ behind := by grind
    rcases hparts with hc | hc
    · have hvisible := hid.visible c hc
      exact .inr ⟨Char.le_trans (by decide) hvisible.1, hvisible.2⟩
    · rcases hblank c hc with rfl | rfl <;> decide

namespace Request

variable (r : Request) (fresh : String)

theorem bind_requestIdOf?_eq_some_iff {id : String} :
    (r.header? requestIdHeader).bind requestIdOf? = some id ↔ r.Names id := by
  simp only [Option.bind_eq_some_iff, requestIdOf?_eq_some_iff, Names]
  constructor
  · rintro ⟨value, hheader, hid, before, behind, hvalue, hblank⟩
    exact ⟨hid, value, before, behind, hheader, hvalue, hblank⟩
  · rintro ⟨hid, value, before, behind, hheader, hvalue, hblank⟩
    exact ⟨value, hheader, hid, before, behind, hvalue, hblank⟩

theorem id_of_names {id : String} (h : r.Names id) : r.id fresh = id := by
  rw [Request.id, (r.bind_requestIdOf?_eq_some_iff).2 h]
  rfl

theorem id_of_unnamed (h : ∀ id, ¬r.Names id) : r.id fresh = fresh := by
  have hnone : (r.header? requestIdHeader).bind requestIdOf? = none := by
    rw [Option.eq_none_iff_forall_ne_some]
    intro id hid
    exact h id ((r.bind_requestIdOf?_eq_some_iff).1 hid)
  rw [Request.id, hnone]
  rfl

end Request

end Service

end Recommendation
