import Mathlib.Data.List.DropRight
import Recommendation.Text.Blank

/-!
What trimming leaves. Texts whose first and last characters are not blank are those
that trimming leaves as they are, and every text is such a text between blanks, in one
way only.
-/

namespace Recommendation.Text

structure IsTrimmed (cs : List Char) : Prop where
  first : ∀ c ∈ cs.head?, isBlank c = false
  last : ∀ c ∈ cs.getLast?, isBlank c = false

variable {before cs behind : List Char}

theorem IsTrimmed.of_forall (h : ∀ c ∈ cs, isBlank c = false) : IsTrimmed cs :=
  ⟨fun c hc => h c (List.mem_of_head? hc), fun c hc => h c (List.mem_of_getLast? hc)⟩

theorem isTrimmed_trimChars (cs : List Char) : IsTrimmed (trimChars cs) := by
  constructor
  · intro c hc
    -- What is cut off behind leaves the first character in its place.
    obtain ⟨rest, hrest⟩ : trimChars cs <+: cs.dropWhile isBlank := List.rdropWhile_prefix isBlank _
    have hfirst := List.head?_dropWhile_not isBlank cs
    rw [← hrest, List.head?_append, hc] at hfirst
    exact hfirst
  · intro c hc
    have hfirst := List.head?_dropWhile_not isBlank (cs.dropWhile isBlank).reverse
    rw [trimChars, List.getLast?_reverse] at hc
    rw [hc] at hfirst
    exact hfirst

theorem dropWhile_isBlank (h : ∀ c ∈ cs.head?, isBlank c = false) :
    cs.dropWhile isBlank = cs := by
  cases cs with
  | nil => rfl
  | cons c cs => rw [List.dropWhile_cons_of_neg (by simp [h c rfl])]

/-- What stands between blanks is what trimming leaves, if it is trimmed itself. -/
theorem trimChars_between (hbefore : ∀ c ∈ before, isBlank c) (hbehind : ∀ c ∈ behind, isBlank c)
    (hcs : IsTrimmed cs) : trimChars (before ++ cs ++ behind) = cs := by
  have hend : cs.reverse.dropWhile isBlank = cs.reverse :=
    dropWhile_isBlank (by simpa using hcs.last)
  cases cs with
  | nil =>
      have hblank : ∀ c ∈ before ++ [] ++ behind, isBlank c := by
        simpa [or_imp, forall_and] using ⟨hbefore, hbehind⟩
      rw [trimChars, List.dropWhile_eq_nil_iff.2 hblank]
      rfl
  | cons c cs =>
      have hstart : (before ++ (c :: cs) ++ behind).dropWhile isBlank = c :: cs ++ behind := by
        rw [List.append_assoc, List.dropWhile_append_of_pos hbefore]
        exact dropWhile_isBlank fun d hd => hcs.first d (by simpa using hd)
      rw [trimChars, hstart, List.reverse_append,
        List.dropWhile_append_of_pos (by simpa using hbehind), hend, List.reverse_reverse]

theorem trimChars_of_isTrimmed (h : IsTrimmed cs) : trimChars cs = cs := by
  have hbetween := trimChars_between (List.forall_mem_nil _) (List.forall_mem_nil _) h
  rwa [List.nil_append, List.append_nil] at hbetween

theorem eq_between_trimChars (cs : List Char) : ∃ before behind : List Char,
    cs = before ++ trimChars cs ++ behind ∧ ∀ c ∈ before ++ behind, isBlank c := by
  let rest := cs.dropWhile isBlank
  have hstart : cs.takeWhile isBlank ++ rest = cs := List.takeWhile_append_dropWhile
  have hend : rest = trimChars cs ++ (rest.reverse.takeWhile isBlank).reverse := by
    rw [trimChars, ← List.reverse_append, List.takeWhile_append_dropWhile, List.reverse_reverse]
  refine ⟨cs.takeWhile isBlank, (rest.reverse.takeWhile isBlank).reverse, ?_, ?_⟩
  · rw [List.append_assoc, ← hend, hstart]
  · intro c hc
    rcases List.mem_append.1 hc with hc | hc
    · exact List.mem_takeWhile_imp hc
    · exact List.mem_takeWhile_imp (List.mem_reverse.1 hc)

@[simp] theorem toList_trim (s : String) : (trim s).toList = trimChars s.toList :=
  String.toList_ofList

@[simp] theorem trim_trim (s : String) : trim (trim s) = trim s := by
  rw [trim, toList_trim, trimChars_of_isTrimmed (isTrimmed_trimChars _), trim]

theorem trimChars_ne_nil_iff {s : String} : trimChars s.toList ≠ [] ↔ trim s ≠ "" := by
  rw [← toList_trim, ne_eq, ne_eq, String.toList_eq_nil_iff]

end Recommendation.Text
