import Mathlib.Data.List.Basic
import Recommendation.Proofs.Text.Trimming
import Recommendation.Text.AsciiFold
import Recommendation.Text.Lowercase

/-!
Lower case next to folding. Lower-casing replaces each character by one or two others,
and only for a capital sigma does it depend on the neighbours which; `Lowers` forgets
this dependence, and all that follows is read off it. Folding does to a text what
lower-casing does exactly if there is no capital in it but those from `A` to `Z`.
-/

namespace Recommendation.Text

variable {c d : Char} {cs ds part before : List Char}

theorem toNat_ofNat {n : Nat} (h : n.isValidChar) : (Char.ofNat n).toNat = n := by
  rw [Char.ofNat, dif_pos h]
  rfl

/-! ### Folding -/

theorem foldChar_of_beyond (h : 0x80 ≤ c.toNat) : foldChar c = c := by
  have hlarge : ¬c ≤ 'Z' := by
    intro hle
    have hle : c.toNat ≤ 0x5A := hle
    omega
  simp [foldChar, hlarge]

theorem foldChar_cases (c : Char) :
    0x41 ≤ c.toNat ∧ c.toNat ≤ 0x5A ∧ (foldChar c).toNat = c.toNat + 32 ∨
      ¬(0x41 ≤ c.toNat ∧ c.toNat ≤ 0x5A) ∧ foldChar c = c := by
  by_cases hcapital : 'A' ≤ c ∧ c ≤ 'Z'
  · have hlow : 0x41 ≤ c.toNat := hcapital.1
    have hhigh : c.toNat ≤ 0x5A := hcapital.2
    refine .inl ⟨hlow, hhigh, ?_⟩
    have hfold : foldChar c = Char.ofNat (c.toNat + 32) := by simp [foldChar, hcapital]
    rw [hfold, toNat_ofNat (.inl (by omega))]
  · exact .inr ⟨hcapital, by simp [foldChar, hcapital]⟩

theorem foldChar_foldChar (c : Char) : foldChar (foldChar c) = foldChar c := by
  rcases foldChar_cases c with ⟨hlow, hhigh, hfold⟩ | ⟨-, hfold⟩
  · rcases foldChar_cases (foldChar c) with ⟨-, hhigh', -⟩ | ⟨-, hsame⟩
    · omega
    · exact hsame
  · rw [hfold, hfold]

/-! ### The table -/

def blankRanges : List (Nat × Nat) :=
  [(9, 13), (0x20, 0x20), (0x85, 0x85), (0xA0, 0xA0), (0x1680, 0x1680), (0x2000, 0x200A),
   (0x2028, 0x2029), (0x202F, 0x202F), (0x205F, 0x205F), (0x3000, 0x3000)]

theorem isBlank_iff : isBlank c = true ↔ ∃ r ∈ blankRanges, r.1 ≤ c.toNat ∧ c.toNat ≤ r.2 := by
  simp only [isBlank, blankRanges, List.mem_cons, List.not_mem_nil, or_false, exists_eq_or_imp,
    exists_eq_left, Bool.or_eq_true, Bool.and_eq_true, decide_eq_true_eq, beq_iff_eq]
  omega

namespace CaseRun

def firstPartner (run : CaseRun) : Nat := (run.first + run.shift).toNat

def lastPartner (run : CaseRun) : Nat := (run.last + run.shift).toNat

/-- Neither a member of the run nor a partner is in the range. -/
def isApart (run : CaseRun) (r : Nat × Nat) : Bool :=
  (run.last < r.1 || r.2 < run.first) && (run.lastPartner < r.1 || r.2 < run.firstPartner)

/-- No partner is a member of the other run: it is below or above it, or between its members. -/
def misses (run other : CaseRun) : Bool :=
  Nat.blt run.lastPartner other.first || Nat.blt other.last run.firstPartner ||
    ((run.step == 2 || run.first == run.last) && other.step == 2 &&
      (run.firstPartner + other.first) % 2 == 1)

/-- Members are beyond ASCII, and partners are characters. -/
def isSound (run : CaseRun) : Bool :=
  0x80 ≤ run.first && 0 ≤ run.first + run.shift &&
    (run.lastPartner < 0xD800 || 0xDFFF < run.firstPartner && run.lastPartner < 0x110000)

end CaseRun

theorem isSound_caseRuns : ∀ run ∈ caseRuns, run.isSound := by decide +kernel

/-- No run and no partner is among the capitals of ASCII, the dotted capital I and the blanks. -/
theorem isApart_caseRuns : ∀ run ∈ caseRuns, ∀ r ∈ (0x41, 0x5A) :: (0x130, 0x130) :: blankRanges,
    run.isApart r := by decide +kernel

theorem misses_caseRuns : (caseRuns.all fun run => caseRuns.all run.misses) = true := by
  decide +kernel

theorem CaseRun.contains_iff {run : CaseRun} {n : Nat} : run.contains n = true ↔
    run.first ≤ n ∧ n ≤ run.last ∧ (n - run.first) % run.step = 0 := by
  simp [contains, and_assoc]

structure IsPartner (run : CaseRun) (c d : Char) : Prop where
  run_mem : run ∈ caseRuns
  contains : run.contains c.toNat
  toNat_eq : d.toNat = run.firstPartner + (c.toNat - run.first)

namespace IsPartner

variable {run : CaseRun}

theorem le_lastPartner (h : IsPartner run c d) :
    run.firstPartner ≤ d.toNat ∧ d.toNat ≤ run.lastPartner := by
  have hsound := isSound_caseRuns run h.run_mem
  simp only [CaseRun.isSound, Bool.and_eq_true, decide_eq_true_eq] at hsound
  have hmember := CaseRun.contains_iff.1 h.contains
  have hpartner := h.toNat_eq
  rw [CaseRun.firstPartner] at hpartner ⊢
  rw [CaseRun.lastPartner]
  omega

theorem not_in_range (h : IsPartner run c d) {r : Nat × Nat}
    (hr : r ∈ (0x41, 0x5A) :: (0x130, 0x130) :: blankRanges) :
    ¬(r.1 ≤ c.toNat ∧ c.toNat ≤ r.2) ∧ ¬(r.1 ≤ d.toNat ∧ d.toNat ≤ r.2) := by
  have hapart := isApart_caseRuns run h.run_mem r hr
  simp only [CaseRun.isApart, Bool.and_eq_true, Bool.or_eq_true, decide_eq_true_eq] at hapart
  have hmember := CaseRun.contains_iff.1 h.contains
  have hpartner := h.le_lastPartner
  omega

theorem not_contains (h : IsPartner run c d) {other : CaseRun} (hother : other ∈ caseRuns) :
    other.contains d.toNat = false := by
  have hmisses := List.all_eq_true.1 (List.all_eq_true.1 misses_caseRuns run h.run_mem) other hother
  rw [Bool.eq_false_iff, ne_eq, CaseRun.contains_iff]
  rintro ⟨hlow, hhigh, hstep⟩
  simp only [CaseRun.misses, Bool.or_eq_true, Bool.and_eq_true, Nat.blt_eq, beq_iff_eq] at hmisses
  obtain ⟨hfirst, hlast, hown⟩ := CaseRun.contains_iff.1 h.contains
  have hpartner := h.le_lastPartner
  have heq := h.toNat_eq
  rcases hmisses with (hbelow | habove) | ⟨⟨hsteps | hsingle, htwo⟩, hodd⟩
  · omega
  · omega
  · rw [hsteps] at hown
    rw [htwo] at hstep
    omega
  · rw [htwo] at hstep
    omega

end IsPartner

/-! ### One character -/

theorem lowercaseChar_of_ascii (h : c.toNat < 0x80) : lowercaseChar c = [foldChar c] := if_pos h

theorem lowercaseChar_of_beyond (h : 0x80 ≤ c.toNat) (hdot : c ≠ 'İ')
    (hnone : ∀ run ∈ caseRuns, run.contains c.toNat = false) : lowercaseChar c = [c] := by
  have hfind : (caseRuns.find? fun run => run.contains c.toNat) = none :=
    List.find?_eq_none.2 fun run hrun => by simp [hnone run hrun]
  rw [lowercaseChar, if_neg (by omega), if_neg (by simpa using hdot), hfind]

/-- A character of ASCII is folded, the dotted capital I becomes two characters, a member of a run
becomes its partner, and any other character stays. -/
theorem lowercaseChar_cases (c : Char) :
    c.toNat < 0x80 ∧ lowercaseChar c = [foldChar c] ∨
      c = 'İ' ∧ lowercaseChar c = ['i', '\u0307'] ∨
      (∃ run d, IsPartner run c d ∧ lowercaseChar c = [d]) ∨
      0x80 ≤ c.toNat ∧ lowercaseChar c = [c] := by
  by_cases hascii : c.toNat < 0x80
  · exact .inl ⟨hascii, lowercaseChar_of_ascii hascii⟩
  by_cases hdot : c = 'İ'
  · subst hdot
    exact .inr (.inl ⟨rfl, rfl⟩)
  cases hfind : caseRuns.find? fun run => run.contains c.toNat with
  | none =>
      refine .inr (.inr (.inr ⟨by omega, ?_⟩))
      rw [lowercaseChar, if_neg hascii, if_neg (by simpa using hdot), hfind]
  | some run =>
      have hmem := List.mem_of_find?_eq_some hfind
      have hcontains : run.contains c.toNat = true := by simpa using List.find?_some hfind
      have hsound := isSound_caseRuns run hmem
      simp only [CaseRun.isSound, Bool.and_eq_true, Bool.or_eq_true, decide_eq_true_eq] at hsound
      have hmember := CaseRun.contains_iff.1 hcontains
      rw [CaseRun.firstPartner, CaseRun.lastPartner] at hsound
      have hvalid : (c.toNat + run.shift).toNat.isValidChar := by
        rw [Nat.isValidChar]
        omega
      refine .inr (.inr (.inl ⟨run, Char.ofNat (c.toNat + run.shift).toNat,
        ⟨hmem, hcontains, ?_⟩, ?_⟩))
      · rw [toNat_ofNat hvalid, CaseRun.firstPartner]
        omega
      · rw [lowercaseChar, if_neg hascii, if_neg (by simpa using hdot), hfind]

theorem lowercaseChar_ne_nil (c : Char) : lowercaseChar c ≠ [] := by
  rcases lowercaseChar_cases c with ⟨-, h⟩ | ⟨-, h⟩ | ⟨_, _, -, h⟩ | ⟨-, h⟩ <;> simp [h]

theorem isBlank_foldChar (c : Char) : isBlank (foldChar c) = isBlank c := by
  rcases foldChar_cases c with ⟨hlow, hhigh, hfold⟩ | ⟨-, hfold⟩
  · rw [Bool.eq_iff_iff, isBlank_iff, isBlank_iff]
    simp only [blankRanges, List.mem_cons, List.not_mem_nil, or_false, exists_eq_or_imp,
      exists_eq_left]
    omega
  · rw [hfold]

/-- Lower-casing makes no blank and takes none away. -/
theorem isBlank_of_mem_lowercaseChar (h : d ∈ lowercaseChar c) : isBlank d = isBlank c := by
  rcases lowercaseChar_cases c with ⟨-, hlower⟩ | ⟨rfl, hlower⟩ | ⟨run, d', hpartner, hlower⟩ |
    ⟨-, hlower⟩
  · rw [hlower, List.mem_singleton] at h
    rw [h, isBlank_foldChar]
  · rw [hlower] at h
    simp only [List.mem_cons, List.not_mem_nil, or_false] at h
    rcases h with rfl | rfl <;> decide
  · rw [hlower, List.mem_singleton] at h
    subst h
    rw [Bool.eq_iff_iff, isBlank_iff, isBlank_iff]
    constructor
    · rintro ⟨r, hr, hrange⟩
      exact absurd hrange (hpartner.not_in_range (by simp [hr])).2
    · rintro ⟨r, hr, hrange⟩
      exact absurd hrange (hpartner.not_in_range (by simp [hr])).1
  · rw [hlower, List.mem_singleton] at h
    rw [h]

theorem lowercaseChar_of_mem_lowercaseChar (h : d ∈ lowercaseChar c) : lowercaseChar d = [d] := by
  rcases lowercaseChar_cases c with ⟨hascii, hlower⟩ | ⟨rfl, hlower⟩ |
    ⟨run, d', hpartner, hlower⟩ | ⟨hbeyond, hlower⟩
  · rw [hlower, List.mem_singleton] at h
    subst h
    have hstill : (foldChar c).toNat < 0x80 := by
      rcases foldChar_cases c with ⟨-, hhigh, hfold⟩ | ⟨-, hfold⟩
      · omega
      · rwa [hfold]
    rw [lowercaseChar_of_ascii hstill, foldChar_foldChar]
  · rw [hlower] at h
    simp only [List.mem_cons, List.not_mem_nil, or_false] at h
    rcases h with rfl | rfl <;> decide +kernel
  · rw [hlower, List.mem_singleton] at h
    subst h
    by_cases hascii : d.toNat < 0x80
    · rw [lowercaseChar_of_ascii hascii]
      rcases foldChar_cases d with ⟨hlow, hhigh, -⟩ | ⟨-, hfold⟩
      · exact absurd ⟨hlow, hhigh⟩ (hpartner.not_in_range (r := (0x41, 0x5A)) (by simp)).2
      · rw [hfold]
    · refine lowercaseChar_of_beyond (by omega) ?_ fun other hother => hpartner.not_contains hother
      rintro rfl
      exact (hpartner.not_in_range (r := (0x130, 0x130)) (by simp)).2 (by decide)
  · rw [hlower, List.mem_singleton] at h
    rw [h, hlower]

theorem lowercaseChar_sigma : lowercaseChar 'Σ' = ['σ'] := by decide +kernel

/-- Folding takes the character to lower case: it is no capital beyond `Z`. -/
def FoldsToLower (c : Char) : Prop := lowercaseChar c = [foldChar c]

instance (c : Char) : Decidable (FoldsToLower c) :=
  inferInstanceAs (Decidable (lowercaseChar c = [foldChar c]))

/-- A lower case that folding cannot tell from the character is what folding makes of it. -/
theorem foldsToLower_of_foldChar_eq (h : lowercaseChar c = [d]) (hfold : foldChar d = foldChar c) :
    FoldsToLower c := by
  by_cases hascii : c.toNat < 0x80
  · exact lowercaseChar_of_ascii hascii
  · have hsame : foldChar c = c := foldChar_of_beyond (by omega)
    rw [hsame] at hfold
    -- Folding leads to no character beyond ASCII but itself.
    rcases foldChar_cases d with ⟨-, hhigh, hd⟩ | ⟨-, hd⟩
    · rw [hfold] at hd
      omega
    · rw [FoldsToLower, h, hsame, ← hfold, hd]

/-! ### Texts -/

/-- Lower-casing makes these characters of the character, wherever it stands. -/
def LowersChar (c : Char) (part : List Char) : Prop :=
  part = lowercaseChar c ∨ c = 'Σ' ∧ part = ['ς']

/-- Each character of the first text is replaced by what lower-casing may make of it. -/
inductive Lowers : List Char → List Char → Prop
  | nil : Lowers [] []
  | cons {c : Char} {part cs ds : List Char} (hchar : LowersChar c part) (h : Lowers cs ds) :
    Lowers (c :: cs) (part ++ ds)

namespace LowersChar

theorem ne_nil (h : LowersChar c part) : part ≠ [] := by
  rcases h with rfl | ⟨-, rfl⟩
  · exact lowercaseChar_ne_nil c
  · simp

theorem length_eq (h : LowersChar c part) : part.length = (lowercaseChar c).length := by
  rcases h with rfl | ⟨rfl, rfl⟩
  · rfl
  · rw [lowercaseChar_sigma]
    rfl

theorem isBlank_eq (h : LowersChar c part) : ∀ d ∈ part, isBlank d = isBlank c := by
  rcases h with rfl | ⟨rfl, rfl⟩
  · exact fun d hd => isBlank_of_mem_lowercaseChar hd
  · rw [List.forall_mem_singleton]
    decide

theorem lowercaseChar_eq (h : LowersChar c part) : ∀ d ∈ part, lowercaseChar d = [d] := by
  rcases h with rfl | ⟨-, rfl⟩
  · exact fun d hd => lowercaseChar_of_mem_lowercaseChar hd
  · rw [List.forall_mem_singleton]
    decide +kernel

theorem eq_of_foldsToLower (h : LowersChar c part) (hc : FoldsToLower c) :
    part = [foldChar c] := by
  rcases h with rfl | ⟨rfl, -⟩
  · exact hc
  · exact absurd hc (by decide +kernel)

theorem foldsToLower (h : LowersChar c [d]) (hfold : foldChar d = foldChar c) :
    FoldsToLower c := by
  rcases h with hd | ⟨rfl, hd⟩
  · exact foldsToLower_of_foldChar_eq hd.symm hfold
  · cases hd
    exact absurd hfold (by decide)

end LowersChar

theorem lowers_lowercaseFrom (before cs : List Char) : Lowers cs (lowercaseFrom before cs) := by
  induction cs generalizing before with
  | nil => exact .nil
  | cons c cs ih =>
      rw [lowercaseFrom]
      refine .cons ?_ (ih (c :: before))
      split
      · rename_i hsigma
        obtain rfl := beq_iff_eq.1 hsigma
        split
        · exact .inr ⟨rfl, rfl⟩
        · exact .inl lowercaseChar_sigma.symm
      · exact .inl rfl

theorem lowers_lowercase (s : String) : Lowers s.toList (lowercase s).toList := by
  rw [lowercase, String.toList_ofList]
  exact lowers_lowercaseFrom [] s.toList

namespace Lowers

variable {xs ys front back : List Char}

theorem split (h : Lowers (xs ++ ys) ds) :
    ∃ front back, ds = front ++ back ∧ Lowers xs front ∧ Lowers ys back := by
  induction xs generalizing ds with
  | nil => exact ⟨[], ds, rfl, .nil, h⟩
  | cons x xs ih =>
      cases h with
      | cons hchar h =>
          obtain ⟨front, back, rfl, hfront, hback⟩ := ih h
          exact ⟨_, back, (List.append_assoc _ _ _).symm, .cons hchar hfront, hback⟩

theorem length_eq {ds' : List Char} (h : Lowers cs ds) (h' : Lowers cs ds') :
    ds.length = ds'.length := by
  induction h generalizing ds' with
  | nil =>
      cases h'
      rfl
  | cons hchar _ ih =>
      cases h' with
      | cons hchar' h' =>
          rw [List.length_append, List.length_append, hchar.length_eq, hchar'.length_eq, ih h']

theorem length_le (h : Lowers cs ds) : cs.length ≤ ds.length := by
  induction h with
  | nil => exact Nat.le_refl _
  | cons hchar _ ih =>
      have hpart := List.length_pos_iff.2 hchar.ne_nil
      rw [List.length_append, List.length_cons]
      omega

theorem ne_nil (h : Lowers cs ds) (hcs : cs ≠ []) : ds ≠ [] := by
  have hle := h.length_le
  have hpos := List.length_pos_iff.2 hcs
  exact List.length_pos_iff.1 (by omega)

theorem forall_isBlank (h : Lowers cs ds) (hcs : ∀ c ∈ cs, isBlank c) : ∀ d ∈ ds, isBlank d := by
  induction h with
  | nil => exact List.forall_mem_nil _
  | cons hchar _ ih =>
      obtain ⟨hc, hcs⟩ := List.forall_mem_cons.1 hcs
      refine List.forall_mem_append.2 ⟨fun d hd => ?_, ih hcs⟩
      rw [hchar.isBlank_eq d hd, hc]

theorem first_iff (h : Lowers cs ds) : (∀ d ∈ ds.head?, isBlank d = false) ↔
    ∀ c ∈ cs.head?, isBlank c = false := by
  cases h with
  | nil => exact Iff.rfl
  | @cons c part cs ds hchar _ =>
      obtain ⟨x, part, rfl⟩ := List.exists_cons_of_ne_nil hchar.ne_nil
      have hx : isBlank x = isBlank c := hchar.isBlank_eq x List.mem_cons_self
      simp [hx]

theorem isTrimmed (h : Lowers cs ds) (hcs : IsTrimmed cs) : IsTrimmed ds := by
  refine ⟨h.first_iff.2 hcs.first, fun d hd => ?_⟩
  rcases List.eq_nil_or_concat cs with rfl | ⟨front, c, rfl⟩
  · cases h
    cases hd
  · rw [List.concat_eq_append] at h hcs
    obtain ⟨front', back, rfl, -, hback⟩ := h.split
    cases hback with
    | @cons c part cs ds hchar hrest =>
        cases hrest
        rw [List.append_nil, List.getLast?_append_of_ne_nil _ hchar.ne_nil] at hd
        rw [hchar.isBlank_eq d (List.mem_of_getLast? hd)]
        exact hcs.last c (by simp)

/-- Trimming and lower-casing do not get into each other's way. -/
theorem trim (h : Lowers cs ds) : Lowers (trimChars cs) (trimChars ds) := by
  obtain ⟨before, behind, hcs, hblank⟩ := eq_between_trimChars cs
  rw [hcs] at h
  obtain ⟨front, back, rfl, hfront, hback⟩ := h.split
  obtain ⟨start, middle, rfl, hstart, hmiddle⟩ := hfront.split
  obtain ⟨hbefore, hbehind⟩ := List.forall_mem_append.1 hblank
  rw [trimChars_between (hstart.forall_isBlank hbefore) (hback.forall_isBlank hbehind)
    (hmiddle.isTrimmed (isTrimmed_trimChars cs))]
  exact hmiddle

/-- But for a capital sigma there is one lower case. -/
theorem unique {ds' : List Char} (h : Lowers cs ds) (h' : Lowers cs ds') (hsigma : 'Σ' ∉ cs) :
    ds = ds' := by
  induction h generalizing ds' with
  | nil =>
      cases h'
      rfl
  | cons hchar _ ih =>
      obtain ⟨hc, hcs⟩ := not_or.1 (List.mem_cons.not.1 hsigma)
      cases h' with
      | cons hchar' h' =>
          rw [hchar.resolve_right fun hfinal => hc hfinal.1.symm,
            hchar'.resolve_right fun hfinal => hc hfinal.1.symm, ih h' hcs]

theorem lowercaseChar_eq (h : Lowers cs ds) : ∀ d ∈ ds, lowercaseChar d = [d] := by
  induction h with
  | nil => exact List.forall_mem_nil _
  | cons hchar _ ih => exact List.forall_mem_append.2 ⟨hchar.lowercaseChar_eq, ih⟩

theorem eq_map_foldChar (h : Lowers cs ds) (hcs : ∀ c ∈ cs, FoldsToLower c) :
    ds = cs.map foldChar := by
  induction h with
  | nil => rfl
  | cons hchar _ ih =>
      obtain ⟨hc, hcs⟩ := List.forall_mem_cons.1 hcs
      rw [hchar.eq_of_foldsToLower hc, ih hcs]
      rfl

/-- A text and its lower case fold to one text exactly if folding takes it to lower case. -/
theorem map_foldChar_eq_iff (h : Lowers cs ds) :
    ds.map foldChar = cs.map foldChar ↔ ∀ c ∈ cs, FoldsToLower c := by
  constructor
  · intro hfold
    induction h with
    | nil => exact List.forall_mem_nil _
    | @cons c part cs ds hchar hrest ih =>
        obtain ⟨x, part, rfl⟩ := List.exists_cons_of_ne_nil hchar.ne_nil
        rw [List.cons_append, List.map_cons, List.map_cons, List.cons.injEq] at hfold
        obtain ⟨hx, hfold⟩ := hfold
        -- There is no room for a second character of the part.
        have hlength := congrArg List.length hfold
        have hle := hrest.length_le
        rw [List.length_map, List.length_map, List.length_append] at hlength
        obtain rfl : part = [] := List.length_eq_zero_iff.1 (by omega)
        exact List.forall_mem_cons.2 ⟨hchar.foldsToLower hx, ih hfold⟩
  · intro hcs
    rw [h.eq_map_foldChar hcs, List.map_map]
    exact List.map_congr_left fun c _ => foldChar_foldChar c

end Lowers

theorem lowercaseFrom_of_lowercaseChar_eq (h : ∀ c ∈ cs, lowercaseChar c = [c]) :
    lowercaseFrom before cs = cs := by
  induction cs generalizing before with
  | nil => rfl
  | cons c cs ih =>
      obtain ⟨hc, hcs⟩ := List.forall_mem_cons.1 h
      have hsigma : (c == 'Σ') = false := by
        rw [beq_eq_false_iff_ne]
        rintro rfl
        rw [lowercaseChar_sigma] at hc
        exact absurd hc (by decide)
      rw [lowercaseFrom, hsigma, if_neg Bool.false_ne_true, hc, ih hcs]
      rfl

theorem lowercase_lowercase (s : String) : lowercase (lowercase s) = lowercase s := by
  rw [lowercase, lowercaseFrom_of_lowercaseChar_eq (lowers_lowercase s).lowercaseChar_eq,
    String.ofList_toList]

theorem trim_lowercase_trim (s : String) :
    trim (lowercase (trim s)) = lowercase (trim s) := by
  have htrimmed : IsTrimmed (lowercase (trim s)).toList := by
    apply (lowers_lowercase (trim s)).isTrimmed
    rw [toList_trim]
    exact isTrimmed_trimChars _
  rw [trim, trimChars_of_isTrimmed htrimmed, String.ofList_toList]

theorem fold_eq_fold_iff {s t : String} :
    fold s = fold t ↔ s.toList.map foldChar = t.toList.map foldChar :=
  String.ofList_inj

/-- Folding takes the text to lower case: there is no capital in it beyond `Z`. -/
def FoldsWhole (s : String) : Prop := ∀ c ∈ s.toList, FoldsToLower c

instance (s : String) : Decidable (FoldsWhole s) := List.decidableBAll FoldsToLower s.toList

theorem fold_lowercase_eq_iff {s : String} : fold (lowercase s) = fold s ↔ FoldsWhole s := by
  rw [fold_eq_fold_iff, (lowers_lowercase s).map_foldChar_eq_iff, FoldsWhole]

theorem lowercase_eq_fold {s : String} (h : FoldsWhole s) : lowercase s = fold s := by
  rw [fold, ← (lowers_lowercase s).eq_map_foldChar h, String.ofList_toList]

theorem fold_fold (s : String) : fold (fold s) = fold s := by
  rw [fold_eq_fold_iff, fold, String.toList_ofList, List.map_map]
  exact List.map_congr_left fun c _ => foldChar_foldChar c

/-- Only a text that folds to its lower case has no capitals beyond ASCII. -/
theorem lowercase_eq_fold_iff {s : String} : lowercase s = fold s ↔ FoldsWhole s := by
  refine ⟨fun h => ?_, lowercase_eq_fold⟩
  rw [← fold_lowercase_eq_iff, h, fold_fold]

theorem lowercase_ne_empty {s : String} (h : s ≠ "") : lowercase s ≠ "" := by
  rw [ne_eq, ← String.toList_eq_nil_iff] at h ⊢
  exact (lowers_lowercase s).ne_nil h

/-! ### Folding before lower-casing -/

theorem lowercaseChar_foldChar (c : Char) : lowercaseChar (foldChar c) = lowercaseChar c := by
  rcases foldChar_cases c with ⟨-, hhigh, hfold⟩ | ⟨-, hfold⟩
  · rw [lowercaseChar_of_ascii (c := c) (by omega), lowercaseChar_of_ascii (by omega),
      foldChar_foldChar]
  · rw [hfold]

theorem inRanges_iff {ranges : List (Nat × Nat)} {n : Nat} :
    inRanges ranges n = true ↔ ∃ r ∈ ranges, r.1 ≤ n ∧ n ≤ r.2 := by
  simp [inRanges]

theorem apart_caseIgnorableRanges : ∀ r ∈ caseIgnorableRanges,
    r.2 < 0x41 ∨ 0x5A < r.1 ∧ r.2 < 0x61 ∨ 0x7A < r.1 := by decide +kernel

theorem isCased_foldChar (c : Char) : isCased (foldChar c) = isCased c := by
  rcases foldChar_cases c with ⟨hlow, hhigh, hfold⟩ | ⟨-, hfold⟩
  · have hcapital : isCased c = true :=
      inRanges_iff.2 ⟨(0x41, 0x5A), by decide, hlow, hhigh⟩
    have hsmall : isCased (foldChar c) = true := by
      refine inRanges_iff.2 ⟨(0x61, 0x7A), by decide, ?_⟩
      simp only
      omega
    rw [hcapital, hsmall]
  · rw [hfold]

theorem isCaseIgnorable_foldChar (c : Char) :
    isCaseIgnorable (foldChar c) = isCaseIgnorable c := by
  rcases foldChar_cases c with ⟨hlow, hhigh, hfold⟩ | ⟨-, hfold⟩
  · rw [Bool.eq_iff_iff, isCaseIgnorable, isCaseIgnorable, inRanges_iff, inRanges_iff]
    constructor <;>
    · rintro ⟨r, hr, hrange⟩
      have hapart := apart_caseIgnorableRanges r hr
      omega
  · rw [hfold]

theorem casedNext_map_foldChar (cs : List Char) : casedNext (cs.map foldChar) = casedNext cs := by
  have hsame : isCaseIgnorable ∘ foldChar = isCaseIgnorable := funext isCaseIgnorable_foldChar
  rw [casedNext, casedNext, List.dropWhile_map, hsame]
  cases cs.dropWhile isCaseIgnorable with
  | nil => rfl
  | cons c cs => exact isCased_foldChar c

theorem foldChar_beq_sigma (c : Char) : (foldChar c == 'Σ') = (c == 'Σ') := by
  have hfold : foldChar c = 'Σ' ↔ c = 'Σ' := by
    rcases foldChar_cases c with ⟨-, hhigh, hfold⟩ | ⟨-, hfold⟩
    · constructor
      · intro hsigma
        rw [hsigma] at hfold
        have hlarge : 'Σ'.toNat = 0x3A3 := rfl
        omega
      · rintro rfl
        exact absurd hhigh (by decide)
    · rw [hfold]
  rw [Bool.eq_iff_iff, beq_iff_eq, beq_iff_eq, hfold]

theorem lowercaseFrom_map_foldChar (before cs : List Char) :
    lowercaseFrom (before.map foldChar) (cs.map foldChar) = lowercaseFrom before cs := by
  induction cs generalizing before with
  | nil => rfl
  | cons c cs ih =>
      rw [List.map_cons, lowercaseFrom, lowercaseFrom, foldChar_beq_sigma, lowercaseChar_foldChar,
        casedNext_map_foldChar, casedNext_map_foldChar, ← List.map_cons, ih]

/-- Texts that fold to one text have one lower case. -/
theorem lowercase_eq_of_fold_eq {s t : String} (h : fold s = fold t) :
    lowercase s = lowercase t := by
  have hlower (s : String) : lowercase (fold s) = lowercase s := by
    rw [lowercase, fold, String.toList_ofList]
    exact congrArg String.ofList (lowercaseFrom_map_foldChar [] s.toList)
  rw [← hlower s, h, hlower]

end Recommendation.Text
