/-!
The kinds of events that a tenant distinguishes, by code: how much an event of the kind weighs, and
whether it counts as a conversion. A tenant's own rows replace the defaults with the same code.
-/

namespace Recommendation

structure EventType where
  name : String
  weight : Float
  isConversion : Bool

/-- The kinds of events of one tenant, in ascending order of code, each code once. -/
structure EventTypes where
  entries : List (Int × EventType)
  sorted : entries.Pairwise (fun a b => a.1 < b.1)

namespace EventTypes

def empty : EventTypes := ⟨[], List.Pairwise.nil⟩

def insertList (code : Int) (type : EventType) : List (Int × EventType) → List (Int × EventType)
  | [] => [(code, type)]
  | e :: rest =>
    if code < e.1 then (code, type) :: e :: rest
    else if code = e.1 then (code, type) :: rest
    else e :: insertList code type rest

theorem fst_mem_insertList {code : Int} {type : EventType} {l : List (Int × EventType)}
    {e : Int × EventType} (h : e ∈ insertList code type l) : e.1 = code ∨ e ∈ l := by
  induction l with
  | nil => simp [insertList] at h; exact .inl (by rw [h])
  | cons e₀ rest ih =>
    simp only [insertList] at h
    split at h
    · rcases List.mem_cons.1 h with h | h
      · exact .inl (by rw [h])
      · exact .inr h
    · split at h
      · rcases List.mem_cons.1 h with h | h
        · exact .inl (by rw [h])
        · exact .inr (List.mem_cons_of_mem _ h)
      · rcases List.mem_cons.1 h with h | h
        · exact .inr (by rw [h]; exact List.mem_cons_self)
        · exact (ih h).imp_right (List.mem_cons_of_mem _)

theorem sorted_insertList (code : Int) (type : EventType) {l : List (Int × EventType)}
    (h : l.Pairwise (fun a b => a.1 < b.1)) :
    (insertList code type l).Pairwise (fun a b => a.1 < b.1) := by
  induction l with
  | nil => simp [insertList]
  | cons e₀ rest ih =>
    rw [List.pairwise_cons] at h
    simp only [insertList]
    split
    · rename_i hlt
      refine List.pairwise_cons.2 ⟨fun e he => ?_, List.pairwise_cons.2 h⟩
      rcases List.mem_cons.1 he with rfl | he
      · exact hlt
      · exact Int.lt_trans hlt (h.1 e he)
    · split
      · rename_i heq
        exact List.pairwise_cons.2 ⟨fun e he => heq ▸ h.1 e he, h.2⟩
      · refine List.pairwise_cons.2 ⟨fun e he => ?_, ih h.2⟩
        rcases fst_mem_insertList he with he | he
        · omega
        · exact h.1 e he

theorem find?_insertList {code code' : Int} {type : EventType} (l : List (Int × EventType)) :
    ((insertList code type l).find? fun e => e.1 == code').map (·.2) =
      if code' = code then some type else (l.find? fun e => e.1 == code').map (·.2) := by
  induction l with
  | nil =>
    by_cases hc : code' = code
    · simp [insertList, hc]
    · simp [insertList, hc, Ne.symm hc]
  | cons e rest ih =>
    simp only [insertList]
    split
    · by_cases hc : code' = code
      · simp [hc]
      · rw [List.find?_cons_of_neg (by simpa using Ne.symm hc), if_neg hc]
    · split
      · rename_i heq
        by_cases hc : code' = code
        · simp [hc]
        · simp [hc, Ne.symm hc, ← heq]
      · rename_i hne
        by_cases hc : code' = e.1
        · simp [← hc, hc ▸ Ne.symm hne]
        · simp [Ne.symm hc, ih]

def insert (types : EventTypes) (code : Int) (type : EventType) : EventTypes :=
  ⟨insertList code type types.entries, sorted_insertList code type types.sorted⟩

def get? (types : EventTypes) (code : Int) : Option EventType :=
  (types.entries.find? fun e => e.1 == code).map (·.2)

theorem get?_insert (types : EventTypes) (code code' : Int) (type : EventType) :
    (types.insert code type).get? code' =
      if code' = code then some type else types.get? code' :=
  find?_insertList types.entries

def weight (types : EventTypes) (code : Int) : Float :=
  match types.get? code with
  | some type => type.weight
  | none => 0.0

def isConversion (types : EventTypes) (code : Int) : Bool :=
  match types.get? code with
  | some type => type.isConversion
  | none => false

def codes (types : EventTypes) : List Int := types.entries.map (·.1)

def weights (types : EventTypes) : List Float := types.entries.map (·.2.weight)

def size (types : EventTypes) : Nat := types.entries.length

def defaults : EventTypes :=
  [(0, ⟨"view", 0.1, false⟩), (1, ⟨"click", 0.3, false⟩), (2, ⟨"add", 0.7, true⟩),
    (3, ⟨"purchase", 1.0, true⟩), (4, ⟨"custom", 0.2, false⟩)].foldl
    (fun types e => types.insert e.1 e.2) empty

/-- The defaults with a tenant's rows over them; of two rows with one code the later counts. -/
def overDefaults (rows : List (Int × EventType)) : EventTypes :=
  rows.foldl (fun types e => types.insert e.1 e.2) defaults

end EventTypes

end Recommendation
