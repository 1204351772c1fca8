import Recommendation.Proofs.Engine.Failures
import Recommendation.Proofs.Evaluation.Marks

/-!
Whose data is read when a sample is judged. A store that notes its reads shows it: samples
are drawn from the namespace as the options spell it, but the lists that they are judged
by are asked for in the namespace, and for the user, without blanks at the ends. So what
is judged is what has been sampled if there are no such blanks. With blanks in the
namespace, another tenant's data is read, or none.
-/

namespace Recommendation

variable {β : Type}

/-! ### Stores that note their reads -/

/-- What a read is confined to: a scope, and a user if it is about one. -/
structure Call where
  scope : Scope
  user : Option String
deriving DecidableEq

structure Call.Within (call : Call) (scope : Scope) (user : Option String) : Prop where
  scope : call.scope = scope
  user : ∀ u, call.user = some u → user = some u

def Read.noted (call : Call) (read : Read (List Call) β) : Read (List Call) β := do
  modify fun w => { w with backend := w.backend ++ [call] }
  read

def Store.noting (store : Store (List Call)) : Store (List Call) where
  eventTypes ctx scope := (store.eventTypes ctx scope).noted ⟨scope, none⟩
  topPopular ctx scope q := (store.topPopular ctx scope q).noted ⟨scope, none⟩
  coVisitors ctx scope seed since limit :=
    (store.coVisitors ctx scope seed since limit).noted ⟨scope, none⟩
  recentItems ctx scope user since limit types :=
    (store.recentItems ctx scope user since limit types).noted ⟨scope, some user⟩
  tagProfile ctx scope user since types :=
    (store.tagProfile ctx scope user since types).noted ⟨scope, some user⟩
  itemsByIds ctx scope ids := (store.itemsByIds ctx scope ids).noted ⟨scope, none⟩
  itemsWithAnyTag ctx scope tags limit :=
    (store.itemsWithAnyTag ctx scope tags limit).noted ⟨scope, none⟩
  rulesFor ctx scope surface := (store.rulesFor ctx scope surface).noted ⟨scope, none⟩
  recentEventItems ctx scope user kinds since :=
    (store.recentEventItems ctx scope user kinds since).noted ⟨scope, some user⟩
  holdoutSamples ctx scope since minEvents limit :=
    (store.holdoutSamples ctx scope since minEvents limit).noted ⟨scope, none⟩

def callsOf (m : Timed (List Call) β) (clock : Nat) : List Call := (m ⟨clock, []⟩).2.backend

theorem run_noted (call : Call) (read : Read (List Call) β) (w : World (List Call)) :
    (read.noted call).run w = read.run { w with backend := w.backend ++ [call] } := rfl

/-! ### What a request reads -/

def Region.notes (p : List Call → Prop) : Region (List Call) := ⟨fun _ => True, p⟩

variable {p : List Call → Prop} {tenants : Tenants} {ctx : Context} {scope : Scope}
  {user : Option String}

theorem stays_noted_answer {call : Call} (hp : ∀ calls, p calls → p (calls ++ [call]))
    (f : Snapshot → β) : Stays (.notes p) (fun _ => True)
      ((Store.answer tenants ctx scope f : Read (List Call) β).noted call) := by
  refine ⟨fun w hw => ?_, fun _ _ _ _ => trivial⟩
  rw [run_noted, Store.run_answer]
  exact ⟨trivial, hp _ hw.backend⟩

/-- What notes have and reads within the scope leave them, a request leaves them. -/
theorem staysFor_noting (hp : ∀ calls call, p calls → call.Within scope user → p (calls ++ [call])) :
    (Store.noting (.memory tenants)).StaysFor (.notes p) (fun _ => True) ctx scope user := by
  have hnone : ∀ calls, p calls → p (calls ++ [⟨scope, none⟩]) :=
    fun calls h => hp calls _ h ⟨rfl, nofun⟩
  have hsome (u : String) (hu : user = some u) :
      ∀ calls, p calls → p (calls ++ [⟨scope, some u⟩]) :=
    fun calls h => hp calls _ h ⟨rfl, fun _ h => h ▸ hu⟩
  exact
    { eventTypes := stays_noted_answer hnone (·.types)
      topPopular := fun q => stays_noted_answer hnone (·.topPopular q ctx.now)
      coVisitors := fun seed since limit =>
        stays_noted_answer hnone (·.coVisitors seed since ctx.now limit)
      recentItems := fun u since limit types hu =>
        stays_noted_answer (hsome u hu) (·.recentItems u since ctx.now limit types)
      tagProfile := fun u since types hu =>
        stays_noted_answer (hsome u hu) (·.tagProfile u since ctx.now types)
      itemsByIds := fun ids => stays_noted_answer hnone (·.itemsByIds ids)
      itemsWithAnyTag := fun tags limit =>
        stays_noted_answer hnone (·.itemsWithAnyTag tags limit)
      rulesFor := fun surface =>
        stays_noted_answer hnone (·.rulesFor scope.space surface ctx.now)
      recentEventItems := fun u kinds since hu =>
        stays_noted_answer (hsome u hu) (·.recentEventItems u kinds since ctx.now)
      stop := fun _ _ _ _ _ => trivial
      canceled := fun _ _ _ => trivial
      stray := fun _ _ _ _ _ _ _ _ _ _ => trivial }

theorem forall_within_append {calls : List Call} {call : Call}
    (hcalls : ∀ x ∈ calls, x.Within scope user) (hcall : call.Within scope user) :
    ∀ x ∈ calls ++ [call], x.Within scope user :=
  List.forall_mem_append.2 ⟨hcalls, List.forall_mem_singleton.2 hcall⟩

namespace Evaluation

variable {settings : Settings} {options : EvaluationOptions} {c : BlendCandidate}
  {sample : HoldoutSample} {clock : Nat}

def notingEngine (settings : Settings) (tenants : Tenants) : Engine (List Call) :=
  ⟨settings, .noting (.memory tenants)⟩

def judgingCalls (settings : Settings) (tenants : Tenants) (ctx : Context)
    (options : EvaluationOptions) (c : BlendCandidate) (sample : HoldoutSample) (clock : Nat) :
    List Call :=
  callsOf (judgeSample (engineRecommender (notingEngine settings tenants)) ctx options c sample).run
    clock

theorem snd_engineRecommender {σ : Type} (e : Engine σ) (ctx : Context)
    (r : RecommendRequest Float) (w : World σ) :
    (engineRecommender e ctx r w).2 = (e.recommend ctx r w).2 := by
  rw [engineRecommender]
  generalize e.recommend ctx r = m
  rfl

theorem judgingCalls_eq (settings : Settings) (tenants : Tenants) (ctx : Context)
    (options : EvaluationOptions) (c : BlendCandidate) (sample : HoldoutSample) (clock : Nat) :
    judgingCalls settings tenants ctx options c sample clock =
      if ctx.isCanceledBy clock then []
      else callsOf ((notingEngine settings tenants).recommend ctx (requestFor options c sample))
        clock := by
  rw [judgingCalls, callsOf, run_judgeSample, snd_engineRecommender]
  split <;> rfl

/-- Nothing is read but in the scope and about the user without blanks at the ends. -/
theorem within_of_mem_judgingCalls {call : Call}
    (h : call ∈ judgingCalls settings tenants ctx options c sample clock) :
    call.Within ⟨ctx.org, Text.trim options.space⟩ (some (Text.trim sample.userId)) := by
  rw [judgingCalls_eq] at h
  split at h
  · cases h
  · have hreads : (notingEngine settings tenants).store.StaysFor
        (.notes fun calls => ∀ x ∈ calls, Call.Within x ⟨ctx.org, Text.trim options.space⟩
          (some (Text.trim sample.userId)))
        (fun _ => True) (Engine.contextOf ctx (some sample.time))
        ⟨ctx.org, Text.trim options.space⟩ (some (Text.trim sample.userId)) :=
      staysFor_noting fun _ _ => forall_within_append
    have hsteps := Engine.stays_recommendSteps (r := requestFor options c sample) hreads
      fun _ _ => trivial
    have hends := Engine.recommend_stays (w := ⟨clock, []⟩) hsteps
      ⟨trivial, List.forall_mem_nil _⟩
    exact hends.1.backend call h

theorem mem_judgingCalls {checked : Engine.Checked Float}
    (hcheck : (notingEngine settings tenants).check (requestFor options c sample) = .ok checked)
    (hwanted : ctx.isCanceledBy clock = false) :
    ⟨⟨ctx.org, Text.trim options.space⟩, none⟩ ∈
      judgingCalls settings tenants ctx options c sample clock := by
  obtain ⟨-, -, -, -, -, hchecked⟩ := Engine.check_eq_ok_iff.1 hcheck
  have hspace : checked.space = Text.trim options.space := by
    rw [hchecked]
    rfl
  have htypes := Store.run_answer tenants (Engine.contextOf ctx (some sample.time))
    ⟨ctx.org, checked.space⟩ (·.types) (⟨clock, [⟨⟨ctx.org, checked.space⟩, none⟩]⟩ : World (List Call))
  rw [Engine.isCanceledBy_contextOf, hwanted] at htypes
  have hreads : (notingEngine settings tenants).store.StaysFor
      (.notes fun calls => ⟨⟨ctx.org, checked.space⟩, none⟩ ∈ calls) (fun _ => True)
      (Engine.contextOf ctx (some sample.time)) ⟨ctx.org, checked.space⟩ (some checked.user) :=
    staysFor_noting fun _ _ hmem _ => List.mem_append_left _ hmem
  -- Notes are never taken back, so the first one is there at the end.
  have hends := Engine.recommend_stays_from_types (w := ⟨clock, []⟩) hcheck htypes hreads
    ⟨trivial, List.mem_singleton_self _⟩
  rw [judgingCalls_eq, hwanted, ← hspace]
  exact hends.backend

/-- Samples are drawn from the namespace as the options spell it, and judged by reads in the
namespace and about the user without blanks at the ends. So, if the request passes its
check and is still wanted, the reads are in the scope that the sample has been drawn from
exactly if the namespace has no blanks at its ends. -/
theorem judged_by_trimmed_reads (settings : Settings) (tenants : Tenants) (ctx : Context)
    (options : EvaluationOptions) (c : BlendCandidate) (sample : HoldoutSample) (clock : Nat) :
    callsOf (samples (.noting (.memory tenants)) ctx options).run clock =
        [⟨⟨ctx.org, options.space⟩, none⟩] ∧
      (∀ call ∈ judgingCalls settings tenants ctx options c sample clock,
        call.Within ⟨ctx.org, Text.trim options.space⟩ (some (Text.trim sample.userId))) ∧
      ∀ checked, (notingEngine settings tenants).check (requestFor options c sample) =
          .ok checked → ctx.isCanceledBy clock = false →
        ((∀ call ∈ judgingCalls settings tenants ctx options c sample clock,
            call.scope = ⟨ctx.org, options.space⟩) ↔ Text.trim options.space = options.space) := by
  refine ⟨?_, fun call => within_of_mem_judgingCalls, fun checked hcheck hwanted => ⟨?_, ?_⟩⟩
  · rw [callsOf, samples, run_step]
    have hanswer := Store.run_answer tenants ctx ⟨ctx.org, options.space⟩
      (·.holdoutSamples (ctx.now.minusDays options.lookback) ctx.now options.minEvents options.limit)
      (⟨clock, [⟨⟨ctx.org, options.space⟩, none⟩]⟩ : World (List Call))
    exact congrArg (·.2.backend) hanswer
  · intro hscopes
    exact congrArg (·.space) (hscopes _ (mem_judgingCalls hcheck hwanted))
  · intro htrimmed call hcall
    rw [(within_of_mem_judgingCalls hcall).scope, htrimmed]

/-- A shop whose name begins with a blank. Ann has bought a boot and then a clog, as others
have. -/
def blankShop : Snapshot :=
  { items := [{ id := "boot" }, { id := "clog" }]
    events :=
      [{ userId := "bob", itemId := "clog", kind := 3, time := ⟨1000, 0⟩ },
       { userId := "ann", itemId := "boot", kind := 0, time := ⟨2000, 0⟩ },
       { userId := "ann", itemId := "clog", kind := 0, time := ⟨3000, 0⟩ }] }

def blankShops : Tenants := [(⟨.none, " shop"⟩, blankShop)]

def blankContext : Context := { org := .none, now := ⟨4000, 0⟩ }

def blankOptions : EvaluationOptions := { space := " shop", k := 2, minEvents := 2 }

def popularBlend : BlendCandidate := ⟨"popularity", ⟨1.0, 0.0, 0.0⟩⟩

theorem check_blankOptions (sample : HoldoutSample) (h : Text.trim sample.userId ≠ "") :
    ∃ checked, (notingEngine {} blankShops).check (requestFor blankOptions popularBlend sample) =
      .ok checked := by
  have hspace : Text.trim " shop" ≠ "" := by decide +kernel
  have hlength : (0 : Int) < 2 ∧ (2 : Int) ≤ 100 := by decide
  have hvalid : popularBlend.weights.validate = .ok () := by decide +kernel
  refine ⟨⟨Text.trim sample.userId, Text.trim " shop", 2, popularBlend.weights⟩, ?_⟩
  exact Engine.check_eq_ok_iff.2 ⟨h, hspace, hlength, rfl,
    congrArg (Except.map fun _ => popularBlend.weights) hvalid, rfl⟩

theorem trim_blankOptions : Text.trim blankOptions.space ≠ blankOptions.space := by decide +kernel

theorem judged_by_trimmed_reads_blankShops :
    ¬∀ call ∈ judgingCalls {} blankShops blankContext blankOptions popularBlend
        ⟨"ann", "clog", ⟨3000, 0⟩, 2⟩ 0, call.scope = ⟨blankContext.org, blankOptions.space⟩ := by
  obtain ⟨checked, hcheck⟩ :=
    check_blankOptions ⟨"ann", "clog", ⟨3000, 0⟩, 2⟩ (by decide +kernel)
  obtain ⟨-, -, hiff⟩ := judged_by_trimmed_reads {} blankShops blankContext blankOptions popularBlend
    ⟨"ann", "clog", ⟨3000, 0⟩, 2⟩ 0
  rw [hiff checked hcheck rfl]
  exact trim_blankOptions

/-- Ann has been sampled from the shop, and is judged by reads of another one. -/
theorem blankShops_not_judged_as_sampled :
    ¬∀ (drawn : List HoldoutSample) (w' : World (List Call)),
        Returns (samples (.noting (.memory blankShops)) blankContext blankOptions) ⟨0, []⟩ drawn w' →
          ∀ sample ∈ drawn, ∀ call ∈ judgingCalls {} blankShops blankContext blankOptions
              popularBlend sample 0,
            call.Within ⟨blankContext.org, blankOptions.space⟩ (some sample.userId) := by
  intro hclaim
  have hdrawn : Returns (samples (.noting (.memory blankShops)) blankContext blankOptions) ⟨0, []⟩
      (blankShop.holdoutSamples (blankContext.now.minusDays 30.0) blankContext.now 2 200)
      ⟨0, [⟨⟨.none, " shop"⟩, none⟩]⟩ := rfl
  have husers : (blankShop.holdoutSamples (blankContext.now.minusDays 30.0) blankContext.now 2
      200).map (·.userId) = ["ann"] := by decide +kernel
  obtain ⟨sample, hsample, huser⟩ := List.mem_map.1 (husers ▸ List.mem_singleton_self "ann")
  have hname : Text.trim sample.userId ≠ "" := by
    rw [huser]
    decide +kernel
  obtain ⟨checked, hcheck⟩ := check_blankOptions sample hname
  have hcall := hclaim _ _ hdrawn sample hsample _ (mem_judgingCalls hcheck rfl)
  exact trim_blankOptions (congrArg (·.space) hcall.scope)

end Evaluation

end Recommendation
