import TuningTasks.Target.Resolution

/-!
What a canonical pair is. Its host is the one inside its target, which is the given target but for that
host, and the pair stays as it is when it is resolved again. Only an explicit host is turned away for a
host of its own: one inside the target passes at any depth, and then its own pair is refused once it is
resolved with the host of the pair (`TargetPair.canonical_pair`).
-/
namespace TuningTasks

namespace Target

theorem host_ofSpec (spec : TargetSpec) (host : Option Target) : (ofSpec spec host).host = host := by
  cases host <;> rfl

theorem spec_ofSpec (spec : TargetSpec) (host : Option Target) : (ofSpec spec host).spec = spec := by
  cases host <;> rfl

theorem ofSpec_host (target : Target) : ofSpec target.spec target.host = target := by
  cases target <;> rfl

def Flat (target : Target) : Prop := ∀ host ∈ target.host, host.host = none

end Target

namespace TargetPair

variable {target : Target} {host : Option Target} {pair : TargetPair}

def nestedHost (target : Target) : Failure where
  kind := .targetResolution
  message := "host target for '" ++ target.display ++ "' must not carry its own host"

/-- The pair resolved once more, with its host as an explicit one or without. -/
def again (pair : TargetPair) (explicit : Bool) : Except Failure TargetPair :=
  canonical pair.target (if explicit then pair.host else none)

theorem canonical_none (target : Target) : canonical target none = .ok ⟨target, target.host⟩ := rfl

theorem canonical_flat {host : Target} (flat : host.host = none) (target : Target) :
    canonical target (some host) = .ok ⟨.ofSpec target.spec (some host), some host⟩ := by
  rw [canonical, flat]
  rfl

theorem canonical_nested {host inner : Target} (nested : host.host = some inner) (target : Target) :
    canonical target (some host) = .error (nestedHost target) := by
  rw [canonical, nested]
  rfl

/-- The pairs that come out: the host is the explicit one, or the one that was there. -/
theorem canonical_ok_iff : canonical target host = .ok pair ↔
    (∀ given ∈ host, given.host = none) ∧
      pair = ⟨.ofSpec target.spec (host.or target.host), host.or target.host⟩ := by
  cases host with
  | none =>
      rw [canonical_none, Option.none_or, Target.ofSpec_host, Except.ok.injEq]
      constructor
      · intro same
        exact ⟨nofun, same.symm⟩
      · exact fun parts => parts.2.symm
  | some given =>
      cases own : given.host with
      | none =>
          rw [canonical_flat own, Option.some_or, Except.ok.injEq]
          constructor
          · rintro rfl
            exact ⟨fun _ member => Option.some.inj member ▸ own, rfl⟩
          · exact fun parts => parts.2.symm
      | some inner =>
          rw [canonical_nested own]
          constructor
          · nofun
          · rintro ⟨flat, -⟩
            have turned_away := flat given rfl
            rw [own] at turned_away
            cases turned_away

/-! ### Resolving a pair again -/

def Settled (pair : TargetPair) : Prop := pair.target.host = pair.host

theorem canonical_settled (resolved : canonical target host = .ok pair) : pair.Settled := by
  obtain ⟨-, rfl⟩ := canonical_ok_iff.mp resolved
  exact Target.host_ofSpec ..

theorem Settled.again_alone (settled : pair.Settled) : pair.again false = .ok pair := by
  have told : pair.again false = .ok ⟨pair.target, pair.target.host⟩ := rfl
  rw [told, settled]

theorem Settled.again_flat (settled : pair.Settled) (flat : pair.target.Flat) :
    pair.again true = .ok pair := by
  have host : pair.target.host = pair.host := settled
  have back : Target.ofSpec pair.target.spec pair.host = pair.target := by
    rw [← host, Target.ofSpec_host]
  apply canonical_ok_iff.mpr
  constructor
  · rwa [if_pos rfl, ← host]
  · rw [if_pos rfl, host, Option.or_self, back]

theorem Settled.again_nested (settled : pair.Settled) (nested : ¬ pair.target.Flat) :
    pair.again true = .error (nestedHost pair.target) := by
  have host : pair.target.host = pair.host := settled
  simp only [Target.Flat, Classical.not_forall] at nested
  obtain ⟨given, inside, own⟩ := nested
  obtain ⟨inner, own⟩ := Option.ne_none_iff_exists'.mp own
  have explicit : pair.host = some given := host.symm.trans inside
  rw [again, if_pos rfl, explicit]
  exact canonical_nested own pair.target

theorem Settled.again_all (settled : pair.Settled) (styles : List Bool) :
    styles.foldlM again pair = .ok pair ↔ (true ∈ styles → pair.target.Flat) := by
  induction styles with
  | nil => simp [pure, Except.pure]
  | cons explicit rest ih =>
      cases explicit with
      | false =>
          rw [List.foldlM_cons, settled.again_alone]
          simpa [bind, Except.bind] using ih
      | true =>
          by_cases flat : pair.target.Flat
          · rw [List.foldlM_cons, settled.again_flat flat]
            simpa [bind, Except.bind, flat] using ih
          · rw [List.foldlM_cons, settled.again_nested flat]
            simp [bind, Except.bind, flat]

/-- The pair differs from the given target in the host alone, and is what comes out of itself in either
way. Where the host carries a host, which only one inside the given target can, the pair is refused as
soon as its host is given with it. -/
theorem canonical_pair (resolved : canonical target host = .ok pair) :
    pair.host = pair.target.host ∧ pair.target = .ofSpec target.spec (host.or target.host) ∧
      (pair.target.Flat ↔ (host = none → target.Flat)) ∧
      (∀ styles : List Bool, styles.foldlM again pair = .ok pair ↔
        (true ∈ styles → pair.target.Flat)) ∧
      (¬ pair.target.Flat → pair.again true = .error (nestedHost target)) := by
  have settled := canonical_settled resolved
  obtain ⟨given, same⟩ := canonical_ok_iff.mp resolved
  have merged : pair.target = .ofSpec target.spec (host.or target.host) := by rw [same]
  refine ⟨settled.symm, merged, ?_, settled.again_all, ?_⟩
  · rw [merged, Target.Flat, Target.host_ofSpec]
    cases host with
    | none => simp [Target.Flat]
    | some explicit => simpa using given explicit rfl
  · intro nested
    have named : nestedHost pair.target = nestedHost target := by
      rw [nestedHost, nestedHost, Target.display, Target.display, merged, Target.spec_ofSpec]
    rw [settled.again_nested nested, named]

theorem canonical_pair_replaced :
    let nested : Target := .hosted (Target.ofKind "cuda").spec
      (.hosted (Target.ofKind "llvm").spec (.ofKind "c"))
    let pair : TargetPair :=
      ⟨.hosted (Target.ofKind "cuda").spec (.ofKind "llvm"), some (.ofKind "llvm")⟩
    canonical nested (some (.ofKind "llvm")) = .ok pair ∧
      [true, false, true].foldlM again pair = .ok pair := by
  intro nested pair
  have resolved : canonical nested (some (.ofKind "llvm")) = .ok pair := rfl
  have parts := canonical_pair resolved
  have flat : pair.target.Flat := parts.2.2.1.mpr nofun
  exact ⟨resolved, (parts.2.2.2.1 _).mpr fun _ => flat⟩

/-- A host inside the target passes with a host of its own, and its pair is refused. -/
theorem nested_host_passes :
    let nested : Target := .hosted (Target.ofKind "cuda").spec
      (.hosted (Target.ofKind "llvm").spec (.ofKind "c"))
    ∃ pair, canonical nested none = .ok pair ∧
      pair.host.bind Target.host = some (.ofKind "c") ∧
      canonical pair.target pair.host = .error
        { kind := .targetResolution
          message := "host target for 'cuda' must not carry its own host" } :=
  ⟨_, rfl, rfl, rfl⟩

end TargetPair

end TuningTasks
