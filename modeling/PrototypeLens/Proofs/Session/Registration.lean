import PrototypeLens.Proofs.Session.Upkeep

/-!
# What a prototype request tells

The prototype of a name is the one that is kept, or else what the annotations on its declaration
give it in the registry of the request; what else the registration does has no part in the answer.

## Main results

- `Prototyped`: the three ways to come to a prototype.
- `prototypeOfUses_of_registerStep` and `prototyped_of_registerClass`: a registration tells what the
  annotations give.
- `prototyped_of_exec`: so every answer of a prototype request comes about in one of those ways.
- `Prototyped.resolves`: what that means in a registry with a property that lookups keep.
-/

namespace PrototypeLens

variable {scope : Scope} {r : Registry} {g : Guards} {name : String}
  {prototype : Option Descriptor} {s : Session}

namespace Lookup

/-- Where a prototype comes from. -/
inductive Prototyped (scope : Scope) (r : Registry) (name : String)
    (prototype : Option Descriptor) : Prop where
  | kept : r.classes.get? name = some prototype → Prototyped scope r name prototype
  /-- What is not declared has none. -/
  | undeclared : r.classes.get? name = none → scope.host.Finds name none → prototype = none →
      Prototyped scope r name prototype
  /-- The annotations on the declaration give it. -/
  | registered {decl : Declaration} {g : Guards} {s : Session} : r.classes.get? name = none →
      scope.host.Declares name decl → g.discovering = [] → g.defaulting = [] →
      (prototypeOfUses scope decl.annotations).exec ⟨r, g⟩ = (.ok prototype, s) →
      Prototyped scope r name prototype

/-- A registration tells what the annotations give. -/
theorem prototypeOfUses_of_registerStep {register : DeclId → Lookup (Option Descriptor)}
    {decl : Declaration}
    (h : (registerStep scope register name decl).exec ⟨r, g⟩ = (.ok prototype, s)) :
    ∃ s', (prototypeOfUses scope decl.annotations).exec ⟨r, g⟩ = (.ok prototype, s') := by
  rw [registerStep, SessionM.exec_bind_ok (exec_ask _), SessionM.exec_bind] at h
  rcases huses : (prototypeOfUses scope decl.annotations).exec ⟨r, g⟩ with ⟨out, s'⟩
  rw [huses] at h
  cases out with
  | error e => cases h
  | ok prototype' =>
    -- What is published and whether it is generated comes afterwards, and is not answered.
    obtain ⟨r', g'⟩ := s'
    dsimp only at h
    rw [SessionM.exec_bind_ok (exec_record _), SessionM.exec_bind] at h
    split at h
    · cases h
      exact ⟨_, rfl⟩
    · cases h

theorem prototyped_of_registerClass {id : DeclId} {decl : Declaration}
    (hhealthy : scope.host.Healthy) (hid : scope.host.declaration id = .ok decl)
    (hname : decl.qualifiedName = some name) (hcalm : g.Calm)
    (hclass : r.classes.get? name = none)
    (h : (registerClass scope id).exec ⟨r, g⟩ = (.ok prototype, s)) :
    Prototyped scope r name prototype := by
  rw [registerClass, registerWithin, SessionM.exec_bind_ok (exec_query_of_ok hid), hname] at h
  dsimp only at h
  rw [SessionM.exec_bind_ok (exec_ask _), hclass] at h
  dsimp only at h
  rw [SessionM.exec_bind_ok (exec_askGuards _), if_neg (by simp [hcalm.registering])] at h
  -- Two changes of the guards surround the registration.
  obtain ⟨s₁, h₁⟩ := SessionM.exec_of_exec_within h
  obtain ⟨s₂, h₂⟩ := SessionM.exec_of_exec_within h₁
  obtain ⟨s', hs'⟩ := prototypeOfUses_of_registerStep h₂
  refine .registered hclass (hhealthy.declares hid hname) ?_ ?_ hs'
  · exact hcalm.discovering
  · exact hcalm.defaulting

/-- Where the answer of a prototype request comes from. -/
theorem prototyped_of_exec (hhealthy : scope.host.Healthy) (hcalm : g.Calm)
    (h : (prototype? scope name).exec ⟨r, g⟩ = (.ok prototype, s)) :
    Prototyped scope r name prototype := by
  rw [prototype?, SessionM.exec_bind_ok (exec_ask _)] at h
  cases hclass : r.classes.get? name with
  | some kept =>
    -- What is kept is answered at once.
    rw [hclass] at h
    cases h
    exact .kept hclass
  | none =>
    rw [hclass] at h
    dsimp only at h
    obtain ⟨found, hfind⟩ := hhealthy.find_ok name
    rw [SessionM.exec_bind_ok (exec_query_of_ok hfind)] at h
    cases found with
    | none =>
      cases h
      obtain ⟨decl, hdecl⟩ := hhealthy.finds name
      cases decl with
      | none => exact .undeclared hclass hdecl rfl
      | some decl =>
        -- A name that is declared is found, which it was not.
        obtain ⟨id, hid, _⟩ := (Host.finds_some_iff.1 hdecl).declaration
        rw [hfind] at hid
        cases hid
    | some id =>
      obtain ⟨decl, hid, hname⟩ := hhealthy.found hfind
      exact prototyped_of_registerClass hhealthy hid hname hcalm hclass h

/-- What is answered in a registry that has a property that lookups keep: the prototype is kept, or
the name is not declared, or it is what the answers for the annotations come to. -/
theorem Prototyped.resolves {U : Upkeep scope} (h : Prototyped scope r name prototype)
    (hhealthy : scope.host.Healthy) (hsourced : scope.host.Sourced) (hr : U.Inv r) :
    r.classes.get? name = some prototype ∨ scope.host.Finds name none ∧ prototype = none ∨
      ∃ decl r', scope.host.Declares name decl ∧ U.Inv r' ∧
        scope.Resolves U.Passed (U.Taken r') decl.annotations prototype := by
  cases h with
  | kept hget => exact .inl hget
  | undeclared _ hfind hnone => exact .inr (.inl ⟨hfind, hnone⟩)
  | @registered decl g s' _ hdecl hidle hidle' huses =>
    -- The annotations are asked in a registry that has the property, and each answer keeps it.
    obtain ⟨out, r', hexec, hr', hresolves, _⟩ := Upkeep.yields_prototypeOfUses hhealthy hsourced
      hidle hidle' hdecl decl.annotations (List.Subset.refl _) r hr
    rw [huses] at hexec
    cases hexec
    exact .inr (.inr ⟨decl, r', hdecl, hr', hresolves prototype rfl⟩)

end Lookup

end PrototypeLens
