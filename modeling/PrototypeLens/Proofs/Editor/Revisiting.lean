import PrototypeLens.Proofs.Cancellation.EntryPoints
import PrototypeLens.Proofs.Editor.Targets

/-!
# Elements that are listed twice

Every search through a type lists what it finds once, but some requests put two of them in a row:
that through a generated type and that through its modifier, and that for a prototype and that for
what is generated from it. An element that both come to is listed twice.

## Layers

- `Revisits`: the two ways to come to something twice, one for declarations and one for methods.
- `Revisits.exec_targets`: such a search does list something twice.
- `revisits_of_declarationTargets` and `revisits_of_methodTargets`: no other one does.

## Main results

- On a host that answers, a search lists nothing twice exactly if it does not revisit anything.
- A type that is its own modifier, and one that is its own prototype.
-/

namespace PrototypeLens

namespace Editor

/-- The search for usages of an element comes to something twice. -/
inductive Revisits (scope : Scope) (editor : Editor) : Element → Prop
  /-- A generated declaration, where the type of its generated name comes from itself. -/
  | declaration {id generated : DeclId} {decl : Declaration} {name generatedName : String}
      {s s' s'' : Session} :
      scope.host.declaration id = .ok decl → decl.qualifiedName = some name →
      (Request.generatedNameOf scope name).exec ⟨editor.registry, {}⟩ = (.ok generatedName, s) →
      scope.host.find generatedName = .ok (some generated) →
      (Request.isGeneratedDecl scope id).exec s = (.ok true, s') →
      (Request.prototypeClass scope generatedName).exec s' = (.ok (some generated), s'') →
      Revisits scope editor (.declaration id)
  /-- A method of a prototype, where the generated type and its modifier have one of its name in
  common. -/
  | method {id generated modifier : DeclId} {index : Nat} {decl : Declaration} {method : Method}
      {m : PlacedMethod} :
      scope.host.declaration id = .ok decl → decl.methods[index]? = some method →
      editor.Generates scope id generated → scope.host.Modifies modifier generated →
      m.Stands scope.host → m.method.name = method.name →
      scope.host.Inherits generated m.owner → scope.host.Inherits modifier m.owner →
      Revisits scope editor (.method id index)

variable {scope : Scope} {editor : Editor} {element : Element} {id : DeclId} {index : Nat}
  {targets : List Element} {s : Session}

/-- What is revisited is found, and listed twice. -/
theorem Revisits.exec_targets (h : scope.host.Findable)
    (hrevisits : editor.Revisits scope element) :
    ∃ targets s, (Inspection.targets scope element).exec ⟨editor.registry, {}⟩ = (.ok targets, s) ∧
      ¬ targets.Nodup := by
  cases hrevisits with
  | @declaration id generated decl name generatedName s s' s'' hdecl hname hgenerated hfind hmarked
      hprototype =>
    -- The type of the generated name stands in for both halves of the answer.
    refine ⟨[.declaration generated, .declaration generated], s'', ?_, by simp⟩
    rw [Inspection.targets, Inspection.declarationTargets,
      SessionM.exec_bind_ok (Inspection.exec_query_ok hdecl), hname]
    simp only
    rw [SessionM.exec_bind_ok (Inspection.exec_ask_ok hgenerated),
      SessionM.exec_bind_ok (Inspection.exec_ask_ok (Inspection.exec_findDeclaration hfind))]
    simp only
    rw [SessionM.exec_bind_ok (Inspection.exec_ask_ok hmarked)]
    simp only [if_true]
    rw [SessionM.exec_bind_ok (Inspection.exec_ask_ok hprototype)]
    rfl
  | @method id generated modifier index decl method m hdecl hmethod hgenerates hmodifies hstands
      hname hinherits hinherits' =>
    obtain ⟨accessors, setters, s, hexec, haccessors, hsetters⟩ :=
      hgenerates.exec_targets h hdecl hmethod
    -- The accessors and the setters have the method in common.
    refine ⟨_, s, hexec, fun hnodup => (haccessors.nodup_append_iff hsetters).1 hnodup ?_⟩
    exact ⟨m, hstands, ⟨hinherits, Inspection.comesFrom_of_name hname⟩,
      ⟨modifier, hmodifies, hinherits'⟩, hname⟩

theorem Revisits.exists_not_nodup (hrevisits : editor.Revisits scope element)
    (h : scope.host.Findable) (hused : editor.UsesGenerator scope.host) :
    ∃ targets editor', primaryElements scope element editor = (.ok targets, editor') ∧
      ¬ targets.Nodup := by
  obtain ⟨targets, s, hexec, hdup⟩ := hrevisits.exec_targets h
  obtain ⟨editor', hprimary⟩ := primaryElements_of_targets scope hused hexec
  exact ⟨targets, editor', hprimary, hdup⟩

/-- A declaration that the search for another one lists twice comes from itself. -/
theorem revisits_of_declarationTargets (h : scope.host.Findable)
    (hexec : (Inspection.declarationTargets scope id).exec ⟨editor.registry, {}⟩ = (.ok targets, s))
    (hdup : ¬ targets.Nodup) : editor.Revisits scope (.declaration id) := by
  obtain ⟨decl, s₁, hquery, hexec⟩ := SessionM.exec_bind_eq_ok hexec
  obtain ⟨hdecl, rfl⟩ := Inspection.exec_query_eq_ok hquery
  -- Only the last case gives two targets; the others end with none or one.
  cases hname : decl.qualifiedName with
  | none =>
    rw [hname] at hexec
    cases hexec
    exact absurd .nil hdup
  | some name =>
    rw [hname] at hexec
    obtain ⟨generatedName, s₁, hgenerated, hexec⟩ := SessionM.exec_bind_eq_ok hexec
    obtain ⟨found, hfind⟩ := h.find_ok generatedName
    rw [SessionM.exec_bind_ok (Inspection.exec_ask_ok (Inspection.exec_findDeclaration hfind))]
      at hexec
    cases found with
    | none =>
      cases hexec
      exact absurd .nil hdup
    | some generated =>
      obtain ⟨marked, s₂, hmarked, hexec⟩ := SessionM.exec_bind_eq_ok hexec
      cases marked with
      | false =>
        cases hexec
        exact absurd (by simp) hdup
      | true =>
        obtain ⟨prototype, s₃, hprototype, hexec⟩ := SessionM.exec_bind_eq_ok hexec
        cases hexec
        -- Two different declarations are listed once each.
        obtain rfl : prototype = some generated := by
          by_contra hne
          refine hdup ?_
          cases prototype with
          | none => simp
          | some other =>
            have hother : other ≠ generated := fun heq => hne (by rw [heq])
            simp [hother]
        exact .declaration hdecl hname (Inspection.exec_ask_eq_ok hgenerated) hfind
          (Inspection.exec_ask_eq_ok hmarked) (Inspection.exec_ask_eq_ok hprototype)

/-- A method that the search for another one lists twice is one of a generated type and of its
modifier. -/
theorem revisits_of_methodTargets (h : scope.host.Findable)
    (hexec : (Inspection.methodTargets scope id index).exec ⟨editor.registry, {}⟩ =
      (.ok targets, s)) (hdup : ¬ targets.Nodup) : editor.Revisits scope (.method id index) := by
  have hne : targets ≠ [] := fun hnil => hdup (hnil ▸ .nil)
  obtain ⟨decl, name, method, isPrototype, s₁, hdecl, hname, hmethod, hprototype, hrest⟩ :=
    Inspection.exec_methodTargets_eq_ok hexec hne
  -- Back from a generated method only one type is searched.
  cases isPrototype with
  | false => exact absurd (Inspection.nodup_prototypeTargets hrest) hdup
  | true =>
    obtain ⟨generatedName, generated, s₂, hgenerated, hfind⟩ :=
      Inspection.exec_generatedTargets_eq_ok h hrest hne
    have hgenerates : editor.Generates scope id generated :=
      ⟨decl, name, generatedName, s₁, s₂, hdecl, hname, hprototype, hgenerated, hfind⟩
    obtain ⟨accessors, setters, s₃, hsearch, haccessors, hsetters⟩ :=
      hgenerates.exec_targets h hdecl hmethod
    cases hexec.symm.trans hsearch
    rw [haccessors.nodup_append_iff hsetters, not_not] at hdup
    obtain ⟨m, hstands, ⟨hinherits, _⟩, ⟨modifier, hmodifies, hinherits'⟩, hsame⟩ := hdup
    exact .method hdecl hmethod hgenerates hmodifies hstands hsame hinherits hinherits'

/-- On a host that answers, the search for usages of an element lists nothing twice unless it comes
to something twice: to a generated type that is its own prototype, or to a method that a generated
type and its modifier have in common. -/
theorem primaryElements_nodup_iff (h : scope.host.Findable) (hanswers : ∀ q, ¬ scope.host.Cancels q)
    (editor : Editor) (element : Element) :
    ∃ targets editor', primaryElements scope element editor = (.ok targets, editor') ∧
      (targets.Nodup ↔ ¬ (editor.UsesGenerator scope.host ∧ editor.Revisits scope element)) := by
  -- A host that answers cancels nothing, so that the request returns.
  obtain ⟨targets, htargets⟩ :=
    (EntryPoint.primaryElements element).returns_of_not_cancels hanswers editor
  rcases hprimary : primaryElements scope element editor with ⟨out, editor'⟩
  obtain rfl : out = .ok targets := by
    rw [EntryPoint.outcome, EntryPoint.run, hprimary] at htargets
    exact htargets
  refine ⟨targets, editor', rfl, ?_⟩
  constructor
  · rintro hnodup ⟨hused, hrevisits⟩
    obtain ⟨targets', after, hprimary', hdup⟩ := hrevisits.exists_not_nodup h hused
    cases hprimary.symm.trans hprimary'
    exact hdup hnodup
  · -- What is listed twice is not nothing, so that the search was made.
    intro hnot
    by_contra hdup
    have hne : targets ≠ [] := fun hnil => hdup (hnil ▸ .nil)
    obtain ⟨hused, s, hexec⟩ := targets_of_primaryElements hprimary hne
    refine hnot ⟨hused, ?_⟩
    cases element with
    | declaration id => exact revisits_of_declarationTargets h hexec hdup
    | method id index => exact revisits_of_methodTargets h hexec hdup
    | field id index =>
      cases hexec
      exact absurd .nil hdup

end Editor

/-! ### A type that is its own modifier, and one that is its own prototype -/

namespace Program

/-- A prototype with a property. -/
def ownModifierPrototype : Declaration :=
  { name := "FooPrototype", qualifiedName := some "a.FooPrototype", file := ⟨0⟩
    kind := .interfaceType, annotations := [{ name := codePrototype }]
    methods := [{ name := "count", returnType := .primitive .int }] }

/-- The interface that was generated from it, whose modifier is the interface itself. -/
def ownModifierInterface : Declaration :=
  { name := "Foo", qualifiedName := some "a.Foo", file := ⟨1⟩
    kind := .interfaceType, annotations := [generatedFrom "a.FooPrototype"]
    methods := [{ name := "count", returnType := .primitive .int },
      { name := "with", returnType := .named "a.Foo" }] }

/-- The two, next to the generator. -/
def generatedOwnModifier : Program :=
  (ofDeclarations [{ path := "src/a/FooPrototype.java" }, { path := "src/a/Foo.java" }]
    [ownModifierPrototype, ownModifierInterface]).withGenerator

/-- An interface that is marked as generated from itself. -/
def ownPrototypeInterface : Declaration :=
  { name := "Foo", qualifiedName := some "a.Foo", file := ⟨0⟩
    kind := .interfaceType, annotations := [generatedFrom "a.Foo"] }

/-- It, next to the generator. -/
def generatedOwnPrototype : Program :=
  (ofDeclarations [{ path := "src/a/Foo.java" }] [ownPrototypeInterface]).withGenerator

theorem consistent_generatedOwnModifier : generatedOwnModifier.Consistent :=
  Consistent.withGenerator (.ofDeclarations (by decide) (by decide))

theorem consistent_generatedOwnPrototype : generatedOwnPrototype.Consistent :=
  Consistent.withGenerator (.ofDeclarations (by decide) (by decide))

theorem declaration_ownModifierPrototype :
    generatedOwnModifier.toHost.declaration ⟨0⟩ = .ok ownModifierPrototype := rfl

theorem declaration_ownModifierInterface :
    generatedOwnModifier.toHost.declaration ⟨1⟩ = .ok ownModifierInterface := rfl

theorem generates_generatedOwnModifier :
    Editor.Generates ⟨generatedOwnModifier.toHost, {}⟩ {} ⟨0⟩ ⟨1⟩ :=
  ⟨_, _, _, _, _, declaration_ownModifierPrototype, rfl, rfl, rfl, rfl⟩

/-- The interface is the type that its method `with` returns. -/
theorem modifies_generatedOwnModifier : generatedOwnModifier.toHost.Modifies ⟨1⟩ ⟨1⟩ :=
  ⟨_, Host.allMethods_of_no_supertypes declaration_ownModifierInterface rfl, _, rfl, rfl⟩

/-- From the property the search comes to the property of the interface, and to it as a setter. -/
theorem revisits_generatedOwnModifier :
    Editor.Revisits ⟨generatedOwnModifier.toHost, {}⟩ {} (.method ⟨0⟩ 0) := by
  have hstands : PlacedMethod.Stands generatedOwnModifier.toHost
      ⟨⟨1⟩, 0, { name := "count", returnType := .primitive .int }⟩ :=
    ⟨_, declaration_ownModifierInterface, rfl⟩
  exact .method declaration_ownModifierPrototype rfl generates_generatedOwnModifier
    modifies_generatedOwnModifier hstands rfl .refl .refl

/-- From the interface the search comes to what is generated from it and to its prototype. -/
theorem revisits_generatedOwnPrototype :
    Editor.Revisits ⟨generatedOwnPrototype.toHost, {}⟩ {} (.declaration ⟨0⟩) :=
  .declaration rfl rfl rfl rfl rfl rfl

end Program

namespace Editor

theorem primaryElements_nodup_iff_generatedOwnModifier :
    let scope : Scope := ⟨Program.generatedOwnModifier.toHost, {}⟩
    scope.host.Findable ∧ (∀ q, ¬ scope.host.Cancels q) ∧
      ∃ targets editor', primaryElements scope (.method ⟨0⟩ 0) {} = (.ok targets, editor') ∧
        (targets.Nodup ↔ ¬ (UsesGenerator scope.host {} ∧ Revisits scope {} (.method ⟨0⟩ 0))) := by
  intro scope
  have h : scope.host.Findable := Program.consistent_generatedOwnModifier.healthy.findable
  have hanswers : ∀ q, ¬ scope.host.Cancels q := Program.consistent_generatedOwnModifier.not_cancels
  exact ⟨h, hanswers, primaryElements_nodup_iff h hanswers {} _⟩

/-- The property of the type that is its own modifier is listed twice, and so is the type that is
its own prototype. -/
theorem primaryElements_not_nodup :
    let scope : Scope := ⟨Program.generatedOwnModifier.toHost, {}⟩
    let scope' : Scope := ⟨Program.generatedOwnPrototype.toHost, {}⟩
    (scope.host.Healthy ∧ (∀ q, ¬ scope.host.Cancels q) ∧ ∃ targets editor',
      primaryElements scope (.method ⟨0⟩ 0) {} = (.ok targets, editor') ∧ ¬ targets.Nodup) ∧
    scope'.host.Healthy ∧ (∀ q, ¬ scope'.host.Cancels q) ∧ ∃ targets editor',
      primaryElements scope' (.declaration ⟨0⟩) {} = (.ok targets, editor') ∧ ¬ targets.Nodup := by
  have hmodifier := Program.consistent_generatedOwnModifier
  have hprototype := Program.consistent_generatedOwnPrototype
  refine ⟨⟨hmodifier.healthy, hmodifier.not_cancels, ?_⟩,
    hprototype.healthy, hprototype.not_cancels, ?_⟩
  · exact Program.revisits_generatedOwnModifier.exists_not_nodup hmodifier.healthy.findable
      (Program.usesGenerator_withGenerator _)
  · exact Program.revisits_generatedOwnPrototype.exists_not_nodup hprototype.healthy.findable
      (Program.usesGenerator_withGenerator _)

end Editor

end PrototypeLens
