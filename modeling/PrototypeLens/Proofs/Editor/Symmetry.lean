import PrototypeLens.Proofs.Editor.Naming
import PrototypeLens.Proofs.Editor.Targets
import PrototypeLens.Proofs.Session.Origins

/-!
# Usages across the border, there and back

Usages of a prototype's method are searched through methods of the generated type, and usages of a
generated method through methods of the prototype. Each of the two searches is a matter of names:
there by the getter of a name, back by the property of a getter.

## Layers

- `mem_primaryElements_prototype`: the search from the prototype finds a generated method exactly if
  that comes from it by its name.
- `mem_primaryElements_generated`: the search from a generated method finds one of the prototype
  exactly if that has the name of its property.

## Main results

- When exactly the way there can be gone back, as a condition on the two names.
- A getter within a prototype and a property in capitals, for which it cannot.
-/

namespace PrototypeLens

namespace Editor

variable {scope : Scope} {editor : Editor}

/-- Usages of a method of a prototype are searched through a method of the generated type if that
comes from it. -/
theorem mem_primaryElements_prototype (h : scope.host.Healthy)
    (hused : editor.UsesGenerator scope.host) {prototype generated : DeclId}
    (hgenerates : editor.Generates scope prototype generated) {decl decl' : Declaration}
    (hdecl : scope.host.declaration prototype = .ok decl)
    (hdecl' : scope.host.declaration generated = .ok decl') {i : Nat} {method : Method}
    (hmethod : decl.methods[i]? = some method) :
    ∃ targets editor', primaryElements scope (.method prototype i) editor =
        (.ok targets, editor') ∧
      ∀ j candidate, decl'.methods[j]? = some candidate →
        (.method generated j ∈ targets ↔ Inspection.comesFrom method candidate = true) := by
  obtain ⟨accessors, setters, s, hsearch, haccessors, hsetters⟩ :=
    hgenerates.exec_targets h.findable hdecl hmethod
  obtain ⟨editor', hprimary⟩ := primaryElements_of_targets scope hused hsearch
  refine ⟨_, editor', hprimary, fun j candidate hcandidate => ?_⟩
  have hstands : PlacedMethod.Stands scope.host ⟨generated, j, candidate⟩ :=
    ⟨decl', hdecl', hcandidate⟩
  -- Whether its place is listed depends on the method alone.
  change PlacedMethod.element ⟨generated, j, candidate⟩ ∈ _ ↔ _
  rw [List.mem_append, haccessors.mem_elements_iff hstands, hsetters.mem_elements_iff hstands]
  constructor
  · rintro (⟨_, hcomes⟩ | ⟨_, hsame⟩)
    · exact hcomes
    · -- A setter that stands in the generated type itself has the name of the method.
      exact Inspection.comesFrom_of_name hsame
  · exact fun hcomes => .inl ⟨.refl, hcomes⟩

/-- Usages of a generated method are searched through a method of the prototype if that has the
name of its property. -/
theorem mem_primaryElements_generated (h : scope.host.Healthy)
    (hused : editor.UsesGenerator scope.host) {prototype generated : DeclId}
    (htraces : editor.TracesTo scope generated prototype) {decl decl' : Declaration}
    (hdecl : scope.host.declaration prototype = .ok decl)
    (hdecl' : scope.host.declaration generated = .ok decl') {name : String}
    (hname : decl'.qualifiedName = some name) {j : Nat} {method : Method}
    (hmethod : decl'.methods[j]? = some method) :
    ∃ targets editor', primaryElements scope (.method generated j) editor =
        (.ok targets, editor') ∧
      ∀ i candidate, decl.methods[i]? = some candidate →
        (.method prototype i ∈ targets ↔ Inspection.propertyOf method.name = candidate.name) := by
  obtain ⟨properties, s, hsearch, hproperties⟩ :=
    htraces.exec_targets h.findable hdecl' hname hmethod hdecl
  obtain ⟨editor', hprimary⟩ := primaryElements_of_targets scope hused hsearch
  refine ⟨_, editor', hprimary, fun i candidate hcandidate => ?_⟩
  have hstands : PlacedMethod.Stands scope.host ⟨prototype, i, candidate⟩ :=
    ⟨decl, hdecl, hcandidate⟩
  change PlacedMethod.element ⟨prototype, i, candidate⟩ ∈ _ ↔ _
  rw [hproperties.mem_elements_iff hstands]
  exact ⟨And.right, fun hname => ⟨.refl, hname⟩⟩

/-- Usages of a method of a prototype and of a method of the type generated from it: the search
from the one leads to the other, and back again, exactly if the generated method does not have the
name of the other where that is the name of a getter, and is not the getter of a name that does not
start with a small letter. -/
theorem primaryElements_symmetric_iff (h : scope.host.Healthy) {editor editor' : Editor}
    (hused : editor.UsesGenerator scope.host) (hused' : editor'.UsesGenerator scope.host)
    {prototype generated : DeclId} (hgenerates : editor.Generates scope prototype generated)
    (htraces : editor'.TracesTo scope generated prototype) {decl decl' : Declaration}
    (hdecl : scope.host.declaration prototype = .ok decl)
    (hdecl' : scope.host.declaration generated = .ok decl') {i j : Nat} {method candidate : Method}
    (hmethod : decl.methods[i]? = some method) (hcandidate : decl'.methods[j]? = some candidate) :
    ∃ there back after after',
      primaryElements scope (.method prototype i) editor = (.ok there, after) ∧
      primaryElements scope (.method generated j) editor' = (.ok back, after') ∧
      ((.method generated j ∈ there → .method prototype i ∈ back) ↔
        (candidate.name = method.name → ¬ IsGetterName method.name) ∧
        (candidate.name = getterName method.name candidate.returnType →
          StartsSmall method.name)) := by
  obtain ⟨there, after, hthere, hmem⟩ :=
    mem_primaryElements_prototype h hused hgenerates hdecl hdecl' hmethod
  -- The generated type was found by its name.
  obtain ⟨name, hname⟩ : ∃ name, decl'.qualifiedName = some name := by
    obtain ⟨_, _, generatedName, _, _, _, _, _, _, hfind⟩ := hgenerates
    obtain ⟨decl₁, hdecl₁, hname⟩ := h.found hfind
    cases hdecl'.symm.trans hdecl₁
    exact ⟨generatedName, hname⟩
  obtain ⟨back, after', hback, hmem'⟩ :=
    mem_primaryElements_generated h hused' htraces hdecl hdecl' hname hcandidate
  -- With both memberships turned into conditions on names, the rest is a matter of names.
  refine ⟨there, back, after, after', hthere, hback, ?_⟩
  rw [hmem j candidate hcandidate, hmem' i method hmethod]
  exact Inspection.propertyOf_of_comesFrom_iff method candidate

end Editor

/-! ### Getters in a prototype and getters of capitals -/

namespace Program

/-- A prototype with a property, a getter and a property in capitals. -/
def gettersPrototype : Declaration :=
  { name := "FooPrototype", qualifiedName := some "a.FooPrototype", file := ⟨0⟩
    kind := .interfaceType, annotations := [{ name := codePrototype }]
    methods := [{ name := "count", returnType := .primitive .int },
      { name := "getTitle", returnType := .named "java.lang.String" },
      { name := "URL", returnType := .named "java.lang.String" }] }

/-- The interface that was generated from it. -/
def gettersInterface : Declaration :=
  { name := "Foo", qualifiedName := some "a.Foo", file := ⟨1⟩
    kind := .interfaceType, annotations := [generatedFrom "a.FooPrototype"]
    methods := [{ name := "getCount", returnType := .primitive .int },
      { name := "getTitle", returnType := .named "java.lang.String" },
      { name := "getURL", returnType := .named "java.lang.String" }] }

/-- The two, next to the generator. -/
def generatedGetters : Program :=
  (ofDeclarations [{ path := "src/a/FooPrototype.java" }, { path := "src/a/Foo.java" }]
    [gettersPrototype, gettersInterface]).withGenerator

theorem healthy_generatedGetters : generatedGetters.toHost.Healthy := by
  apply Consistent.healthy
  apply Consistent.withGenerator
  exact .ofDeclarations (by decide) (by decide)

theorem declaration_gettersPrototype :
    generatedGetters.toHost.declaration ⟨0⟩ = .ok gettersPrototype := rfl

theorem declaration_gettersInterface :
    generatedGetters.toHost.declaration ⟨1⟩ = .ok gettersInterface := rfl

theorem generates_generatedGetters :
    Editor.Generates ⟨generatedGetters.toHost, {}⟩ {} ⟨0⟩ ⟨1⟩ :=
  ⟨_, _, _, _, _, declaration_gettersPrototype, rfl, rfl, rfl, rfl⟩

theorem tracesTo_generatedGetters :
    Editor.TracesTo ⟨generatedGetters.toHost, {}⟩ {} ⟨1⟩ ⟨0⟩ :=
  ⟨_, _, rfl, rfl⟩

end Program

namespace Editor

theorem primaryElements_symmetric_iff_generatedGetters :
    let scope : Scope := ⟨Program.generatedGetters.toHost, {}⟩
    scope.host.Healthy ∧ UsesGenerator scope.host {} ∧ Generates scope {} ⟨0⟩ ⟨1⟩ ∧
      TracesTo scope {} ⟨1⟩ ⟨0⟩ ∧ ∃ there back after after',
        primaryElements scope (.method ⟨0⟩ 0) {} = (.ok there, after) ∧
        primaryElements scope (.method ⟨1⟩ 0) {} = (.ok back, after') ∧
        ((.method ⟨1⟩ 0 ∈ there → .method ⟨0⟩ 0 ∈ back) ↔
          ("getCount" = "count" → ¬ IsGetterName "count") ∧
          ("getCount" = getterName "count" (.primitive .int) → StartsSmall "count")) := by
  intro scope
  have h : scope.host.Healthy := Program.healthy_generatedGetters
  have hused : UsesGenerator scope.host {} := Program.usesGenerator_withGenerator _
  have hgenerates : Generates scope {} ⟨0⟩ ⟨1⟩ := Program.generates_generatedGetters
  have htraces : TracesTo scope {} ⟨1⟩ ⟨0⟩ := Program.tracesTo_generatedGetters
  have hcount : Program.gettersPrototype.methods[0]? =
      some { name := "count", returnType := .primitive .int } := rfl
  have hgetter : Program.gettersInterface.methods[0]? =
      some { name := "getCount", returnType := .primitive .int } := rfl
  refine ⟨h, hused, hgenerates, htraces, ?_⟩
  exact primaryElements_symmetric_iff h hused hused hgenerates htraces
    Program.declaration_gettersPrototype Program.declaration_gettersInterface hcount hgetter

/-- From the getter in the prototype the search leads to the one that was generated from it, and
from the property in capitals to its getter; from neither of them it leads back. -/
theorem primaryElements_not_symmetric_generatedGetters :
    let scope : Scope := ⟨Program.generatedGetters.toHost, {}⟩
    scope.host.Healthy ∧ UsesGenerator scope.host {} ∧ Generates scope {} ⟨0⟩ ⟨1⟩ ∧
      TracesTo scope {} ⟨1⟩ ⟨0⟩ ∧ ∀ index ∈ [1, 2], ∃ there back after after',
        primaryElements scope (.method ⟨0⟩ index) {} = (.ok there, after) ∧
        primaryElements scope (.method ⟨1⟩ index) {} = (.ok back, after') ∧
        .method ⟨1⟩ index ∈ there ∧ .method ⟨0⟩ index ∉ back := by
  intro scope
  have h : scope.host.Healthy := Program.healthy_generatedGetters
  have hused : UsesGenerator scope.host {} := Program.usesGenerator_withGenerator _
  have hgenerates : Generates scope {} ⟨0⟩ ⟨1⟩ := Program.generates_generatedGetters
  have htraces : TracesTo scope {} ⟨1⟩ ⟨0⟩ := Program.tracesTo_generatedGetters
  refine ⟨h, hused, hgenerates, htraces, fun index hindex => ?_⟩
  -- Each of the two generated methods comes from that of the prototype, and is not of its
  -- property.
  obtain ⟨method, candidate, hmethod, hcandidate, hthere, hback⟩ : ∃ method candidate,
      Program.gettersPrototype.methods[index]? = some method ∧
      Program.gettersInterface.methods[index]? = some candidate ∧
      Inspection.comesFrom method candidate = true ∧
      Inspection.propertyOf candidate.name ≠ method.name := by
    rcases List.mem_cons.1 hindex with rfl | hindex
    · exact ⟨_, _, rfl, rfl, by decide, by decide⟩
    · rw [List.mem_singleton.1 hindex]
      exact ⟨_, _, rfl, rfl, by decide, by decide⟩
  obtain ⟨there, after, hexec, hmem⟩ := mem_primaryElements_prototype h hused hgenerates
    Program.declaration_gettersPrototype Program.declaration_gettersInterface hmethod
  obtain ⟨back, after', hexec', hmem'⟩ := mem_primaryElements_generated h hused htraces
    Program.declaration_gettersPrototype Program.declaration_gettersInterface rfl hcandidate
  refine ⟨there, back, after, after', hexec, hexec', (hmem index candidate hcandidate).2 hthere, ?_⟩
  exact fun hin => hback ((hmem' index method hmethod).1 hin)

end Editor

end PrototypeLens
