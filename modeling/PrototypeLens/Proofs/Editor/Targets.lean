import PrototypeLens.Proofs.Editor.Methods
import PrototypeLens.Proofs.Editor.Saving
import PrototypeLens.Proofs.Program.Packed
import PrototypeLens.Proofs.Session.Run

/-!
# What a search for usages goes through

From a method of a prototype the search goes to the methods of the generated type that come from it
and to the setters of its modifier; from a generated method it goes to the methods of the prototype
that have the name of its property. Each of these is the part of the methods of one type that has
the right names.

## Layers

- `exec_ask_ok`, `exec_query_ok` and their converses: the steps of a search, one by one.
- `exec_modifierTargets`, `exec_generatedTargets`, `exec_prototypeTargets`: what each part of a
  search lists, once each.
- `exec_methodTargets_eq_ok` and `exec_generatedTargets_eq_ok`: what must have been answered for a
  search to list anything.

## Main results

- `Generates.exec_targets` and `TracesTo.exec_targets`: the whole search, from a prototype and from
  what was generated from it.
- `primaryElements_of_targets` and `targets_of_primaryElements`: the primary elements are what the
  search lists, where the generator is used.
-/

namespace PrototypeLens

namespace Host

/-- A type is the one that the first method `with` among some methods returns. -/
def IsModifier (host : Host) (methods : List PlacedMethod) (modifier : DeclId) : Prop :=
  ∃ withMethod, methods.find? (fun m => m.method.name == "with") = some withMethod ∧
    host.find withMethod.method.returnType.canonicalText = .ok (some modifier)

/-- A type is the one that the first method `with` of another type returns. -/
def Modifies (host : Host) (modifier generated : DeclId) : Prop :=
  ∃ methods, allMethods host generated = .ok methods ∧ host.IsModifier methods modifier

end Host

/-! ## Steps of a search -/

namespace Inspection

/-- What the search for usages of an element goes through. -/
def targets (scope : Scope) : Element → Inspection (List Element)
  | .declaration id => declarationTargets scope id
  | .method id index => methodTargets scope id index
  | .field _ _ => pure []

section Steps

variable {α : Type} {s s' : Session} {request : Request α} {a nothing : α}

theorem exec_ask_ok (h : request.exec s = (.ok a, s')) : (ask request).exec s = (.ok a, s') := by
  rw [SessionM.exec] at h
  rw [SessionM.exec, ask, h]

theorem exec_ask_eq_ok (h : (ask request).exec s = (.ok a, s')) : request.exec s = (.ok a, s') := by
  rcases hrequest : request.exec s with ⟨out, s₁⟩
  rw [SessionM.exec] at h hrequest
  rw [ask, hrequest] at h
  cases out with
  | error e => cases h
  | ok b =>
    cases h
    rfl

theorem exec_query_ok {result : Except QueryError α} (h : result = .ok a) :
    (query result).exec s = (.ok a, s) := by
  rw [h]
  rfl

theorem exec_query_eq_ok {result : Except QueryError α} (h : (query result).exec s = (.ok a, s')) :
    result = .ok a ∧ s' = s := by
  cases result with
  | error e => cases h
  | ok b =>
    cases h
    exact ⟨rfl, rfl⟩

theorem exec_contain_ok {inspection : Inspection α} (h : inspection.exec s = (.ok a, s')) :
    (contain nothing inspection).exec s = (.ok a, s') := by
  rw [SessionM.exec] at h
  rw [SessionM.exec, contain, h]

/-- What an inspection returns that is not the answer to a failure is what it found. -/
theorem exec_of_exec_contain {inspection : Inspection α}
    (h : (contain nothing inspection).exec s = (.ok a, s')) (hne : a ≠ nothing) :
    inspection.exec s = (.ok a, s') := by
  -- A failure is answered by nothing, which was excluded.
  rcases hinspection : inspection.exec s with ⟨out, s₁⟩
  rw [SessionM.exec] at h hinspection
  rw [contain, hinspection] at h
  cases out with
  | ok b =>
    cases h
    rfl
  | error e =>
    cases e <;> cases h
    all_goals exact absurd rfl hne

variable {scope : Scope}

theorem exec_findDeclaration {name : String} {found : Option DeclId}
    (hfind : scope.host.find name = .ok found) :
    (Request.findDeclaration scope name).exec s = (.ok found, s) := by
  rw [Request.findDeclaration, hfind]
  rfl

end Steps

/-! ## Searches through a type -/

theorem comesFrom_of_name {method generated : Method} (h : generated.name = method.name) :
    comesFrom method generated = true := by
  simp [comesFrom, h]

section Searches

variable {scope : Scope} (h : scope.host.Findable) {s s' : Session}
include h

/-- The fluent setters for a method are the methods of its name that the modifier has. -/
theorem exec_modifierTargets (method : Method) (methods : List PlacedMethod) :
    ∃ setters : List PlacedMethod,
      (modifierTargets scope method methods).exec s = (.ok (setters.map (·.element)), s) ∧
      scope.host.ListsOnce (fun m => (∃ modifier, scope.host.IsModifier methods modifier ∧
        scope.host.Inherits modifier m.owner) ∧ m.method.name = method.name) setters := by
  -- The search ends early where there is no method `with`, or where its type is not declared.
  cases hwith : methods.find? fun m => m.method.name == "with" with
  | none =>
    refine ⟨[], ?_, .nil ?_⟩
    · simp only [modifierTargets, hwith]
      rfl
    · rintro m ⟨⟨modifier, ⟨withMethod, hsome, _⟩, _⟩, _⟩
      cases hwith.symm.trans hsome
  | some withMethod =>
    obtain ⟨found, hfound⟩ := h.find_ok withMethod.method.returnType.canonicalText
    cases found with
    | none =>
      refine ⟨[], ?_, .nil ?_⟩
      · simp only [modifierTargets, hwith]
        rw [SessionM.exec_bind_ok (exec_ask_ok (exec_findDeclaration hfound))]
        rfl
      · rintro m ⟨⟨modifier, ⟨_, hsome, hfind⟩, _⟩, _⟩
        cases hwith.symm.trans hsome
        cases hfound.symm.trans hfind
    | some modifier =>
      obtain ⟨decl, hdecl⟩ := h.found hfound
      obtain ⟨inherited, hinherited, hlists⟩ := h.exists_allMethods hdecl
      refine ⟨_, ?_, (hlists.filter fun m => m.method.name == method.name).congr fun m => ?_⟩
      · simp only [modifierTargets, hwith]
        rw [SessionM.exec_bind_ok (exec_ask_ok (exec_findDeclaration hfound))]
        simp only
        rw [SessionM.exec_bind_ok (exec_query_ok hinherited)]
        rfl
      · refine and_congr ⟨fun habove => ?_, ?_⟩ beq_iff_eq
        · exact ⟨modifier, ⟨withMethod, hwith, hfound⟩, habove⟩
        · rintro ⟨modifier', ⟨withMethod', hwith', hfound'⟩, habove⟩
          cases hwith.symm.trans hwith'
          cases hfound.symm.trans hfound'
          exact habove

/-- The search for a prototype's method is through the methods of the generated type that come from
it and through the setters of its modifier. -/
theorem exec_generatedTargets {name generatedName : String} {generated : DeclId}
    (hname : (Request.generatedNameOf scope name).exec s = (.ok generatedName, s'))
    (hfind : scope.host.find generatedName = .ok (some generated)) (method : Method) :
    ∃ accessors setters : List PlacedMethod,
      (generatedTargets scope name method).exec s =
        (.ok (accessors.map (·.element) ++ setters.map (·.element)), s') ∧
      scope.host.ListsOnce (fun m => scope.host.Inherits generated m.owner ∧
        comesFrom method m.method = true) accessors ∧
      scope.host.ListsOnce (fun m => (∃ modifier, scope.host.Modifies modifier generated ∧
        scope.host.Inherits modifier m.owner) ∧ m.method.name = method.name) setters := by
  obtain ⟨decl, hdecl⟩ := h.found hfind
  obtain ⟨methods, hmethods, hlists⟩ := h.exists_allMethods hdecl
  obtain ⟨setters, hsetters, hlists'⟩ := exec_modifierTargets (s := s') h method methods
  -- The methods of the generated type were listed for the accessors; there are no others.
  have hmodifier (modifier : DeclId) :
      scope.host.IsModifier methods modifier ↔ scope.host.Modifies modifier generated := by
    constructor
    · exact fun hmodifier => ⟨methods, hmethods, hmodifier⟩
    · rintro ⟨methods', hmethods', hmodifier⟩
      cases hmethods.symm.trans hmethods'
      exact hmodifier
  refine ⟨_, setters, ?_, hlists.filter fun m => comesFrom method m.method,
    hlists'.congr fun m => by simp only [hmodifier]⟩
  rw [generatedTargets, SessionM.exec_bind_ok (exec_ask_ok hname),
    SessionM.exec_bind_ok (exec_ask_ok (exec_findDeclaration hfind))]
  simp only
  rw [SessionM.exec_bind_ok (exec_query_ok hmethods), SessionM.exec_bind_ok hsetters]
  rfl

/-- The search for a generated method is through those methods of the prototype that have the name
of its property. -/
theorem exec_prototypeTargets {id prototype : DeclId} {decl : Declaration}
    (hprototype : (Request.prototypeClassOf scope id).exec s = (.ok (some prototype), s'))
    (hdecl : scope.host.declaration prototype = .ok decl) (method : Method) :
    ∃ properties : List PlacedMethod,
      (prototypeTargets scope id method).exec s = (.ok (properties.map (·.element)), s') ∧
      scope.host.ListsOnce (fun m => scope.host.Inherits prototype m.owner ∧
        propertyOf method.name = m.method.name) properties := by
  obtain ⟨methods, hmethods, hlists⟩ := h.exists_allMethods hdecl
  refine ⟨_, ?_, (hlists.filter fun m => m.method.name == propertyOf method.name).congr fun m =>
    and_congr_right fun _ => by rw [beq_iff_eq, eq_comm]⟩
  rw [prototypeTargets, SessionM.exec_bind_ok (exec_ask_ok hprototype)]
  simp only
  rw [SessionM.exec_bind_ok (exec_query_ok hmethods)]
  rfl

end Searches

/-! ## What is behind targets -/

section Behind

variable {scope : Scope} {id : DeclId} {index : Nat} {method : Method} {name : String}
  {targets : List Element} {s s' : Session}

/-- What has targets is a method of a declaration with a name. -/
theorem exec_methodTargets_eq_ok (hexec : (methodTargets scope id index).exec s = (.ok targets, s'))
    (hne : targets ≠ []) : ∃ decl name method isPrototype s₁,
      scope.host.declaration id = .ok decl ∧ decl.qualifiedName = some name ∧
      decl.methods[index]? = some method ∧
      (Request.isPrototypeDecl scope id).exec s = (.ok isPrototype, s₁) ∧
      (if isPrototype then generatedTargets scope name method
        else prototypeTargets scope id method).exec s₁ = (.ok targets, s') := by
  obtain ⟨decl, s₁, hquery, hrest⟩ := SessionM.exec_bind_eq_ok hexec
  obtain ⟨hdecl, rfl⟩ := exec_query_eq_ok hquery
  -- A declaration without a name and one without the method end the search with nothing.
  cases hname : decl.qualifiedName with
  | none =>
    rw [hname] at hrest
    cases hrest
    exact absurd rfl hne
  | some name =>
    cases hmethod : decl.methods[index]? with
    | none =>
      rw [hname, hmethod] at hrest
      cases hrest
      exact absurd rfl hne
    | some method =>
      rw [hname, hmethod] at hrest
      obtain ⟨isPrototype, s₂, hprototype, hrest⟩ := SessionM.exec_bind_eq_ok hrest
      exact ⟨decl, name, method, isPrototype, s₂, hdecl, hname, hmethod,
        exec_ask_eq_ok hprototype, hrest⟩

/-- A method of a prototype has targets only if the type generated from that is declared. -/
theorem exec_generatedTargets_eq_ok (h : scope.host.Findable)
    (hexec : (generatedTargets scope name method).exec s = (.ok targets, s'))
    (hne : targets ≠ []) : ∃ generatedName generated s₁,
      (Request.generatedNameOf scope name).exec s = (.ok generatedName, s₁) ∧
      scope.host.find generatedName = .ok (some generated) := by
  obtain ⟨generatedName, s₁, hgenerated, hexec⟩ := SessionM.exec_bind_eq_ok hexec
  obtain ⟨found, hfind⟩ := h.find_ok generatedName
  rw [SessionM.exec_bind_ok (exec_ask_ok (exec_findDeclaration hfind))] at hexec
  cases found with
  | none =>
    cases hexec
    exact absurd rfl hne
  | some generated => exact ⟨generatedName, generated, s₁, exec_ask_eq_ok hgenerated, hfind⟩

/-- Back from a generated method there is one type to search through. -/
theorem nodup_prototypeTargets
    (hexec : (prototypeTargets scope id method).exec s = (.ok targets, s')) : targets.Nodup := by
  obtain ⟨prototype, s₁, _, hexec⟩ := SessionM.exec_bind_eq_ok hexec
  cases prototype with
  | none =>
    cases hexec
    exact .nil
  | some prototype =>
    obtain ⟨methods, s₂, hquery, hexec⟩ := SessionM.exec_bind_eq_ok hexec
    obtain ⟨hmethods, -⟩ := exec_query_eq_ok hquery
    rw [SessionM.exec_pure] at hexec
    cases hexec
    exact (Host.nodup_of_allMethods hmethods).sublist (List.filter_sublist.map _)

end Behind

end Inspection

/-! ## Searches of an editor -/

namespace Editor

variable {scope : Scope} {editor editor' : Editor} {element : Element} {targets : List Element}

/-- The editor answers that the class path carries the generator. -/
def UsesGenerator (host : Host) (editor : Editor) : Prop :=
  ∃ editor', isGeneratorUsed host editor = (.ok true, editor')

/-- The editor answers that a declaration is a prototype, and its name for the type generated from
it finds another declaration. -/
def Generates (scope : Scope) (editor : Editor) (prototype generated : DeclId) : Prop :=
  ∃ decl name generatedName s s', scope.host.declaration prototype = .ok decl ∧
    decl.qualifiedName = some name ∧
    (Request.isPrototypeDecl scope prototype).exec ⟨editor.registry, {}⟩ = (.ok true, s) ∧
    (Request.generatedNameOf scope name).exec s = (.ok generatedName, s') ∧
    scope.host.find generatedName = .ok (some generated)

/-- The editor answers that a declaration is not a prototype, and that it was generated from
another one. -/
def TracesTo (scope : Scope) (editor : Editor) (generated prototype : DeclId) : Prop :=
  ∃ s s', (Request.isPrototypeDecl scope generated).exec ⟨editor.registry, {}⟩ = (.ok false, s) ∧
    (Request.prototypeClassOf scope generated).exec s = (.ok (some prototype), s')

section Methods

variable {id : DeclId} {index : Nat} {decl : Declaration} {method : Method}

/-- From a method of a prototype the search goes to the generated type. -/
theorem Generates.exec_targets (h : scope.host.Findable) {generated : DeclId}
    (hgenerates : editor.Generates scope id generated)
    (hdecl : scope.host.declaration id = .ok decl) (hmethod : decl.methods[index]? = some method) :
    ∃ (accessors setters : List PlacedMethod) (s : Session),
      (Inspection.targets scope (.method id index)).exec ⟨editor.registry, {}⟩ =
        (.ok (accessors.map (·.element) ++ setters.map (·.element)), s) ∧
      scope.host.ListsOnce (fun m => scope.host.Inherits generated m.owner ∧
        Inspection.comesFrom method m.method = true) accessors ∧
      scope.host.ListsOnce (fun m => (∃ modifier, scope.host.Modifies modifier generated ∧
        scope.host.Inherits modifier m.owner) ∧ m.method.name = method.name) setters := by
  obtain ⟨decl', name, generatedName, s, s', hdecl', hname, hprototype, hgenerated, hfind⟩ :=
    hgenerates
  cases hdecl.symm.trans hdecl'
  obtain ⟨accessors, setters, hexec, hlists⟩ :=
    Inspection.exec_generatedTargets h hgenerated hfind method
  refine ⟨accessors, setters, s', ?_, hlists⟩
  rw [Inspection.targets, Inspection.methodTargets,
    SessionM.exec_bind_ok (Inspection.exec_query_ok hdecl), hname, hmethod]
  simp only
  rw [SessionM.exec_bind_ok (Inspection.exec_ask_ok hprototype)]
  exact hexec

/-- From a generated method the search goes back to the prototype. -/
theorem TracesTo.exec_targets (h : scope.host.Findable) {prototype : DeclId}
    (htraces : editor.TracesTo scope id prototype) (hdecl : scope.host.declaration id = .ok decl)
    {name : String} (hname : decl.qualifiedName = some name)
    (hmethod : decl.methods[index]? = some method) {decl' : Declaration}
    (hdecl' : scope.host.declaration prototype = .ok decl') :
    ∃ (properties : List PlacedMethod) (s : Session),
      (Inspection.targets scope (.method id index)).exec ⟨editor.registry, {}⟩ =
        (.ok (properties.map (·.element)), s) ∧
      scope.host.ListsOnce (fun m => scope.host.Inherits prototype m.owner ∧
        Inspection.propertyOf method.name = m.method.name) properties := by
  obtain ⟨s, s', hplain, hprototype⟩ := htraces
  obtain ⟨properties, hexec, hlists⟩ := Inspection.exec_prototypeTargets h hprototype hdecl' method
  refine ⟨properties, s', ?_, hlists⟩
  rw [Inspection.targets, Inspection.methodTargets,
    SessionM.exec_bind_ok (Inspection.exec_query_ok hdecl), hname, hmethod]
  simp only
  rw [SessionM.exec_bind_ok (Inspection.exec_ask_ok hplain)]
  exact hexec

end Methods

theorem exists_isGeneratorUsed (host : Host) (editor : Editor) :
    ∃ used editor', isGeneratorUsed host editor = (.ok used, editor') := by
  rcases editor with ⟨registry, generatorUsed⟩
  cases generatorUsed with
  | some used => exact ⟨used, _, rfl⟩
  | none => exact ⟨_, _, rfl⟩

theorem registry_isGeneratorUsed (host : Host) (editor : Editor) :
    (isGeneratorUsed host editor).2.registry = editor.registry := by
  rcases editor with ⟨registry, generatorUsed⟩
  cases generatorUsed with
  | some used => rfl
  | none => rfl

/-- The primary elements are the targets of the search if the generator is used. -/
theorem primaryElements_eq {used : Bool}
    (hused : isGeneratorUsed scope.host editor = (.ok used, editor')) (element : Element) :
    primaryElements scope element editor =
      if used then inspect [] (Inspection.targets scope element) editor'
      else (.ok [], editor') := by
  unfold primaryElements
  rw [bind_ok hused]
  cases used with
  | false => rfl
  | true => cases element <;> rfl

variable (scope) in
/-- Where the generator is used, the primary elements are the targets of the search. -/
theorem primaryElements_of_targets (hused : editor.UsesGenerator scope.host) {s : Session}
    (htargets : (Inspection.targets scope element).exec ⟨editor.registry, {}⟩ = (.ok targets, s)) :
    ∃ editor', primaryElements scope element editor = (.ok targets, editor') := by
  -- The answer about the generator is kept in the editor, and its registry is the same.
  obtain ⟨used, hused⟩ := hused
  rw [primaryElements_eq hused, if_pos rfl]
  have hcontain : (Inspection.contain [] (Inspection.targets scope element)).exec
      ⟨editor.registry, {}⟩ = (.ok targets, s) := Inspection.exec_contain_ok htargets
  rw [← registry_isGeneratorUsed scope.host editor, hused, SessionM.exec] at hcontain
  rw [inspect, run, hcontain]
  exact ⟨_, rfl⟩

/-- Primary elements come from a search, which is made where the generator is used. -/
theorem targets_of_primaryElements
    (h : primaryElements scope element editor = (.ok targets, editor')) (hne : targets ≠ []) :
    editor.UsesGenerator scope.host ∧
      ∃ s, (Inspection.targets scope element).exec ⟨editor.registry, {}⟩ = (.ok targets, s) := by
  obtain ⟨used, after, hused⟩ := exists_isGeneratorUsed scope.host editor
  rw [primaryElements_eq hused] at h
  cases used with
  | false =>
    cases h
    exact absurd rfl hne
  | true =>
    rw [if_pos rfl, inspect, run] at h
    rcases hcontain : Inspection.contain [] (Inspection.targets scope element)
      { registry := after.registry } with ⟨out, s⟩
    rw [hcontain] at h
    cases h
    have hregistry := registry_isGeneratorUsed scope.host editor
    rw [hused] at hregistry
    refine ⟨⟨_, hused⟩, s, Inspection.exec_of_exec_contain ?_ hne⟩
    rw [SessionM.exec, ← hregistry, hcontain]

end Editor

theorem Program.usesGenerator_withGenerator (p : Program) :
    Editor.UsesGenerator p.withGenerator.toHost {} := by
  -- Nothing counts but the class path and what is stored there.
  have hused : Editor.UsesGenerator (withGenerator {}).toHost {} := ⟨_, rfl⟩
  exact hused

end PrototypeLens
