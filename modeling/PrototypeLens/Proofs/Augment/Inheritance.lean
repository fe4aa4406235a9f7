import PrototypeLens.Proofs.Augment.Isolation
import PrototypeLens.Proofs.Cancellation.EntryPoints

/-!
# What augmentation takes from other types

An annotation type is given the elements of those that it extends, and a prototype or generated
declaration the fields that stand for its methods and those of its supertypes. Whatever the types
look like that lead there, cycles included, each name is given exactly once, from a nearest type
that has it.

## Layers

- `PicksNearest` for the methods of a walk is proved once, for elements and for fields alike.
- Members that stand for different names have different signatures, so that the last stage of
  augmentation leaves all of them.

## Main results

- Annotation types: exactly the elements of those above whose names are free, each from a nearest
  one.
- Prototypes and generated declarations: one field for each name of a method that returns a value,
  unless a field has that name. All other fields come from enrichers.
-/

namespace PrototypeLens

namespace Request

variable {scope : Scope} {features : Features} {id : DeclId} {decl : Declaration} {s : Session}

/-! ## Elements of annotation types -/

/-- Augmentation gives an annotation type exactly the elements of the annotation types above it
whose names none of its methods has, each once and with the type and the default that it has in a
nearest one. -/
theorem augment_inherits_nearest (h : scope.host.Findable) (hrest : s.guards.depth = 0)
    (hfree : id ∉ s.guards.augmenting) (hdecl : scope.host.declaration id = .ok decl)
    (hkind : decl.isAnnotationType = true) (hfeature : features.annotationInheritance = true) :
    ∃ picked : List Method,
      (augment scope features id .method).exec s =
        (.ok (picked.map fun m => .method
          { name := m.name, returnType := m.returnType, params := []
            modifiers := Method.elementModifiers, defaultValue := m.defaultValue }), s) ∧
      PicksNearest (scope.host.OffersElement decl) (decl.methods.map (·.name)) picked := by
  -- The choice among the elements above is made by their names, whatever the walk looked like.
  obtain ⟨elements, helements, hpicks⟩ := h.exists_inheritable decl
  have hnearest := hpicks (decl.methods.map (·.name))
  refine ⟨_, ?_, hnearest⟩
  -- An annotation type that extends nothing is not asked for elements, and has none to inherit.
  have hcollected : membersOfElements features decl .method elements =
      (firstByKey Method.name (decl.methods.map (·.name)) elements).map inheritedElement := by
    rw [membersOfElements]
    split
    · rfl
    · rename_i hasked
      have hnone : decl.extended = [] := by simpa [hfeature] using hasked
      rw [inheritable, hnone, Graph.walk, Graph.walkFrom_nil] at helements
      cases helements
      rfl
  -- Distinct names make distinct signatures, so that no element gives way to another.
  obtain ⟨rest, hnil, hfirst⟩ := firstByKey_signature_append inheritedElement
    (fun name => .method name []) (fun _ => rfl) (fun _ _ heq => (Signature.method.inj heq).1)
    hnearest.nodup []
  rw [List.append_nil, List.subset_nil.1 hnil, List.append_nil] at hfirst
  rw [exec_augment_of_annotationType hrest hfree hdecl hkind helements, hcollected, hfirst]
  rfl

/-- The annotation type that is led back to from a type that it extends inherits the `v` of the
nearer one of two, and none of its own elements. -/
theorem augment_inherits_nearest_nearerElement :
    let scope := Program.nearerElement.scope
    let s : Session := ⟨{}, {}⟩
    scope.host.Findable ∧ s.guards.depth = 0 ∧ ⟨0⟩ ∉ s.guards.augmenting ∧
      scope.host.declaration ⟨0⟩ = .ok Program.annotationA ∧
      Program.annotationA.isAnnotationType = true ∧
      ({} : Features).annotationInheritance = true ∧
      ∃ picked : List Method,
        (augment scope {} ⟨0⟩ .method).exec s =
          (.ok (picked.map fun m => .method
            { name := m.name, returnType := m.returnType, params := []
              modifiers := Method.elementModifiers, defaultValue := m.defaultValue }), s) ∧
        PicksNearest (scope.host.OffersElement Program.annotationA)
          (Program.annotationA.methods.map (·.name)) picked ∧
        picked.map inheritedElement = [inheritedElement (Program.elementV 1)] := by
  intro scope s
  have hfind : scope.host.Findable :=
    (Program.Consistent.ofDeclarations (by decide) (by decide)).healthy.findData_ok
  obtain ⟨picked, hexec, hnearest⟩ :=
    @augment_inherits_nearest scope {} ⟨0⟩ Program.annotationA s hfind rfl List.not_mem_nil rfl rfl
      rfl
  obtain ⟨hwalk, -, -⟩ :=
    Program.walk_nearerElement scope.host.annotationTypeGraph rfl rfl rfl rfl
  have hinherited : inheritedElements scope.host Program.annotationA =
      .ok [inheritedElement (Program.elementV 1)] := by
    rw [inheritedElements, hwalk]
    rfl
  have hanswer : (augment scope {} ⟨0⟩ .method).exec s =
      (.ok [inheritedElement (Program.elementV 1)], s) :=
    exec_augment_inherited rfl rfl rfl hinherited rfl {}
  refine ⟨hfind, rfl, List.not_mem_nil, rfl, rfl, rfl, picked, hexec, hnearest, ?_⟩
  exact Except.ok.inj (congrArg Prod.fst (hexec.symm.trans hanswer))

/-! ## Fields for methods -/

/-- What is told about a declaration begins with whether it is relevant. -/
theorem relevant_of_exec_outlook {relevant : Bool} {told : Bool × Option Descriptor} {s' : Session}
    (hrelevant : ((isRelevant scope id).exec s).1 = .ok relevant)
    (h : (outlook scope id).exec s = (.ok told, s')) : told.1 = relevant := by
  rw [outlook] at h
  obtain ⟨relevant', s₁, hrelevant', h⟩ := SessionM.exec_bind_eq_ok h
  obtain ⟨descriptor, s₂, _, h⟩ := SessionM.exec_bind_eq_ok h
  cases h
  rw [hrelevant'] at hrelevant
  exact Except.ok.inj hrelevant

/-- Augmentation gives a prototype or generated declaration that is no annotation type exactly one
field for each name that a method without parameters has, if it returns a value and is one of the
declaration or of its supertypes, unless a field of the declaration has that name. The field has the
type that such a method in a nearest type returns. All other fields come from enrichers. -/
theorem augment_mirrors_nearest (hcalm : ∀ q, ¬ scope.host.Cancels q) (h : scope.host.Findable)
    (hrest : s.guards.depth = 0) (hfree : id ∉ s.guards.augmenting)
    (hdecl : scope.host.declaration id = .ok decl) (hkind : decl.isAnnotationType = false)
    (hfeature : features.bracketlessMethods = true)
    (hrelevant : ((isRelevant scope id).exec s).1 = .ok true) :
    ∃ (picked : List Method) (added : List VirtualMember) (descriptor : Option Descriptor)
      (s' : Session),
      (augment scope features id .field).exec s =
        (.ok (picked.map (fun m => .field
          { name := m.name, type := m.returnType, modifiers := Modifiers.publicBit }) ++ added),
          s') ∧
      PicksNearest (scope.host.OffersMethod decl) (decl.fields.map (·.name)) picked ∧
      (outlook scope id).exec s = (.ok (true, descriptor), s') ∧
      ∀ m ∈ added, ∃ d, descriptor = some d ∧ m ∈ enrichedMembers d decl .field := by
  obtain ⟨methods, hmethods, hpicks⟩ := h.exists_bracketlessMethods decl
  have hnearest := hpicks (decl.fields.map (·.name))
  have hexec : (augment scope features id .field).exec s = _ :=
    exec_augment_of_outlook hrest hfree hdecl hkind hmethods
  -- Nothing is cancelled, so augmentation returns; that its answers about relevance did is part of
  -- this.
  obtain ⟨members, hmembers⟩ : ∃ members,
      ((augment scope features id .field).exec s).1 = .ok members :=
    (EntryPoint.augment features id .field).returns_of_not_cancels hcalm s
  rcases houtlook : (outlook scope id).exec s with ⟨out, s'⟩
  rw [hexec, houtlook] at hmembers
  cases out with
  | error e => cases hmembers
  | ok told =>
    obtain ⟨relevant, descriptor⟩ := told
    obtain rfl : relevant = true := relevant_of_exec_outlook hrelevant houtlook
    -- The fields for methods come first, so that none of them gives way to one of an enricher.
    obtain ⟨added, hadded, hfirst⟩ := firstByKey_signature_append bracketlessField .field
      (fun _ => rfl) (fun _ _ heq => Signature.field.inj heq) hnearest.nodup
      (descriptor.elim [] fun d => enrichedMembers d decl .field)
    have hcollected : membersOfOutlook features decl .field methods (true, descriptor) =
        (firstByKey Method.name (decl.fields.map (·.name)) methods).map bracketlessField ++
          descriptor.elim [] fun d => enrichedMembers d decl .field := by
      rw [membersOfOutlook, if_pos (by simp [hfeature])]
    refine ⟨_, added, descriptor, s', ?_, hnearest, rfl, fun m hm => ?_⟩
    · rw [hexec, houtlook]
      simp only [Except.map, hcollected, hfirst]
      rfl
    · have hm := hadded hm
      cases descriptor with
      | none => cases hm
      | some d => exact ⟨d, rfl, hm⟩

end Request

/-- A prototype. Its method without a result does not stand in the way of one in the supertype,
which extends the prototype in turn. -/
def Program.mirroredPrototype : Declaration :=
  { name := "FooPrototype", qualifiedName := some "com.x.FooPrototype", kind := .interfaceType
    file := ⟨0⟩, annotations := [⟨codePrototype, [], none⟩], extended := ["com.x.Base"]
    fields := [{ name := "title", type := .named "java.lang.String" }]
    methods := [{ name := "title", returnType := .named "java.lang.String" },
      { name := "count", returnType := .primitive .int },
      { name := "reset", returnType := .void }] }

def Program.mirroredBase : Declaration :=
  { name := "Base", qualifiedName := some "com.x.Base", kind := .interfaceType, file := ⟨0⟩
    extended := ["com.x.FooPrototype"]
    methods := [{ name := "reset", returnType := .primitive .boolean },
      { name := "count", returnType := .primitive .long }] }

/-- Two interfaces that extend each other. -/
def Program.mirrored : Program :=
  .ofDeclarations [{ path := "src/com/x/Foo.java" }] [mirroredPrototype, mirroredBase]

/-- The prototype gets a field for the count that it declares itself, and one for the `reset` of the
supertype. -/
theorem Request.augment_mirrors_nearest_mirrored :
    let scope := Program.mirrored.scope
    let s : Session := ⟨{}, {}⟩
    let decl := Program.mirroredPrototype
    (∀ q, ¬ scope.host.Cancels q) ∧ scope.host.Findable ∧ s.guards.depth = 0 ∧
      ⟨0⟩ ∉ s.guards.augmenting ∧ scope.host.declaration ⟨0⟩ = .ok decl ∧
      decl.isAnnotationType = false ∧ ({} : Features).bracketlessMethods = true ∧
      ((isRelevant scope ⟨0⟩).exec s).1 = .ok true ∧
      ∃ (picked : List Method) (added : List VirtualMember) (descriptor : Option Descriptor)
        (s' : Session),
        (augment scope {} ⟨0⟩ .field).exec s =
          (.ok (picked.map (fun m => .field
            { name := m.name, type := m.returnType, modifiers := Modifiers.publicBit }) ++ added),
            s') ∧
        PicksNearest (scope.host.OffersMethod decl) (decl.fields.map (·.name)) picked ∧
        (outlook scope ⟨0⟩).exec s = (.ok (true, descriptor), s') ∧
        (∀ m ∈ added, ∃ d, descriptor = some d ∧ m ∈ enrichedMembers d decl .field) ∧
        picked.map bracketlessField ++ added =
          [.field ⟨"count", .primitive .int, Modifiers.publicBit⟩,
            .field ⟨"reset", .primitive .boolean, Modifiers.publicBit⟩] := by
  intro scope s decl
  have hconsistent : Program.mirrored.Consistent := .ofDeclarations (by decide) (by decide)
  have hcalm : ∀ q, ¬ scope.host.Cancels q := fun q => hconsistent.not_cancels q
  have hfind : scope.host.Findable := hconsistent.healthy.findData_ok
  have hrelevant : ((isRelevant scope ⟨0⟩).exec s).1 = .ok true := rfl
  obtain ⟨picked, added, descriptor, s', hexec, hrest⟩ :=
    @augment_mirrors_nearest scope {} ⟨0⟩ decl s hcalm hfind rfl List.not_mem_nil rfl rfl rfl
      hrelevant
  -- The supertype leads back to the prototype, which is walked through once more and offers nothing
  -- new.
  have hwalk : scope.host.supertypeGraph.walk decl.supertypes = .ok
      ⟨false, [Program.mirroredBase, decl], ["com.x.FooPrototype", "com.x.Base"]⟩ := by
    have hbase : scope.host.supertypeGraph.expand "com.x.Base" =
        .ok (some (Program.mirroredBase, ["com.x.FooPrototype"])) := rfl
    have hdecl : scope.host.supertypeGraph.expand "com.x.FooPrototype" =
        .ok (some (decl, ["com.x.Base"])) := rfl
    have hstarts : decl.supertypes = ["com.x.Base"] := rfl
    simp [hstarts, Graph.walk, Graph.walkFrom_cons, Graph.walkFrom_of_mem, hbase, hdecl, Except.map]
  have hmethods : bracketlessMethods scope.host decl = .ok
      ((decl.methods ++ (Program.mirroredBase.methods ++ decl.methods)).filter isBracketless) := by
    rw [bracketlessMethods, methodsWithInherited, hwalk]
    rfl
  have hanswer : ((augment scope {} ⟨0⟩ .field).exec s).1 =
      .ok [.field ⟨"count", .primitive .int, Modifiers.publicBit⟩,
        .field ⟨"reset", .primitive .boolean, Modifiers.publicBit⟩] := by
    rw [exec_augment_of_outlook rfl List.not_mem_nil rfl rfl hmethods]
    rfl
  rw [hexec] at hanswer
  refine ⟨hcalm, hfind, rfl, List.not_mem_nil, rfl, rfl, rfl, hrelevant, picked, added, descriptor,
    s', hexec, hrest.1, hrest.2.1, hrest.2.2, Except.ok.inj hanswer⟩

end PrototypeLens
