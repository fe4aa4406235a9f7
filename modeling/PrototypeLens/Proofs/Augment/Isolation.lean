import PrototypeLens.Proofs.Augment.Repetition

/-!
# Merged members do not spread

Augmentation looks at other declarations in three ways: it takes the elements of annotation types
that are extended, the methods of supertypes, and the templates, prototypes and origins that lookups
find. None of them sees the members that were merged into those declarations. So what is added to a
declaration stays the same when members are merged into others, also if these others lead back to
it.

## Layers

- `Host.MergedBeside`: any number of merges into other declarations, in any order. They leave the
  declaration itself and what is written everywhere as they were.
- `Written`: what is read of other declarations is told by what is written there.

## Main results

- `Request.augment_congr`: augmentation reads one declaration with its merged members and all others
  without.
- The same members are added, and the same registry is left, whatever was merged beside.
-/

namespace PrototypeLens

/-! ## Merging into other declarations -/

/-- The second host is the first one after members, of whatever kind, were merged into declarations
other than one: into none, into several, or again into one that has merged members already. -/
inductive Host.MergedBeside (id : DeclId) (host : Host) : Host → Prop
  | refl : MergedBeside id host host
  | merge {host' : Host} {other : DeclId} (members : List VirtualMember) :
      MergedBeside id host host' → other ≠ id →
      MergedBeside id host (host'.mergeInto other members)

namespace Host

variable {host host' : Host} {id other : DeclId} {members : List VirtualMember}

theorem mergeInto_declaration_of_ne (h : other ≠ id) :
    (host.mergeInto other members).declaration id = host.declaration id := by
  simp only [mergeInto, if_neg h.symm]
  cases host.declaration id <;> rfl

theorem MergedBeside.declaration_eq (h : MergedBeside id host host') :
    host'.declaration id = host.declaration id := by
  -- Each merge goes into another declaration, so the induction on them carries the equation along.
  induction h with
  | refl => rfl
  | merge members _ hne ih => rw [mergeInto_declaration_of_ne hne, ih]

theorem MergedBeside.written_eq (h : MergedBeside id host host') :
    host'.written = host.written := by
  induction h with
  | refl => rfl
  | merge members _ _ ih => rw [written_mergeInto, ih]

end Host

/-! ## What augmentation reads of other declarations -/

section Written

variable {host host' : Host} (hwritten : host'.written = host.written)
include hwritten

theorem inheritedElements_congr (decl : Declaration) :
    inheritedElements host' decl = inheritedElements host decl := by
  -- Both hosts are compared by way of what is written in them, which is the same.
  have hinheritable : inheritable host' decl = inheritable host decl := by
    rw [← inheritable_written, hwritten, inheritable_written]
  rw [inheritedElements_eq, inheritedElements_eq, hinheritable]

theorem bracketlessFields_congr (decl : Declaration) :
    bracketlessFields host' decl = bracketlessFields host decl := by
  have hmethods : bracketlessMethods host' decl = bracketlessMethods host decl := by
    rw [← bracketlessMethods_written, hwritten, bracketlessMethods_written]
  rw [bracketlessFields_eq, bracketlessFields_eq, hmethods]

end Written

namespace Request

variable {scope scope' : Scope} {features : Features} {id : DeclId} {kind : MemberKind}

theorem isRelevant_congr (h : scope'.written = scope.written) (id : DeclId) :
    isRelevant scope' id = isRelevant scope id := by
  rw [← isRelevant_written, h, isRelevant_written]

theorem prototypeDataOf_congr (h : scope'.written = scope.written) (id : DeclId) :
    prototypeDataOf scope' id = prototypeDataOf scope id := by
  rw [← prototypeDataOf_written, h, prototypeDataOf_written]

theorem collectedMembers_congr (h : scope'.written = scope.written) (decl : Declaration) :
    collectedMembers scope' features id decl kind =
      collectedMembers scope features id decl kind := by
  -- Each part of what is collected reads the written hosts only.
  have hhost : scope'.host.written = scope.host.written := congrArg Scope.host h
  simp only [collectedMembers, inheritedMembers, bracketlessMembers_eq, membersOfEnrichers,
    inheritedElements_congr hhost, bracketlessFields_congr hhost, isRelevant_congr h,
    prototypeDataOf_congr h]

/-- Augmentation reads the declaration itself with all its members, and all other declarations
without those that were merged into them. -/
theorem augment_congr (hwritten : scope'.written = scope.written)
    (hdecl : scope'.host.declaration id = scope.host.declaration id) :
    augment scope' features id kind = augment scope features id kind := by
  simp only [augment_eq, hdecl, collectedMembers_congr hwritten]

/-- The same members are added to a declaration, from whatever registry, and the same registry is
left, whether or not members were merged into other declarations before. -/
theorem augment_mergedBeside {host host' : Host} (h : Host.MergedBeside id host host')
    (settings : DiscoverySettings) (features : Features) (kind : MemberKind) (s : Session) :
    (augment ⟨host', settings⟩ features id kind).exec s =
      (augment ⟨host, settings⟩ features id kind).exec s := by
  have hwritten : Scope.written ⟨host', settings⟩ = Scope.written ⟨host, settings⟩ :=
    congrArg (Scope.mk · settings) h.written_eq
  rw [augment_congr hwritten h.declaration_eq]

end Request

/-! ## Annotation types that lead back to each other -/

/-- What an annotation type inherits is added to it in a session in which nothing else goes on. -/
theorem Request.exec_augment_inherited {scope : Scope} {id : DeclId} {decl : Declaration}
    {elements : List VirtualMember} (hdecl : scope.host.declaration id = .ok decl)
    (hkind : decl.isAnnotationType = true) (hextended : decl.extended.isEmpty = false)
    (helements : inheritedElements scope.host decl = .ok elements)
    (hdistinct : firstByKey VirtualMember.signature [] elements = elements) (r : Registry) :
    (augment scope {} id .method).exec ⟨r, {}⟩ = (.ok elements, ⟨r, {}⟩) := by
  -- The only stage that adds anything to an annotation type is that of the inherited elements.
  have hcollected : collectedMembers scope {} id decl .method = guarded id (.ok elements) := by
    rw [collectedMembers, if_pos hkind, inheritedMembers, helements, hextended]
    rfl
  have hfound : contain none (some <$> Lookup.query (.ok decl)) = pure (some decl) := rfl
  have hadded : (firstByKey VirtualMember.signature [] <$> guarded id (.ok elements)).exec ⟨r, {}⟩ =
      (.ok (firstByKey VirtualMember.signature [] elements), ⟨r, {}⟩) := by
    rw [guarded_eq]
    rfl
  rw [hdistinct] at hadded
  rw [augment_eq, hdecl, hfound]
  simp only [pure_bind, hcollected]
  exact hadded

namespace Program

/-- The element `v` with a default. -/
def elementV (n : Int) : Method :=
  { name := "v", returnType := .primitive .int, defaultValue := some (.int n) }

/-- The element of the first annotation type. -/
def elementOwn : Method := { name := "own", returnType := .primitive .int }

/-- The first annotation type, which extends two others. -/
def annotationA : Declaration :=
  { name := "A", qualifiedName := some "a.A", kind := .annotationType, file := ⟨0⟩
    extended := ["a.B", "a.C"], methods := [elementOwn] }

def annotationB : Declaration :=
  { name := "B", qualifiedName := some "a.B", kind := .annotationType, file := ⟨0⟩
    extended := ["a.D"] }

def annotationC : Declaration :=
  { name := "C", qualifiedName := some "a.C", kind := .annotationType, file := ⟨0⟩
    methods := [elementV 1] }

def annotationD : Declaration :=
  { name := "D", qualifiedName := some "a.D", kind := .annotationType, file := ⟨0⟩
    extended := ["a.A"], methods := [elementV 2] }

/-- Annotation types of which the first one is led back to from the second one, by way of the last.
Its `v` is that of `a.C`, which is nearer than `a.D`. -/
def nearerElement : Program :=
  .ofDeclarations [{ path := "src/a/Model.java" }]
    [annotationA, annotationB, annotationC, annotationD]

/-- Where walks over these annotation types go, whatever was merged into them. -/
theorem walk_nearerElement (graph : Graph QueryError String Declaration) {a b c d : Declaration}
    (ha : graph.expand "a.A" = .ok (some (a, ["a.B", "a.C"])))
    (hb : graph.expand "a.B" = .ok (some (b, ["a.D"])))
    (hc : graph.expand "a.C" = .ok (some (c, [])))
    (hd : graph.expand "a.D" = .ok (some (d, ["a.A"]))) :
    graph.walk annotationA.extended =
        .ok ⟨false, [b, c, d, a], ["a.A", "a.D", "a.C", "a.B"]⟩ ∧
      graph.walk annotationB.extended =
        .ok ⟨false, [d, a, b, c], ["a.C", "a.B", "a.A", "a.D"]⟩ ∧
      graph.walk annotationD.extended =
        .ok ⟨false, [a, b, c, d], ["a.D", "a.C", "a.B", "a.A"]⟩ := by
  -- Each type is walked through once, and what is back at the start adds nothing.
  simp [annotationA, annotationB, annotationD, Graph.walk, Graph.walkFrom_cons,
    Graph.walkFrom_of_mem, ha, hb, hc, hd, Except.map]

end Program

/-- What is added to `a.D` is merged into it, and then what is added to `a.B`, a `v` among it. From
`a.B`, which comes before `a.C`, that `v` is not inherited again. -/
theorem Request.augment_mergedBeside_nearerElement :
    let host := Program.nearerElement.toHost
    let toD := [inheritedElement Program.elementOwn]
    let toB := [inheritedElement (Program.elementV 2), inheritedElement Program.elementOwn]
    let merged := (host.mergeInto ⟨3⟩ toD).mergeInto ⟨1⟩ toB
    (augment ⟨host, {}⟩ {} ⟨3⟩ .method).exec ⟨{}, {}⟩ = (.ok toD, ⟨{}, {}⟩) ∧
      (augment ⟨host.mergeInto ⟨3⟩ toD, {}⟩ {} ⟨1⟩ .method).exec ⟨{}, {}⟩ =
        (.ok toB, ⟨{}, {}⟩) ∧
      Host.MergedBeside ⟨0⟩ host merged ∧
      (augment ⟨merged, {}⟩ {} ⟨0⟩ .method).exec ⟨{}, {}⟩ =
        (augment ⟨host, {}⟩ {} ⟨0⟩ .method).exec ⟨{}, {}⟩ ∧
      (augment ⟨host, {}⟩ {} ⟨0⟩ .method).exec ⟨{}, {}⟩ =
        (.ok [inheritedElement (Program.elementV 1)], ⟨{}, {}⟩) := by
  intro host toD toB merged
  have hmerged : Host.MergedBeside ⟨0⟩ host merged :=
    .merge toB (.merge toD .refl (by decide)) (by decide)
  -- The elements that are found at a type itself are declared there, and are not inherited.
  obtain ⟨hwalkA, -, hwalkD⟩ :=
    Program.walk_nearerElement host.annotationTypeGraph rfl rfl rfl rfl
  obtain ⟨-, hwalkB, -⟩ :=
    Program.walk_nearerElement (host.mergeInto ⟨3⟩ toD).annotationTypeGraph rfl rfl rfl rfl
  have hinheritedD : inheritedElements host Program.annotationD = .ok toD := by
    rw [inheritedElements, hwalkD]
    rfl
  -- The elements that were merged into the last type are not inherited from it.
  have hinheritedB : inheritedElements (host.mergeInto ⟨3⟩ toD) Program.annotationB = .ok toB := by
    rw [inheritedElements, hwalkB]
    rfl
  have hinheritedA : inheritedElements host Program.annotationA =
      .ok [inheritedElement (Program.elementV 1)] := by
    rw [inheritedElements, hwalkA]
    rfl
  have htoD : (augment ⟨host, {}⟩ {} ⟨3⟩ .method).exec ⟨{}, {}⟩ = (.ok toD, ⟨{}, {}⟩) :=
    exec_augment_inherited rfl rfl rfl hinheritedD rfl {}
  have htoB : (augment ⟨host.mergeInto ⟨3⟩ toD, {}⟩ {} ⟨1⟩ .method).exec ⟨{}, {}⟩ =
      (.ok toB, ⟨{}, {}⟩) :=
    exec_augment_inherited rfl rfl rfl hinheritedB rfl {}
  have htoA : (augment ⟨host, {}⟩ {} ⟨0⟩ .method).exec ⟨{}, {}⟩ =
      (.ok [inheritedElement (Program.elementV 1)], ⟨{}, {}⟩) :=
    exec_augment_inherited rfl rfl rfl hinheritedA rfl {}
  exact ⟨htoD, htoB, hmerged, augment_mergedBeside hmerged {} {} .method ⟨{}, {}⟩, htoA⟩

end PrototypeLens
