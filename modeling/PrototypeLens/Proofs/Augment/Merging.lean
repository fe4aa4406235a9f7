import PrototypeLens.Proofs.Augment.Growth
import PrototypeLens.Proofs.Session.Asking

/-!
# Augmenting a declaration again

What augmentation adds to a declaration into which the members were merged that it added before.
Lookups do not see merged members, so that the answers about the declaration are the same; and a
member whose signature is there is not added again. What is left comes from the enrichers that
select their parameters among the methods, merged ones included.

## Layers

- `Host.mergeInto`: a host with members merged into one declaration. What is written stays the same.
- `inheritable` and `bracketlessMethods`: the methods that walks find. They are told by the written
  host, so that merging leaves them alone.
- `membersOfElements` and `membersOfOutlook`: what is collected, told by those methods and by the
  answers of the registry, which are passed in.
- `Declaration.augmented`: the declaration after all that was collected.

## Main results

- `membersOfElements_augmented`: inherited elements are not inherited again.
- `membersOfOutlook_augmented`: of the rest, only the enrichers may add more.
- `enrichedMembers_augmented_eq_nil_iff`: whether they do is up to those that take methods.
-/

namespace PrototypeLens

/-! ## Merging into a host -/

/-- A host after members were merged into one of its declarations. -/
def Host.mergeInto (host : Host) (id : DeclId) (members : List VirtualMember) : Host where
  find := host.find
  declaration other := (host.declaration other).map fun decl =>
    if other = id then decl.merge members else decl
  file := host.file
  declarationsIn := host.declarationsIn
  classpath := host.classpath
  archiveAt := host.archiveAt
  names := host.names
  ids := host.ids
  mem_names := host.mem_names
  mem_ids {other decl} h := by
    cases hdecl : host.declaration other with
    | ok decl' => exact host.mem_ids hdecl
    | error e =>
      rw [hdecl] at h
      cases h

/-- The scope with a host after members were merged into one of its declarations. -/
def Scope.mergeInto (scope : Scope) (id : DeclId) (members : List VirtualMember) : Scope :=
  ⟨scope.host.mergeInto id members, scope.settings⟩

namespace Host

variable {host : Host} {id : DeclId} {members : List VirtualMember} {decl : Declaration}

theorem mergeInto_declaration (h : host.declaration id = .ok decl) :
    (host.mergeInto id members).declaration id = .ok (decl.merge members) := by
  simp only [mergeInto, h, Except.map, if_pos]

/-- Merged members are not written. -/
theorem written_mergeInto (host : Host) (id : DeclId) (members : List VirtualMember) :
    (host.mergeInto id members).written = host.written := by
  -- Merging changes the members of one declaration, and none of them is written.
  have hdecl (other : DeclId) : ((host.mergeInto id members).declaration other).map
      Declaration.written = (host.declaration other).map Declaration.written := by
    simp only [mergeInto]
    cases host.declaration other with
    | error e => rfl
    | ok decl =>
      simp only [Except.map]
      split
      · rw [Declaration.written_merge]
      · rfl
  simp only [written, hdecl]
  rfl

end Host

theorem Scope.written_mergeInto (scope : Scope) (id : DeclId) (members : List VirtualMember) :
    (scope.mergeInto id members).written = scope.written := by
  rw [written, mergeInto, Host.written_mergeInto, written]

/-! ## Walks past merged members -/

namespace Host

variable {host : Host}

theorem mapsTo_typeGraph_written (host : Host) {neighbours : Declaration → Option (List String)}
    (h : ∀ d, neighbours d.written = neighbours d) :
    (host.typeGraph neighbours).MapsTo Declaration.written (host.written.typeGraph neighbours) := by
  -- A graph of types asks the host for one name at a time.
  intro name
  simp only [typeGraph, findData_written]
  cases host.findData name with
  | error e => rfl
  | ok entry =>
    cases entry with
    | none => rfl
    | some entry =>
      simp only [Except.map, Option.map_some, Option.bind_some, h]
      cases neighbours entry.2 <;> rfl

end Host

/-! ## The methods that are looked at -/

section Methods

variable {host : Host} {decl : Declaration}

/-- A test that only methods in the source pass finds the same among them. -/
theorem filter_methods_written {p : Method → Bool}
    (hp : ∀ m, p m = true → m.origin.isAugmented = false) (decl : Declaration) :
    decl.written.methods.filter p = decl.methods.filter p := by
  rw [Declaration.written, List.filter_filter]
  refine List.filter_congr fun m _ => ?_
  -- What does not pass the test is left out on both sides; what passes it is written.
  cases hm : p m with
  | false => rfl
  | true => simp [hp m hm]

theorem filter_found_written {p : Method → Bool}
    (hp : ∀ m, p m = true → m.origin.isAugmented = false) (found : List Declaration) :
    (((found.map Declaration.written).map (·.methods)).flatten).filter p =
      ((found.map (·.methods)).flatten).filter p := by
  simp only [List.filter_flatten, List.map_map]
  congr 1
  exact List.map_congr_left fun d _ => filter_methods_written hp d

/-- The elements that an annotation type may inherit. -/
def inheritable (host : Host) (decl : Declaration) : Except QueryError (List Method) :=
  (host.annotationTypeGraph.walk decl.extended).map fun journey =>
    (journey.found.map (·.methods)).flatten.filter (!·.origin.isAugmented)

theorem inheritedElements_eq (host : Host) (decl : Declaration) :
    inheritedElements host decl = (inheritable host decl).map fun elements =>
      (firstByKey Method.name (decl.methods.map (·.name)) elements).map inheritedElement := by
  rw [inheritedElements, inheritable]
  cases host.annotationTypeGraph.walk decl.extended <;> rfl

theorem inheritable_written (host : Host) (decl : Declaration) :
    inheritable host.written decl.written = inheritable host decl := by
  have hmaps : host.annotationTypeGraph.MapsTo Declaration.written
      host.written.annotationTypeGraph := host.mapsTo_typeGraph_written fun _ => rfl
  -- The walk is the one through the written host, with every declaration as it is written.
  rw [inheritable, inheritable, Graph.walk_map hmaps]
  show (Except.map _ (host.annotationTypeGraph.walk decl.extended)).map _ = _
  cases host.annotationTypeGraph.walk decl.extended with
  | error e => rfl
  | ok journey =>
    simp only [Except.map]
    rw [filter_found_written (by simp) journey.found]

theorem inheritable_mergeInto (host : Host) (id : DeclId) (decl : Declaration)
    (members : List VirtualMember) :
    inheritable (host.mergeInto id members) (decl.merge members) = inheritable host decl := by
  rw [← inheritable_written, Host.written_mergeInto, Declaration.written_merge,
    inheritable_written]

/-- The methods that fields may stand for. -/
def bracketlessMethods (host : Host) (decl : Declaration) : Except QueryError (List Method) :=
  (methodsWithInherited host decl).map (List.filter isBracketless)

theorem bracketlessFields_eq (host : Host) (decl : Declaration) :
    bracketlessFields host decl = (bracketlessMethods host decl).map fun methods =>
      (firstByKey Method.name (decl.fields.map (·.name)) methods).map bracketlessField := by
  rw [bracketlessFields, bracketlessMethods]
  cases methodsWithInherited host decl <;> rfl

theorem bracketlessMethods_written (host : Host) (decl : Declaration) :
    bracketlessMethods host.written decl.written = bracketlessMethods host decl := by
  have hmaps : host.supertypeGraph.MapsTo Declaration.written host.written.supertypeGraph :=
    host.mapsTo_typeGraph_written fun _ => rfl
  have hwritten (m : Method) (hm : isBracketless m = true) : m.origin.isAugmented = false := by
    simp only [isBracketless, Bool.and_eq_true, Bool.not_eq_true'] at hm
    exact hm.2
  rw [bracketlessMethods, bracketlessMethods, methodsWithInherited, methodsWithInherited,
    Graph.walk_map hmaps]
  show ((Except.map _ (host.supertypeGraph.walk decl.supertypes)).map _).map _ = _
  cases host.supertypeGraph.walk decl.supertypes with
  | error e => rfl
  | ok journey =>
    simp only [Except.map, List.filter_append, filter_methods_written hwritten,
      filter_found_written hwritten]

theorem bracketlessMethods_mergeInto (host : Host) (id : DeclId) (decl : Declaration)
    (members : List VirtualMember) :
    bracketlessMethods (host.mergeInto id members) (decl.merge members) =
      bracketlessMethods host decl := by
  rw [← bracketlessMethods_written, Host.written_mergeInto, Declaration.written_merge,
    bracketlessMethods_written]

end Methods

/-! ## What is collected -/

section Collected

variable {features : Features} {decl : Declaration} {kind : MemberKind} {methods : List Method}

/-- What is collected for an annotation type that may inherit some elements. -/
def membersOfElements (features : Features) (decl : Declaration) (kind : MemberKind)
    (elements : List Method) : List VirtualMember :=
  if kind = .method && features.annotationInheritance && !decl.extended.isEmpty then
    (firstByKey Method.name (decl.methods.map (·.name)) elements).map inheritedElement
  else []

/-- What is collected for another declaration: of the fields that may stand for some methods if it
is relevant, and by the enrichers of its prototype. -/
def membersOfOutlook (features : Features) (decl : Declaration) (kind : MemberKind)
    (methods : List Method) (outlook : Bool × Option Descriptor) : List VirtualMember :=
  (if outlook.1 && kind = .field && features.bracketlessMethods then
    (firstByKey Method.name (decl.fields.map (·.name)) methods).map bracketlessField
  else []) ++ outlook.2.elim [] fun descriptor => enrichedMembers descriptor decl kind

/-- The declaration after all that is collected was added to it, one member of each signature. -/
def Declaration.augmented (decl : Declaration) (collected : List VirtualMember) : Declaration :=
  decl.merge (firstByKey VirtualMember.signature [] collected)

theorem grows_augmented (decl : Declaration) (collected : List VirtualMember) :
    decl.Grows (decl.augmented collected) :=
  decl.grows_merge _

theorem signature_mem_augmented (decl : Declaration) {collected : List VirtualMember}
    {m : VirtualMember} (hm : m ∈ collected) :
    m.signature ∈ (decl.augmented collected).signatures := by
  -- Of each signature that was collected one member was merged.
  rcases key_mem_firstByKey VirtualMember.signature [] hm with hnever | hmem
  · cases hnever
  · obtain ⟨n, hn, hsame⟩ := List.mem_map.1 hmem
    exact hsame ▸ decl.signature_mem_merge hn

/-- Only members change. -/
theorem augmented_extended (decl : Declaration) (collected : List VirtualMember) :
    (decl.augmented collected).extended = decl.extended := by
  show (decl.augmented collected).written.extended = decl.written.extended
  rw [Declaration.augmented, Declaration.written_merge]

/-- Inherited elements are not inherited again. -/
theorem membersOfElements_augmented (features : Features) (decl : Declaration) (kind : MemberKind)
    (elements : List Method) :
    membersOfElements features (decl.augmented (membersOfElements features decl kind elements)) kind
      elements = [] := by
  rw [membersOfElements, augmented_extended]
  split
  · rename_i hasked
    rw [membersOfElements, if_pos hasked, List.map_eq_nil_iff]
    refine firstByKey_eq_nil_of_added
      (List.map_subset _ (grows_augmented decl _).methods) fun element helement => ?_
    -- An element that is not taken was merged, and so there is a method of its name now.
    have hmem := signature_mem_augmented decl (List.mem_map_of_mem (f := inheritedElement) helement)
    obtain ⟨m, hm, hname, _⟩ := Declaration.method_mem_signatures.1 hmem
    exact List.mem_map.2 ⟨m, hm, hname⟩
  · rfl

/-- Once everything was added that is collected, only the enrichers add more that take methods as
parameters. -/
theorem membersOfOutlook_augmented {outlook : Bool × Option Descriptor}
    {collected : List VirtualMember}
    (hcollected : collected = membersOfOutlook features decl kind methods outlook) :
    membersOfOutlook features (decl.augmented collected) kind methods outlook =
      outlook.2.elim [] fun descriptor =>
        enrichedMembers descriptor (decl.augmented collected) kind := by
  have hbracketless : (if outlook.1 && kind = .field && features.bracketlessMethods then
      (firstByKey Method.name ((decl.augmented collected).fields.map (·.name)) methods).map
        bracketlessField
      else []) = [] := by
    -- Every name that was free before belongs to a field that was merged.
    split
    · rename_i hasked
      rw [List.map_eq_nil_iff]
      refine firstByKey_eq_nil_of_added
        (List.map_subset _ (grows_augmented decl collected).fields) fun method hmethod => ?_
      have hfield : bracketlessField method ∈ collected := by
        rw [hcollected, membersOfOutlook, if_pos hasked]
        exact List.mem_append_left _ (List.mem_map_of_mem hmethod)
      obtain ⟨f, hf, hname⟩ :=
        Declaration.field_mem_signatures.1 (signature_mem_augmented decl hfield)
      exact List.mem_map.2 ⟨f, hf, hname⟩
    · rfl
  rw [membersOfOutlook, hbracketless, List.nil_append]

theorem kind_of_mem_membersOfOutlook {outlook : Bool × Option Descriptor} {m : VirtualMember}
    (hm : m ∈ membersOfOutlook features decl kind methods outlook) : m.kind = kind := by
  rcases List.mem_append.1 hm with hfield | hadded
  · split at hfield
    · rename_i hasked
      obtain ⟨b, _, rfl⟩ := List.mem_map.1 hfield
      obtain ⟨⟨_, hkind⟩, _⟩ : (outlook.1 = true ∧ kind = .field) ∧ _ := by simpa using hasked
      exact hkind.symm
    · cases hfield
  · cases hdescriptor : outlook.2 with
    | none =>
      rw [hdescriptor] at hadded
      cases hadded
    | some descriptor =>
      rw [hdescriptor] at hadded
      exact (new_of_mem_enrichedMembers hadded).ofKind

/-- An enricher adds nothing more, unless it takes methods and its parameters have changed. -/
theorem addedOfKind_augmented {outlook : Bool × Option Descriptor} {descriptor : Descriptor}
    (hdescriptor : outlook.2 = some descriptor) {collected : List VirtualMember}
    (hcollected : collected = membersOfOutlook features decl kind methods outlook) {e : Enricher}
    (he : e ∈ descriptor.enrichers)
    (hparams : e.TakesMethods → e.parametersFor (decl.augmented collected) = e.parametersFor decl) :
    addedOfKind (decl.augmented collected) kind e = [] := by
  have hgrows := grows_augmented decl collected
  refine addedOfKind_eq_nil hgrows (fun hmethod => ?_) hparams fun m hm => ?_
  · -- Where methods were asked for, no field was collected.
    refine decl.merge_fields fun m hm => ?_
    have hkind := kind_of_mem_membersOfOutlook (hcollected ▸ mem_of_mem_firstByKey hm)
    rw [hkind, hmethod]
  · refine signature_mem_augmented decl ?_
    rw [hcollected, membersOfOutlook, hdescriptor]
    refine List.mem_append_right _ (List.mem_flatten.2 ⟨_, List.mem_map.2 ⟨e, he, rfl⟩, hm⟩)

/-- Whether the enrichers add anything more is up to those that take methods. -/
theorem enrichedMembers_augmented_eq_nil_iff {outlook : Bool × Option Descriptor}
    {descriptor : Descriptor} (hdescriptor : outlook.2 = some descriptor)
    {collected : List VirtualMember}
    (hcollected : collected = membersOfOutlook features decl kind methods outlook) :
    enrichedMembers descriptor (decl.augmented collected) kind = [] ↔
      ∀ e ∈ descriptor.enrichers, e.TakesMethods →
        addedOfKind (decl.augmented collected) kind e = [] := by
  rw [enrichedMembers, List.flatten_eq_nil_iff, List.forall_mem_map]
  refine forall₂_congr fun e he => ⟨fun hnil _ => hnil, fun hnil => ?_⟩
  -- What the others added is not added again, whatever the declaration has now.
  by_cases htakes : e.TakesMethods
  · exact hnil htakes
  · exact addedOfKind_augmented hdescriptor hcollected he fun h => absurd h htakes

end Collected

end PrototypeLens
