import PrototypeLens.Proofs.Augment.Signature
import PrototypeLens.Proofs.Augment.Synthesis
import PrototypeLens.Proofs.Program.Checks

/-!
# Augmentation adds no member twice

The members that are added to a declaration differ in signature from those it has and from each
other, and belong to the category that was asked for. It does not matter how the registry came
about, nor which queries the host fails to answer: the tests that keep a member out look at the
declaration alone.

## Layers

- `VirtualMember.New`: a member of a category that the declaration does not have.
- What enrichers add and what other types give, one lemma for each way to come about.
- `SessionM.Returns`: what a computation returns, in whatever session. `returns_collectedMembers`
  goes through the stages of augmentation with it.

## Main results

- `new_of_mem_enrichedMembers`, `new_of_mem_inheritedElements` and `new_of_mem_bracketlessFields`:
  every member that is collected is new.
- What augmentation adds, from any session: new members only, no two of one signature.
-/

namespace PrototypeLens

/-- The category of a member. -/
def VirtualMember.kind : VirtualMember → MemberKind
  | .field _ => .field
  | .method _ | .constructor _ => .method

/-- A member of a category that a declaration does not have. -/
structure VirtualMember.New (decl : Declaration) (kind : MemberKind) (m : VirtualMember) :
    Prop where
  fresh : m.signature ∉ decl.signatures
  ofKind : m.kind = kind

/-! ## What enrichers add -/

section Enriched

variable {decl : Declaration} {e : Enricher} {f : Field} {m : VirtualMember}

/-- What is added unless it is there is new, if the test notices that its signature is taken. -/
theorem new_of_mem_unless {there : Bool} {n : VirtualMember}
    (h : m ∈ if there then [] else [n])
    (hpresent : n.signature ∈ decl.signatures → there = true) : m.New decl n.kind := by
  -- If the test is negative the member is added, and then its signature was free.
  cases there with
  | true => cases h
  | false =>
    rw [List.mem_singleton.1 h]
    exact ⟨fun htaken => Bool.false_ne_true (hpresent htaken), rfl⟩

theorem new_of_mem_addedField (h : m ∈ addedField decl e) : m.New decl .field :=
  new_of_mem_unless h fun htaken => by
    rw [Declaration.field?_isSome_iff.2 htaken, Bool.or_true]

theorem new_of_mem_addedMethod (h : m ∈ addedMethod decl e) : m.New decl .method :=
  new_of_mem_unless h fun htaken => by
    rw [Declaration.similarMethod_of_signature htaken, Bool.or_true]

theorem new_of_mem_addedConstructor (h : m ∈ addedConstructor decl e) : m.New decl .method :=
  new_of_mem_unless h Declaration.similarConstructor_of_signature

theorem new_of_mem_addedGetter (h : m ∈ addedGetter decl f) : m.New decl .method :=
  new_of_mem_unless h Declaration.getter_of_signature

theorem new_of_mem_addedSetter (h : m ∈ addedSetter decl f) : m.New decl .method :=
  new_of_mem_unless h fun htaken => by
    rw [Declaration.setter_of_signature htaken, Bool.or_true]

theorem new_of_mem_addedMembers {adds : Augment} (h : m ∈ addedMembers decl e adds) :
    m.New decl adds.memberKind := by
  -- Getters and setters are added for each field of the declaration.
  cases adds with
  | field => exact new_of_mem_addedField h
  | method => exact new_of_mem_addedMethod h
  | constructor => exact new_of_mem_addedConstructor h
  | getter =>
    obtain ⟨_, hmem, h⟩ := List.mem_flatten.1 h
    obtain ⟨f, _, rfl⟩ := List.mem_map.1 hmem
    exact new_of_mem_addedGetter h
  | setter =>
    obtain ⟨_, hmem, h⟩ := List.mem_flatten.1 h
    obtain ⟨f, _, rfl⟩ := List.mem_map.1 hmem
    exact new_of_mem_addedSetter h

theorem new_of_mem_enrichedMembers {d : Descriptor} {kind : MemberKind}
    (h : m ∈ enrichedMembers d decl kind) : m.New decl kind := by
  obtain ⟨_, hmem, h⟩ := List.mem_flatten.1 h
  obtain ⟨e, _, rfl⟩ := List.mem_map.1 hmem
  rw [addedOfKind] at h
  split at h
  · -- An enricher adds members only where its category is the one that was asked for.
    split at h
    · rename_i hkind
      exact hkind ▸ new_of_mem_addedMembers h
    · cases h
  · cases h

end Enriched

/-! ## What other types give -/

section Inherited

variable {host : Host} {decl : Declaration} {members : List VirtualMember} {m : VirtualMember}

/-- An element is inherited only if there is no method of its name, whatever its parameters. -/
theorem new_of_mem_inheritedElements (h : inheritedElements host decl = .ok members)
    (hm : m ∈ members) : m.New decl .method := by
  -- If the walk fails nothing is returned; otherwise what was taken by name is left out.
  rw [inheritedElements] at h
  cases hwalk : host.annotationTypeGraph.walk decl.extended with
  | error e =>
    rw [hwalk] at h
    cases h
  | ok journey =>
    rw [hwalk] at h
    cases h
    obtain ⟨element, helement, rfl⟩ := List.mem_map.1 hm
    refine ⟨fun htaken => key_not_mem_of_mem_firstByKey helement ?_, rfl⟩
    obtain ⟨old, hold, hname, _⟩ := Declaration.method_mem_signatures.1 htaken
    exact List.mem_map.2 ⟨old, hold, hname⟩

theorem new_of_mem_bracketlessFields (h : bracketlessFields host decl = .ok members)
    (hm : m ∈ members) : m.New decl .field := by
  rw [bracketlessFields] at h
  cases hmethods : methodsWithInherited host decl with
  | error e =>
    rw [hmethods] at h
    cases h
  | ok methods =>
    rw [hmethods] at h
    cases h
    obtain ⟨method, hmethod, rfl⟩ := List.mem_map.1 hm
    refine ⟨fun htaken => key_not_mem_of_mem_firstByKey hmethod ?_, rfl⟩
    obtain ⟨old, hold, hname⟩ := Declaration.field_mem_signatures.1 htaken
    exact List.mem_map.2 ⟨old, hold, hname⟩

end Inherited

/-! ## Results of computations -/

namespace SessionM

variable {ε α β : Type} {m : SessionM ε α} {f : α → SessionM ε β} {P : α → Prop} {Q : β → Prop}

/-- Whatever a computation returns, in any session, has a property. -/
def Returns (m : SessionM ε α) (P : α → Prop) : Prop :=
  ∀ s s' a, m.exec s = (.ok a, s') → P a

theorem returns_pure {a : α} (h : P a) : (pure a : SessionM ε α).Returns P := by
  intro s s' b hexec
  cases hexec
  exact h

theorem returns_trivial (m : SessionM ε α) : m.Returns fun _ => True :=
  fun _ _ _ _ => trivial

theorem Returns.bind (h : m.Returns P) (hf : ∀ a, P a → (f a).Returns Q) : (m >>= f).Returns Q := by
  intro s s' b hexec
  rw [exec_bind] at hexec
  rcases hm : m.exec s with ⟨out, s₁⟩
  rw [hm] at hexec
  cases out with
  | ok a => exact hf a (h s s₁ a hm) s₁ s' b hexec
  | error e => cases hexec

theorem Returns.map {f : α → β} (h : m.Returns P) (hf : ∀ a, P a → Q (f a)) :
    (f <$> m).Returns Q := by
  rw [← bind_pure_comp]
  exact h.bind fun a ha => returns_pure (hf a ha)

end SessionM

namespace Request

open SessionM

variable {α : Type} {scope : Scope} {features : Features} {id : DeclId} {decl : Declaration}
  {kind : MemberKind}

/-- A query that is contained returns its answer, or nothing. -/
theorem returns_contain_query {nothing : α} {result : Except QueryError α} {P : α → Prop}
    (hnothing : P nothing) (hanswer : ∀ a, result = .ok a → P a) :
    (contain nothing (Lookup.query result)).Returns P := by
  intro s s' a hexec
  cases result with
  | ok b =>
    cases hexec
    exact hanswer a rfl
  | error e =>
    have hfailed : (contain nothing (Lookup.query (.error e : Except QueryError α))).exec s =
        (contained nothing (.error (.query e)), s) := rfl
    rw [hfailed, contained] at hexec
    split at hexec
    · cases hexec
    · cases hexec
      exact hnothing

theorem returns_guarded {members : Except QueryError (List VirtualMember)}
    (h : ∀ ms, members = .ok ms → ∀ m ∈ ms, m.New decl kind) :
    (guarded id members).Returns fun ms => ∀ m ∈ ms, m.New decl kind := by
  rw [guarded_eq]
  refine (returns_trivial _).bind fun busy _ => ?_
  split
  · exact returns_pure (by simp)
  · exact returns_contain_query (by simp) h

theorem returns_inheritedMembers :
    (inheritedMembers scope features id decl kind).Returns fun ms => ∀ m ∈ ms, m.New decl kind := by
  rw [inheritedMembers]
  split
  · rename_i hasked
    obtain ⟨⟨rfl, _⟩, _⟩ : (kind = .method ∧ _) ∧ _ := by simpa using hasked
    exact returns_guarded fun ms hms m hm => new_of_mem_inheritedElements hms hm
  · exact returns_pure (by simp)

theorem returns_bracketlessMembers :
    (bracketlessMembers scope features id decl kind).Returns
      fun ms => ∀ m ∈ ms, m.New decl kind := by
  rw [bracketlessMembers_eq]
  refine (returns_trivial _).bind fun relevant _ => ?_
  split
  · rename_i hasked
    obtain ⟨⟨_, rfl⟩, _⟩ : (relevant = true ∧ kind = .field) ∧ _ := by simpa using hasked
    exact returns_guarded fun ms hms m hm => new_of_mem_bracketlessFields hms hm
  · exact returns_pure (by simp)

theorem returns_membersOfEnrichers :
    (membersOfEnrichers scope id decl kind).Returns fun ms => ∀ m ∈ ms, m.New decl kind := by
  refine (returns_trivial _).bind fun found _ => ?_
  cases found with
  | some descriptor => exact returns_pure fun m hm => new_of_mem_enrichedMembers hm
  | none => exact returns_pure (by simp)

theorem returns_collectedMembers :
    (collectedMembers scope features id decl kind).Returns fun ms => ∀ m ∈ ms, m.New decl kind := by
  rw [collectedMembers]
  split
  · exact returns_inheritedMembers
  · refine returns_bracketlessMembers.bind fun bracketless hbracketless =>
      returns_membersOfEnrichers.bind fun enriched henriched => returns_pure fun m hm => ?_
    exact (List.mem_append.1 hm).elim (hbracketless m) (henriched m)

theorem returns_contain_declaration :
    (contain none (some <$> Lookup.query (scope.host.declaration id))).Returns
      fun found => ∀ decl, found = some decl → scope.host.declaration id = .ok decl := by
  have hquery : (some <$> Lookup.query (scope.host.declaration id) : Lookup _) =
      Lookup.query (some <$> scope.host.declaration id) := by
    cases scope.host.declaration id <;> rfl
  rw [hquery]
  refine returns_contain_query (by simp) fun found hfound decl hdecl => ?_
  subst hdecl
  cases hid : scope.host.declaration id with
  | ok decl' =>
    rw [hid] at hfound
    cases hfound
    rfl
  | error e =>
    rw [hid] at hfound
    cases hfound

end Request

/-! ## Augmentation -/

open SessionM in
/-- Augmentation adds only members that the declaration does not have, no two of one signature, and
all of the category that was asked for. -/
theorem Request.augment_distinct {scope : Scope} {features : Features} {id : DeclId}
    {kind : MemberKind} {s s' : Session} {members : List VirtualMember}
    (h : (Request.augment scope features id kind).exec s = (.ok members, s')) :
    (∀ m ∈ members, ∃ decl, scope.host.declaration id = .ok decl ∧
      m.signature ∉ decl.signatures) ∧
    (members.map VirtualMember.signature).Nodup ∧ ∀ m ∈ members, m.kind = kind := by
  -- Which declaration it was is not known before the session has answered, so both facts are
  -- carried along the run together.
  suffices hreturns : (Request.augment scope features id kind).Returns fun members =>
      (members.map VirtualMember.signature).Nodup ∧
        ∀ m ∈ members, ∃ decl, scope.host.declaration id = .ok decl ∧ m.New decl kind by
    obtain ⟨hnodup, hnew⟩ := hreturns s s' members h
    refine ⟨fun m hm => ?_, hnodup, fun m hm => ?_⟩
    · obtain ⟨decl, hdecl, hnew⟩ := hnew m hm
      exact ⟨decl, hdecl, hnew.fresh⟩
    · obtain ⟨decl, _, hnew⟩ := hnew m hm
      exact hnew.ofKind
  rw [augment_eq]
  refine (returns_trivial _).bind fun busy _ => ?_
  split
  · exact returns_pure ⟨.nil, by simp⟩
  · refine returns_contain_declaration.bind fun found hfound => ?_
    cases found with
    | none => exact returns_pure ⟨.nil, by simp⟩
    | some decl =>
      -- Leaving out what came before makes the signatures distinct and keeps every member new.
      refine returns_collectedMembers.map fun ms hms => ⟨nodup_firstByKey, fun m hm => ?_⟩
      exact ⟨decl, hfound decl rfl, hms m (mem_of_mem_firstByKey hm)⟩

/-- A class that declares an enricher with some attributes. -/
def Program.enricherClass (name : String) (attrs : List (Attr AttrValue)) : Declaration where
  name
  qualifiedName := some ("e." ++ name)
  kind := .classType
  file := ⟨0⟩
  annotations := [{ name := Enricher.augmentAnnotationName, attrs }]

/-- A prototype with a field and a method, for which getters are asked and a fluent method that
takes what the methods return. -/
def Program.fluentPrototype : Program :=
  .ofDeclarations [{ path := "src/com/x/FooPrototype.java" }]
    [enricherClass "With"
       [⟨"adds", .enumConstant "AugmentType" "METHOD", none⟩, ⟨"name", .text "with", none⟩,
        ⟨"type", .text "com.x.Foo", none⟩,
        ⟨"parameters", .nested ⟨"CodeAugmentParameters", [⟨"filter", .text "METHODS", none⟩], none⟩,
          none⟩],
     enricherClass "Getters" [⟨"adds", .enumConstant "AugmentType" "GETTER", none⟩],
     { name := "FooPrototype", qualifiedName := some "com.x.FooPrototype", kind := .interfaceType
       file := ⟨0⟩
       annotations := [⟨codePrototype,
         [⟨"enrichers", .array [.classLiteral "e.With", .classLiteral "e.Getters"], none⟩], none⟩]
       fields := [{ name := "count", type := .primitive .int }]
       methods := [{ name := "name", returnType := .named "java.lang.String" }] }]

/-- The methods that are added to it. -/
def Program.fluentMethods : List VirtualMember :=
  [.method
    { name := "with", returnType := .named "com.x.Foo"
      params := [⟨"name", .named "java.lang.String"⟩], modifiers := Modifiers.publicBit },
   .method
    { name := "getCount", returnType := .primitive .int, params := []
      modifiers := Modifiers.publicBit }]

/-- The session after the methods of the prototype were asked for. -/
def Program.afterFluentMethods : Session :=
  ((Request.augment fluentPrototype.scope {} ⟨2⟩ .method).exec ⟨{}, {}⟩).2

theorem Program.augment_fluentPrototype :
    (Request.augment fluentPrototype.scope {} ⟨2⟩ .method).exec ⟨{}, {}⟩ =
      (.ok fluentMethods, afterFluentMethods) := by
  have hmembers : ((Request.augment fluentPrototype.scope {} ⟨2⟩ .method).exec ⟨{}, {}⟩).1 =
      .ok fluentMethods := rfl
  rw [← hmembers, afterFluentMethods]

theorem Request.augment_distinct_fluentPrototype :
    let scope := Program.fluentPrototype.scope
    (augment scope {} ⟨2⟩ .method).exec ⟨{}, {}⟩ =
        (.ok Program.fluentMethods, Program.afterFluentMethods) ∧
      (∀ m ∈ Program.fluentMethods, ∃ decl, scope.host.declaration ⟨2⟩ = .ok decl ∧
        m.signature ∉ decl.signatures) ∧
      (Program.fluentMethods.map VirtualMember.signature).Nodup ∧
      ∀ m ∈ Program.fluentMethods, m.kind = .method :=
  ⟨Program.augment_fluentPrototype, augment_distinct Program.augment_fluentPrototype⟩

end PrototypeLens
