import PrototypeLens.Proofs.Augment.Repetition
import PrototypeLens.Proofs.Cancellation.EntryPoints

/-!
# What enrichers ask for

The members that the enrichers of a prototype ask for, by their signatures. Each one is met by a
member that the declaration has or that augmentation adds, except where a method or a constructor is
asked for and a member looks the same in an editor: then it is taken for the one that is asked for,
though its parameters may be of other types.

## Layers

- `Enricher.requests`: the signatures that an enricher asks for, by the kind of what it adds.
- The tests: `Declaration.shows_method_iff` and `Declaration.shows_constructor_iff` say that methods
  and constructors are compared by how they look.
- `request_met` and `request_of_mem_addedMembers`: what one enricher adds, against its requests.
- `collected_of_exec`: what a run of augmentation returned, against what the enrichers add.

## Main results

- `Descriptor.Overlooks`: a request that is taken for one that looks the same.
- `enriched_met_iff`: a request is met exactly if it is not overlooked.
- The same for what augmentation returns, which it does wherever the host cancels nothing.
-/

namespace PrototypeLens

/-! ## Requests -/

/-- The signatures that an enricher asks for. -/
def Enricher.requests (e : Enricher) (decl : Declaration) : Augment → List Signature
  | .field => if e.isNamed then [.field e.name] else []
  | .method => if e.isNamed then [.method e.name (paramTypes (e.parametersFor decl))] else []
  | .constructor => [.constructor (paramTypes (e.parametersFor decl))]
  | .getter => decl.fields.map fun f => .method (getterName f.name f.type) []
  | .setter => (decl.fields.filter (!·.isStatic)).map fun f =>
      .method (setterName f.name) [f.type.canonicalText]

/-- A signature as an editor shows it, with the simple names of the parameter types. -/
def Signature.displayed : Signature → Signature
  | .field name => .field name
  | .method name types => .method name (types.map Text.simpleName)
  | .constructor types => .constructor (types.map Text.simpleName)

/-- The declaration has a member that looks as if it had the signature. -/
def Declaration.Shows (decl : Declaration) (sig : Signature) : Prop :=
  ∃ taken ∈ decl.signatures, taken.displayed = sig.displayed

/-- An enricher of the descriptor asks for setters, and so for a method of the signature. -/
def Descriptor.AsksSetter (d : Descriptor) (decl : Declaration) (sig : Signature) : Prop :=
  ∃ e ∈ d.enrichers, e.adds = some .setter ∧ sig ∈ e.requests decl .setter

/-- A method or a constructor that is asked for is taken for one that looks the same: no member has
its signature, and no setter that is added has it either. -/
structure Descriptor.Overlooks (d : Descriptor) (decl : Declaration) (adds : Augment)
    (sig : Signature) : Prop where
  compared : adds = .method ∨ adds = .constructor
  shown : decl.Shows sig
  absent : sig ∉ decl.signatures
  no_setter : ¬ d.AsksSetter decl sig

/-! ## The tests for what is there -/

section Tests

variable {decl : Declaration} {e : Enricher} {f : Field} {sig : Signature} {name : String}
  {ps : List Parameter}

theorem sameParameters_iff {ps qs : List Parameter} : sameParameters ps qs = true ↔
    (paramTypes ps).map Text.simpleName = (paramTypes qs).map Text.simpleName := by
  rw [sameParameters, paramTypes_eq_map, paramTypes_eq_map, beq_iff_eq]

theorem Declaration.shows_method_iff : decl.Shows (.method name (paramTypes ps)) ↔
    (decl.methodsNamed name).any (fun m => sameParameters m.params ps) = true := by
  simp only [List.any_eq_true, mem_methodsNamed, sameParameters_iff]
  constructor
  · -- A signature of another kind does not look like that of a method.
    rintro ⟨taken, htaken, hshown⟩
    cases taken with
    | field other => cases hshown
    | constructor types => cases hshown
    | method other types =>
      obtain ⟨m, hm, rfl, rfl⟩ := method_mem_signatures.1 htaken
      obtain ⟨hname, htypes⟩ := Signature.method.inj hshown
      exact ⟨m, ⟨hm, hname⟩, htypes⟩
  · rintro ⟨m, ⟨hm, rfl⟩, htypes⟩
    exact ⟨_, method_mem_signatures.2 ⟨m, hm, rfl, rfl⟩, congrArg (Signature.method m.name) htypes⟩

theorem Declaration.shows_constructor_iff : decl.Shows (.constructor (paramTypes ps)) ↔
    decl.constructors.any (fun c => sameParameters c.params ps) = true := by
  simp only [List.any_eq_true, sameParameters_iff]
  constructor
  · rintro ⟨taken, htaken, hshown⟩
    cases taken with
    | field other => cases hshown
    | method other types => cases hshown
    | constructor types =>
      obtain ⟨c, hc, rfl⟩ := constructor_mem_signatures.1 htaken
      exact ⟨c, hc, Signature.constructor.inj hshown⟩
  · rintro ⟨c, hc, htypes⟩
    exact ⟨_, constructor_mem_signatures.2 ⟨c, hc, rfl⟩, congrArg Signature.constructor htypes⟩

/-! ## What an enricher adds -/

/-- A method is added for the request unless one looks the same. -/
theorem mem_addedMethod_iff : sig ∈ (addedMethod decl e).map VirtualMember.signature ↔
    sig ∈ e.requests decl .method ∧ ¬ decl.Shows sig := by
  rw [addedMethod, Enricher.requests]
  -- An enricher without a name or a type asks for nothing and adds nothing.
  cases e.isNamed with
  | false => simp
  | true =>
    simp only [Bool.not_true, Bool.false_or, if_true, List.mem_singleton]
    split
    · rename_i htaken
      simp only [List.map_nil, List.not_mem_nil, false_iff, not_and]
      rintro rfl hshown
      exact hshown (Declaration.shows_method_iff.2 htaken)
    · rename_i hfree
      simp only [List.map_cons, List.map_nil, List.mem_singleton, VirtualMember.signature]
      refine ⟨fun hsig => ⟨hsig, ?_⟩, fun h => h.1⟩
      rw [hsig, Declaration.shows_method_iff]
      exact hfree

/-- A constructor is added for the request unless one looks the same. -/
theorem mem_addedConstructor_iff : sig ∈ (addedConstructor decl e).map VirtualMember.signature ↔
    sig ∈ e.requests decl .constructor ∧ ¬ decl.Shows sig := by
  rw [addedConstructor, Enricher.requests, List.mem_singleton]
  split
  · rename_i htaken
    simp only [List.map_nil, List.not_mem_nil, false_iff, not_and]
    rintro rfl hshown
    exact hshown (Declaration.shows_constructor_iff.2 htaken)
  · rename_i hfree
    simp only [List.map_cons, List.map_nil, List.mem_singleton, VirtualMember.signature]
    refine ⟨fun hsig => ⟨hsig, ?_⟩, fun h => h.1⟩
    rw [hsig, Declaration.shows_constructor_iff]
    exact hfree

theorem field_met (h : sig ∈ e.requests decl .field) :
    sig ∈ decl.signatures ∨ sig ∈ (addedField decl e).map VirtualMember.signature := by
  rw [Enricher.requests] at h
  split at h
  · rename_i hnamed
    -- The field is there by its name, or it is added under it.
    obtain rfl := List.mem_singleton.1 h
    rw [← Declaration.field?_isSome_iff, addedField]
    cases (decl.field? e.name).isSome <;> simp [hnamed, VirtualMember.signature]
  · cases h

/-- A method without parameters has the signature of the getter. -/
theorem getter_met (hf : f ∈ decl.fields) :
    Signature.method (getterName f.name f.type) [] ∈ decl.signatures ∨
      Signature.method (getterName f.name f.type) [] ∈
        (addedMembers decl e .getter).map VirtualMember.signature := by
  by_cases htaken : (decl.methodsNamed (getterName f.name f.type)).any (·.params.isEmpty) = true
  · -- Getters are looked for by name and number of parameters, so what is found has the signature.
    obtain ⟨m, hm, hparams⟩ := List.any_eq_true.1 htaken
    obtain ⟨hm, hname⟩ := Declaration.mem_methodsNamed.1 hm
    refine .inl (Declaration.method_mem_signatures.2 ⟨m, hm, hname, ?_⟩)
    exact paramTypes_eq_nil_iff.2 (List.isEmpty_iff.1 hparams)
  · refine .inr (List.mem_map.2 ⟨.method
      ⟨getterName f.name f.type, f.type, [], Modifiers.publicBit, none⟩, ?_, rfl⟩)
    refine List.mem_flatten.2 ⟨_, List.mem_map_of_mem hf, ?_⟩
    rw [addedGetter, if_neg htaken]
    exact List.mem_singleton.2 rfl

theorem setter_met (hf : f ∈ decl.fields) (hstatic : f.isStatic = false) :
    Signature.method (setterName f.name) [f.type.canonicalText] ∈ decl.signatures ∨
      Signature.method (setterName f.name) [f.type.canonicalText] ∈
        (addedMembers decl e .setter).map VirtualMember.signature := by
  by_cases htaken : (decl.methodsNamed (setterName f.name)).any
      (fun m => paramTypes m.params == [f.type.canonicalText]) = true
  · -- Setters are looked for by canonical types, so that no other type passes for the one asked
    -- for.
    obtain ⟨m, hm, hparams⟩ := List.any_eq_true.1 htaken
    obtain ⟨hm, hname⟩ := Declaration.mem_methodsNamed.1 hm
    exact .inl (Declaration.method_mem_signatures.2 ⟨m, hm, hname, beq_iff_eq.1 hparams⟩)
  · refine .inr (List.mem_map.2 ⟨.method
      ⟨setterName f.name, .void, [⟨f.name, f.type⟩], Modifiers.publicBit, none⟩, ?_, rfl⟩)
    refine List.mem_flatten.2 ⟨_, List.mem_map_of_mem hf, ?_⟩
    simp only [addedSetter, hstatic, htaken]
    exact List.mem_singleton.2 rfl

/-- What an enricher asks for is there or added, unless it asks for a method or a constructor. -/
theorem request_met {adds : Augment} (h : sig ∈ e.requests decl adds)
    (hadds : ¬ (adds = .method ∨ adds = .constructor)) :
    sig ∈ decl.signatures ∨ sig ∈ (addedMembers decl e adds).map VirtualMember.signature := by
  cases adds with
  | field => exact field_met h
  | method => exact absurd (.inl rfl) hadds
  | constructor => exact absurd (.inr rfl) hadds
  | getter =>
    obtain ⟨f, hf, rfl⟩ := List.mem_map.1 h
    exact getter_met hf
  | setter =>
    obtain ⟨f, hf, rfl⟩ := List.mem_map.1 h
    obtain ⟨hf, hstatic⟩ := List.mem_filter.1 hf
    exact setter_met hf (by simpa using hstatic)

/-- What is added is asked for. -/
theorem request_of_mem_addedMembers {adds : Augment}
    (h : sig ∈ (addedMembers decl e adds).map VirtualMember.signature) :
    sig ∈ e.requests decl adds := by
  -- One case for each kind of what is added; only fields, getters and setters need a look at the
  -- tests.
  cases adds with
  | field =>
    obtain ⟨m, hm, rfl⟩ := List.mem_map.1 h
    simp only [addedMembers, addedField] at hm
    split at hm
    · cases hm
    · rename_i hfree
      obtain rfl := List.mem_singleton.1 hm
      have hnamed : e.isNamed = true := by
        cases hnamed : e.isNamed with
        | true => rfl
        | false => exact absurd (by simp [hnamed]) hfree
      rw [Enricher.requests, if_pos hnamed]
      exact List.mem_singleton.2 rfl
  | method => exact (mem_addedMethod_iff.1 h).1
  | constructor => exact (mem_addedConstructor_iff.1 h).1
  | getter =>
    obtain ⟨m, hm, rfl⟩ := List.mem_map.1 h
    obtain ⟨_, hmem, hm⟩ := List.mem_flatten.1 hm
    obtain ⟨f, hf, rfl⟩ := List.mem_map.1 hmem
    rw [addedGetter] at hm
    split at hm
    · cases hm
    · obtain rfl := List.mem_singleton.1 hm
      exact List.mem_map_of_mem hf
  | setter =>
    obtain ⟨m, hm, rfl⟩ := List.mem_map.1 h
    obtain ⟨_, hmem, hm⟩ := List.mem_flatten.1 hm
    obtain ⟨f, hf, rfl⟩ := List.mem_map.1 hmem
    simp only [addedSetter] at hm
    split at hm
    · cases hm
    · rename_i hfree
      obtain rfl := List.mem_singleton.1 hm
      -- The test was negative, so that the field is not static.
      exact List.mem_map.2 ⟨f, List.mem_filter.2 ⟨hf, by simp_all⟩, rfl⟩

end Tests

/-! ## What the enrichers of a prototype add -/

section Enrichers

variable {decl : Declaration} {d : Descriptor} {e : Enricher} {adds : Augment} {kind : MemberKind}
  {sig : Signature}

theorem mem_enrichedMembers_iff : sig ∈ (enrichedMembers d decl kind).map VirtualMember.signature ↔
    ∃ e ∈ d.enrichers, ∃ adds, e.adds = some adds ∧ adds.memberKind = kind ∧
      sig ∈ (addedMembers decl e adds).map VirtualMember.signature := by
  constructor
  · intro h
    obtain ⟨m, hm, rfl⟩ := List.mem_map.1 h
    obtain ⟨_, hmem, hm⟩ := List.mem_flatten.1 hm
    obtain ⟨e, he, rfl⟩ := List.mem_map.1 hmem
    rw [addedOfKind] at hm
    split at hm
    · rename_i adds hadds
      split at hm
      · rename_i hkind
        exact ⟨e, he, adds, hadds, hkind, List.mem_map_of_mem hm⟩
      · cases hm
    · cases hm
  · rintro ⟨e, he, adds, hadds, hkind, hsig⟩
    obtain ⟨m, hm, rfl⟩ := List.mem_map.1 hsig
    refine List.mem_map_of_mem (List.mem_flatten.2 ⟨_, List.mem_map_of_mem he, ?_⟩)
    rw [addedOfKind, hadds]
    simpa [hkind] using hm

/-- A method without parameters that looks the same is the same. -/
theorem Declaration.mem_of_shows_getter {name : String} (h : decl.Shows (.method name [])) :
    Signature.method name [] ∈ decl.signatures := by
  obtain ⟨taken, htaken, hshown⟩ := h
  cases taken with
  | field other => cases hshown
  | constructor types => cases hshown
  | method other types =>
    -- Simple names of no types are no types.
    obtain ⟨rfl, htypes⟩ := Signature.method.inj hshown
    rw [← List.map_eq_nil_iff.1 htypes]
    exact htaken

/-- What an enricher asks for is there or added, exactly if it is not overlooked. -/
theorem enriched_met_iff (he : e ∈ d.enrichers) (hadds : e.adds = some adds)
    (hkind : adds.memberKind = kind) (hsig : sig ∈ e.requests decl adds) :
    (sig ∈ decl.signatures ∨ sig ∈ (enrichedMembers d decl kind).map VirtualMember.signature) ↔
      ¬ d.Overlooks decl adds sig := by
  -- What any of the enrichers adds is added.
  have hadded {e' : Enricher} {adds' : Augment} (he' : e' ∈ d.enrichers)
      (hadds' : e'.adds = some adds') (hkind' : adds'.memberKind = kind)
      (hmem : sig ∈ (addedMembers decl e' adds').map VirtualMember.signature) :
      sig ∈ (enrichedMembers d decl kind).map VirtualMember.signature :=
    mem_enrichedMembers_iff.2 ⟨e', he', adds', hadds', hkind', hmem⟩
  constructor
  · -- Suppose that an overlooked request is met: then some enricher adds its signature, and each
    -- kind of what it may add is ruled out.
    rintro hmet ⟨hcompared, hshown, habsent, hsetter⟩
    obtain ⟨e', he', adds', hadds', hkind', hmem⟩ :=
      mem_enrichedMembers_iff.1 (hmet.resolve_left habsent)
    cases adds' with
    | field => rcases hcompared with rfl | rfl <;> cases hkind'.trans hkind.symm
    | method => exact (mem_addedMethod_iff.1 hmem).2 hshown
    | constructor => exact (mem_addedConstructor_iff.1 hmem).2 hshown
    | getter =>
      obtain ⟨f, hf, rfl⟩ := List.mem_map.1 (request_of_mem_addedMembers hmem)
      exact habsent (Declaration.mem_of_shows_getter hshown)
    | setter => exact hsetter ⟨e', he', hadds', request_of_mem_addedMembers hmem⟩
  · intro hseen
    -- Only for methods and constructors the test is by looks.
    by_cases hcompared : adds = .method ∨ adds = .constructor
    · by_cases hshown : decl.Shows sig
      · by_cases habsent : sig ∈ decl.signatures
        · exact .inl habsent
        · -- Only a setter can have the signature then, whose test is by canonical types.
          refine Classical.byContradiction fun hmissed => ?_
          refine hseen ⟨hcompared, hshown, habsent, fun ⟨e', he', hadds', hsetter⟩ => hmissed ?_⟩
          have hmethod : Augment.setter.memberKind = kind := by
            rw [← hkind]
            rcases hcompared with rfl | rfl <;> rfl
          exact (request_met hsetter (by simp)).imp_right (hadded he' hadds' hmethod)
      · refine .inr (hadded he hadds hkind ?_)
        rcases hcompared with rfl | rfl
        · exact mem_addedMethod_iff.2 ⟨hsig, hshown⟩
        · exact mem_addedConstructor_iff.2 ⟨hsig, hshown⟩
    · exact (request_met hsig hcompared).imp_right (hadded he hadds hkind)

end Enrichers

/-- Taking out what came before takes out no key. -/
theorem mem_map_firstByKey {α κ : Type} [DecidableEq κ] {key : α → κ} {as : List α} {k : κ} :
    k ∈ (firstByKey key [] as).map key ↔ k ∈ as.map key := by
  constructor
  · intro h
    obtain ⟨a, ha, rfl⟩ := List.mem_map.1 h
    exact List.mem_map_of_mem (mem_of_mem_firstByKey ha)
  · intro h
    obtain ⟨a, ha, rfl⟩ := List.mem_map.1 h
    exact (key_mem_firstByKey key [] ha).resolve_left List.not_mem_nil

/-! ## Augmentation -/

namespace Request

variable {scope : Scope} {features : Features} {id : DeclId} {decl : Declaration}
  {kind : MemberKind} {s s' : Session} {members : List VirtualMember}

/-- Members that a walk finds are collected without a change of the session. -/
theorem session_of_exec_guarded {found : Except QueryError (List VirtualMember)}
    (h : (guarded id found).exec s = (.ok members, s')) : s' = s := by
  rw [guarded_eq] at h
  obtain ⟨busy, s₁, hbusy, h⟩ := SessionM.exec_bind_eq_ok h
  cases hbusy
  split at h
  · cases h
    rfl
  · -- A failed walk is contained, and leaves the session alone as well.
    rw [exec_contain] at h
    cases found with
    | ok ms =>
      cases h
      rfl
    | error e => exact (Prod.mk.inj h).2.symm

/-- What is added by way of the outlook: fields for methods, which are fields, and what the
enrichers of the prototype add. -/
theorem collected_of_exec (hkind : decl.isAnnotationType = false)
    (h : (collectedMembers scope features id decl kind).exec s = (.ok members, s')) :
    ∃ told bracketless, (outlook scope id).exec s = (.ok told, s') ∧
      (kind = .method → bracketless = []) ∧
      members = bracketless ++ (told.2.map (enrichedMembers · decl kind)).getD [] := by
  rw [collectedMembers, if_neg (by simp [hkind])] at h
  obtain ⟨bracketless, s₁, hbracketless, h⟩ := SessionM.exec_bind_eq_ok h
  obtain ⟨enriched, s₂, henriched, h⟩ := SessionM.exec_bind_eq_ok h
  cases h
  -- Fields for methods are collected before the enrichers are asked for theirs.
  rw [bracketlessMembers_eq] at hbracketless
  obtain ⟨relevant, s₃, hrelevant, hbracketless⟩ := SessionM.exec_bind_eq_ok hbracketless
  obtain ⟨found, s₄, hfound, henriched⟩ := SessionM.exec_bind_eq_ok henriched
  -- Between the two answers the session stays as it is.
  have hsession : s₁ = s₃ ∧ (kind = .method → bracketless = []) := by
    split at hbracketless
    · rename_i hfields
      refine ⟨session_of_exec_guarded hbracketless, fun hmethod => ?_⟩
      simp [hmethod] at hfields
    · cases hbracketless
      exact ⟨rfl, fun _ => rfl⟩
  obtain ⟨rfl, hmethod⟩ := hsession
  have htold : (outlook scope id).exec s = (.ok (relevant, found), s₄) := by
    rw [outlook, SessionM.exec_bind_ok hrelevant, SessionM.exec_bind_ok hfound]
    rfl
  cases found with
  | none =>
    cases henriched
    exact ⟨_, bracketless, htold, hmethod, rfl⟩
  | some descriptor =>
    cases henriched
    exact ⟨_, bracketless, htold, hmethod, rfl⟩

/-- What augmentation returned was collected. -/
theorem collected_of_exec_augment (hrest : s.guards.depth = 0)
    (hdecl : scope.host.declaration id = .ok decl)
    (h : (augment scope features id kind).exec s = (.ok members, s')) :
    ∃ collected, (collectedMembers scope features id decl kind).exec s = (.ok collected, s') ∧
      members = firstByKey VirtualMember.signature [] collected := by
  rw [augment_eq] at h
  obtain ⟨busy, s₁, hbusy, h⟩ := SessionM.exec_bind_eq_ok h
  -- With no registration under way the declaration is read, and the rest is the collection itself.
  have hidle : isRegistering.exec s = (.ok false, s) := by
    show (Except.ok (decide (0 < s.guards.depth)), s) = _
    rw [hrest]
    rfl
  cases hidle.symm.trans hbusy
  rw [if_neg (by simp), hdecl] at h
  obtain ⟨found, s₂, hfound, h⟩ := SessionM.exec_bind_eq_ok h
  cases hfound
  dsimp only at h
  rw [SessionM.exec_map] at h
  rcases hcollected : (collectedMembers scope features id decl kind).exec s with ⟨out, s₃⟩
  rw [hcollected] at h
  cases out with
  | error e => cases h
  | ok collected =>
    cases h
    exact ⟨collected, rfl, rfl⟩

/-- Augmentation returns, and what the enrichers of the prototype ask for is met, by a member that
the declaration has or by one that is returned, exactly if it is not overlooked. -/
theorem augment_meets_iff (hcalm : ∀ q, ¬ scope.host.Cancels q) (hrest : s.guards.depth = 0)
    (hdecl : scope.host.declaration id = .ok decl) (hkind : decl.isAnnotationType = false) :
    ∃ members told s', (augment scope features id kind).exec s = (.ok members, s') ∧
      (outlook scope id).exec s = (.ok told, s') ∧
      ∀ descriptor, told.2 = some descriptor → ∀ e ∈ descriptor.enrichers, ∀ adds,
        e.adds = some adds → adds.memberKind = kind → ∀ sig ∈ e.requests decl adds,
          (sig ∈ decl.signatures ∨ sig ∈ members.map VirtualMember.signature) ↔
            ¬ descriptor.Overlooks decl adds sig := by
  obtain ⟨members, hmembers⟩ :=
    (EntryPoint.augment features id kind).returns_of_not_cancels hcalm s
  have hexec : (augment scope features id kind).exec s =
      (.ok members, ((augment scope features id kind).exec s).2) := Prod.ext hmembers rfl
  obtain ⟨collected, hcollected, rfl⟩ := collected_of_exec_augment hrest hdecl hexec
  obtain ⟨told, bracketless, htold, hbracketless, rfl⟩ := collected_of_exec hkind hcollected
  refine ⟨_, told, _, hexec, htold, ?_⟩
  intro descriptor hdescriptor e he adds hadds hadds' sig hsig
  have hmet := enriched_met_iff he hadds hadds' hsig
  -- What is taken out as coming twice takes no signature with it.
  simp only [mem_map_firstByKey, List.map_append, List.mem_append, hdescriptor, Option.map_some,
    Option.getD_some]
  cases kind with
  | method => rw [hbracketless rfl, ← hmet]; simp
  | field =>
    -- A field is never overlooked, so that it does not matter which one of its name is added.
    have hseen : ¬ descriptor.Overlooks decl adds sig := by
      rintro ⟨rfl | rfl, -⟩ <;> cases hadds'
    exact iff_of_true ((hmet.2 hseen).imp_right .inr) hseen

end Request

/-! ## Prototypes whose methods are asked for -/

/-- The first enricher of the prototype asks for a fluent method, and no member looks like it. -/
theorem Program.outlook_fluentPrototype :
    ∃ decl relevant descriptor e other s',
      fluentPrototype.scope.host.declaration ⟨2⟩ = .ok decl ∧ decl.isAnnotationType = false ∧
      (∀ taken ∈ decl.signatures,
        taken.displayed ≠ Signature.displayed (.method "with" ["java.lang.String"])) ∧
      (Request.outlook fluentPrototype.scope ⟨2⟩).exec ⟨{}, {}⟩ =
        (.ok (relevant, some descriptor), s') ∧
      descriptor.enrichers = [e, other] ∧ e.adds = some .method ∧
      e.requests decl .method = [.method "with" ["java.lang.String"]] :=
  ⟨_, _, _, _, _, _, rfl, rfl, by decide, rfl, rfl, rfl, rfl⟩

/-- The fluent method is not overlooked, and so it is met. -/
theorem Request.augment_meets_iff_fluentPrototype :
    let scope := Program.fluentPrototype.scope
    let sig : Signature := .method "with" ["java.lang.String"]
    ∃ decl members told descriptor e s', (∀ q, ¬ scope.host.Cancels q) ∧
      scope.host.declaration ⟨2⟩ = .ok decl ∧ decl.isAnnotationType = false ∧
      (augment scope {} ⟨2⟩ .method).exec ⟨{}, {}⟩ = (.ok members, s') ∧
      (outlook scope ⟨2⟩).exec ⟨{}, {}⟩ = (.ok told, s') ∧ told.2 = some descriptor ∧
      e ∈ descriptor.enrichers ∧ e.adds = some .method ∧ sig ∈ e.requests decl .method ∧
      ¬ descriptor.Overlooks decl .method sig ∧
      (sig ∈ decl.signatures ∨ sig ∈ members.map VirtualMember.signature) := by
  intro scope sig
  have hcalm : ∀ q, ¬ scope.host.Cancels q := (Program.Consistent.ofDeclarations (by decide)
    (by decide) : Program.fluentPrototype.Consistent).not_cancels
  obtain ⟨decl, relevant, descriptor, e, other, s₁, hdecl, hkind, hshown, houtlook, henrichers,
    hadds, hrequests⟩ := Program.outlook_fluentPrototype
  have he : e ∈ descriptor.enrichers := henrichers ▸ List.mem_cons_self
  have hsig : sig ∈ e.requests decl .method := hrequests ▸ List.mem_singleton_self sig
  have hrest : (⟨{}, {}⟩ : Session).guards.depth = 0 := rfl
  -- The host cancels nothing, so augmentation returns and tells about the request.
  obtain ⟨members, told, s', hmembers, htold, hmeets⟩ :=
    @augment_meets_iff scope {} ⟨2⟩ decl .method ⟨{}, {}⟩ hcalm hrest hdecl hkind
  cases houtlook.symm.trans htold
  have hseen : ¬ descriptor.Overlooks decl .method sig := by
    intro h
    obtain ⟨taken, hmem, heq⟩ := h.shown
    exact hshown taken hmem heq
  have hmet := (hmeets descriptor rfl e he .method hadds rfl sig hsig).2 hseen
  exact ⟨decl, members, _, descriptor, e, s₁, hcalm, hdecl, hkind, hmembers, houtlook, rfl, he,
    hadds, hsig, hseen, hmet⟩

/-- A prototype that has a method of an `a.Foo` and is to get one of the same name of a `b.Foo`. -/
def Program.homonymousParameters : Program :=
  .ofDeclarations [{ path := "src/com/x/FooPrototype.java" }]
    [enricherClass "With"
       [⟨"adds", .enumConstant "AugmentType" "METHOD", none⟩, ⟨"name", .text "with", none⟩,
        ⟨"type", .text "com.x.Foo", none⟩,
        ⟨"parameters", .nested ⟨"CodeAugmentParameters", [⟨"params", .nested ⟨"P",
          [⟨"name", .text "x", none⟩, ⟨"type", .text "b.Foo", none⟩], none⟩, none⟩], none⟩, none⟩],
     { name := "FooPrototype", qualifiedName := some "com.x.FooPrototype", kind := .interfaceType
       file := ⟨0⟩
       annotations := [⟨codePrototype, [⟨"enrichers", .classLiteral "e.With", none⟩], none⟩]
       methods := [{ name := "with", returnType := .named "com.x.Foo"
                     params := [⟨"x", .named "a.Foo"⟩] }] }]

/-- The method of a `b.Foo` is asked for and neither there nor added. -/
theorem Request.augment_misses_homonymousParameters :
    let scope := Program.homonymousParameters.scope
    scope.host.Healthy ∧ ∃ decl s' told e, scope.host.declaration ⟨1⟩ = .ok decl ∧
      decl.isAnnotationType = false ∧
      (augment scope {} ⟨1⟩ .method).exec ⟨{}, {}⟩ = (.ok [], s') ∧
      (outlook scope ⟨1⟩).exec ⟨{}, {}⟩ = (.ok (true, some told), s') ∧
      told.enrichers = [e] ∧ e.adds = some .method ∧
      e.requests decl .method = [.method "with" ["b.Foo"]] ∧
      .method "with" ["b.Foo"] ∉ decl.signatures := by
  refine ⟨(Program.Consistent.ofDeclarations (by decide) (by decide)).healthy,
    _, _, _, _, rfl, rfl, rfl, rfl, rfl, rfl, rfl, ?_⟩
  decide

end PrototypeLens
