import PrototypeLens.Proofs.Augment.Nearest
import PrototypeLens.Proofs.Session.Restoring

/-!
# Augmenting a declaration twice

Once everything that augmentation adds to a declaration was merged into it, augmentation adds
nothing more, except for the enrichers that take methods as parameters: their filters select the
merged methods too, and so they may ask for another method or constructor.

## Layers

- `outlook`: the answers of the registry that augmentation depends on. Merging does not change them.
- `exec_augment_of_annotationType` and `exec_augment_of_outlook`: augmentation as a function of the
  methods that walks find and of the outlook.
- The second time, for annotation types and for all others.

## Main results

- `exec_augment_merged_of_annotationType`: annotation types inherit nothing more.
- `exec_augment_merged_of_outlook`: other declarations get what the enrichers still add.
- When nothing is added the second time, in terms of the enrichers that take methods.
-/

namespace PrototypeLens

namespace Request

variable {scope : Scope} {features : Features} {id : DeclId} {decl : Declaration}
  {kind : MemberKind} {methods : List Method} {r : Registry}

/-! ## Outlooks -/

/-- What a declaration is told to be: whether it is relevant, and the descriptor of its
prototype. -/
def outlook (scope : Scope) (id : DeclId) : Request (Bool × Option Descriptor) := do
  let relevant ← isRelevant scope id
  let descriptor ← prototypeDataOf scope id
  pure (relevant, descriptor)

theorem prototypeDataOf_written (scope : Scope) (id : DeclId) :
    prototypeDataOf scope.written id = prototypeDataOf scope id := by
  rw [prototypeDataOf, prototypeDataOf, Lookup.registerClass_written]

theorem isRelevant_written (scope : Scope) (id : DeclId) :
    isRelevant scope.written id = isRelevant scope id := by
  simp only [isRelevant, isPrototypeDecl, prototypeDataOf_written, isGeneratedDecl,
    Lookup.declOrigin?_written]

/-- A declaration is told to be the same after members were merged into it. -/
theorem outlook_mergeInto (scope : Scope) (id : DeclId) (members : List VirtualMember) :
    outlook (scope.mergeInto id members) id = outlook scope id := by
  have hwritten (scope : Scope) : outlook scope.written id = outlook scope id := by
    rw [outlook, outlook, isRelevant_written, prototypeDataOf_written]
  rw [← hwritten, scope.written_mergeInto, hwritten]

/-! ## Augmentation by the outlook -/

section Outlook

variable {s : Session}

/-- Members of a declaration that is not marked are collected without a change of the session. -/
theorem exec_guarded {members : Except QueryError (List VirtualMember)} {ms : List VirtualMember}
    (hfree : id ∉ s.guards.augmenting) (hmembers : members = .ok ms) :
    (guarded id members).exec s = (.ok ms, s) := by
  have hbusy : (isAugmenting id).exec s = (.ok false, s) := by
    show (Except.ok (s.guards.augmenting.contains id), s) = _
    rw [List.contains_eq_mem, decide_eq_false hfree]
  subst hmembers
  rw [guarded_eq, SessionM.exec_bind_ok hbusy]
  rfl

/-- Without a registration under way the declaration is read, and members are collected for it. -/
theorem exec_augment (hrest : s.guards.depth = 0) (hdecl : scope.host.declaration id = .ok decl) :
    (augment scope features id kind).exec s =
      (firstByKey VirtualMember.signature [] <$>
        collectedMembers scope features id decl kind).exec s := by
  have hbusy : isRegistering.exec s = (.ok false, s) := by
    show (Except.ok (decide (0 < s.guards.depth)), s) = _
    rw [hrest]
    rfl
  -- The host knows the declaration, so that nothing has to be contained.
  have hfound : (contain none (some <$> Lookup.query (scope.host.declaration id))).exec s =
      (.ok (some decl), s) := by
    rw [hdecl]
    rfl
  rw [augment_eq, SessionM.exec_bind_ok hbusy, if_neg (by simp), SessionM.exec_bind_ok hfound]

theorem exec_augment_of_annotationType (hrest : s.guards.depth = 0)
    (hfree : id ∉ s.guards.augmenting) (hdecl : scope.host.declaration id = .ok decl)
    (hkind : decl.isAnnotationType = true) {elements : List Method}
    (helements : inheritable scope.host decl = .ok elements) :
    (augment scope features id kind).exec s =
      (.ok (firstByKey VirtualMember.signature [] (membersOfElements features decl kind elements)),
        s) := by
  have hcollected : (collectedMembers scope features id decl kind).exec s =
      (.ok (membersOfElements features decl kind elements), s) := by
    -- Inherited elements are the only stage that an annotation type has.
    rw [collectedMembers, if_pos hkind, inheritedMembers, membersOfElements]
    split
    · exact exec_guarded hfree (by rw [inheritedElements_eq, helements]; rfl)
    · rfl
  rw [exec_augment hrest hdecl, SessionM.exec_map, hcollected]
  rfl

theorem exec_augment_of_outlook (hrest : s.guards.depth = 0) (hfree : id ∉ s.guards.augmenting)
    (hdecl : scope.host.declaration id = .ok decl) (hkind : decl.isAnnotationType = false)
    (hmethods : bracketlessMethods scope.host decl = .ok methods) :
    (augment scope features id kind).exec s =
      (((outlook scope id).exec s).1.map fun outlook =>
        firstByKey VirtualMember.signature []
          (membersOfOutlook features decl kind methods outlook),
        ((outlook scope id).exec s).2) := by
  -- The answer about relevance leaves the guards as they were, so the declaration is not marked
  -- later either.
  have hguards := restores_isRelevant scope id s
  rw [exec_augment hrest hdecl, SessionM.exec_map, collectedMembers, if_neg (by simp [hkind]),
    bracketlessMembers_eq, outlook, bind_assoc]
  rcases hrelevant : (isRelevant scope id).exec s with ⟨out, s'⟩
  rw [hrelevant] at hguards
  -- Members without brackets are collected between the two answers, and ask the host alone.
  cases out with
  | error e => simp only [SessionM.exec_bind_error hrelevant, Except.map]
  | ok relevant =>
    rw [SessionM.exec_bind_ok hrelevant, SessionM.exec_bind_ok hrelevant]
    have hbracketless : (if relevant && kind = .field && features.bracketlessMethods then
        guarded id (bracketlessFields scope.host decl) else pure []).exec s' =
        (.ok (if relevant && kind = .field && features.bracketlessMethods then
          (firstByKey Method.name (decl.fields.map (·.name)) methods).map bracketlessField
          else []), s') := by
      split
      · refine exec_guarded ?_ (by rw [bracketlessFields_eq, hmethods]; rfl)
        rw [show s'.guards = s.guards from hguards]
        exact hfree
      · rfl
    rw [SessionM.exec_bind_ok hbracketless, membersOfEnrichers, bind_assoc]
    rcases hdata : (prototypeDataOf scope id).exec s' with ⟨out, s''⟩
    cases out with
    | error e => simp only [SessionM.exec_bind_error hdata, Except.map]
    | ok found =>
      rw [SessionM.exec_bind_ok hdata, SessionM.exec_bind_ok hdata]
      cases found <;> rfl

end Outlook

/-! ## The second time -/

section Merged

variable {members : List VirtualMember} {s : Session}

theorem isAnnotationType_merge (decl : Declaration) (members : List VirtualMember) :
    (decl.merge members).isAnnotationType = decl.isAnnotationType := by
  show (decl.merge members).written.isAnnotationType = decl.written.isAnnotationType
  rw [Declaration.written_merge]

/-- An annotation type inherits nothing more. -/
theorem exec_augment_merged_of_annotationType (h : scope.host.Healthy)
    (hdecl : scope.host.declaration id = .ok decl) (hkind : decl.isAnnotationType = true)
    (hfirst : (augment scope features id kind).exec ⟨r, {}⟩ = (.ok members, s)) :
    (augment (scope.mergeInto id members) features id kind).exec ⟨s.registry, {}⟩ =
      (.ok [], ⟨s.registry, {}⟩) := by
  -- Both times the walk finds the same elements; the second time their names are taken.
  obtain ⟨elements, helements⟩ := h.inheritable_ok decl
  have helements' : inheritable (scope.mergeInto id members).host (decl.merge members) =
      .ok elements := (inheritable_mergeInto ..).trans helements
  rw [exec_augment_of_annotationType rfl List.not_mem_nil (Host.mergeInto_declaration hdecl)
    ((isAnnotationType_merge ..).trans hkind) helements']
  rw [exec_augment_of_annotationType rfl List.not_mem_nil hdecl hkind helements] at hfirst
  cases hfirst
  have hnothing := membersOfElements_augmented features decl kind elements
  rw [Declaration.augmented] at hnothing
  rw [hnothing]
  rfl

/-- The members that were added to any other declaration are those of its outlook. -/
theorem outlook_of_exec_augment (hdecl : scope.host.declaration id = .ok decl)
    (hkind : decl.isAnnotationType = false)
    (hmethods : bracketlessMethods scope.host decl = .ok methods)
    (hfirst : (augment scope features id kind).exec ⟨r, {}⟩ = (.ok members, s)) :
    ∃ told, (outlook scope id).exec ⟨r, {}⟩ = (.ok told, s) ∧
      decl.merge members = decl.augmented (membersOfOutlook features decl kind methods told) := by
  rw [exec_augment_of_outlook rfl List.not_mem_nil hdecl hkind hmethods] at hfirst
  -- The outlook did not fail, or augmentation would have.
  rcases houtlook : (outlook scope id).exec ⟨r, {}⟩ with ⟨out, s'⟩
  rw [houtlook] at hfirst
  cases out with
  | error e => cases hfirst
  | ok told =>
    cases hfirst
    exact ⟨told, rfl, rfl⟩

/-- Such a declaration gets what the enrichers still add. -/
theorem exec_augment_merged_of_outlook (hdecl : scope.host.declaration id = .ok decl)
    (hkind : decl.isAnnotationType = false)
    (hmethods : bracketlessMethods scope.host decl = .ok methods) {told : Bool × Option Descriptor}
    (hmerged : decl.merge members =
      decl.augmented (membersOfOutlook features decl kind methods told))
    (htold : ((outlook scope id).exec ⟨r, {}⟩).1 = .ok told) :
    ((augment (scope.mergeInto id members) features id kind).exec ⟨r, {}⟩).1 =
      .ok (firstByKey VirtualMember.signature [] (told.2.elim [] fun descriptor =>
        enrichedMembers descriptor (decl.merge members) kind)) := by
  -- The walk finds the same methods, and the registry gives the same answers.
  have hmethods' : bracketlessMethods (scope.mergeInto id members).host (decl.merge members) =
      .ok methods := (bracketlessMethods_mergeInto ..).trans hmethods
  rw [exec_augment_of_outlook rfl List.not_mem_nil (Host.mergeInto_declaration hdecl)
    ((isAnnotationType_merge ..).trans hkind) hmethods', outlook_mergeInto, htold, hmerged]
  simp only [Except.map, membersOfOutlook_augmented rfl]

/-- After everything that was added to a declaration was merged into it, and as long as it is told
to be the same, augmentation adds nothing more exactly if no enricher of its prototype that takes
methods as parameters does. It adds no field, and nothing at all if all such enrichers select the
same parameters as before. -/
theorem augment_merged (h : scope.host.Healthy) (hdecl : scope.host.declaration id = .ok decl)
    (hfirst : (augment scope features id kind).exec ⟨r, {}⟩ = (.ok members, s))
    (hsame : decl.isAnnotationType = false → ((outlook scope id).exec ⟨s.registry, {}⟩).1 =
      ((outlook scope id).exec ⟨r, {}⟩).1) :
    ∃ again s', (augment (scope.mergeInto id members) features id kind).exec ⟨s.registry, {}⟩ =
        (.ok again, s') ∧
      (again = [] ↔ (decl.isAnnotationType = false → ∀ relevant descriptor,
        ((outlook scope id).exec ⟨r, {}⟩).1 = .ok (relevant, some descriptor) →
        ∀ e ∈ descriptor.enrichers, e.TakesMethods →
          addedOfKind (decl.merge members) kind e = [])) ∧
      (kind = .field → again = []) ∧
      ((∀ relevant descriptor,
        ((outlook scope id).exec ⟨r, {}⟩).1 = .ok (relevant, some descriptor) →
        ∀ e ∈ descriptor.enrichers, e.TakesMethods →
          e.parametersFor (decl.merge members) = e.parametersFor decl) → again = []) := by
  cases hkind : decl.isAnnotationType with
  | true =>
    -- Annotation types have no enrichers.
    exact ⟨[], _, exec_augment_merged_of_annotationType h hdecl hkind hfirst, by simp, by simp,
      by simp⟩
  | false =>
    obtain ⟨methods, hmethods⟩ := h.bracketlessMethods_ok decl
    obtain ⟨⟨relevant, found⟩, houtlook, hmerged⟩ :=
      outlook_of_exec_augment hdecl hkind hmethods hfirst
    have hagain := exec_augment_merged_of_outlook hdecl hkind hmethods hmerged
      ((hsame hkind).trans (congrArg Prod.fst houtlook))
    have hresult : ((outlook scope id).exec ⟨r, {}⟩).1 = .ok (relevant, found) := by rw [houtlook]
    refine ⟨_, _, Prod.ext hagain rfl, ?_⟩
    rw [firstByKey_nil_eq_nil_iff, hresult]
    -- Without a prototype there are no enrichers, and nothing is added.
    cases found with
    | none => simp
    | some descriptor =>
      have hnil : enrichedMembers descriptor (decl.merge members) kind = [] ↔
          ∀ e ∈ descriptor.enrichers, e.TakesMethods →
            addedOfKind (decl.merge members) kind e = [] := by
        rw [hmerged]
        exact enrichedMembers_augmented_eq_nil_iff rfl rfl
      -- The criterion, then its two special cases.
      refine ⟨?_, ?_, ?_⟩
      · refine hnil.trans ⟨fun h _ _ _ heq => ?_, fun h => h rfl relevant descriptor rfl⟩
        cases heq
        exact h
      · rintro rfl
        exact hnil.2 fun e _ htakes => addedOfKind_field_of_takesMethods htakes
      · intro hparams
        refine hnil.2 fun e he htakes => ?_
        have hsame := hparams relevant descriptor rfl e he htakes
        rw [hmerged] at hsame ⊢
        exact addedOfKind_augmented rfl rfl he fun _ => hsame

end Merged

/-- The methods of the fluent prototype, after they were merged into it. -/
theorem augment_merged_fluentPrototype :
    let scope := Program.fluentPrototype.scope
    ∃ decl, scope.host.declaration ⟨2⟩ = .ok decl ∧
      (augment scope {} ⟨2⟩ .method).exec ⟨{}, {}⟩ =
        (.ok Program.fluentMethods, Program.afterFluentMethods) ∧
      ((outlook scope ⟨2⟩).exec ⟨Program.afterFluentMethods.registry, {}⟩).1 =
        ((outlook scope ⟨2⟩).exec ⟨{}, {}⟩).1 ∧
      ∃ again s', (augment (scope.mergeInto ⟨2⟩ Program.fluentMethods) {} ⟨2⟩ .method).exec
          ⟨Program.afterFluentMethods.registry, {}⟩ = (.ok again, s') ∧
        (again = [] ↔ (decl.isAnnotationType = false → ∀ relevant descriptor,
          ((outlook scope ⟨2⟩).exec ⟨{}, {}⟩).1 = .ok (relevant, some descriptor) →
          ∀ e ∈ descriptor.enrichers, e.TakesMethods →
            addedOfKind (decl.merge Program.fluentMethods) .method e = [])) := by
  intro scope
  have hhealthy : scope.host.Healthy :=
    (Program.Consistent.ofDeclarations (by decide) (by decide)).healthy
  have hsame : ((outlook scope ⟨2⟩).exec ⟨Program.afterFluentMethods.registry, {}⟩).1 =
      ((outlook scope ⟨2⟩).exec ⟨{}, {}⟩).1 := rfl
  obtain ⟨again, s', hagain, hnil, _⟩ :=
    augment_merged hhealthy rfl Program.augment_fluentPrototype fun _ => hsame
  exact ⟨_, rfl, Program.augment_fluentPrototype, hsame, again, s', hagain, hnil⟩

/-- The getter is not added again, but another fluent method is: it takes what the methods return,
and the two that were added are methods now. -/
theorem augment_merged_adds_fluentPrototype :
    let scope := Program.fluentPrototype.scope
    scope.host.Healthy ∧
      (augment scope {} ⟨2⟩ .method).exec ⟨{}, {}⟩ =
        (.ok Program.fluentMethods, Program.afterFluentMethods) ∧
      ((augment (scope.mergeInto ⟨2⟩ Program.fluentMethods) {} ⟨2⟩ .method).exec
          ⟨Program.afterFluentMethods.registry, {}⟩).1 =
        .ok [.method
          { name := "with", returnType := .named "com.x.Foo"
            params := [⟨"name", .named "java.lang.String"⟩, ⟨"with", .named "com.x.Foo"⟩,
              ⟨"getCount", .primitive .int⟩]
            modifiers := Modifiers.publicBit }] :=
  ⟨(Program.Consistent.ofDeclarations (by decide) (by decide)).healthy,
    Program.augment_fluentPrototype, rfl⟩

end Request

end PrototypeLens
