import PrototypeLens.Proofs.Augment.Distinct
import PrototypeLens.Proofs.Session.Editing
import PrototypeLens.Proofs.Session.Resilience
import PrototypeLens.Proofs.Template.Enrichers

/-!
# Prototypes after an enricher was edited

Descriptors hold the enrichers that classes declare, and a refresh of the file of such a class
forgets none of the descriptors that it was read into. What a session answers after the refresh is
up to date exactly if that does not matter: neither the prototype that is left is another one than
the declared one, nor is the one that is computed from the defaults that are left.

## Layers

- `Registry.Retells` and `Registry.UpToDate`: what the defaults and prototypes that are left have to
  tell for the answers to be the declared ones.
- `soundUpkeep`: lookups keep a registry sound and exact and do not fail.
- `resolves_retained`: what the annotations on a declaration come to, by the defaults that are left
  if all known templates are complete, and by the declared ones otherwise.
- `Registry.Remnant.retells`: that distinction agrees with the one that `Retells` makes.

## Main results

- `prototypeData_declared_iff`: the prototype that is answered from what is left of a registry is
  the declared one exactly if what is left is up to date.
- After any questions, an edit of one class and the refresh of its file, nothing is left that was
  not declared before; the answer for each name follows the edit exactly as above.
- A field of an enricher that is renamed, and a prototype that keeps the old name.
-/

namespace PrototypeLens

/-! ## What the registry tells -/

/-- What a registry tells of a template: what its defaults come to from those that are kept if the
template is known, else the declared ones, since it drops the others when it announces the
template. -/
structure Registry.Retells (scope : Scope) (r : Registry) (name : String) (d : Descriptor) :
    Prop where
  known : name ∈ r.knownTemplates → scope.Told r.templates.get? scope.host.Template name d
  unknown : name ∉ r.knownTemplates → scope.Defaults scope.host.Template name d

/-- What the registry keeps tells the declared prototype of a name: the one that is kept is it, and
if none is kept, the one that the first template on the declaration gives is it. -/
structure Registry.UpToDate (scope : Scope) (r : Registry) (name : String) : Prop where
  kept {prototype : Option Descriptor} : r.classes.get? name = some prototype →
    scope.Prototype scope.host.Template name prototype
  told {decl : Declaration} {use : AnnotationUse} {defaults prototype : Descriptor} :
    r.classes.get? name = none → scope.host.Declares name decl →
    decl.FirstUse scope.host.Template use → use.name ∈ r.knownTemplates →
    scope.Told r.templates.get? scope.host.Template use.name defaults →
    defaults.takeUsage (Lookup.resolveEnricher scope) use = .ok prototype →
    scope.Prototype scope.host.Template name (some prototype)

variable {scope : Scope}

/-- Lookups keep a registry sound, and do not fail. -/
def soundUpkeep (h : scope.host.Healthy) (hwf : scope.host.WellFormed scope.host.Template)
    (hacyclic : scope.host.Acyclic) : Upkeep scope where
  Inv r := r.Sound neverTemplates scope.host.Template ∧ r.Exact scope.host
  Passed _ := True
  Taken _ name _ := scope.host.Template name
  Failed := False
  answer := by
    rintro r r' name out ⟨hr, hexact⟩ hans
    obtain ⟨hr', hfound, hok⟩ := hans.sound scope.host.closed_template hr
    exact ⟨⟨hr', hans.exact hacyclic hr hexact⟩, fun _ => trivial, hfound, hok h hwf⟩
  take hdecl huse ht := Scope.takeUsage_ne_error h hwf hdecl huse ht
  publishClass _ hr _ _ :=
    have hsame := Registry.sameTemplates_publishClass ..
    ⟨hr.1.congr hsame, hr.2.congr hsame⟩
  publishGenerated _ _ hr _ :=
    have hsame := Registry.sameTemplates_publishGenerated ..
    ⟨hr.1.congr hsame, hr.2.congr hsame⟩
  publishNonGenerated _ hr _ :=
    have hsame := Registry.sameTemplates_publishNonGenerated ..
    ⟨hr.1.congr hsame, hr.2.congr hsame⟩
  publishValidator _ _ hr _ :=
    have hsame := Registry.sameTemplates_publishValidator ..
    ⟨hr.1.congr hsame, hr.2.congr hsame⟩
  recordDependent _ hr _ :=
    have hsame := Registry.sameTemplates_recordDependent ..
    ⟨hr.1.congr hsame, hr.2.congr hsame⟩

section

variable {g : Guards} {s : Session} {kept : String → Option Descriptor} {name : String}
  {decl : Declaration} {prototype : Option Descriptor}

/-- The annotations on a declaration come to what the registry tells of the templates among them. -/
theorem Lookup.resolves_retained (h : scope.host.Healthy) (hsourced : scope.host.Sourced)
    (hacyclic : scope.host.Acyclic) (hgrounded : scope.host.Grounded) (hcalm : g.discovering = [])
    (hidle : g.defaulting = []) (hdecl : scope.host.Declares name decl) (uses : List AnnotationUse)
    (huses : uses ⊆ decl.annotations) : ∀ r : Registry,
      r.Sound neverTemplates scope.host.Template → r.Exact scope.host →
      r.RestsOn scope kept [] →
      (prototypeOfUses scope uses).exec ⟨r, g⟩ = (.ok prototype, s) →
      scope.Resolves (fun n => ¬ scope.host.Template n) (fun n d => scope.host.Template n ∧
        (r.Complete scope.host n → scope.Told kept scope.host.Template n d) ∧
        (¬ r.Complete scope.host n → scope.Defaults scope.host.Template n d)) uses prototype := by
  -- An annotation that is passed over changes nothing about the templates.
  induction uses with
  | nil =>
    intro r _ _ _ hexec
    cases hexec
    exact .nil
  | cons use uses ih =>
    intro r hr hexact hrests hexec
    obtain ⟨huse, huses⟩ := List.cons_subset.1 huses
    -- The answer about one annotation may change the registry, so that all three properties of it
    -- are carried to the annotations that follow.
    obtain ⟨out, r₁, htemplate, hans⟩ := yields_template? h hsourced
      (hsourced.inSource hdecl huse) (r := r) hcalm hidle
    rw [prototypeOfUses, SessionM.exec_bind, htemplate] at hexec
    obtain ⟨hr₁, hfound, _⟩ := hans.sound scope.host.closed_template hr
    have hexact₁ := hans.exact hacyclic hr hexact
    match out with
    | .error e => cases hexec
    | .ok none =>
      -- The registry tells every template, so that what is answered not to be one is none.
      have hnot : ¬ scope.host.Template use.name := fun ht =>
        absurd (hans.verdict.1.2 (hexact.tells hacyclic ht)) (by simp)
      have hquiet := hans.verdict.2.1 rfl
      have hrests₁ := hrests.congr hquiet.templates hquiet.knownTemplates
      have hresolves := ih huses r₁ hr₁ hexact₁ hrests₁ hexec
      simp only [Registry.Complete, hquiet.knownTemplates] at hresolves
      exact .passed hnot hresolves
    -- The first annotation that is a template decides, and taking its elements may still fail.
    | .ok (some defaults) =>
      have hretained := hans.retained hacyclic hgrounded hr hexact hrests
      dsimp only at hexec
      rw [SessionM.exec_bind, exec_ofExcept] at hexec
      cases htaken : defaults.takeUsage (resolveEnricher scope) use with
      | error e =>
        rw [htaken] at hexec
        cases hexec
      | ok taken =>
        rw [htaken] at hexec
        cases hexec
        exact .taken ⟨hfound defaults rfl, hretained⟩ htaken

/-- What answers tell of a template is what the registry tells, if all known templates are complete
where any defaults are kept. -/
theorem Registry.Remnant.retells {r : Registry} {d : Descriptor} (hr : r.Remnant scope)
    (hcomplete : r.Complete scope.host name →
      scope.Told r.templates.get? scope.host.Template name d)
    (hnot : ¬ r.Complete scope.host name → scope.Defaults scope.host.Template name d) :
    r.Retells scope name d where
  known hk := by
    by_cases hc : r.Complete scope.host name
    · exact hcomplete hc
    · -- Nothing is kept, so that the declared defaults are computed.
      have hnone : r.templates.get? = fun _ => none := by
        funext n
        refine Option.eq_none_iff_forall_ne_some.2 fun d' hget => hc ?_
        exact hr.complete hget hk
      rw [hnone]
      exact Scope.told_none_iff.2 (hnot hc)
  unknown hk := hnot fun hc => hk hc.known

/-- The prototype that is answered is the declared one exactly if what the registry keeps is up to
date. -/
theorem Lookup.Prototyped.declared_iff {r : Registry}
    (hp : Lookup.Prototyped scope r name prototype) (h : scope.host.Definite)
    (hr : r.Remnant scope) :
    scope.Prototype scope.host.Template name prototype ↔ r.UpToDate scope name := by
  cases hp with
  -- What is kept is answered, and no other condition applies to a name with a class entry.
  | kept hget =>
    refine ⟨fun hdeclared => ⟨fun hget' => ?_, fun hnone => ?_⟩,
      fun hupToDate => hupToDate.kept hget⟩
    · cases hget.symm.trans hget'
      exact hdeclared
    · cases hget.symm.trans hnone
  | undeclared hnone hfind hprototype =>
    refine iff_of_true (.inr ⟨hfind.not_declares, hprototype⟩) ⟨fun hget => ?_, fun _ hdecl => ?_⟩
    · cases hnone.symm.trans hget
    · exact absurd hdecl (hfind.not_declares _)
  | registered hnone hdecl hcalm hidle hexec =>
    have hresolves := Lookup.resolves_retained h.toHealthy (h.toHealthy.sourced h.sourceOnly)
      h.acyclic h.toGrounded hcalm hidle hdecl _ (List.Subset.refl _) r hr.sound hr.exact hr.rests
      hexec
    rcases hresolves.firstUse (fun _ _ htaken => htaken.1) [] rfl (by simp) with
      ⟨rfl, hplain⟩ | ⟨use, d, p, hfirst, ⟨ht, hcomplete, hnot⟩, htaken, rfl⟩
    · -- No annotation is a template. Then no first one is either, so that both sides hold.
      refine iff_of_true (.inl ⟨_, hdecl, .none hplain⟩) ⟨fun hget => ?_, fun _ hdecl' hfirst => ?_⟩
      · cases hnone.symm.trans hget
      · cases hdecl.unique hdecl'
        exact absurd hfirst.holds (hplain _ hfirst.mem)
    · have hretells := hr.retells hcomplete hnot
      by_cases hk : use.name ∈ r.knownTemplates
      · -- The template that decides is known: what it is told to contribute decides.
        have htold := hretells.known hk
        refine ⟨fun hdeclared => ⟨fun hget => ?_, fun _ hdecl' hfirst' _ htold' htaken' => ?_⟩,
          fun hupToDate => hupToDate.told hnone hdecl hfirst hk htold htaken⟩
        · cases hnone.symm.trans hget
        · cases hdecl.unique hdecl'
          cases hfirst.unique hfirst'
          cases htold.unique htold'
          cases htaken.symm.trans htaken'
          exact hdeclared
      · -- The template is announced on the way, for which the defaults that are kept are dropped.
        refine iff_of_true (.inl ⟨_, hdecl, .some hfirst (hretells.unknown hk) htaken⟩)
          ⟨fun hget => ?_, fun _ hdecl' hfirst' hk' => ?_⟩
        · cases hnone.symm.trans hget
        · cases hdecl.unique hdecl'
          cases hfirst.unique hfirst'
          exact absurd hk' hk

/-- A prototype is answered from what is left of a registry, and is the declared one exactly if that
is up to date. -/
theorem Request.prototypeData_declared_iff {r : Registry} (h : scope.host.Definite)
    (hcalm : g.Calm) (hr : r.Remnant scope) (name : String) :
    ∃ prototype s', (prototypeData scope name).exec ⟨r, g⟩ = (.ok prototype, s') ∧
      (scope.Prototype scope.host.Template name prototype ↔ r.UpToDate scope name) := by
  let U := soundUpkeep h.toHealthy h.wellFormed h.acyclic
  have hinv : U.Inv r := ⟨hr.sound, hr.exact⟩
  obtain ⟨out, r', hexec, _, hok⟩ :=
    U.yields_prototype? h.toHealthy (h.toHealthy.sourced h.sourceOnly) hcalm name hinv
  cases out with
  -- Nothing fails on a definite host, so that what comes out is a prototype.
  | error e => exact (hok e rfl).elim
  | ok prototype =>
    have hprototyped := Lookup.prototyped_of_exec h.toHealthy hcalm hexec
    exact ⟨prototype, _, exec_contain_ok hexec, hprototyped.declared_iff h hr⟩

end

/-! ## Following an edit -/

namespace Request

variable {host host' : Host} {settings : DiscoverySettings} {own : String} {decl : Declaration}
  {s : Session}

/-- After any questions the declaration of a class is edited and its file is refreshed. What is left
in the registry was declared before the edit, of a prototype as of a template. The prototype that is
answered for a name is the one that is declared now exactly if what is left is up to date; and then
its enrichers are the ones that their classes declare now. -/
theorem prototypeData_follows_edit_iff (h : host.Definite) (h' : host'.Definite)
    (hnever : ∀ name ∈ neverTemplates, ∀ decl, ¬ host'.Declares name decl)
    (hedit : host.EditsClass host' own) (hdecl : host'.Declares own decl)
    (hs : Scope.Reached ⟨host, settings⟩ s) :
    let s' := s.refresh host' decl.file
    (∀ name prototype, s'.registry.classes.get? name = some prototype →
      Scope.Prototype ⟨host, settings⟩ host.Template name prototype) ∧
    (∀ name defaults, s'.registry.templates.get? name = some defaults →
      Scope.Defaults ⟨host, settings⟩ host.Template name defaults) ∧
    ∀ name, ∃ prototype s'',
      (prototypeData ⟨host', settings⟩ name).exec s' = (.ok prototype, s'') ∧
      (Scope.Prototype ⟨host', settings⟩ host'.Template name prototype ↔
        s'.registry.UpToDate ⟨host', settings⟩ name) ∧
      (s'.registry.UpToDate ⟨host', settings⟩ name →
        ∀ descriptor ∈ prototype, descriptor.Enriched host') := by
  intro s'
  have hsourced : host.Sourced := h.toHealthy.sourced h.sourceOnly
  obtain ⟨hcalm, hfaithful⟩ : s.guards.Calm ∧ s.registry.Faithful ⟨host, settings⟩ :=
    Upkeep.holds_of_reached (U := h.upkeep) h.toHealthy hsourced .fresh hs
  obtain ⟨_, hrecorded⟩ := Upkeep.holds_of_reached (U := recordedUpkeep ⟨host, settings⟩)
    h.toHealthy hsourced .fresh hs
  obtain ⟨names, hrefresh, hcovers⟩ := h'.toHealthy.refresh s.registry decl.file
  have hs' : s' = ⟨s.registry.forgetAll names, s.guards⟩ :=
    congrArg (Session.mk · s.guards) hrefresh
  rw [hs']
  -- Forgetting names only removes entries: what is left was there before.
  have hforgets := s.registry.forgets_forgetAll names
  have hremnant := hfaithful.remnant_of_forgetAll hedit hdecl hcovers hnever hrecorded
  refine ⟨fun name prototype hget => ?_, fun name defaults hget => ?_, fun name => ?_⟩
  · -- Prototypes are left as they were declared before the edit, as are defaults.
    exact .inl (hfaithful.classes (hforgets.classes hget).2)
  · exact hfaithful.settled.defaults_template hfaithful.sound (hforgets.templates hget).2
  · obtain ⟨prototype, s'', hexec, hiff⟩ :=
      @prototypeData_declared_iff ⟨host', settings⟩ _ _ h' hcalm hremnant name
    refine ⟨prototype, s'', hexec, hiff, fun hupToDate d hd => ?_⟩
    cases hd
    exact (hiff.2 hupToDate).enriched

end Request

/-! ### A field that is renamed -/

namespace Program

/-- A class that adds a field of a given name. -/
def fieldAdder (field : String) : Declaration :=
  enricherClass "Adds" [⟨"adds", .enumConstant "AugmentType" "FIELD", none⟩,
    ⟨"name", .text field, none⟩, ⟨"type", .text "int", none⟩]

/-- A prototype that names the class. -/
def addedField : Program :=
  .ofDeclarations [{ path := "src/e/Adds.java" }, { path := "src/a/D.java" }]
    [fieldAdder "x",
     { name := "D", qualifiedName := some "a.D", file := ⟨1⟩, kind := .interfaceType
       annotations := [{ name := codePrototype, attrs :=
         [⟨"enrichers", .array [.classLiteral "e.Adds"], none⟩] }] }]

/-- The same after the field was renamed. -/
def renamedField : Program := addedField.updateDeclaration ⟨0⟩ (fieldAdder "y")

theorem consistent_addedField : addedField.Consistent := .ofDeclarations (by decide) (by decide)

theorem consistent_renamedField : renamedField.Consistent :=
  consistent_addedField.updateDeclaration_same rfl rfl (by decide)

theorem definite_addedField : addedField.toHost.Definite :=
  consistent_addedField.definite (by decide) (by decide) (by decide)
    (fun name => 2 - ["e.Adds", "a.D"].idxOf name) (by decide)

theorem definite_renamedField : renamedField.toHost.Definite :=
  consistent_renamedField.definite (by decide) (by decide) (by decide)
    (fun name => 2 - ["e.Adds", "a.D"].idxOf name) (by decide)

theorem declares_renamedField : renamedField.toHost.Declares "e.Adds" (fieldAdder "y") :=
  consistent_renamedField.declares_iff.2 ⟨⟨0⟩, rfl, rfl⟩

theorem editsClass_renamedField : addedField.toHost.EditsClass renamedField.toHost "e.Adds" where
  -- The edited declaration goes by the same name, so that no other name is touched.
  others hne := by
    have hname : (fieldAdder "x").qualifiedName = some "e.Adds" := by decide
    refine consistent_addedField.declares_updateDeclaration consistent_renamedField ?_ ?_
    · intro h
      exact hne (Option.some.inj h).symm
    · intro old hold h
      cases hold
      exact hne (Option.some.inj h).symm
  uncarried := consistent_addedField.not_carries (by decide)
  uncarried' := consistent_renamedField.not_carries (by decide)

/-- The session in which the prototype was asked for before the edit. The first answer is not kept,
since the root is announced for it; the second one is. -/
def askedTwice : Session :=
  Scope.askAll addedField.scope [.prototypeData "a.D", .prototypeData "a.D"] ⟨{}, {}⟩

theorem reached_askedTwice : addedField.scope.Reached askedTwice :=
  (Scope.Reached.start.ask (.prototypeData "a.D") trivial).ask (.prototypeData "a.D") trivial

/-- The refresh forgets the class alone. -/
theorem covers_askedTwice {names : List String}
    (h : askedTwice.registry.Covers renamedField.toHost ⟨0⟩ names) :
    ∀ name ∈ names, name = "e.Adds" := by
  -- The names owned by the file, those declared in it, and those derived from one of the list.
  refine h.least (fun name howner => ?_) (fun name decl hdecl hfile => ?_)
    fun parent name _ hderived => ?_
  · have howners : askedTwice.registry.owners = ⟨[("a.D", ⟨1⟩)]⟩ := rfl
    simp only [howners, Table.get?_cons] at howner
    split at howner
    · cases howner
    · cases howner
  · obtain ⟨hmem, hname⟩ := consistent_renamedField.mem_decls hdecl
    have hfiles : ∀ decl ∈ renamedField.decls, decl.file = ⟨0⟩ →
        decl.qualifiedName = some "e.Adds" := by decide
    exact Option.some.inj (hname.symm.trans (hfiles decl hmem hfile))
  · cases hderived

/-- The prototype that was answered before the edit stays after the refresh. -/
theorem refresh_askedTwice :
    (askedTwice.refresh renamedField.toHost ⟨0⟩).registry.classes.get? "a.D" =
      askedTwice.registry.classes.get? "a.D" := by
  obtain ⟨names, hrefresh, hcovers⟩ :=
    consistent_renamedField.healthy.refresh askedTwice.registry ⟨0⟩
  have hnames := covers_askedTwice hcovers
  have hunknown : ∀ other ∈ names, other ∉ askedTwice.registry.knownTemplates := by
    intro other hother
    rw [hnames other hother]
    have hknown : askedTwice.registry.knownTemplates = [codePrototype] := rfl
    rw [hknown]
    decide
  -- No known template is forgotten, hence nothing beyond the names of the list.
  have hleft : "a.D" ∉ names := fun hmem => absurd (hnames _ hmem) (by decide)
  exact (congrArg (·.classes.get? "a.D") hrefresh).trans
    (Registry.forgetAll_of_unknown hunknown hleft).1

end Program

namespace Request

theorem prototypeData_follows_edit_iff_renamedField :
    let host := Program.addedField.toHost
    let host' := Program.renamedField.toHost
    let s' := Program.askedTwice.refresh host' (Program.fieldAdder "y").file
    host.Definite ∧ host'.Definite ∧
    (∀ name ∈ neverTemplates, ∀ decl, ¬ host'.Declares name decl) ∧
    host.EditsClass host' "e.Adds" ∧ host'.Declares "e.Adds" (Program.fieldAdder "y") ∧
    Scope.Reached ⟨host, {}⟩ Program.askedTwice ∧
    (∀ name prototype, s'.registry.classes.get? name = some prototype →
      Scope.Prototype ⟨host, {}⟩ host.Template name prototype) ∧
    (∀ name defaults, s'.registry.templates.get? name = some defaults →
      Scope.Defaults ⟨host, {}⟩ host.Template name defaults) ∧
    ∀ name, ∃ prototype s'', (prototypeData ⟨host', {}⟩ name).exec s' = (.ok prototype, s'') ∧
      (Scope.Prototype ⟨host', {}⟩ host'.Template name prototype ↔
        s'.registry.UpToDate ⟨host', {}⟩ name) ∧
      (s'.registry.UpToDate ⟨host', {}⟩ name →
        ∀ descriptor ∈ prototype, descriptor.Enriched host') := by
  have hnever : ∀ name ∈ neverTemplates, ∀ decl,
      ¬ Program.renamedField.toHost.Declares name decl := by
    intro name hname decl hdecl
    obtain ⟨hmem, hown⟩ := Program.consistent_renamedField.mem_decls hdecl
    have hdecls : ∀ decl ∈ Program.renamedField.decls, ∀ own ∈ decl.qualifiedName,
        own ∉ neverTemplates := by decide
    exact hdecls decl hmem name hown hname
  exact ⟨Program.definite_addedField, Program.definite_renamedField, hnever,
    Program.editsClass_renamedField, Program.declares_renamedField, Program.reached_askedTwice,
    prototypeData_follows_edit_iff Program.definite_addedField Program.definite_renamedField hnever
      Program.editsClass_renamedField Program.declares_renamedField Program.reached_askedTwice⟩

/-- A prototype names a class that adds a field, and is asked for twice. The field is renamed and
the file of the class refreshed, and the prototype that is answered still has the old name. -/
theorem prototypeData_misses_renamedField :
    let host := Program.addedField.toHost
    let host' := Program.renamedField.toHost
    host.Definite ∧ host'.Definite ∧ host.EditsClass host' "e.Adds" ∧
    Scope.Reached ⟨host, {}⟩ Program.askedTwice ∧
    ∃ decl prototype s'' e, host'.Declares "e.Adds" decl ∧
      (prototypeData ⟨host', {}⟩ "a.D").exec (Program.askedTwice.refresh host' decl.file) =
        (.ok (some prototype), s'') ∧
      prototype.enrichers = [e] ∧ e.className = "e.Adds" ∧ e.name = "x" ∧
      (Enricher.ofDeclaration "e.Adds" decl).name = "y" := by
  intro host host'
  obtain ⟨prototype, e, hkept, henrichers, hclass, hname⟩ : ∃ prototype e,
      Program.askedTwice.registry.classes.get? "a.D" = some (some prototype) ∧
        prototype.enrichers = [e] ∧ e.className = "e.Adds" ∧ e.name = "x" :=
    -- The prototype that is left is answered as it stands.
    ⟨_, _, rfl, rfl, rfl, rfl⟩
  have hleft := Program.refresh_askedTwice.trans hkept
  have hexec : (Lookup.prototype? ⟨host', {}⟩ "a.D").exec
      (Program.askedTwice.refresh host' ⟨0⟩) =
        (.ok (some prototype), Program.askedTwice.refresh host' ⟨0⟩) := by
    rw [Lookup.prototype?, SessionM.exec_bind_ok (Lookup.exec_ask _)]
    simp only [host', hleft]
    rfl
  exact ⟨Program.definite_addedField, Program.definite_renamedField,
    Program.editsClass_renamedField, Program.reached_askedTwice, _, prototype, _, e,
    Program.declares_renamedField, exec_contain_ok hexec, henrichers, hclass, hname, by decide⟩

end Request

end PrototypeLens
