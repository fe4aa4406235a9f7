import PrototypeLens.Proofs.Descriptor.Taking
import PrototypeLens.Proofs.Session.Recursion

/-!
# How lookups nest

The recursions behind the lookups, and what each of their steps can come to: the defaults of a
template look up those of a template it carries, discovering an annotation discovers others,
registering a declaration registers the prototype it was generated from, and resolving what an
annotation validates resolves the annotations on it. Each of them is kept by guards of its own from
nesting for one name, and each but the outermost is for a name that the host declares.

## Layers

- `defaulting`, `discovering`, `registering`, `validating`: the four recursions as instances of one
  scheme. `within_defaulting` and its likes show that the scheme gives the lookups themselves, limit
  for limit.
- `defaultingGuarding` and its likes: which guards mark what is under way, and which names bound the
  nesting. `suffices_defaulting` and its likes: the limits that the lookups start with are enough.
- One `matches` lemma for each part of a lookup: the part runs alike in two scopes that say the same
  and with two recursive calls that run alike.

## Main results

- `guarded_defaulting`, `guarded_discovering`, `guarded_registering`, `guarded_validating`: every
  recursive call is for a subject that is not under way and that the host declares.
- `matches_templateDefaults`, `matches_discover`, `matches_registerClass`,
  `matches_validationDescriptor`: so the lookups run alike whatever their limits are, as long as
  these are enough.
- `answers_templateDefaults` and its likes: each lookup answers without coming to a limit.
-/

namespace PrototypeLens

open SessionM (Matches)

namespace Lookup

variable {scope scope' : Scope} {K : Registry → Registry → Prop} {g : Guards}

/-! ## Defaults -/

/-- The recursion behind the defaults of templates. -/
def defaulting (scope : Scope) :
    Recursion (String × Option Declaration) (String × Option Declaration) String Descriptor where
  call compute c := do
    if (← askGuards (·.defaulting)).contains c.1 then pure {} else compute c
  compute recur i :=
    SessionM.within (fun g => { g with defaulting := g.defaulting.add i.1 })
      (fun g => { g with defaulting := g.defaulting.remove i.1 })
      (defaultsStep scope (fun name decl => recur (name, decl)) i.1 i.2)
  subject := Prod.fst

theorem within_defaulting (scope : Scope) (limit : Nat) (name : String)
    (decl : Option Declaration) :
    (defaulting scope).within limit (name, decl) = defaultsWithin scope limit name decl := by
  -- The induction is on the limit; one level of the scheme unfolds to one level of the lookup.
  induction limit generalizing name decl with
  | zero => rfl
  | succ limit ih =>
    have hrecur : (fun name decl => (defaulting scope).within limit (name, decl)) =
        defaultsWithin scope limit := by
      funext name decl
      exact ih name decl
    rw [Recursion.within, defaultsWithin, ← hrecur]
    rfl

/-- A name with a declaration is one of the names of the host. -/
def Known (host : Host) (c : String × Option Declaration) : Prop :=
  c.2.isSome = true → c.1 ∈ host.names

/-- Templates whose defaults are computed are marked; those whose defaults are looked up on the way
are found by their names. -/
def defaultingGuarding (scope : Scope) :
    Recursion.Guarding (String × Option Declaration) (String × Option Declaration) where
  path g := g.defaulting
  names := scope.host.names
  Fresh _ _ := True
  Nested := Known scope.host
  Listed := Known scope.host

theorem suffices_defaulting (scope : Scope) (g : Guards) (c : String × Option Declaration) :
    (defaultingGuarding scope).Suffices (scope.host.names.length + 2) g c :=
  ⟨trivial, .inl (Nat.le_refl _)⟩

section Defaults

variable (h : scope.Restates scope') (hK : Registry.Course K)
include h hK

theorem matches_inheritedDefaults {recur recur' : String → Option Declaration → Lookup Descriptor}
    (hrecur : ∀ name decl, Known scope.host (name, decl) →
      Matches K g (recur name decl) (recur' name decl)) (parent : AnnotationUse) :
    Matches K g (inheritedDefaults scope recur parent)
      (inheritedDefaults scope' recur' parent) := by
  unfold inheritedDefaults
  rw [h.declarationOf?, h.resolveEnricher]
  have htake (d : Descriptor) :
      Matches K g (ofExcept (d.takeUsage (resolveEnricher scope) parent))
        (ofExcept (d.takeUsage (resolveEnricher scope) parent)) :=
    hK.ofExcept (d.takeUsage_ne_tooDeep parent)
  refine hK.bind (hK.ask _) fun kept => ?_
  cases kept with
  -- Defaults that are kept already are taken without a nested call.
  | some defaults => exact hK.bind (hK.pure defaults) htake
  | none =>
    -- The nested call is for the declaration that the name was found to have.
    refine hK.found fun decl hdecl => hK.bind (hrecur _ decl fun hsome => ?_) htake
    obtain ⟨decl, rfl⟩ := Option.isSome_iff_exists.1 hsome
    exact (Host.finds_some_iff.1 hdecl).mem_names

theorem matches_ownDefaults (name : String) (decl : Option Declaration)
    (inherited : Descriptor) : Matches K g
      (match decl with
        | some decl => ofExcept (inherited.takeDefaults (resolveEnricher scope) name decl.methods)
        | none => pure inherited)
      (match decl with
        | some decl => ofExcept (inherited.takeDefaults (resolveEnricher scope') name decl.methods)
        | none => pure inherited) := by
  rw [h.resolveEnricher]
  cases decl with
  | some decl => exact hK.ofExcept (inherited.takeDefaults_ne_tooDeep name decl.methods)
  | none => exact hK.pure _

/-- Only a template with a declaration inherits from another one. -/
theorem matches_defaultsStep {recur recur' : String → Option Declaration → Lookup Descriptor}
    (name : String) (decl : Option Declaration)
    (hrecur : decl.isSome = true → ∀ name decl, Known scope.host (name, decl) →
      Matches K g (recur name decl) (recur' name decl)) :
    Matches K g (defaultsStep scope recur name decl) (defaultsStep scope' recur' name decl) := by
  refine hK.bind (hK.ask _) fun known => ?_
  -- Without a carried template there is nothing to recur for.
  cases hparent : parentUse? known name decl with
  | some parent =>
    have hdecl : decl.isSome = true := by
      cases decl with
      | some decl => rfl
      | none => cases hparent
    exact hK.bind (matches_inheritedDefaults h hK (hrecur hdecl) parent)
      fun _ => matches_ownDefaults h hK name decl _
  | none => exact hK.bind (hK.pure _) fun _ => matches_ownDefaults h hK name decl _

theorem guarded_defaulting :
    Recursion.Guarded K (defaultingGuarding scope) (defaulting scope) (defaulting scope') where
  call {g c run run'} _ hrun := by
    dsimp only [defaulting]
    refine .askGuards ?_
    split
    · -- A template whose defaults are under way has none to inherit.
      exact hK.pure _
    · rename_i hmet
      exact hrun c (show c.1 ∉ g.defaulting by simpa using hmet) id
  compute {g i recur recur'} hfresh hrecur := by
    have hnew : i.1 ∉ g.defaulting := hfresh
    dsimp only [defaulting]
    -- The mark is taken off again, as the name was not marked before.
    refine .within (by simp [NameSet.remove_add hnew]) ?_
    refine matches_defaultsStep h hK i.1 i.2 fun hdecl name decl hknown => ?_
    exact hrecur _ (name, decl) (if_neg hnew) trivial hknown fun hi => hi hdecl

theorem matches_templateDefaults (name : String) (decl : Option Declaration) :
    Matches K g (templateDefaults scope name decl) (templateDefaults scope' name decl) := by
  -- The limits of the two scopes may differ; both are enough.
  rw [templateDefaults, templateDefaults, ← within_defaulting, ← within_defaulting]
  exact (guarded_defaulting h hK).matches_bounded (guarded_defaulting (.refl scope') hK)
    (suffices_defaulting scope g _) (suffices_defaulting scope' g _)

end Defaults

theorem answers_templateDefaults (scope : Scope) (s : Session) (name : String)
    (decl : Option Declaration) : (defaulting scope).Answers s.guards.defaulting (name, decl) s
      ((templateDefaults scope name decl).exec s) := by
  rw [templateDefaults, ← within_defaulting]
  exact (guarded_defaulting (.refl scope) .any).answers_within _
    (suffices_defaulting scope s.guards _) s.registry

/-! ## Discovery -/

/-- The recursion behind the discovery of annotations. -/
def discovering (scope : Scope) : Recursion String String String (Option Descriptor) where
  call compute := compute
  compute recur name :=
    SessionM.within (fun g => { g with discovering := g.discovering.add name })
      (fun g => { g with discovering := g.discovering.remove name })
      (discoverStep scope recur name)
  subject := id

theorem within_discovering (scope : Scope) (limit : Nat) (name : String) :
    (discovering scope).within limit name = discoverWithin scope limit name := by
  -- The induction is on the limit.
  induction limit generalizing name with
  | zero => rfl
  | succ limit ih =>
    have hrecur : (discovering scope).within limit = discoverWithin scope limit := funext ih
    rw [Recursion.within, discoverWithin, ← hrecur]
    rfl

/-- Annotations that are being discovered are marked, and are not discovered again. -/
def discoveringGuarding (scope : Scope) : Recursion.Guarding String String where
  path g := g.discovering
  names := scope.host.names
  Fresh g name := name ∉ g.discovering
  Nested _ := True
  Listed _ := True

theorem suffices_discovering (scope : Scope) {name : String} (hfresh : name ∉ g.discovering) :
    (discoveringGuarding scope).Suffices (scope.host.names.length + 1) g name :=
  ⟨hfresh, .inr ⟨trivial, Nat.lt_succ_of_le (Recursion.Guarding.unmet_le _ _)⟩⟩

section Discovery

variable (h : scope.Restates scope') (hK : Registry.Course K)
include hK

theorem matches_denyTemplate (name : String) (file : Option FileId) :
    Matches K g (denyTemplate name file) (denyTemplate name file) :=
  .record fun r => hK.denyTemplate r name file

theorem matches_settle (name : String) (decl : Declaration) (result : Option Descriptor) :
    Matches K g (settle name decl result) (settle name decl result) := by
  unfold settle
  split
  · exact hK.bind (matches_denyTemplate hK name _) fun _ => hK.pure _
  · exact hK.pure _

include h

theorem matches_ensureTemplate (name : String) (decl : Option Declaration) :
    Matches K g (ensureTemplate scope name decl) (ensureTemplate scope' name decl) := by
  refine hK.bind (hK.ask _) fun kept => ?_
  -- A known template ends it; otherwise it is announced, and its defaults are computed and
  -- published.
  cases kept with
  | some defaults => exact hK.pure _
  | none =>
    refine .nested (hK.bind (.record fun r => hK.announceTemplate r name) fun _ => ?_)
    refine hK.bind (hK.ask _) fun epoch => ?_
    refine hK.bind (matches_templateDefaults h hK name decl) fun defaults => ?_
    exact hK.bind (.record fun r => hK.publishTemplate r epoch name _ defaults) fun _ => hK.pure _

section Nested

variable {discover discover' : String → Lookup (Option Descriptor)}
  (hdiscover : ∀ name, name ∉ g.discovering → Matches K g (discover name) (discover' name))
include hdiscover

theorem matches_inspectUse (own : String) (decl : Declaration) (result : Option Descriptor)
    (mark : AnnotationUse) :
    Matches K g (inspectUse scope discover own decl result mark)
      (inspectUse scope' discover' own decl result mark) := by
  have hparent : Matches K g (parentTemplate? discover mark.name)
      (parentTemplate? discover' mark.name) := by
    -- A carried name is discovered only if it is not kept and not under way.
    refine hK.bind (hK.ask _) fun kept => ?_
    cases kept with
    | some defaults => exact hK.pure _
    | none =>
      refine .askGuards ?_
      split
      · exact hK.pure _
      · rename_i hmet
        exact hdiscover mark.name (by simpa using hmet)
  unfold inspectUse
  -- The three kinds of annotations: the marker, one that is denied, and one that is looked at.
  split
  · exact hK.bind (matches_ensureTemplate h hK own _) fun _ => hK.pure _
  · refine hK.bind (hK.ask _) fun denied => ?_
    split
    · exact hK.pure _
    · refine hK.bind hparent fun parent => ?_
      cases parent with
      | some _ =>
        refine hK.bind (.record fun r => hK.recordDependent r mark.name own) fun _ => ?_
        exact hK.bind (matches_ensureTemplate h hK own _) fun _ => hK.pure _
      | none => exact hK.bind (matches_denyTemplate hK mark.name none) fun _ => hK.pure _

theorem matches_inspectDeclaration (decl : Declaration) :
    Matches K g (inspectDeclaration scope discover decl)
      (inspectDeclaration scope' discover' decl) := by
  unfold inspectDeclaration
  split
  · exact hK.pure _
  · exact hK.foldlM (matches_inspectUse h hK hdiscover _ decl) _ _

omit h in
theorem matches_discoverUse (mark : AnnotationUse) :
    Matches K g (discoverUse discover mark) (discoverUse discover' mark) := by
  unfold discoverUse
  split
  · exact hK.pure _
  · -- The guards are asked first, then the denials and then the known templates; only what passes
    -- all three is discovered.
    refine .askGuards ?_
    split
    · exact hK.pure _
    · rename_i hmet
      refine hK.bind (hK.ask _) fun denied => ?_
      split
      · exact hK.pure _
      · refine hK.bind (hK.ask _) fun known => ?_
        split
        · exact hK.pure _
        · exact hK.discard (hdiscover mark.name (by simpa using hmet))

theorem matches_takeListed (name : String) :
    Matches K g (takeListed scope discover name) (takeListed scope' discover' name) := by
  unfold takeListed
  rw [h.declarationOf?]
  -- A root is registered with or without a declaration, anything else only with one.
  refine hK.found fun decl _ => ?_
  split
  · exact hK.discard (matches_ensureTemplate h hK name decl)
  · cases decl with
    | none => exact hK.pure _
    | some decl =>
      dsimp only
      split
      · refine hK.bind (hK.forM _ fun mark _ => matches_discoverUse hK hdiscover mark) fun _ => ?_
        exact hK.discard (matches_ensureTemplate h hK name _)
      · exact matches_denyTemplate hK name _

theorem matches_takeManifest (entries : List ManifestEntry) :
    Matches K g (takeManifest scope discover entries) (takeManifest scope' discover' entries) := by
  refine hK.forM _ fun entry _ => hK.bind (hK.ask _) fun kept => ?_
  -- What is kept already was taken from another manifest or discovered before.
  cases kept with
  | some _ => exact hK.pure _
  | none => exact matches_takeListed h hK hdiscover entry.name

theorem matches_discoverArchived (archive : Archive) (name : String) (decl : Declaration) :
    Matches K g (discoverArchived scope discover archive name decl)
      (discoverArchived scope' discover' archive name decl) := by
  unfold discoverArchived
  rw [h.settings]
  split
  · exact hK.pure _
  · exact hK.bind (matches_denyTemplate hK name none) fun _ => hK.pure _
  · -- After the manifest was taken the name may be kept; otherwise its declaration is inspected.
    refine hK.bind (matches_takeManifest h hK hdiscover _) fun _ => ?_
    refine hK.bind (hK.ask _) fun kept => ?_
    cases kept with
    | some defaults => exact hK.pure _
    | none =>
      exact hK.bind (matches_inspectDeclaration h hK hdiscover decl)
        fun _ => matches_settle hK name decl _

end Nested

/-- Only an annotation that is declared is discovered through others. -/
theorem matches_discoverStep {discover discover' : String → Lookup (Option Descriptor)}
    (name : String) (hdiscover : name ∈ scope.host.names → ∀ name, name ∉ g.discovering →
      Matches K g (discover name) (discover' name)) :
    Matches K g (discoverStep scope discover name) (discoverStep scope' discover' name) := by
  unfold discoverStep
  rw [h.declarationOf?]
  refine hK.found fun decl hfind => ?_
  -- Roots are templates without a look at their declarations.
  split
  · exact hK.bind (matches_ensureTemplate h hK name decl) fun _ => hK.pure _
  · cases decl with
    | none => exact hK.pure _
    | some decl =>
      have hdiscover := hdiscover (Host.finds_some_iff.1 hfind).mem_names
      rw [h.file, h.archiveAt]
      refine hK.bind (hK.query _) fun file => ?_
      split
      · exact matches_discoverArchived h hK hdiscover _ name decl
      · exact hK.bind (matches_inspectDeclaration h hK hdiscover decl)
          fun _ => matches_settle hK name decl _

theorem guarded_discovering :
    Recursion.Guarded K (discoveringGuarding scope) (discovering scope) (discovering scope') where
  -- What is being discovered is not asked for again, so that every call is for a new name.
  call hfresh hrun := hrun _ hfresh fun _ => trivial
  compute {g name recur recur'} hfresh hrecur := by
    have hnew : name ∉ g.discovering := hfresh
    dsimp only [discovering]
    refine .within (by simp [NameSet.remove_add hnew]) ?_
    refine matches_discoverStep h hK name fun hname other hother => ?_
    exact hrecur _ other (if_neg hnew) hother trivial fun _ => hname

theorem matches_discover {name : String} (hfresh : name ∉ g.discovering) :
    Matches K g (discover scope name) (discover scope' name) := by
  rw [discover, discover, ← within_discovering, ← within_discovering]
  exact (guarded_discovering h hK).matches_bounded (guarded_discovering (.refl scope') hK)
    (suffices_discovering scope hfresh) (suffices_discovering scope' hfresh)

theorem matches_template? (name : String) :
    Matches K g (template? scope name) (template? scope' name) := by
  refine hK.bind (hK.ask _) fun kept => ?_
  cases kept with
  | some defaults => exact hK.pure _
  | none =>
    refine hK.bind (hK.ask _) fun denied => ?_
    -- Only what is neither kept nor denied nor under way is discovered.
    split
    · exact hK.pure _
    · refine .askGuards ?_
      split
      · exact hK.pure _
      · rename_i hmet
        exact matches_discover h hK (by simpa using hmet)

end Discovery

theorem answers_discover (scope : Scope) (s : Session) {name : String}
    (hfresh : name ∉ s.guards.discovering) :
    (discovering scope).Answers s.guards.discovering name s ((discover scope name).exec s) := by
  rw [discover, ← within_discovering]
  exact (guarded_discovering (.refl scope) .any).answers_within _
    (suffices_discovering scope hfresh) s.registry

/-! ## Registering declarations -/

/-- The recursion behind the registration of declarations. -/
def registering (scope : Scope) :
    Recursion DeclId (String × Declaration) String (Option Descriptor) where
  call compute id := do
    let decl ← query (scope.host.declaration id)
    match decl.qualifiedName with
    | none => pure none
    | some name =>
      match ← ask (·.classes.get? name) with
      | some prototype => pure prototype
      | none =>
        if (← askGuards (·.registering)).contains name then pure none else compute (name, decl)
  compute recur i :=
    SessionM.within (fun g => { g with registering := g.registering.add i.1 })
      (fun g => { g with registering := g.registering.remove i.1 })
      (SessionM.nested (registerStep scope recur i.1 i.2))
  subject := Prod.fst

theorem within_registering (scope : Scope) (limit : Nat) (id : DeclId) :
    (registering scope).within limit id = registerWithin scope limit id := by
  -- The induction is on the limit.
  induction limit generalizing id with
  | zero => rfl
  | succ limit ih =>
    have hrecur : (registering scope).within limit = registerWithin scope limit := funext ih
    rw [Recursion.within, registerWithin, ← hrecur]
    rfl

/-- The qualified names of the declarations that names resolve to. -/
def resolvedNames (host : Host) : List String :=
  host.names.filterMap fun name =>
    (host.findData name).toOption.join.bind fun (_, decl) => decl.qualifiedName

theorem mem_resolvedNames {host : Host} {name own : String} {id : DeclId} {decl : Declaration}
    (hfind : host.find name = .ok (some id)) (hdecl : host.declaration id = .ok decl)
    (hown : decl.qualifiedName = some own) : own ∈ resolvedNames host := by
  refine List.mem_filterMap.2 ⟨name, host.mem_names hfind, ?_⟩
  rw [Host.findData_eq_some_iff.2 ⟨hfind, hdecl⟩]
  exact hown

/-- Declarations that are being registered are marked; those that are registered on the way are
found by a name. -/
def registeringGuarding (scope : Scope) : Recursion.Guarding DeclId (String × Declaration) where
  path g := g.registering
  names := resolvedNames scope.host
  Fresh _ _ := True
  Nested id := ∃ name, scope.host.find name = .ok (some id)
  Listed i := i.1 ∈ resolvedNames scope.host

theorem suffices_registering (scope : Scope) (g : Guards) (id : DeclId) :
    (registeringGuarding scope).Suffices (scope.host.names.length + 2) g id :=
  ⟨trivial, .inl (Nat.add_le_add_right (List.length_filterMap_le _ _) 2)⟩

section Registering

variable (h : scope.Restates scope') (hK : Registry.Course K)
include h hK

theorem matches_prototypeOfUses (marks : List AnnotationUse) :
    Matches K g (prototypeOfUses scope marks) (prototypeOfUses scope' marks) := by
  -- The first annotation that is a template decides; the others are not looked at.
  induction marks with
  | nil => exact hK.pure _
  | cons mark marks ih =>
    unfold prototypeOfUses
    rw [h.resolveEnricher]
    refine hK.bind (matches_template? h hK mark.name) fun found => ?_
    cases found with
    | some defaults =>
      exact hK.bind (hK.ofExcept (defaults.takeUsage_ne_tooDeep mark)) fun _ => hK.pure _
    | none => exact ih

/-- Only the prototype that a declaration was generated from is registered on the way. -/
theorem matches_checkGenerated {register register' : DeclId → Lookup (Option Descriptor)}
    (hregister : ∀ id name, scope.host.find name = .ok (some id) →
      Matches K g (register id) (register' id)) (name : String) (decl : Declaration) :
    Matches K g (checkGenerated scope register name decl)
      (checkGenerated scope' register' name decl) := by
  unfold checkGenerated
  rw [h.settings, h.find]
  -- An origin that is known already ends the check.
  refine hK.bind (hK.ask _) fun known => ?_
  cases known with
  | some origin => exact hK.pure _
  | none =>
    refine hK.bind (hK.ask _) fun epoch => ?_
    cases originOf? scope.settings.generatedMarkers decl with
    | none => exact hK.bind (.record fun r => hK.publishNonGenerated r _ _ _) fun _ => hK.pure _
    | some prototype =>
      have hpublish (a : PUnit) : Matches K g (do
          record (·.publishGenerated epoch name decl.file prototype)
          pure (some prototype)) (do
          record (·.publishGenerated epoch name decl.file prototype)
          pure (some prototype)) :=
        hK.bind (.record fun r => hK.publishGenerated r _ _ _ _) fun _ => hK.pure _
      -- The origin is published whether or not its prototype is declared.
      refine hK.answered fun found hfound => ?_
      cases found with
      | some id => exact hK.bind (hK.discard (hregister id prototype hfound)) hpublish
      | none => exact hpublish ()

theorem guarded_registering :
    Recursion.Guarded K (registeringGuarding scope) (registering scope) (registering scope') where
  call {g id run run'} _ hrun := by
    dsimp only [registering]
    -- The same declaration is read in both scopes.
    rw [h.declaration]
    refine hK.answered fun decl hdecl => ?_
    cases hname : decl.qualifiedName with
    | none => exact hK.pure _
    | some name =>
      refine hK.bind (hK.ask _) fun kept => ?_
      cases kept with
      | some prototype => exact hK.pure _
      | none =>
        refine .askGuards ?_
        split
        · exact hK.pure _
        · rename_i hmet
          have hnew : name ∉ g.registering := by simpa using hmet
          refine hrun (name, decl) hnew ?_
          -- A declaration that was found by a name is one of those that bound the recursion.
          rintro ⟨name', hfind⟩
          exact mem_resolvedNames hfind hdecl hname
  compute {g i register register'} hfresh hregister := by
    have hnew : i.1 ∉ g.registering := hfresh
    dsimp only [registering]
    refine .within (by simp [NameSet.remove_add hnew]) (.nested ?_)
    -- The class entry is published before the check, and the check is the only part that recurs.
    refine hK.bind (hK.ask _) fun epoch => ?_
    refine hK.bind (matches_prototypeOfUses h hK _) fun prototype => ?_
    refine hK.bind (.record fun r => hK.publishClass r _ _ _ _) fun _ => ?_
    refine hK.bind (hK.discard ?_) fun _ => hK.pure _
    refine matches_checkGenerated h hK (fun id name hfind => ?_) i.1 i.2
    exact hregister _ id (if_neg hnew) trivial ⟨name, hfind⟩ fun hname => hname

theorem matches_registerClass (id : DeclId) :
    Matches K g (registerClass scope id) (registerClass scope' id) := by
  rw [registerClass, registerClass, ← within_registering, ← within_registering]
  exact (guarded_registering h hK).matches_bounded (guarded_registering (.refl scope') hK)
    (suffices_registering scope g id) (suffices_registering scope' g id)

theorem matches_prototype? (name : String) :
    Matches K g (prototype? scope name) (prototype? scope' name) := by
  unfold prototype?
  rw [h.find]
  refine hK.bind (hK.ask _) fun kept => ?_
  cases kept with
  | some prototype => exact hK.pure _
  | none =>
    refine hK.bind (hK.query _) fun found => ?_
    cases found with
    | some id => exact matches_registerClass h hK id
    | none => exact hK.pure _

theorem matches_origin? (name : String) :
    Matches K g (origin? scope name) (origin? scope' name) := by
  unfold origin?
  rw [h.declarationOf?]
  -- An origin that is known and a name that is being registered end the lookup.
  refine hK.bind (hK.ask _) fun known => ?_
  cases known with
  | some origin => exact hK.pure _
  | none =>
    refine hK.bind (hK.ask _) fun registered => ?_
    split
    · exact hK.pure _
    · refine hK.found fun decl _ => ?_
      cases decl with
      | some decl =>
        exact matches_checkGenerated h hK (fun id _ _ => matches_registerClass h hK id) name decl
      | none => exact hK.pure _

end Registering

theorem answers_registerClass (scope : Scope) (s : Session) (id : DeclId) :
    (registering scope).Answers s.guards.registering id s ((registerClass scope id).exec s) := by
  rw [registerClass, ← within_registering]
  exact (guarded_registering (.refl scope) .any).answers_within _
    (suffices_registering scope s.guards id) s.registry

/-! ## Validation -/

/-- The recursion behind what annotations validate. -/
def validating (scope : Scope) : Recursion String String String ValidationDescriptor where
  call compute name := do
    match ValidationDescriptor.root? name with
    | some root => pure root
    | none =>
      match ← ask (·.validators.get? name) with
      | some descriptor => pure descriptor
      | none => if (← askGuards (·.validating)).contains name then pure {} else compute name
  compute recur name :=
    SessionM.within (fun g => { g with validating := g.validating.add name })
      (fun g => { g with validating := g.validating.remove name })
      (facetsStep scope recur name)
  subject := id

theorem within_validating (scope : Scope) (limit : Nat) (name : String) :
    (validating scope).within limit name = facetsWithin scope limit name := by
  -- The induction is on the limit.
  induction limit generalizing name with
  | zero => rfl
  | succ limit ih =>
    have hrecur : (validating scope).within limit = facetsWithin scope limit := funext ih
    rw [Recursion.within, facetsWithin, ← hrecur]
    rfl

/-- Annotations that are being resolved are marked. -/
def validatingGuarding (scope : Scope) : Recursion.Guarding String String where
  path g := g.validating
  names := scope.host.names
  Fresh _ _ := True
  Nested _ := True
  Listed _ := True

theorem suffices_validating (scope : Scope) (g : Guards) (name : String) :
    (validatingGuarding scope).Suffices (scope.host.names.length + 1) g name :=
  ⟨trivial, .inr ⟨trivial, Nat.lt_succ_of_le (Recursion.Guarding.unmet_le _ _)⟩⟩

section Validation

variable (h : scope.Restates scope') (hK : Registry.Course K)
  (hpublish : ∀ r epoch name file d, K r (Registry.publishValidator r epoch name file d))
include h hK

theorem matches_facetsOfUses {facets facets' : String → Lookup ValidationDescriptor}
    (hfacets : ∀ name, Matches K g (facets name) (facets' name)) (name : String)
    (declaresTargets : Bool) (marks : List AnnotationUse) :
    Matches K g (facetsOfUses scope facets name declaresTargets marks)
      (facetsOfUses scope' facets' name declaresTargets marks) := by
  have htargets (mark : AnnotationUse) (parent : ValidationDescriptor) :
      Matches K g (inheritedTargets scope declaresTargets mark parent)
        (inheritedTargets scope' declaresTargets mark parent) := by
    unfold inheritedTargets
    split
    · exact hK.pure _
    · split
      · rw [h.targetsOf]
        exact hK.map _ (hK.query _)
      · exact hK.pure _
  -- The first annotation with targets decides; the induction is on those before it.
  induction marks with
  | nil => exact hK.pure _
  | cons mark marks ih =>
    refine .askGuards ?_
    split
    · exact ih
    · refine hK.bind (hfacets mark.name) fun parent => ?_
      refine hK.bind (.record fun r => hK.recordDependent r _ _) fun _ => ?_
      split
      · exact hK.bind (htargets mark parent) fun _ => hK.pure _
      · exact ih

include hpublish

/-- Only an annotation type that is declared is resolved through others. -/
theorem matches_facetsStep {facets facets' : String → Lookup ValidationDescriptor}
    (name : String) (hfacets : name ∈ scope.host.names → ∀ name,
      Matches K g (facets name) (facets' name)) :
    Matches K g (facetsStep scope facets name) (facetsStep scope' facets' name) := by
  unfold facetsStep
  rw [h.declarationOf?]
  refine hK.bind (hK.ask _) fun epoch => hK.found fun decl hfind => ?_
  have hkeep (d : ValidationDescriptor) : Matches K g
      (record (·.publishValidator epoch name (decl.map (·.file)) d) >>= fun _ => pure d)
      (record (·.publishValidator epoch name (decl.map (·.file)) d) >>= fun _ => pure d) :=
    hK.bind (.record fun r => hpublish r _ _ _ _) fun _ => hK.pure _
  cases hdecl : decl.filter (·.isAnnotationType) with
  | none => exact hK.bind (hK.pure _) hkeep
  | some decl' =>
    obtain ⟨rfl, _⟩ := Option.filter_eq_some_iff.1 hdecl
    have hfacets := hfacets (Host.finds_some_iff.1 hfind).mem_names
    exact hK.bind (matches_facetsOfUses h hK hfacets name _ _) hkeep

theorem guarded_validating :
    Recursion.Guarded K (validatingGuarding scope) (validating scope) (validating scope') where
  call {g name run run'} _ hrun := by
    dsimp only [validating]
    -- The built-in descriptors and those that were resolved before need no recursion.
    split
    · exact hK.pure _
    · refine hK.bind (hK.ask _) fun kept => ?_
      cases kept with
      | some descriptor => exact hK.pure _
      | none =>
        refine .askGuards ?_
        split
        · exact hK.pure _
        · rename_i hmet
          have hnew : name ∉ g.validating := by simpa using hmet
          exact hrun name hnew fun _ => trivial
  compute {g name facets facets'} hfresh hfacets := by
    have hnew : name ∉ g.validating := hfresh
    dsimp only [validating]
    refine .within (by simp [NameSet.remove_add hnew]) ?_
    -- Only an annotation type with a declaration leads on to others.
    refine matches_facetsStep h hK hpublish name fun hname other => ?_
    exact hfacets _ other (if_neg hnew) trivial trivial fun _ => hname

theorem matches_validationDescriptor (name : String) :
    Matches K g (validationDescriptor scope name) (validationDescriptor scope' name) := by
  rw [validationDescriptor, validationDescriptor, ← within_validating, ← within_validating]
  exact (guarded_validating h hK hpublish).matches_bounded
    (guarded_validating (.refl scope') hK hpublish)
    (suffices_validating scope g name) (suffices_validating scope' g name)

end Validation

theorem answers_validationDescriptor (scope : Scope) (s : Session) (name : String) :
    (validating scope).Answers s.guards.validating name s
      ((validationDescriptor scope name).exec s) := by
  rw [validationDescriptor, ← within_validating]
  exact (guarded_validating (.refl scope) .any fun _ _ _ _ _ => trivial).answers_within _
    (suffices_validating scope s.guards name) s.registry

end Lookup

end PrototypeLens
