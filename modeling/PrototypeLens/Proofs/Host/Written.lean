import PrototypeLens.Augment.VirtualMember
import PrototypeLens.Lookup.Class
import PrototypeLens.Proofs.Template.Defaults

/-!
# What lookups read of declarations

Lookups for templates, prototypes and origins read the annotations of declarations, and of the
members only the methods that are written in the source. So they tell the same on a host whose
declarations are without the members that were merged into them.

## Layers

- `Declaration.written` and `Host.written`: without merged members. Merging more of them changes
  nothing of this.
- Templates: defaults, then the inspection of a declaration, then the search with its limit.
- Prototypes and origins, which rest on templates.

## Main results

- `Lookup.template?_written`, `Lookup.registerClass_written` and `Lookup.declOrigin?_written`: the
  three kinds of lookup are equal as computations, and so in every session.
-/

namespace PrototypeLens

/-! ## Without merged members -/

/-- A declaration without the members that were merged into it. -/
def Declaration.written (d : Declaration) : Declaration :=
  { d with
    fields := d.fields.filter (!·.origin.isAugmented)
    methods := d.methods.filter (!·.origin.isAugmented)
    constructors := d.constructors.filter (!·.origin.isAugmented) }

theorem Declaration.written_mergeMember (d : Declaration) (m : VirtualMember) :
    (d.mergeMember m).written = d.written := by
  cases m <;> simp [mergeMember, written, VirtualField.toField, VirtualMethod.toMethod,
    VirtualConstructor.toConstructor, Origin.isAugmented]

/-- Merging adds nothing else. -/
theorem Declaration.written_merge (d : Declaration) (members : List VirtualMember) :
    (d.merge members).written = d.written := by
  -- Each merged member is left out again, whichever kind it has.
  induction members generalizing d with
  | nil => rfl
  | cons m members ih => exact (ih (d.mergeMember m)).trans (d.written_mergeMember m)

namespace Host

/-- A host whose declarations are without the members that were merged into them. -/
def written (host : Host) : Host where
  find := host.find
  declaration id := (host.declaration id).map Declaration.written
  file := host.file
  declarationsIn := host.declarationsIn
  classpath := host.classpath
  archiveAt := host.archiveAt
  names := host.names
  ids := host.ids
  mem_names := host.mem_names
  mem_ids {id decl} h := by
    cases hdecl : host.declaration id with
    | ok decl' => exact host.mem_ids hdecl
    | error e =>
      rw [hdecl] at h
      cases h

theorem findData_written (host : Host) (name : String) :
    host.written.findData name =
      (host.findData name).map (Option.map fun (id, d) => (id, d.written)) := by
  simp only [findData, written]
  cases host.find name with
  | error e => rfl
  | ok found =>
    cases found with
    | none => rfl
    | some id =>
      simp only [bind, Except.bind, pure, Except.pure]
      cases host.declaration id <;> rfl

end Host

/-- The scope with a host whose declarations are without the members that were merged into
them. -/
def Scope.written (scope : Scope) : Scope := ⟨scope.host.written, scope.settings⟩

/-! ## Templates -/

/-- Element defaults are taken from the methods in the source. -/
theorem Descriptor.takeDefaults_written
    (resolve : String → Except QueryError (Option Enricher)) (d : Descriptor) (template : String)
    (decl : Declaration) : d.takeDefaults resolve template decl.written.methods =
      d.takeDefaults resolve template decl.methods := by
  rw [Declaration.written, takeDefaults, takeDefaults]
  -- The induction is on the methods, with the descriptor open: a merged one is passed over by both.
  induction decl.methods generalizing d with
  | nil => rfl
  | cons m methods ih =>
    cases horigin : m.origin with
    | augmented own =>
      rw [List.filter_cons_of_neg (by simp [horigin, Origin.isAugmented]), ih, List.foldlM_cons,
        horigin]
      rfl
    | source =>
      rw [List.filter_cons_of_pos (by simp [horigin, Origin.isAugmented]), List.foldlM_cons,
        List.foldlM_cons]
      exact bind_congr fun d' => ih d'

namespace Lookup

variable (scope : Scope)

theorem query_map {α β : Type} (f : α → β) (result : Except QueryError α) :
    query (result.map f) = f <$> query result := by
  cases result <;> rfl

theorem resolveEnricher_written : resolveEnricher scope.written = resolveEnricher scope := by
  funext className
  rw [resolveEnricher, resolveEnricher, Scope.written, Host.findData_written]
  cases scope.host.findData className with
  | error e => rfl
  | ok entry => cases entry <;> rfl

theorem declarationOf?_written (name : String) :
    declarationOf? scope.written name =
      Option.map Declaration.written <$> declarationOf? scope name := by
  rw [declarationOf?, declarationOf?, Scope.written, Host.findData_written, query_map,
    bind_map_left, ← bind_pure_comp, bind_assoc]
  -- If there is a declaration, it is handed on without its merged members.
  refine bind_congr fun entry => ?_
  cases entry <;> rfl

variable {scope}

theorem inheritedDefaults_written {recur recur' : String → Option Declaration → Lookup Descriptor}
    (hrecur : ∀ name decl, recur' name (decl.map Declaration.written) = recur name decl)
    (parent : AnnotationUse) :
    inheritedDefaults scope.written recur' parent = inheritedDefaults scope recur parent := by
  rw [inheritedDefaults, inheritedDefaults, resolveEnricher_written]
  refine bind_congr fun kept => ?_
  cases kept with
  | some defaults => rfl
  | none => simp only [declarationOf?_written, bind_map_left, hrecur]

theorem defaultsStep_written {recur recur' : String → Option Declaration → Lookup Descriptor}
    (hrecur : ∀ name decl, recur' name (decl.map Declaration.written) = recur name decl)
    (name : String) (decl : Option Declaration) :
    defaultsStep scope.written recur' name (decl.map Declaration.written) =
      defaultsStep scope recur name decl := by
  cases decl with
  | none =>
    simp only [defaultsStep, Option.map_none, parentUse?, Option.bind_none]
  | some decl =>
    have hparent (known : NameSet) : parentUse? known name (some decl.written) =
        parentUse? known name (some decl) := rfl
    simp only [defaultsStep, Option.map_some, hparent, inheritedDefaults_written hrecur,
      resolveEnricher_written, Descriptor.takeDefaults_written]

theorem defaultsWithin_written (limit : Nat) (name : String) (decl : Option Declaration) :
    defaultsWithin scope.written limit name (decl.map Declaration.written) =
      defaultsWithin scope limit name decl := by
  -- The induction is on the limit: defaults of other templates are asked for with a smaller one.
  induction limit generalizing name decl with
  | zero => rfl
  | succ limit ih => simp only [defaultsWithin, defaultsStep_written ih]

theorem ensureTemplate_written (name : String) (decl : Option Declaration) :
    ensureTemplate scope.written name (decl.map Declaration.written) =
      ensureTemplate scope name decl := by
  have hfile : (decl.map Declaration.written).map (·.file) = decl.map (·.file) := by
    cases decl <;> rfl
  have hdefaults : templateDefaults scope.written name (decl.map Declaration.written) =
      templateDefaults scope name decl := defaultsWithin_written ..
  simp only [ensureTemplate, registerTemplate, hdefaults, hfile]

section Discovery

variable {recur : String → Lookup (Option Descriptor)}

theorem inspectDeclaration_written (decl : Declaration) :
    inspectDeclaration scope.written recur decl.written = inspectDeclaration scope recur decl := by
  have huse (own : String) : inspectUse scope.written recur own decl.written =
      inspectUse scope recur own decl := by
    funext result mark
    -- Registering the template takes its defaults, which are read from written methods only.
    have hensure : ensureTemplate scope.written own (some decl.written) =
        ensureTemplate scope own (some decl) := ensureTemplate_written own (some decl)
    simp only [inspectUse, hensure]
  have hname : decl.written.qualifiedName = decl.qualifiedName := rfl
  have hmarks : decl.written.annotations = decl.annotations := rfl
  simp only [inspectDeclaration, hname, hmarks, huse]

theorem takeManifest_written (entries : List ManifestEntry) :
    takeManifest scope.written recur entries = takeManifest scope recur entries := by
  have hlisted (name : String) : takeListed scope.written recur name =
      takeListed scope recur name := by
    rw [takeListed, takeListed, declarationOf?_written, bind_map_left]
    refine bind_congr fun decl => ?_
    rw [ensureTemplate_written]
    cases decl with
    | none => rfl
    | some decl =>
      have hensure : ensureTemplate scope.written name (some decl.written) =
          ensureTemplate scope name (some decl) := ensureTemplate_written name (some decl)
      have hmarked : decl.written.isAnnotatedWith templateMarker =
          decl.isAnnotatedWith templateMarker := rfl
      simp only [Option.map_some, hensure, hmarked]
      rfl
  simp only [takeManifest, hlisted]

theorem discoverStep_written (name : String) :
    discoverStep scope.written recur name = discoverStep scope recur name := by
  rw [discoverStep, discoverStep, declarationOf?_written, bind_map_left]
  -- Both runs find a declaration or none, since merging adds no declaration.
  refine bind_congr fun decl => ?_
  rw [ensureTemplate_written]
  cases decl with
  | none => rfl
  | some decl =>
    have harchived (archive : Archive) :
        discoverArchived scope.written recur archive name decl.written =
          discoverArchived scope recur archive name decl := by
      rw [discoverArchived, discoverArchived]
      simp only [takeManifest_written, inspectDeclaration_written]
      rfl
    simp only [Option.map_some, harchived, inspectDeclaration_written]
    rfl

end Discovery

theorem discoverWithin_written (limit : Nat) (name : String) :
    discoverWithin scope.written limit name = discoverWithin scope limit name := by
  induction limit generalizing name with
  | zero => rfl
  | succ limit ih =>
    have hrecur : discoverWithin scope.written limit = discoverWithin scope limit := funext ih
    simp only [discoverWithin, hrecur, discoverStep_written]

theorem template?_written (name : String) :
    template? scope.written name = template? scope name := by
  have hdiscover : discover scope.written name = discover scope name := discoverWithin_written ..
  simp only [template?, hdiscover]

/-! ## Prototypes and origins -/

theorem prototypeOfUses_written (uses : List AnnotationUse) :
    prototypeOfUses scope.written uses = prototypeOfUses scope uses := by
  -- The annotations are tried in order; each is judged by its own template.
  induction uses with
  | nil => rfl
  | cons use uses ih =>
    simp only [prototypeOfUses, template?_written, resolveEnricher_written, ih]

theorem registerWithin_written (limit : Nat) (id : DeclId) :
    registerWithin scope.written limit id = registerWithin scope limit id := by
  induction limit generalizing id with
  | zero => rfl
  | succ limit ih =>
    have hrecur : registerWithin scope.written limit = registerWithin scope limit := funext ih
    -- One registration, with the nested ones settled by the induction hypothesis.
    have hstep (name : String) (decl : Declaration) :
        registerStep scope.written (registerWithin scope limit) name decl.written =
          registerStep scope (registerWithin scope limit) name decl := by
      simp only [registerStep, prototypeOfUses_written]
      rfl
    have hdecl : query (scope.written.host.declaration id) =
        Declaration.written <$> query (scope.host.declaration id) := query_map ..
    rw [registerWithin, registerWithin, hdecl, bind_map_left]
    simp only [hrecur, hstep]
    rfl

theorem registerClass_written (id : DeclId) :
    registerClass scope.written id = registerClass scope id := registerWithin_written ..

theorem origin?_written (name : String) : origin? scope.written name = origin? scope name := by
  have hregister : registerClass scope.written = registerClass scope := funext registerClass_written
  rw [origin?, origin?, declarationOf?_written]
  refine bind_congr fun known => ?_
  cases known with
  -- What is known is answered without looking at a declaration.
  | some origin => rfl
  | none =>
    simp only [bind_map_left, hregister]
    refine bind_congr fun registered => ?_
    split
    · rfl
    · refine bind_congr fun decl => ?_
      cases decl <;> rfl

theorem declOrigin?_written (id : DeclId) :
    declOrigin? scope.written id = declOrigin? scope id := by
  have hwithin (limit : Nat) (id : DeclId) :
      declOriginWithin scope.written limit id = declOriginWithin scope limit id := by
    -- The limit counts the declarations around, and merging moves none of them.
    induction limit generalizing id with
    | zero => rfl
    | succ limit ih =>
      have hdecl : query (scope.written.host.declaration id) =
          Declaration.written <$> query (scope.host.declaration id) := query_map ..
      rw [declOriginWithin, declOriginWithin, hdecl, bind_map_left]
      simp only [ih, origin?_written]
      rfl
  exact hwithin _ id

end Lookup

end PrototypeLens
