import PrototypeLens.Proofs.Session.Freshness
import PrototypeLens.Proofs.Template.Soundness

/-!
# Denials that outlive an edit

What a session answers in one request, and what that means for an annotation that an edit has turned
into a template. A refresh takes back what was answered about the names in the file, and what is
recorded as derived from them. That another annotation was denied because it carries only the edited
one is not recorded, nor that a declaration has no prototype for that reason; so these answers stay
until another template is announced.

## Layers

- `Registry.TellsPrototype` and `Registry.Knowable`: what the registry tells about a name, and what
  it could ever tell. `knowableUpkeep` shows that lookups do not leave the latter.
- `Request.templateData_some_iff` and `Request.isPrototype_true_iff`: a session answers exactly what
  its registry tells.
- `Host.BuiltOn`: what is annotated with a name, through any chain.
- `Upheld.tells_builtOn_iff` and `tellsPrototype_builtOn_iff`: when the registry tells everything
  that is built on a template to be one, and what carries it to be a prototype.

## Main results

- When exactly everything that is built on a refreshed annotation is answered to be a template or a
  prototype.
- An annotation that is marked after another one was denied for carrying it.
-/

namespace PrototypeLens

variable {scope : Scope} {host : Host} {r r' : Registry} {g : Guards} {name base : String}

/-! ## What a registry tells -/

/-- The registry tells a name to be a prototype: one is kept, or nothing is kept and the declaration
carries an annotation that is told to be a template. -/
def Registry.TellsPrototype (host : Host) (r : Registry) (name : String) : Prop :=
  (∃ prototype, r.classes.get? name = some (some prototype)) ∨
    r.classes.get? name = none ∧ ∃ decl, host.Declares name decl ∧
      ∃ use ∈ decl.annotations, r.Tells host use.name

/-- What the registry could ever tell: what is derived from the roots and the known templates. -/
def Registry.Knowable (host : Host) (r : Registry) : String → Prop :=
  host.Derivable (fun n => n ∈ r.knownTemplates ∨ n ∈ rootTemplates) fun _ => False

/-- What the registry could tell is a set to which discovery keeps. -/
theorem Registry.sound_knowable
    (hkept : ∀ {n d}, r.templates.get? n = some d → n ∈ r.knownTemplates) :
    r.Sound [] (r.Knowable host) where
  never := List.nil_subset _
  denied := List.nil_subset _
  known hk := .given (.inl hk)
  kept := hkept

theorem Registry.closed_knowable : host.Closed [] (r.Knowable host) where
  root hroot := .given (.inr hroot)
  marked hc _ := .marked hc id
  carried hc hp _ := .carried hc hp id

/-- The annotations of a declaration give a prototype exactly if one of them is told to be a
template. -/
theorem Lookup.yields_prototypeOfUses_tells (h : scope.host.Healthy) (hs : scope.host.Sourced)
    (hidle : g.discovering = []) (hidle' : g.defaulting = []) {decl : Declaration}
    (hdecl : scope.host.Declares name decl) (uses : List AnnotationUse)
    (huses : uses ⊆ decl.annotations) :
    ∀ r, (prototypeOfUses scope uses).Yields r g fun out _ => ∀ prototype, out = .ok prototype →
      (prototype.isSome ↔ ∃ use ∈ uses, r.Tells scope.host use.name) := by
  -- The induction is on the annotations, with the registry open: the first template decides.
  induction uses with
  | nil =>
    intro r
    apply SessionM.yields_pure
    intro prototype hout
    cases hout
    simp
  | cons use uses ih =>
    intro r
    obtain ⟨huse, huses⟩ := List.cons_subset.1 huses
    have hyields := yields_template? h hs (hs.inSource hdecl huse) hidle hidle' (r := r)
    refine hyields.bind (fun found r₁ hans => ?_) fun e r₁ _ prototype hout => by cases hout
    obtain ⟨htold, hquiet, _⟩ := hans.verdict
    cases found with
    | none =>
      -- Nothing was found, so the rest is told what it was told before.
      have hnot : ¬ r.Tells scope.host use.name := fun ht => by simpa using htold.2 ht
      apply (ih huses r₁).mono
      intro out _ hrest prototype hout
      rw [hrest prototype hout]
      simp [(hquiet rfl).tells_iff, hnot]
    | some defaults =>
      -- The first template decides, whatever comes after it.
      have hyes : r.Tells scope.host use.name := htold.1 rfl
      refine (yields_ofExcept (defaults.takeUsage (resolveEnricher scope) use)).bind
        (fun taken r₂ _ => ?_) fun e r₂ _ prototype hout => by cases hout
      apply SessionM.yields_pure
      intro prototype hout
      cases hout
      simp [hyes]

/-- A prototype that is answered is told, and only such a one. -/
theorem Lookup.Prototyped.tells {prototype : Option Descriptor}
    (h : Prototyped scope r name prototype) (hhealthy : scope.host.Healthy)
    (hs : scope.host.Sourced) : prototype.isSome ↔ r.TellsPrototype scope.host name := by
  -- A kept prototype is told, an undeclared name is not, and a declaration is told by its
  -- annotations.
  cases h with
  | kept hget => cases prototype <;> simp [Registry.TellsPrototype, hget]
  | undeclared hget hfind hnone =>
    subst hnone
    simp [Registry.TellsPrototype, hget, hfind.not_declares]
  | @registered decl g s hget hdecl hidle hidle' huses =>
    obtain ⟨out, r', hexec, htold⟩ := yields_prototypeOfUses_tells hhealthy hs hidle hidle' hdecl
      decl.annotations (List.Subset.refl _) r
    rw [huses] at hexec
    cases hexec
    rw [htold prototype rfl]
    constructor
    · exact fun hsome => .inr ⟨hget, decl, hdecl, hsome⟩
    · rintro (⟨kept, hkept⟩ | ⟨_, decl', hdecl', hsome⟩)
      · rw [hget] at hkept
        cases hkept
      · rwa [hdecl.unique hdecl']

/-! ## What is answered -/

section Answered

variable (h : scope.host.Healthy) (hs : scope.host.Sourced)
  (hwf : scope.host.WellFormed (r.Knowable scope.host))

/-- Lookups register what can be known only, and do not fail. -/
def knowableUpkeep : Upkeep scope where
  Inv r' := r'.Sound [] (r.Knowable scope.host)
  Passed _ := True
  Taken _ name _ := r.Knowable scope.host name
  Failed := False
  answer hr hans := by
    obtain ⟨hr', hfound, hok⟩ := hans.sound Registry.closed_knowable hr
    refine ⟨hr', by simp, fun defaults hout => hfound defaults hout, fun e hout => ?_⟩
    exact absurd hout (hok h hwf e)
  take hdecl huse hknowable := Scope.takeUsage_ne_error h hwf hdecl huse hknowable
  publishClass _ hr _ _ := hr.congr (Registry.sameTemplates_publishClass ..)
  publishGenerated _ _ hr _ := hr.congr (Registry.sameTemplates_publishGenerated ..)
  publishNonGenerated _ hr _ := hr.congr (Registry.sameTemplates_publishNonGenerated ..)
  publishValidator _ _ hr _ := hr.congr (Registry.sameTemplates_publishValidator ..)
  recordDependent _ hr _ := hr.congr (Registry.sameTemplates_recordDependent ..)

include h hs hwf

variable (hcalm : g.Calm)
  (hkept : ∀ {n d}, r.templates.get? n = some d → n ∈ r.knownTemplates)
include hcalm hkept

/-- A session always answers whether an annotation is a template, and does so as its registry tells
it. -/
theorem Request.templateData_told (hsource : scope.host.InSource name) :
    ∃ found s', (templateData scope name).exec ⟨r, g⟩ = (.ok found, s') ∧
      (found.isSome ↔ r.Tells scope.host name) := by
  obtain ⟨out, r', hexec, hans⟩ := Lookup.yields_template? h hs hsource (r := r)
    hcalm.discovering hcalm.defaulting
  -- A failure would be a strategy that is not well-formed, on something that can be known.
  cases out with
  | error e =>
    obtain ⟨_, _, hok⟩ := hans.sound Registry.closed_knowable (Registry.sound_knowable hkept)
    exact absurd rfl (hok h hwf e)
  | ok found => exact ⟨found, _, exec_contain_ok hexec, hans.verdict.1⟩

/-- A session finds an annotation to be a template exactly if its registry tells so. -/
theorem Request.templateData_some_iff (hsource : scope.host.InSource name) :
    FindsTemplate scope ⟨r, g⟩ name ↔ r.Tells scope.host name := by
  obtain ⟨found, s', hexec, htold⟩ := templateData_told h hs hwf hcalm hkept hsource
  rw [← htold]
  constructor
  · rintro ⟨defaults, s'', hanswer⟩
    cases hexec.symm.trans hanswer
    rfl
  · intro hfound
    obtain ⟨defaults, rfl⟩ := Option.isSome_iff_exists.1 hfound
    exact ⟨defaults, s', hexec⟩

/-- A session finds a name to be a prototype exactly if its registry tells so. -/
theorem Request.isPrototype_true_iff :
    FindsPrototype scope ⟨r, g⟩ name ↔ r.TellsPrototype scope.host name := by
  obtain ⟨out, r', hexec, _, hfailed⟩ := Upkeep.yields_prototype? (U := knowableUpkeep h hwf) h hs
    hcalm name (Registry.sound_knowable hkept)
  -- What is answered is told for its own reason, which is one that the registry has.
  constructor
  · rintro ⟨s', hanswer⟩
    obtain ⟨prototype, hdata⟩ := prototypeData_of_isPrototype hanswer
    exact ((Lookup.prototyped_of_exec h hcalm (exec_of_contain_some hdata)).tells h hs).1 rfl
  · intro htold
    cases out with
    | error e => exact (hfailed e rfl).elim
    | ok prototype =>
      have hsome := ((Lookup.prototyped_of_exec h hcalm hexec).tells h hs).2 htold
      refine ⟨⟨r', g⟩, ?_⟩
      rw [exec_isPrototype, prototypeData, exec_contain_ok hexec]
      simp only [Except.map, hsome]

end Answered

/-! ## Annotations built on another -/

/-- The names that are annotated with `base`, directly or through a chain of declared annotations,
and of which none is never a template. -/
inductive Host.BuiltOn (host : Host) (base : String) : String → Prop where
  | direct {name : String} : host.Carries name base → name ∉ neverTemplates →
      BuiltOn host base name
  | chain {name parent : String} : host.Carries name parent → BuiltOn host base parent →
      name ∉ neverTemplates → BuiltOn host base name

theorem Host.BuiltOn.not_never (h : host.BuiltOn base name) : name ∉ neverTemplates := by
  cases h with
  | direct _ hnever => exact hnever
  | chain _ _ hnever => exact hnever

namespace Registry

/-- What is told and not denied is attested. -/
theorem Tells.attests (h : r.Tells host name) (hname : name ∉ r.nonTemplates) :
    r.Attests host [] name :=
  h.elim (fun hkept => .given ⟨hname, .inl hkept⟩) id

/-- What carries an attested name is attested unless it is denied. -/
theorem Attests.carried {parent : String} (h : r.Attests host [] parent)
    (hcarries : host.Carries name parent) (hname : name ∉ r.nonTemplates) :
    r.Attests host [] name :=
  Host.Derivable.carried hcarries h (by simpa using hname)

/-- Everything that is built on a template is told to be one exactly if none of it is denied. -/
theorem Upheld.tells_builtOn_iff {stale : FileId → Prop} (hr : r.Upheld host stale)
    (hbase : r.Attests host [] base) :
    (∀ name, host.BuiltOn base name → r.Tells host name) ↔
      ∀ name, host.BuiltOn base name → name ∉ r.nonTemplates := by
  constructor
  · -- What is denied can be told for its kept defaults only; but then it is not denied.
    intro htold name hbuilt hdenied
    rcases htold name hbuilt with hkept | hattests
    · obtain ⟨defaults, hget⟩ := Option.isSome_iff_exists.1 hkept
      exact hbuilt.not_never (hr.denied (hr.known hget) hdenied)
    · exact hattests.not_mem_nonTemplates hdenied
  · intro hnone name hbuilt
    right
    -- The induction is on the chain from the template up.
    induction hbuilt with
    | direct hcarries hnever => exact hbase.carried hcarries (hnone _ (.direct hcarries hnever))
    | chain hcarries hparent hnever ih =>
      exact ih.carried hcarries (hnone _ (.chain hcarries hparent hnever))

/-- Where everything that is built on a template is told to be one, the declarations that carry it
are told to be prototypes exactly if none is kept without one. -/
theorem tellsPrototype_builtOn_iff (hbase : r.Tells host base)
    (hbuilt : ∀ name, host.BuiltOn base name → r.Tells host name) :
    (∀ name mark, host.Carries name mark → mark = base ∨ host.BuiltOn base mark →
        r.TellsPrototype host name) ↔
      ∀ name mark, host.Carries name mark → mark = base ∨ host.BuiltOn base mark →
        r.classes.get? name ≠ some none := by
  constructor
  · intro htold name mark hcarries hmark hclass
    -- A name that is kept without a prototype is told to be none.
    rcases htold name mark hcarries hmark with ⟨prototype, hget⟩ | ⟨hget, _⟩
    · rw [hclass] at hget
      cases hget
    · rw [hclass] at hget
      cases hget
  · intro hclasses name mark hcarries hmark
    have hmarkTold : r.Tells host mark := by
      rcases hmark with rfl | hmark
      · exact hbase
      · exact hbuilt mark hmark
    obtain ⟨decl, hdecl, use, huse, rfl⟩ := hcarries
    have hclass := hclasses name use.name ⟨decl, hdecl, use, huse, rfl⟩ hmark
    -- Nothing is kept, or that there is none, or a prototype.
    rcases hget : r.classes.get? name with _ | _ | prototype
    · exact .inr ⟨hget, decl, hdecl, use, huse, hmarkTold⟩
    · exact absurd hget hclass
    · exact .inl ⟨prototype, hget⟩

/-- A name that is declared in a file is not denied after a refresh of the file, unless it is never
a template. -/
theorem not_mem_nonTemplates_refresh (hhealthy : host.Healthy) (r : Registry) {decl : Declaration}
    {file : FileId} (hdecl : host.Declares base decl) (hfile : decl.file = file)
    (hnever : base ∉ neverTemplates) : base ∉ (r.refresh host file).2.nonTemplates := by
  obtain ⟨names, hrefresh, hcovers⟩ := hhealthy.refresh r file
  intro hdenied
  rw [hrefresh] at hdenied
  -- What is denied afterwards is never a template, or was not forgotten; both are excluded.
  rcases (r.forgets_forgetAll names).denied hdenied with hmem | ⟨_, hname⟩
  · exact hnever hmem
  · exact hname (hcovers.declared hdecl hfile)

end Registry

/-! ## After an edit -/

/-- After a refresh of the file of an annotation, a template or a prototype is answered exactly if
the registry tells so; the annotation itself is told to be a template if it carries the marker or a
template that is attested. Once it is, everything that is built on it is answered to be a template,
and every declaration that carries it or what is built on it to be a prototype, exactly if nothing
that is built on it is still denied, and no such declaration is still kept without a prototype. -/
theorem Request.builtOn_positive_iff {settings : DiscoverySettings} {s : Session}
    {stale : FileId → Prop} (hs : Lifetime settings host s stale) {decl : Declaration}
    {file : FileId} (hdecl : host.Declares base decl) (hfile : decl.file = file)
    (hnever : base ∉ neverTemplates)
    (hwf : host.WellFormed ((s.refresh host file).registry.Knowable host)) :
    let scope : Scope := ⟨host, settings⟩
    let s' := s.refresh host file
    (∀ name, FindsTemplate scope s' name ↔ s'.registry.Tells host name) ∧
    (∀ name, FindsPrototype scope s' name ↔ s'.registry.TellsPrototype host name) ∧
    (∀ parent, host.Carries base parent →
      parent = templateMarker ∨ s'.registry.Attests host [] parent → s'.registry.Tells host base) ∧
    (s'.registry.Tells host base →
      (((∀ name, host.BuiltOn base name → FindsTemplate scope s' name) ∧
        (∀ name mark, host.Carries name mark → mark = base ∨ host.BuiltOn base mark →
          FindsPrototype scope s' name)) ↔
        (∀ name, host.BuiltOn base name → name ∉ s'.registry.nonTemplates) ∧
        (∀ name mark, host.Carries name mark → mark = base ∨ host.BuiltOn base mark →
          s'.registry.classes.get? name ≠ some none))) := by
  intro scope s'
  have hs' := hs.refresh file
  obtain ⟨hhealthy, hsource⟩ := hs'.healthy
  obtain ⟨hcalm, hr⟩ := hs'.upheld
  have hsourced := hhealthy.sourced hsource
  have htemplate (name : String) : FindsTemplate scope s' name ↔ s'.registry.Tells host name :=
    templateData_some_iff hhealthy hsourced hwf hcalm hr.known
      (hsource.inSource name)
  have hprototype (name : String) :
      FindsPrototype scope s' name ↔ s'.registry.TellsPrototype host name :=
    isPrototype_true_iff hhealthy hsourced hwf hcalm hr.known
  have hbase : base ∉ s'.registry.nonTemplates :=
    Registry.not_mem_nonTemplates_refresh hhealthy s.registry hdecl hfile hnever
  refine ⟨htemplate, hprototype, ?_, ?_⟩
  · rintro parent hcarries (rfl | hattests)
    · exact .inr (.marked hcarries (by simpa using hbase))
    · exact .inr (hattests.carried hcarries hbase)
  · intro htold
    -- From here on only what the registry tells is compared with what it has kept.
    simp only [htemplate, hprototype]
    have hattests : s'.registry.Attests host [] base := htold.attests hbase
    have hbuilt := hr.tells_builtOn_iff hattests
    constructor
    · rintro ⟨htemplates, hprototypes⟩
      have hclasses := Registry.tellsPrototype_builtOn_iff htold htemplates
      exact ⟨hbuilt.1 htemplates, hclasses.1 hprototypes⟩
    · rintro ⟨hdenied, hclasses⟩
      have htemplates := hbuilt.2 hdenied
      have hprototypes := Registry.tellsPrototype_builtOn_iff htold htemplates
      exact ⟨htemplates, hprototypes.2 hclasses⟩

/-! ### An annotation that is marked later -/

namespace Program

/-- An annotation without annotations, one that carries it, and a declaration that carries that. -/
def plainParent : Program :=
  .ofDeclarations
    [{ path := "src/a/M.java" }, { path := "src/a/N.java" }, { path := "src/a/D.java" }]
    [{ name := "M", qualifiedName := some "a.M", file := ⟨0⟩, kind := .annotationType },
     { name := "N", qualifiedName := some "a.N", file := ⟨1⟩, kind := .annotationType
       annotations := [{ name := "a.M" }] },
     { name := "D", qualifiedName := some "a.D", file := ⟨2⟩, kind := .interfaceType
       annotations := [{ name := "a.N" }] }]

/-- The first annotation, marked. -/
def markedDeclaration : Declaration where
  name := "M"
  qualifiedName := some "a.M"
  file := ⟨0⟩
  kind := .annotationType
  annotations := [{ name := templateMarker }]

/-- The same with the first annotation marked. -/
def markedLater : Program := plainParent.updateDeclaration ⟨0⟩ markedDeclaration

theorem consistent_plainParent : plainParent.Consistent :=
  .ofDeclarations (by decide) (by decide)

theorem consistent_markedLater : markedLater.Consistent :=
  consistent_plainParent.updateDeclaration_same rfl rfl (by decide)

theorem declares_markedLater : markedLater.toHost.Declares "a.M" markedDeclaration :=
  consistent_markedLater.declares_iff.2 ⟨⟨0⟩, rfl, rfl⟩

/-- The session in which the declaration was asked for before the edit. -/
def askedEarly : Session :=
  ((Question.ask plainParent.scope (.isPrototype "a.D")).exec ⟨{}, {}⟩).2

/-- The edit took place after the question. -/
theorem lifetime_askedEarly :
    Lifetime {} markedLater.toHost askedEarly
      fun file => False ∨ ¬ plainParent.toHost.SameIn markedLater.toHost file :=
  have hstart : Lifetime {} plainParent.toHost ⟨{}, {}⟩ fun _ => False :=
    .start consistent_plainParent.healthy (consistent_plainParent.sourceOnly (by decide))
  have hasked := hstart.ask (.isPrototype "a.D")
  hasked.edit consistent_markedLater.healthy (consistent_markedLater.sourceOnly (by decide))

end Program

theorem Request.builtOn_positive_iff_markedLater :
    let scope := Program.markedLater.scope
    let s' := Program.askedEarly.refresh scope.host ⟨0⟩
    (∀ name, FindsTemplate scope s' name ↔ s'.registry.Tells scope.host name) ∧
    (∀ name, FindsPrototype scope s' name ↔ s'.registry.TellsPrototype scope.host name) ∧
    (∀ parent, scope.host.Carries "a.M" parent →
      parent = templateMarker ∨ s'.registry.Attests scope.host [] parent →
        s'.registry.Tells scope.host "a.M") ∧
    (s'.registry.Tells scope.host "a.M" →
      (((∀ name, scope.host.BuiltOn "a.M" name → FindsTemplate scope s' name) ∧
        (∀ name mark, scope.host.Carries name mark → mark = "a.M" ∨ scope.host.BuiltOn "a.M" mark →
          FindsPrototype scope s' name)) ↔
        (∀ name, scope.host.BuiltOn "a.M" name → name ∉ s'.registry.nonTemplates) ∧
        (∀ name mark, scope.host.Carries name mark → mark = "a.M" ∨ scope.host.BuiltOn "a.M" mark →
          s'.registry.classes.get? name ≠ some none))) :=
  builtOn_positive_iff Program.lifetime_askedEarly Program.declares_markedLater rfl (by decide)
    (Program.consistent_markedLater.wellFormed _ (by decide))

/-- The refresh forgets the marked annotation alone: nothing was recorded to depend on it. -/
theorem Program.covers_askedEarly {names : List String}
    (h : askedEarly.registry.Covers markedLater.toHost ⟨0⟩ names) :
    ∀ name ∈ names, name = "a.M" := by
  -- The names owned by the file, those declared in it, and those derived from one of the list.
  refine h.least (fun name howner => ?_) (fun name decl hdecl hfile => ?_)
    fun parent name _ hderived => ?_
  · have howners : askedEarly.registry.owners =
        ⟨[("a.D", ⟨2⟩), ("a.N", ⟨1⟩), ("a.M", ⟨0⟩)]⟩ := rfl
    simp only [howners, Table.get?_cons] at howner
    -- There are three owners, and only the last one lies in the file.
    split at howner
    · cases howner
    · split at howner
      · cases howner
      · split at howner
        · rename_i hname
          exact hname
        · cases howner
  · obtain ⟨hmem, hname⟩ := consistent_markedLater.mem_decls hdecl
    have hfiles : ∀ decl ∈ markedLater.decls, decl.file = ⟨0⟩ →
        decl.qualifiedName = some "a.M" := by decide
    exact Option.some.inj (hname.symm.trans (hfiles decl hmem hfile))
  · cases hderived

/-- What was answered before the edit stays after the refresh. -/
theorem Program.refresh_askedEarly :
    let r' := (askedEarly.refresh markedLater.toHost ⟨0⟩).registry
    "a.N" ∈ r'.nonTemplates ∧ r'.classes.get? "a.D" = some none := by
  obtain ⟨names, hrefresh, hcovers⟩ :=
    consistent_markedLater.healthy.refresh askedEarly.registry ⟨0⟩
  have hnames := covers_askedEarly hcovers
  have hunknown : ∀ other ∈ names, other ∉ askedEarly.registry.knownTemplates := by
    intro other _ hknown
    cases hknown
  have hstays {name : String} (hname : name ≠ "a.M") :=
    Registry.forgetAll_of_unknown hunknown fun hmem => hname (hnames name hmem)
  intro r'
  have hr' : r' = askedEarly.registry.forgetAll names := hrefresh
  rw [hr']
  -- What is kept about the other names is what the question has left.
  refine ⟨(hstays (by decide)).2.2 ?_, (hstays (by decide)).1.trans ?_⟩
  · have hdenied : askedEarly.registry.nonTemplates = "a.N" :: "a.M" :: neverTemplates := rfl
    rw [hdenied]
    exact List.mem_cons_self
  · rfl

/-- An annotation that was denied before another one was marked is still denied after the refresh of
the file that was edited, and a declaration that carries it has no prototype. -/
theorem Request.builtOn_denied_markedLater :
    let scope := Program.markedLater.scope
    let s' := Program.askedEarly.refresh scope.host ⟨0⟩
    (∃ stale, Lifetime {} scope.host Program.askedEarly stale) ∧
      scope.host.WellFormed (fun _ => True) ∧
      scope.host.Declares "a.M" Program.markedDeclaration ∧ "a.M" ∉ neverTemplates ∧
      scope.host.Carries "a.M" templateMarker ∧ scope.host.BuiltOn "a.M" "a.N" ∧
      scope.host.Carries "a.D" "a.N" ∧
      ¬ FindsTemplate scope s' "a.N" ∧ ¬ FindsPrototype scope s' "a.D" := by
  intro scope s'
  have hp := Program.consistent_markedLater
  obtain ⟨hcalm, hr⟩ := (Program.lifetime_askedEarly.refresh ⟨0⟩).upheld
  obtain ⟨hdenied, hclass⟩ := Program.refresh_askedEarly
  have hwf : scope.host.WellFormed fun _ => True := hp.wellFormed _ (by decide)
  have hwf' : scope.host.WellFormed (s'.registry.Knowable scope.host) := hp.wellFormed _ (by decide)
  have hsource : scope.host.SourceOnly := hp.sourceOnly (by decide)
  have hsourced := hp.healthy.sourced hsource
  have hM : scope.host.Carries "a.M" templateMarker :=
    ⟨_, Program.declares_markedLater, _, List.mem_cons_self, rfl⟩
  have hN : scope.host.Carries "a.N" "a.M" :=
    ⟨_, hp.declares_iff.2 ⟨⟨1⟩, rfl, rfl⟩, _, List.mem_cons_self, rfl⟩
  have hD : scope.host.Carries "a.D" "a.N" :=
    ⟨_, hp.declares_iff.2 ⟨⟨2⟩, rfl, rfl⟩, _, List.mem_cons_self, rfl⟩
  refine ⟨⟨_, Program.lifetime_askedEarly⟩, hwf, Program.declares_markedLater, by decide, hM,
    .direct hN (by decide), hD, fun hfinds => ?_, fun hfinds => ?_⟩
  · -- Defaults are not kept for what is denied, and nothing attests it.
    rcases (templateData_some_iff hp.healthy hsourced hwf' hcalm hr.known
      (hsource.inSource "a.N")).1 hfinds with hkept | hattests
    · obtain ⟨defaults, hget⟩ := Option.isSome_iff_exists.1 hkept
      exact absurd (hr.denied (hr.known hget) hdenied) (by decide)
    · exact hattests.not_mem_nonTemplates hdenied
  · rcases (isPrototype_true_iff hp.healthy hsourced hwf' hcalm hr.known).1 hfinds with
      ⟨prototype, hget⟩ | ⟨hget, _⟩
    · cases hclass.symm.trans hget
    · cases hclass.symm.trans hget

end PrototypeLens
