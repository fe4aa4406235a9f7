import PrototypeLens.Proofs.Descriptor.Marking
import PrototypeLens.Proofs.Session.History

/-!
# What sessions answer about the root templates

A root is registered without a look at the annotations on its declaration, but its defaults are
computed from the first of them that is known as a template at that moment. So the answer about a
root depends on what was asked before, as soon as the root carries another template.

## Layers

- `Scope.Draws`: the defaults of a template, as drawn from the templates that are known.
  `draws_of_defaultsOf` shows it of what is computed.
- `Registry.Drawing`: whatever is kept is drawn so, and no root is denied. `drawingDiscipline` takes
  this through discoveries.
- `Draws.base_of_not_isMarked`: defaults that are inherited bear the name of the annotation that
  they were read from, so that they can be told from those that are not.
- `Scope.Ensures.drawn`, `yields_template?_root`: a root is told to be a template, with defaults
  that are drawn so.

## Main results

- `templateData_of_root`: a root is answered with defaults that are drawn from the known templates,
  or with nothing.
- After any questions a root is answered as on a fresh registry if no other annotation on it is
  known as a template, and otherwise only if its own element defaults are malformed.
- A root with a template on it, which it inherits from once that is known.
-/

namespace PrototypeLens

open Lookup (parentUse? resolveEnricher)

/-! ## Defaults by the known templates -/

/-- The defaults of a template are what it makes of those of the first known template on its
declaration, or of the base defaults if there is none. -/
inductive Scope.Draws (scope : Scope) (known : NameSet) (name : String) (defaults : Descriptor) :
    Prop where
  | base {decl : Option Declaration} : scope.host.Finds name decl →
      parentUse? known name decl = none → scope.ownDefaults name decl {} = .ok defaults →
      Draws scope known name defaults
  | inherited {decl : Option Declaration} {use : AnnotationUse} {parent taken : Descriptor} :
      scope.host.Finds name decl → parentUse? known name decl = some use →
      parent.takeUsage (resolveEnricher scope) use = .ok taken →
      scope.ownDefaults name decl taken = .ok defaults → Draws scope known name defaults

/-- Only whether other names are known counts. -/
theorem Lookup.parentUse?_congr {known known' : NameSet} {name : String}
    (h : ∀ other, other ≠ name → (other ∈ known ↔ other ∈ known')) (decl : Option Declaration) :
    parentUse? known name decl = parentUse? known' name decl := by
  cases decl with
  | none => rfl
  | some decl =>
    -- The name itself is left out of the search, whether or not it is known.
    have hpred : (fun mark : AnnotationUse => mark.name != name && decide (mark.name ∈ known)) =
        fun mark => mark.name != name && decide (mark.name ∈ known') := by
      funext mark
      by_cases hname : mark.name = name
      · simp [hname]
      · simp [h mark.name hname]
    simp only [parentUse?, Option.bind_some, hpred]

namespace Scope

variable {scope : Scope} {r : Registry} {name : String} {decl : Option Declaration}
  {known known' : NameSet} {defaults : Descriptor}

theorem Draws.congr (h : scope.Draws known name defaults)
    (hknown : ∀ other, other ≠ name → (other ∈ known ↔ other ∈ known')) :
    scope.Draws known' name defaults := by
  cases h with
  | base hfind hparent hown =>
    rw [Lookup.parentUse?_congr hknown] at hparent
    exact .base hfind hparent hown
  | inherited hfind hparent htaken hown =>
    rw [Lookup.parentUse?_congr hknown] at hparent
    exact .inherited hfind hparent htaken hown

theorem defaultsOf_of_base (hparent : parentUse? r.knownTemplates name decl = none) :
    scope.defaultsOf r name decl = scope.ownDefaults name decl {} := by
  rw [defaultsOf, defaultsIn, if_neg (by simp), hparent]
  rfl

/-- What is computed for a template in a registry is drawn from the templates it knows. -/
theorem draws_of_defaultsOf (hfind : scope.host.Finds name decl)
    (hok : scope.defaultsOf r name decl = .ok defaults) :
    scope.Draws r.knownTemplates name defaults := by
  -- The parent is the first known template on the declaration, if there is one.
  cases hparent : parentUse? r.knownTemplates name decl with
  | none => exact .base hfind hparent (defaultsOf_of_base hparent ▸ hok)
  | some use =>
    rw [defaultsOf, defaultsIn, if_neg (by simp), hparent] at hok
    cases hinherited : scope.inheritedIn r
        (scope.defaultsIn r (scope.host.names.length + 1) (NameSet.add [] name)) (some use) with
    | error e =>
      rw [hinherited] at hok
      cases hok
    | ok taken =>
      rw [hinherited] at hok
      obtain ⟨parent, _, htaken⟩ := inheritedIn_eq_ok hinherited
      exact .inherited hfind hparent htaken hok

/-- On a healthy host it is no query that keeps defaults from being found. -/
theorem defaultsIn_ne_query (h : scope.host.Healthy) (cause : QueryError) (limit : Nat) :
    ∀ (path : NameSet) (name : String) (decl : Option Declaration),
      scope.defaultsIn r limit path name decl ≠ .error (.query cause) := by
  -- The induction is on the limit. A failure comes from the own elements, from the defaults of the
  -- parent or from taking its usage, and none of these is a query that fails.
  induction limit with
  | zero =>
    rintro _ _ _ ⟨⟩
  | succ limit ih =>
    intro path name decl
    rw [defaultsIn]
    by_cases hcircular : path.contains name = true
    · rw [if_pos hcircular]
      rintro ⟨⟩
    · rw [if_neg hcircular]
      have hown (inherited : Descriptor) :
          scope.ownDefaults name decl inherited ≠ .error (.query cause) := by
        cases decl with
        | none => rintro ⟨⟩
        | some decl => exact Descriptor.takeDefaults_ne_query h.resolveEnricher_ok _ _ _ cause
      cases hparent : parentUse? r.knownTemplates name decl with
      | none => exact hown {}
      | some use =>
        have hkept : scope.keptOr r (scope.defaultsIn r limit (path.add name)) use.name ≠
            .error (.query cause) := by
          obtain ⟨entry, hentry⟩ := h.findData_ok use.name
          rw [keptOr, hentry]
          cases r.templates.get? use.name with
          | some kept => rintro ⟨⟩
          | none => exact ih _ _ _
        rw [inheritedIn]
        cases hparentDefaults : scope.keptOr r (scope.defaultsIn r limit (path.add name))
            use.name with
        | error e =>
          rw [hparentDefaults] at hkept
          rintro ⟨⟩
          exact hkept rfl
        | ok parent =>
          have htaken := parent.takeUsage_ne_query h.resolveEnricher_ok use cause
          cases htake : parent.takeUsage (resolveEnricher scope) use with
          | error e =>
            rw [htake] at htaken
            simp only [Except.bind, htake]
            exact htaken
          | ok taken =>
            simp only [Except.bind, htake]
            exact hown taken

/-- Whether a template can take its element defaults does not depend on what it inherits. -/
theorem ownDefaults_eq_error {inherited : Descriptor} {e : LookupError}
    (h : scope.ownDefaults name decl inherited = .error e) (other : Descriptor) :
    scope.ownDefaults name decl other = .error e := by
  cases decl with
  | none => cases h
  | some decl => exact Descriptor.takeDefaults_eq_error h _

/-- The element defaults of a template leave it open which annotation it was read from, unless one
of them is named like the key of that. -/
theorem ownDefaults_custom {inherited : Descriptor}
    (hnone : ∀ d ∈ decl, ∀ m ∈ d.methods, m.name ≠ Descriptor.prototypeKey)
    (h : scope.ownDefaults name decl inherited = .ok defaults) :
    defaults.custom.get? Descriptor.prototypeKey =
      inherited.custom.get? Descriptor.prototypeKey := by
  -- The flag of an enumeration is kept under another key.
  have hflag : (if name = enumPrototype then inherited.setCustom Descriptor.enumKey (.flag true)
      else inherited).custom.get? Descriptor.prototypeKey =
        inherited.custom.get? Descriptor.prototypeKey := by
    split
    · rw [Descriptor.custom_get?_setCustom, if_neg (by decide)]
    · rfl
  cases decl with
  | none =>
    cases h
    exact hflag
  | some decl => exact (Descriptor.takeDefaults_custom (hnone decl rfl) h).trans hflag

end Scope

/-! ## Registries that draw -/

/-- The templates are among the given names, those that are kept have defaults that are drawn from
the known ones, and no root is denied. -/
structure Registry.Drawing (scope : Scope) (among : String → Prop) (r : Registry) : Prop where
  roots {name : String} : name ∈ rootTemplates → name ∉ r.nonTemplates
  known {name : String} : name ∈ r.knownTemplates → among name
  kept {name : String} {defaults : Descriptor} : r.templates.get? name = some defaults →
    among name ∧ scope.Draws r.knownTemplates name defaults

namespace Registry.Drawing

variable {scope : Scope} {among : String → Prop} {r r' : Registry} {name : String}

theorem fresh : Registry.Drawing scope among {} where
  roots := by decide +revert
  known := nofun
  kept := nofun

theorem congr (h : r.Drawing scope among) (hsame : r.SameTemplates r') :
    r'.Drawing scope among where
  roots hroot := hsame.nonTemplates ▸ h.roots hroot
  known hk := h.known (hsame.knownTemplates ▸ hk)
  kept hget := by
    rw [hsame.knownTemplates]
    exact h.kept (hsame.templates ▸ hget)

/-- A new template leaves nothing kept that was drawn without it. -/
theorem announce (h : r.Drawing scope among) (hname : among name) :
    (r.announceTemplate name).Drawing scope among where
  roots {root} hroot hdenied := by
    -- What is denied from the start are the names that are never templates, and no root is one.
    rcases r.mem_announceTemplate_nonTemplates name root hdenied with hnever | hdenied
    · have hfresh : Registry.Drawing scope among {} := fresh
      exact hfresh.roots hroot hnever
    · exact h.roots hroot hdenied
  known hk := by
    rcases (r.mem_announceTemplate_knownTemplates _ _).1 hk with rfl | hk
    · exact hname
    · exact h.known hk
  kept hget := by
    obtain ⟨hk, hget⟩ := r.announceTemplate_templates_get? _ _ hget
    rw [announceTemplate, if_pos hk]
    exact h.kept hget

theorem publish (h : r.Drawing scope among) (hname : among name) {defaults : Descriptor}
    (hdraws : scope.Draws r.knownTemplates name defaults) (file? : Option FileId) :
    (r.publishTemplate r.epoch name file? defaults).Drawing scope among where
  roots hroot := by
    rw [publishTemplate_self, recordOwner?_nonTemplates]
    exact h.roots hroot
  known hk := by
    rw [publishTemplate_knownTemplates] at hk
    exact h.known hk
  kept {other d} hget := by
    rw [publishTemplate_knownTemplates]
    -- The defaults of other names were drawn from the same templates.
    rcases r.publishTemplate_templates_get? _ _ _ hget with hget | ⟨rfl, rfl⟩
    · exact h.kept hget
    · exact ⟨hname, hdraws⟩

theorem deny (h : r.Drawing scope among) (hname : name ∉ rootTemplates) (file? : Option FileId) :
    (r.denyTemplate name file?).Drawing scope among where
  roots {root} hroot hdenied := by
    rcases r.mem_denyTemplate name root file? hdenied with hdenied | ⟨rfl, _⟩
    · exact h.roots hroot hdenied
    · exact hname hroot
  known hk := h.known (by simpa using hk)
  kept hget := by
    rw [denyTemplate_knownTemplates]
    exact h.kept (by simpa using hget)

end Registry.Drawing

section

variable {scope : Scope} {among : String → Prop}

/-- Discoveries draw the defaults of templates from the known ones, and deny no root. -/
def drawingDiscipline (h : scope.host.Healthy) (hamong : scope.host.TemplatesAmong among) :
    Discipline scope where
  Inv := Registry.Drawing scope among
  Temp := among
  Not name := name ∉ rootTemplates
  Free _ := True
  -- Discovering a root comes to nothing else.
  Leads name _ := name ∉ rootTemplates
  Still _ _ := True
  Taken _ _ _ := True
  Failed := True
  named := Conduct.named_of_healthy h
  find_failed _ := trivial
  file_failed _ _ := trivial
  defaults_failed _ _ _ _ := trivial
  archived hroot _ _ _ := {
    unreadable := fun _ => hroot
    empty := fun _ => hroot
    marked := fun _ _ => hamong.marked
    unmarked := fun _ hroot _ _ => hroot
    leads := fun _ _ _ _ _ => hroot
    still := fun _ _ => trivial }
  root := hamong.root
  free _ _ _ := trivial
  marked _ := hamong.of_carries
  carried _ := hamong.carried
  undeclared hroot _ := hroot
  plain hroot _ _ := hroot
  circular hown hlead _ := hlead.elim (fun heq => heq ▸ hown) id
  leads hroot _ := hroot
  leads_trans hroot _ := hroot
  announce := .announce
  publish hr ht _ hfind hok := ⟨hr.publish ht (Scope.draws_of_defaultsOf hfind hok) _, trivial⟩
  kept hr hget := ⟨(hr.kept hget).1, trivial⟩
  deny hr hroot _ := hr.deny hroot _
  denied hr hdenied hroot := hr.roots hroot hdenied
  depend _ _ hr := hr.congr (Registry.sameTemplates_recordDependent ..)
  still_refl _ := trivial
  still_trans _ _ := trivial
  still_deny _ _ _ := trivial
  still_taken _ _ := trivial

theorem Scope.Visited.idle_and_drawing (h : scope.host.Healthy)
    (hamong : scope.host.TemplatesAmong among) {s : Session} (hs : scope.Visited s) :
    s.guards.Idle ∧ s.registry.Drawing scope among :=
  hs.holds (C := (drawingDiscipline h hamong).conduct h .congr fun _ _ _ _ => trivial) .fresh

end

/-! ## Asking for a root -/

section

variable {scope : Scope} {r : Registry} {g : Guards} {root : String} {decl : Option Declaration}

/-- No template is inherited from exactly if no other annotation on the declaration is known. -/
theorem Lookup.parentUse?_eq_none {known : NameSet} {name : String} :
    parentUse? known name decl = none ↔
      ∀ d ∈ decl, ∀ use ∈ d.annotations, use.name ≠ name → use.name ∉ known := by
  cases decl <;> simp [parentUse?]

theorem Scope.Draws.ownDefaults_of_base {known : NameSet} {defaults : Descriptor}
    (h : scope.Draws known root defaults) (hfind : scope.host.Finds root decl)
    (hparent : parentUse? known root decl = none) :
    scope.ownDefaults root decl {} = .ok defaults := by
  cases h with
  | base hfind' _ hown =>
    cases hfind.unique hfind'
    exact hown
  | inherited hfind' hparent' _ _ =>
    cases hfind.unique hfind'
    cases hparent.symm.trans hparent'

/-- A template that has defaults can take its element defaults, whatever it inherits. -/
theorem Scope.Draws.ownDefaults_ne_error {known : NameSet} {defaults : Descriptor}
    (h : scope.Draws known root defaults) (hfind : scope.host.Finds root decl)
    {e : LookupError} : scope.ownDefaults root decl {} ≠ .error e := by
  intro herror
  -- The same elements would have failed with what was inherited.
  cases h with
  | base hfind' _ hown | inherited hfind' _ _ hown =>
    cases hfind.unique hfind'
    cases (Scope.ownDefaults_eq_error herror _).symm.trans hown

/-- Defaults that were not read from any usage are not inherited. -/
theorem Scope.Draws.base_of_not_isMarked {known : NameSet} {defaults : Descriptor}
    (h : scope.Draws known root defaults) (hfind : scope.host.Finds root decl)
    (hkey : ∀ d ∈ decl, ∀ m ∈ d.methods, m.name ≠ Descriptor.prototypeKey)
    (hunmarked : ¬ defaults.IsMarked) : parentUse? known root decl = none := by
  cases h with
  | base hfind' hparent _ =>
    cases hfind.unique hfind'
    exact hparent
  | inherited hfind' _ htaken hown =>
    cases hfind.unique hfind'
    -- Taking a usage leaves the name of the annotation, and the elements leave that alone.
    rw [Descriptor.IsMarked, Scope.ownDefaults_custom hkey hown] at hunmarked
    exact absurd (Descriptor.takeUsage_isMarked htaken) hunmarked

/-- Registering a template that is not kept draws its defaults from the known templates, and from
none of them if none of them stands on it, unless an attribute is malformed. -/
theorem Scope.Ensures.drawn {out : Except LookupError Descriptor} {r' : Registry}
    (hens : scope.Ensures root decl r out r') (hget : r.templates.get? root = none)
    (h : scope.host.Healthy) (hfind : scope.host.Finds root decl) :
    (parentUse? r.knownTemplates root decl = none → out = scope.ownDefaults root decl {}) ∧
      ((∃ d, out = .ok d ∧ scope.Draws r.knownTemplates root d) ∨
        ∃ e, out = .error e ∧ ∀ cause, e ≠ .query cause) := by
  -- Announcing the root itself does not change which other names are known.
  have hknown (other : String) (hother : other ≠ root) :
      other ∈ (r.announceTemplate root).knownTemplates ↔ other ∈ r.knownTemplates := by
    simp [hother]
  have hbase (hparent : parentUse? r.knownTemplates root decl = none) :
      scope.defaultsOf (r.announceTemplate root) root decl = scope.ownDefaults root decl {} :=
    Scope.defaultsOf_of_base ((Lookup.parentUse?_congr hknown decl).trans hparent)
  cases hens with
  | kept hget' => cases hget.symm.trans hget'
  | registered _ hok =>
    refine ⟨fun hparent => ?_, .inl ⟨_, rfl, (Scope.draws_of_defaultsOf hfind hok).congr hknown⟩⟩
    rw [← hbase hparent, hok]
  | failed _ herror =>
    refine ⟨fun hparent => ?_, .inr ⟨_, rfl, fun cause hcause => ?_⟩⟩
    · rw [← hbase hparent, herror]
    · exact Scope.defaultsIn_ne_query h cause _ _ _ _ (hcause ▸ herror)

/-- A root is told to be a template, with defaults that are drawn from the known templates, unless
an attribute is malformed. -/
theorem Lookup.yields_template?_root (h : scope.host.Healthy) (hidle : g.Idle)
    {among : String → Prop} (hr : r.Drawing scope among) (hroot : root ∈ rootTemplates)
    (hfind : scope.host.Finds root decl) :
    (template? scope root).Yields r g fun out _ =>
      (parentUse? r.knownTemplates root decl = none →
        out = (scope.ownDefaults root decl {}).map some) ∧
      ((∃ d, out = .ok (some d) ∧ scope.Draws r.knownTemplates root d) ∨
        ∃ e, out = .error e ∧ ∀ cause, e ≠ .query cause) := by
  refine .after exec_cachedTemplate? ?_
  -- What is kept was drawn from the templates that are still known.
  cases hget : r.templates.get? root with
  | some d =>
    have hdraws := (hr.kept hget).2
    refine SessionM.yields_pure ⟨fun hparent => ?_, .inl ⟨d, rfl, hdraws⟩⟩
    rw [hdraws.ownDefaults_of_base hfind hparent]
    rfl
  | none =>
    refine .after (exec_ask (·.nonTemplates.contains root)) ?_
    rw [if_neg (by simpa using hr.roots hroot)]
    refine .after (exec_askGuards (·.discovering.contains root)) ?_
    rw [if_neg (by simp [hidle.discovering])]
    have hfresh : root ∉ g.discovering := by simp [hidle.discovering]
    rw [discover, discoverWithin]
    refine .within (by simp [NameSet.remove_add hfresh]) ?_
    refine .after (exec_declarationOf? hfind) ?_
    rw [if_pos (by simpa using hroot)]
    -- A root is registered at once, without a look at what is on it.
    have hnone : { g with discovering := g.discovering.add root }.defaulting = [] :=
      hidle.defaulting
    refine (yields_ensureTemplate hnone).bind (fun d r' hens => ?_) fun e r' hens => ?_
    · obtain ⟨hbase, hdrawn⟩ := hens.drawn hget h hfind
      refine SessionM.yields_pure ⟨fun hparent => ?_, ?_⟩
      · rw [← hbase hparent]
        rfl
      · rcases hdrawn with ⟨_, ⟨⟩, hdraws⟩ | ⟨_, ⟨⟩, _⟩
        exact .inl ⟨d, rfl, hdraws⟩
    · obtain ⟨hbase, hdrawn⟩ := hens.drawn hget h hfind
      refine ⟨fun hparent => ?_, ?_⟩
      · rw [← hbase hparent]
        rfl
      · rcases hdrawn with ⟨_, ⟨⟩, _⟩ | ⟨_, ⟨⟩, hquery⟩
        exact .inr ⟨e, rfl, hquery⟩

/-- A failure that does not stem from the host is contained. -/
theorem Request.exec_contain_error {α : Type} {lookup : Lookup α} {nothing : α} {s s' : Session}
    {e : LookupError} (h : lookup.exec s = (.error e, s')) (hquery : ∀ cause, e ≠ .query cause) :
    (contain nothing lookup).exec s = (.ok nothing, s') := by
  rw [exec_contain, h]
  cases e with
  | query cause => exact absurd rfl (hquery cause)
  | malformedAttribute _ _ | tooDeep => rfl

/-- A root is answered with defaults that are drawn from the known templates, or with nothing. -/
theorem Request.templateData_of_root (h : scope.host.Healthy) {s : Session}
    (hs : scope.Visited s) (hroot : root ∈ rootTemplates) (hfind : scope.host.Finds root decl) :
    ∃ found s', (templateData scope root).exec s = (.ok found, s') ∧
      (parentUse? s.registry.knownTemplates root decl = none →
        found = (scope.ownDefaults root decl {}).toOption) ∧
      ∀ d, found = some d → scope.Draws s.registry.knownTemplates root d := by
  obtain ⟨r, g⟩ := s
  -- Any name may be a template here, as it only matters what is known.
  have hamong : scope.host.TemplatesAmong fun _ => True :=
    ⟨fun _ => trivial, fun _ _ => trivial, fun _ _ => trivial⟩
  obtain ⟨hidle, hr⟩ := hs.idle_and_drawing h hamong
  obtain ⟨out, r', hexec, hbase, hout⟩ := Lookup.yields_template?_root h hidle hr hroot hfind
  rcases hout with ⟨d, rfl, hdraws⟩ | ⟨e, rfl, hquery⟩
  · refine ⟨some d, _, exec_contain_ok hexec, fun hparent => ?_, fun d' hd' => ?_⟩
    · rw [hdraws.ownDefaults_of_base hfind hparent]
      rfl
    · cases hd'
      exact hdraws
  · refine ⟨none, _, exec_contain_error hexec hquery, fun hparent => ?_, fun _ hd => nomatch hd⟩
    have hfailed := hbase hparent
    cases hown : scope.ownDefaults root decl {} with
    | error e => rfl
    | ok d =>
      rw [hown] at hfailed
      cases hfailed

/-! ## Answers -/

/-- A root is answered after any questions as on a fresh registry as long as no other annotation on
its declaration is known as a template by then, and also if its own element defaults are malformed,
as it is never answered then. If none of its elements is named like the key of the annotation that a
descriptor was read from, it is answered so exactly in these cases. No annotation that is not among
the templates is ever known as one. -/
theorem Request.templateData_root_iff (h : scope.host.Healthy) {s : Session} (hs : scope.Visited s)
    (hroot : root ∈ rootTemplates) (hfind : scope.host.Finds root decl) :
    ∃ fresh found s₀ s', (templateData scope root).exec ⟨{}, {}⟩ = (.ok fresh, s₀) ∧
      (templateData scope root).exec s = (.ok found, s') ∧
      ((∀ d ∈ decl, ∀ use ∈ d.annotations, use.name ≠ root →
        use.name ∉ s.registry.knownTemplates) → found = fresh) ∧
      (fresh = none → found = none) ∧
      ((∀ d ∈ decl, ∀ m ∈ d.methods, m.name ≠ Descriptor.prototypeKey) →
        (found = fresh ↔ fresh = none ∨ ∀ d ∈ decl, ∀ use ∈ d.annotations, use.name ≠ root →
          use.name ∉ s.registry.knownTemplates)) ∧
      ∀ among, scope.host.TemplatesAmong among →
        (∀ d ∈ decl, ∀ use ∈ d.annotations, use.name ≠ root → ¬ among use.name) →
        found = fresh := by
  obtain ⟨fresh, s₀, hexec₀, hfresh, _⟩ := templateData_of_root h .start hroot hfind
  obtain ⟨found, s', hexec, hbase, hdraws⟩ := templateData_of_root h hs hroot hfind
  have hfresh : fresh = (scope.ownDefaults root decl {}).toOption :=
    hfresh (Lookup.parentUse?_eq_none.2 (by simp))
  have hsame (hnone : ∀ d ∈ decl, ∀ use ∈ d.annotations, use.name ≠ root →
      use.name ∉ s.registry.knownTemplates) : found = fresh := by
    rw [hbase (Lookup.parentUse?_eq_none.2 hnone), hfresh]
  have hmalformed (hnone : fresh = none) : found = none := by
    -- With malformed elements nothing can be drawn, whatever is known.
    cases hown : scope.ownDefaults root decl {} with
    | ok d =>
      rw [hfresh, hown] at hnone
      cases hnone
    | error e =>
      cases found with
      | none => rfl
      | some d => exact absurd hown ((hdraws d rfl).ownDefaults_ne_error hfind)
  have hdecides (hkey : ∀ d ∈ decl, ∀ m ∈ d.methods, m.name ≠ Descriptor.prototypeKey)
      (heq : found = fresh) : fresh = none ∨ ∀ d ∈ decl, ∀ use ∈ d.annotations,
        use.name ≠ root → use.name ∉ s.registry.knownTemplates := by
    cases hown : scope.ownDefaults root decl {} with
    | error e =>
      rw [hown] at hfresh
      exact .inl hfresh
    | ok d =>
      -- On a fresh registry the defaults are not read from any usage.
      rw [hown] at hfresh
      have hunmarked : ¬ d.IsMarked := fun hmarked =>
        hmarked (Scope.ownDefaults_custom hkey hown)
      exact .inr (Lookup.parentUse?_eq_none.1
        ((hdraws d (heq.trans hfresh)).base_of_not_isMarked hfind hkey hunmarked))
  refine ⟨fresh, found, s₀, s', hexec₀, hexec, hsame, hmalformed, fun hkey => ?_, ?_⟩
  · refine ⟨hdecides hkey, fun hor => hor.elim (fun hnone => ?_) hsame⟩
    rw [hmalformed hnone, hnone]
  · intro among hamong hnone
    obtain ⟨_, hr⟩ := hs.idle_and_drawing h hamong
    exact hsame fun d hd use huse hname hk => hnone d hd use huse hname (hr.known hk)

end

/-! ### A root with a template on it -/

/-- The declaration of a root that carries another annotation. -/
def Declaration.derivedRoot : Declaration :=
  { name := "CodePrototype", qualifiedName := some codePrototype, file := ⟨0⟩
    kind := .annotationType, annotations := [{ name := "a.T" }] }

/-- The other annotation is a template. -/
def Program.derivedRoot : Program :=
  .ofDeclarations [{ path := "src/net/binis/codegen/annotation/CodePrototype.java" }]
    [.derivedRoot,
     { name := "T", qualifiedName := some "a.T", file := ⟨0⟩, kind := .annotationType
       annotations := [{ name := templateMarker }] }]

theorem Program.consistent_derivedRoot : derivedRoot.Consistent :=
  .ofDeclarations (by decide) (by decide)

/-- The session after asking about the other annotation. -/
def Program.afterDerivedRoot : Session :=
  (((Question.templateData "a.T").ask derivedRoot.scope).exec ⟨{}, {}⟩).2

theorem Request.templateData_root_iff_derivedRoot :
    let scope := Program.derivedRoot.scope
    let s := Program.afterDerivedRoot
    let decl := some Declaration.derivedRoot
    scope.host.Healthy ∧ scope.Visited s ∧ codePrototype ∈ rootTemplates ∧
      scope.host.Finds codePrototype decl ∧
      ∃ fresh found s₀ s', (templateData scope codePrototype).exec ⟨{}, {}⟩ = (.ok fresh, s₀) ∧
        (templateData scope codePrototype).exec s = (.ok found, s') ∧
        ((∀ d ∈ decl, ∀ use ∈ d.annotations, use.name ≠ codePrototype →
          use.name ∉ s.registry.knownTemplates) → found = fresh) ∧
        (fresh = none → found = none) ∧
        ((∀ d ∈ decl, ∀ m ∈ d.methods, m.name ≠ Descriptor.prototypeKey) →
          (found = fresh ↔ fresh = none ∨ ∀ d ∈ decl, ∀ use ∈ d.annotations,
            use.name ≠ codePrototype → use.name ∉ s.registry.knownTemplates)) ∧
        ∀ among, scope.host.TemplatesAmong among →
          (∀ d ∈ decl, ∀ use ∈ d.annotations, use.name ≠ codePrototype → ¬ among use.name) →
          found = fresh := by
  intro scope s decl
  have h : scope.host.Healthy := Program.consistent_derivedRoot.healthy
  have hs : scope.Visited s := .ask (.templateData "a.T") .start
  have hroot : codePrototype ∈ rootTemplates := by decide
  have hfind : scope.host.Finds codePrototype decl := ⟨_, rfl, rfl⟩
  exact ⟨h, hs, hroot, hfind, templateData_root_iff h hs hroot hfind⟩

/-- Once the template on it is known, the root inherits from it. -/
theorem Request.templateData_root_inherits :
    let scope := Program.derivedRoot.scope
    scope.host.Healthy ∧ scope.Visited Program.afterDerivedRoot ∧
      codePrototype ∈ rootTemplates ∧
      ∃ fresh found, ((templateData scope codePrototype).exec ⟨{}, {}⟩).1 = .ok (some fresh) ∧
        ((templateData scope codePrototype).exec Program.afterDerivedRoot).1 = .ok (some found) ∧
        fresh.custom.get? Descriptor.prototypeKey = none ∧
        found.custom.get? Descriptor.prototypeKey ≠ none :=
  ⟨Program.consistent_derivedRoot.healthy, .ask (.templateData "a.T") .start, by decide,
    _, _, rfl, rfl, rfl, by decide +kernel⟩

end PrototypeLens
