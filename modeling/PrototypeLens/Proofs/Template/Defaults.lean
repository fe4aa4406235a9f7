import Mathlib.Logic.Relation
import PrototypeLens.Proofs.Descriptor.Taking
import PrototypeLens.Proofs.Session.Run

/-!
# Computing defaults

The defaults of a template are a function of the registry: computing them changes nothing. They are
found without failure where strategies are well-formed, and they are the declared ones where the
kept defaults are and no known template carries itself.

## Layers

- `Scope.keptOr`, `inheritedIn`, `defaultsIn` and `defaultsOf`: the computation as a function of the
  registry, with the path of templates below which it stands. `exec_defaultsWithin` shows that the
  lookup is this function and nothing else.
- `parentUse?_eq_some_iff`: the template that is inherited from is the first known one.

## Main results

- `defaultsIn_ok` and `defaultsOf_ok`: where the strategies of all known templates are well-formed,
  defaults are found.
- `computes_of_defaultsIn` and `defaults_of_defaultsIn`: without circular templates they are
  computed from those that are kept, and are the declared ones if these are.
-/

namespace PrototypeLens

open Lookup (parentUse? resolveEnricher)

/-! ## Defaults as a function of the registry -/

namespace Scope

/-- The defaults that are kept for a template, or else those that `recur` computes. -/
def keptOr (scope : Scope) (r : Registry)
    (recur : String → Option Declaration → Except LookupError Descriptor) (name : String) :
    Except LookupError Descriptor :=
  match r.templates.get? name with
  | some defaults => .ok defaults
  | none =>
    ((scope.host.findData name).mapError LookupError.query).bind fun entry =>
      recur name (entry.map (·.2))

/-- What a template inherits from the one it carries, if it carries one. -/
def inheritedIn (scope : Scope) (r : Registry)
    (recur : String → Option Declaration → Except LookupError Descriptor) :
    Option AnnotationUse → Except LookupError Descriptor
  | some parent =>
    (scope.keptOr r recur parent.name).bind fun defaults =>
      defaults.takeUsage (resolveEnricher scope) parent
  | none => .ok {}

/-- The defaults of a template below the templates of `path`. -/
def defaultsIn (scope : Scope) (r : Registry) :
    Nat → NameSet → String → Option Declaration → Except LookupError Descriptor
  | 0, _, _, _ => .error .tooDeep
  | limit + 1, path, name, decl =>
    if path.contains name then .ok {}
    else
      (scope.inheritedIn r (defaultsIn scope r limit (path.add name))
        (parentUse? r.knownTemplates name decl)).bind (scope.ownDefaults name decl)

/-- The defaults that the registration of a template computes. -/
def defaultsOf (scope : Scope) (r : Registry) (name : String) (decl : Option Declaration) :
    Except LookupError Descriptor :=
  scope.defaultsIn r (scope.host.names.length + 2) [] name decl

end Scope

namespace Lookup

variable {scope : Scope} {s : Session} {name : String} {decl : Option Declaration}

theorem exec_cachedTemplate? {r : Registry} {g : Guards} :
    (cachedTemplate? name).exec ⟨r, g⟩ = (.ok (r.templates.get? name), ⟨r, g⟩) := rfl

theorem mapError_ok {ε ε' α : Type} (f : ε → ε') (a : α) :
    (Except.ok a : Except ε α).mapError f = .ok a := rfl

theorem exec_declarationOf?_mapError :
    (declarationOf? scope name).exec s =
      (((scope.host.findData name).mapError .query).map fun entry => entry.map (·.2), s) := by
  rw [declarationOf?, bind_pure_comp, SessionM.exec_map]
  cases scope.host.findData name <;> rfl

theorem exec_declarationOf?_eq_ok {s' : Session}
    (h : (declarationOf? scope name).exec s = (.ok decl, s')) :
    scope.host.Finds name decl ∧ s' = s := by
  rw [exec_declarationOf?_mapError] at h
  obtain ⟨hdecl, rfl⟩ := Prod.mk.inj h
  refine ⟨?_, rfl⟩
  -- The name was looked up; a failure would have been told.
  cases hentry : scope.host.findData name with
  | error e =>
    rw [hentry] at hdecl
    cases hdecl
  | ok entry =>
    rw [hentry] at hdecl
    exact ⟨entry, hentry, Except.ok.inj hdecl⟩

theorem exec_declarationOf? {r : Registry} {g : Guards} (h : scope.host.Finds name decl) :
    (declarationOf? scope name).exec ⟨r, g⟩ = (.ok decl, ⟨r, g⟩) := by
  obtain ⟨entry, hentry, rfl⟩ := h
  rw [exec_declarationOf?_mapError, hentry]
  rfl

theorem exec_inheritedDefaults {recur : String → Option Declaration → Lookup Descriptor}
    {recur' : String → Option Declaration → Except LookupError Descriptor}
    (hrecur : ∀ name decl, (recur name decl).exec s = (recur' name decl, s))
    (parent : AnnotationUse) :
    (inheritedDefaults scope recur parent).exec s =
      (scope.inheritedIn s.registry recur' (some parent), s) := by
  rw [inheritedDefaults, SessionM.exec_bind_ok exec_cachedTemplate?, Scope.inheritedIn,
    Scope.keptOr]
  -- Kept defaults are taken as they are; otherwise the declaration is looked up first.
  cases s.registry.templates.get? parent.name with
  | some defaults => exact exec_ofExcept _
  | none =>
    simp only [SessionM.exec_bind, exec_declarationOf?_mapError]
    cases hfind : scope.host.findData parent.name with
    | error e => rfl
    | ok entry =>
      simp only [mapError_ok, Except.map, hrecur, Except.bind]
      cases hrec : recur' parent.name (entry.map (·.2)) with
      | error e => rfl
      | ok defaults => exact exec_ofExcept _

theorem exec_defaultsStep {recur : String → Option Declaration → Lookup Descriptor}
    {recur' : String → Option Declaration → Except LookupError Descriptor}
    (hrecur : ∀ name decl, (recur name decl).exec s = (recur' name decl, s)) :
    (defaultsStep scope recur name decl).exec s =
      ((scope.inheritedIn s.registry recur' (parentUse? s.registry.knownTemplates name decl)).bind
        (scope.ownDefaults name decl), s) := by
  rw [defaultsStep, SessionM.exec_bind_ok (exec_ask _)]
  -- From here on only the template that is inherited from matters.
  generalize parentUse? s.registry.knownTemplates name decl = parent
  cases parent with
  | none =>
    cases decl with
    | none => rfl
    | some decl => exact exec_ofExcept _
  | some parent =>
    simp only [SessionM.exec_bind, exec_inheritedDefaults hrecur]
    cases scope.inheritedIn s.registry recur' (some parent) with
    | error e => rfl
    | ok inherited =>
      cases decl with
      | none => rfl
      | some decl => exact exec_ofExcept _

/-- Computing defaults changes nothing. -/
theorem exec_defaultsWithin (limit : Nat) :
    ∀ (s : Session) (name : String) (decl : Option Declaration),
      (defaultsWithin scope limit name decl).exec s =
        (scope.defaultsIn s.registry limit s.guards.defaulting name decl, s) := by
  -- The induction is on the limit, which both count down alike.
  induction limit with
  | zero =>
    intro s name decl
    rfl
  | succ limit ih =>
    intro s name decl
    rw [defaultsWithin, SessionM.exec_bind_ok (exec_askGuards _), Scope.defaultsIn]
    by_cases hmet : s.guards.defaulting.contains name = true
    · rw [if_pos hmet, if_pos hmet]
      rfl
    · rw [if_neg hmet, if_neg hmet, SessionM.exec_within,
        exec_defaultsStep (fun name decl => ih _ name decl)]
      -- The name that went on the path is taken off again.
      have hback : (s.guards.defaulting.add name).remove name = s.guards.defaulting := by
        apply NameSet.remove_add
        simpa using hmet
      simp only [hback]

theorem exec_templateDefaults (hidle : s.guards.defaulting = []) :
    (templateDefaults scope name decl).exec s = (scope.defaultsOf s.registry name decl, s) := by
  rw [templateDefaults, exec_defaultsWithin, hidle]
  rfl

/-! ## The template that a template carries -/

theorem parentUse?_eq_some {known : NameSet} {use : AnnotationUse}
    (h : parentUse? known name decl = some use) :
    ∃ d, decl = some d ∧ use ∈ d.annotations ∧ use.name ∈ known := by
  obtain ⟨d, rfl, hfind⟩ := Option.bind_eq_some_iff.1 h
  have hknown := List.find?_some hfind
  simp only [Bool.and_eq_true, decide_eq_true_eq] at hknown
  exact ⟨d, rfl, List.mem_of_find?_eq_some hfind, hknown.2⟩

theorem parentUse?_eq_none_iff {known : NameSet}
    (hself : ∀ d ∈ decl, ∀ use ∈ d.annotations, use.name ≠ name) :
    parentUse? known name decl = none ↔ ∀ d ∈ decl, ∀ use ∈ d.annotations, use.name ∉ known := by
  cases decl with
  | none => simp [parentUse?]
  | some d =>
    simp only [Option.mem_some_iff, forall_eq'] at hself ⊢
    simp only [parentUse?, Option.bind_some, List.find?_eq_none]
    refine forall₂_congr fun use huse => ?_
    simp [hself use huse]

/-- On a declaration that does not carry its own name, the template that is inherited from is the
first known one. -/
theorem parentUse?_eq_some_iff {known : NameSet} {d : Declaration} {use : AnnotationUse}
    (hself : ∀ use ∈ d.annotations, use.name ≠ name) :
    parentUse? known name (some d) = some use ↔ d.FirstUse (· ∈ known) use := by
  simp only [parentUse?, Option.bind_some, List.find?_eq_some_iff_append, Declaration.FirstUse]
  constructor
  · -- The name itself is skipped by the search, but it is not on its own declaration.
    rintro ⟨hknown, before, after, happ, hbefore⟩
    refine ⟨before, after, happ, by simpa using (Bool.and_eq_true_iff.1 hknown).2, ?_⟩
    intro other hother
    have hne := hself other (by rw [happ]; exact List.mem_append_left _ hother)
    simpa [hne] using hbefore other hother
  · rintro ⟨before, after, happ, hknown, hbefore⟩
    have hne := hself use (by rw [happ]; simp)
    refine ⟨by simp [hne, hknown], before, after, happ, fun other hother => ?_⟩
    simp [hbefore other hother]

end Lookup

/-! ## Defaults without failure -/

namespace Scope

variable {scope : Scope} {r : Registry} {isTemplate : String → Prop}

/-- What is computed where nothing is kept suffices. -/
theorem keptOr_ok (h : scope.host.Healthy)
    {recur : String → Option Declaration → Except LookupError Descriptor} {name : String}
    (hrecur : ∀ decl, scope.host.Finds name decl → ∃ defaults, recur name decl = .ok defaults) :
    ∃ defaults, scope.keptOr r recur name = .ok defaults := by
  rw [keptOr]
  cases r.templates.get? name with
  | some defaults => exact ⟨defaults, rfl⟩
  | none =>
    obtain ⟨entry, hentry⟩ := h.findData_ok name
    rw [hentry]
    exact hrecur _ ⟨entry, hentry, rfl⟩

/-- Where the strategies of all known templates are well-formed, defaults are found. -/
theorem defaultsIn_ok (h : scope.host.Healthy) (hwf : scope.host.WellFormed isTemplate)
    (hknown : ∀ n ∈ r.knownTemplates, isTemplate n) (limit : Nat) :
    ∀ (path : NameSet) (name : String) (decl : Option Declaration),
      scope.host.Finds name decl → isTemplate name → Outlasts limit path scope.host.names →
      ∃ defaults, scope.defaultsIn r limit path name decl = .ok defaults := by
  -- Only declared names join the path, and none twice, so that the limit outlasts it.
  induction limit with
  | zero => exact fun _ _ _ _ _ hlimit => absurd hlimit Outlasts.not_zero
  | succ limit ih =>
    intro path name decl hfind ht hlimit
    rw [defaultsIn]
    split
    · exact ⟨{}, rfl⟩
    · rename_i hmet
      have hfresh : name ∉ path := by simpa using hmet
      -- Whatever is inherited, the own elements can be taken.
      have hown (inherited : Descriptor) :
          ∃ d, scope.ownDefaults name decl inherited = .ok d := by
        apply ownDefaults_ok h name _ inherited
        intro d hd
        cases hd
        exact hwf.elements (Host.finds_some_iff.1 hfind) ht
      cases hparent : parentUse? r.knownTemplates name decl with
      | none => exact hown {}
      | some parent =>
        obtain ⟨d, rfl, huse, hk⟩ := Lookup.parentUse?_eq_some hparent
        have hdecl : scope.host.Declares name d := Host.finds_some_iff.1 hfind
        -- The defaults of the parent are computed below a path with one more name.
        have hkept : ∃ defaults,
            scope.keptOr r (scope.defaultsIn r limit (path.add name)) parent.name
              = .ok defaults := by
          apply keptOr_ok h
          intro decl' hfind'
          exact ih _ parent.name decl' hfind' (hknown _ hk) (hlimit.add hdecl.mem_names hfresh)
        obtain ⟨defaults, hdefaults⟩ := hkept
        obtain ⟨taken, htaken⟩ := Descriptor.takeUsage_ok h.resolveEnricher_ok defaults parent
          (hwf.uses hdecl huse (hknown _ hk))
        simp only [inheritedIn, hdefaults, htaken, Except.bind]
        exact hown taken

theorem defaultsOf_ok (h : scope.host.Healthy) (hwf : scope.host.WellFormed isTemplate)
    (hknown : ∀ n ∈ r.knownTemplates, isTemplate n) {name : String}
    {decl : Option Declaration} (hfind : scope.host.Finds name decl)
    (ht : isTemplate name) : ∃ defaults, scope.defaultsOf r name decl = .ok defaults :=
  defaultsIn_ok h hwf hknown _ [] name decl hfind ht (.start rfl (by omega))

theorem defaultsOf_ne_error (h : scope.host.Healthy) (hwf : scope.host.WellFormed isTemplate)
    (hknown : ∀ n ∈ r.knownTemplates, isTemplate n) {name : String}
    {decl : Option Declaration} (hfind : scope.host.Finds name decl) (ht : isTemplate name)
    {e : LookupError} : scope.defaultsOf r name decl ≠ .error e := by
  obtain ⟨defaults, hok⟩ := defaultsOf_ok h hwf hknown hfind ht
  rw [hok]
  rintro ⟨⟩

/-- A usage of a template is taken. -/
theorem takeUsage_ne_error (h : scope.host.Healthy) (hwf : scope.host.WellFormed isTemplate)
    {name : String} {decl : Declaration} {use : AnnotationUse}
    (hdecl : scope.host.Declares name decl) (huse : use ∈ decl.annotations)
    (ht : isTemplate use.name) {defaults : Descriptor} {e : LookupError} :
    defaults.takeUsage (resolveEnricher scope) use ≠ .error e := by
  obtain ⟨taken, hok⟩ := Descriptor.takeUsage_ok h.resolveEnricher_ok defaults use
    (hwf.uses hdecl huse ht)
  rw [hok]
  rintro ⟨⟩

/-! ## Computed defaults are the declared ones -/

theorem keptOr_eq_ok {recur : String → Option Declaration → Except LookupError Descriptor}
    {name : String} {defaults : Descriptor} (hok : scope.keptOr r recur name = .ok defaults) :
    r.templates.get? name = some defaults ∨ r.templates.get? name = none ∧
      ∃ decl, scope.host.Finds name decl ∧ recur name decl = .ok defaults := by
  rw [keptOr] at hok
  cases hget : r.templates.get? name with
  | some kept =>
    rw [hget] at hok
    cases hok
    exact .inl rfl
  | none =>
    rw [hget] at hok
    cases hentry : scope.host.findData name with
    | error e =>
      rw [hentry] at hok
      cases hok
    | ok entry =>
      rw [hentry] at hok
      exact .inr ⟨rfl, _, ⟨entry, hentry, rfl⟩, hok⟩

theorem inheritedIn_eq_ok {recur : String → Option Declaration → Except LookupError Descriptor}
    {parent : AnnotationUse} {taken : Descriptor}
    (hok : scope.inheritedIn r recur (some parent) = .ok taken) :
    ∃ inherited, scope.keptOr r recur parent.name = .ok inherited ∧
      inherited.takeUsage (resolveEnricher scope) parent = .ok taken := by
  cases hp : scope.keptOr r recur parent.name with
  | error e =>
    rw [inheritedIn, hp] at hok
    cases hok
  | ok inherited =>
    rw [inheritedIn, hp] at hok
    exact ⟨inherited, rfl, hok⟩

/-- Below a path that leads to the template, defaults are computed by the templates that are known,
from those that are kept. -/
theorem computes_of_defaultsIn {kept : String → Option Descriptor}
    (hacyclic : ∀ n ∈ r.knownTemplates, ¬ Relation.TransGen scope.host.Carries n n)
    (htold : ∀ n d, r.templates.get? n = some d → scope.Told kept (· ∈ r.knownTemplates) n d)
    (hnone : ∀ n, r.templates.get? n = none → kept n = none) (limit : Nat) :
    ∀ (path : NameSet) (name : String) (decl : Option Declaration)
      (defaults : Descriptor), scope.host.Finds name decl → name ∈ r.knownTemplates →
      (∀ m ∈ path, Relation.TransGen scope.host.Carries m name) →
      scope.defaultsIn r limit path name decl = .ok defaults →
      scope.Computes kept (· ∈ r.knownTemplates) name defaults := by
  -- The path only grows along carried annotations; without a cycle it never meets the template.
  induction limit with
  | zero =>
    intro path name decl defaults _ _ _ hok
    cases hok
  | succ limit ih =>
    intro path name decl defaults hfind hk hpath hok
    have hfresh : ¬ path.contains name = true := by
      intro hmet
      exact hacyclic name hk (hpath name (by simpa using hmet))
    -- A template that carries itself would be a cycle, too.
    have hself : ∀ d ∈ decl, ∀ use ∈ d.annotations, use.name ≠ name := by
      intro d hd use huse hname
      cases hd
      exact hacyclic name hk (.single ⟨d, Host.finds_some_iff.1 hfind, use, huse, hname⟩)
    rw [defaultsIn, if_neg hfresh] at hok
    cases hparent : parentUse? r.knownTemplates name decl with
    | none =>
      rw [hparent] at hok
      exact .base hfind ((Lookup.parentUse?_eq_none_iff hself).1 hparent) hok
    | some parent =>
      rw [hparent] at hok
      obtain ⟨d, rfl, huse, hparentKnown⟩ := Lookup.parentUse?_eq_some hparent
      have hdecl : scope.host.Declares name d := Host.finds_some_iff.1 hfind
      have hfirst : d.FirstUse (· ∈ r.knownTemplates) parent :=
        (Lookup.parentUse?_eq_some_iff (hself d rfl)).1 hparent
      have hcarries : scope.host.Carries name parent.name := ⟨d, hdecl, parent, huse, rfl⟩
      cases hinherited : scope.inheritedIn r (scope.defaultsIn r limit (path.add name))
          (some parent) with
      | error e =>
        rw [hinherited] at hok
        cases hok
      | ok taken =>
        rw [hinherited] at hok
        obtain ⟨inherited, hp, ht⟩ := inheritedIn_eq_ok hinherited
        refine .inherited hdecl hfirst ?_ ht hok
        -- Kept defaults are told, and what is computed below follows by induction.
        rcases keptOr_eq_ok hp with hget | ⟨hget, decl', hfind', hrec⟩
        · exact htold _ _ hget
        · refine .inr ⟨hnone _ hget, ih _ _ _ _ hfind' hparentKnown (fun m hm => ?_) hrec⟩
          rcases NameSet.mem_add.1 hm with rfl | hm
          · exact .single hcarries
          · exact (hpath m hm).tail hcarries

theorem computes_of_defaultsOf {kept : String → Option Descriptor}
    (hacyclic : ∀ n ∈ r.knownTemplates, ¬ Relation.TransGen scope.host.Carries n n)
    (htold : ∀ n d, r.templates.get? n = some d → scope.Told kept (· ∈ r.knownTemplates) n d)
    (hnone : ∀ n, r.templates.get? n = none → kept n = none) {name : String}
    {decl : Option Declaration} {defaults : Descriptor} (hfind : scope.host.Finds name decl)
    (hk : name ∈ r.knownTemplates) (hok : scope.defaultsOf r name decl = .ok defaults) :
    scope.Computes kept (· ∈ r.knownTemplates) name defaults :=
  computes_of_defaultsIn hacyclic htold hnone _ [] name decl defaults hfind hk (by simp) hok

/-- Below a path that leads to the template, defaults that are computed from declared defaults are
the declared ones. -/
theorem defaults_of_defaultsIn
    (hacyclic : ∀ n ∈ r.knownTemplates, ¬ Relation.TransGen scope.host.Carries n n)
    (hkept : ∀ n d, r.templates.get? n = some d → scope.Defaults (· ∈ r.knownTemplates) n d)
    (limit : Nat) (path : NameSet) (name : String) (decl : Option Declaration)
    (defaults : Descriptor) (hfind : scope.host.Finds name decl) (hk : name ∈ r.knownTemplates)
    (hpath : ∀ m ∈ path, Relation.TransGen scope.host.Carries m name)
    (hok : scope.defaultsIn r limit path name decl = .ok defaults) :
    scope.Defaults (· ∈ r.knownTemplates) name defaults :=
  computes_none_iff.1 (computes_of_defaultsIn hacyclic (fun n d hget =>
    told_none_iff.2 (hkept n d hget)) (fun _ _ => rfl) limit path name decl defaults hfind hk hpath
    hok)

theorem defaults_of_defaultsOf
    (hacyclic : ∀ n ∈ r.knownTemplates, ¬ Relation.TransGen scope.host.Carries n n)
    (hkept : ∀ n d, r.templates.get? n = some d → scope.Defaults (· ∈ r.knownTemplates) n d)
    {name : String} {decl : Option Declaration} {defaults : Descriptor}
    (hfind : scope.host.Finds name decl) (hk : name ∈ r.knownTemplates)
    (hok : scope.defaultsOf r name decl = .ok defaults) :
    scope.Defaults (· ∈ r.knownTemplates) name defaults :=
  defaults_of_defaultsIn hacyclic hkept _ [] name decl defaults hfind hk (by simp) hok

end Scope

end PrototypeLens
