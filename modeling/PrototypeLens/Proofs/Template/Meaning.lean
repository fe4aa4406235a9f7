import PrototypeLens.Lookup.Template

/-!
# What templates mean

The meaning of templates, read off the declarations of a host alone: which names are templates,
which defaults a template contributes, and which prototype a declaration has. Nothing here mentions
a registry; the lookups are measured against these definitions.

A name counts as an annotation because it is used as one. What its declaration declares plays no
part.

## Layers

- `Host.Declares`, `Host.Finds`, `Host.Carries`: what a qualified name resolves to, and what stands
  on its declaration.
- `Host.Derivable`: the least set from some givens past some barred names, with `Host.Template` and
  `Host.Rooted` as its two instances.
- `Declaration.FirstUse`: the annotation that decides.
- `Scope.Defaults`: the declared defaults; `Scope.Computes` and `Scope.Told` are the same rules
  where some defaults are kept already.
- `Scope.Prototype`: the prototype of a name.

## Main results

- `Derivable.transfer`: a change of givens and barred names that loses nothing among the derived
  names loses nothing.
- `Derivable.not_derivable_of_uses`: a name is judged by its annotations with itself barred.
- `computes_none_iff`: where nothing is kept, what is computed is what is declared.
- `Defaults.unique`, `PrototypeOf.unique`, `Prototype.unique`: there is one answer at most.
-/

namespace PrototypeLens

/-- No root is among the names that are never templates. -/
theorem not_mem_neverTemplates_of_root {name : String} (h : name ∈ rootTemplates) :
    name ∉ neverTemplates :=
  (show ∀ root ∈ rootTemplates, root ∉ neverTemplates by decide) name h

namespace Host

/-! ## Declarations and what stands on them -/

/-- The declaration that a qualified name resolves to. -/
def Declares (host : Host) (name : String) (decl : Declaration) : Prop :=
  ∃ id, host.findData name = .ok (some (id, decl))

/-- What a qualified name resolves to: its declaration, or nothing. -/
def Finds (host : Host) (name : String) (decl : Option Declaration) : Prop :=
  ∃ entry, host.findData name = .ok entry ∧ entry.map (·.2) = decl

/-- The declaration of a name carries an annotation called `mark`. -/
def Carries (host : Host) (name mark : String) : Prop :=
  ∃ decl, host.Declares name decl ∧ ∃ use ∈ decl.annotations, use.name = mark

theorem Declares.unique {host : Host} {name : String} {decl decl' : Declaration}
    (h : host.Declares name decl) (h' : host.Declares name decl') : decl = decl' := by
  obtain ⟨id, h⟩ := h
  obtain ⟨id', h'⟩ := h'
  rw [h] at h'
  simp only [Except.ok.injEq, Option.some.injEq, Prod.mk.injEq] at h'
  exact h'.2

theorem finds_some_iff {host : Host} {name : String} {decl : Declaration} :
    host.Finds name (some decl) ↔ host.Declares name decl := by
  constructor
  · rintro ⟨entry, hentry, hdecl⟩
    obtain ⟨⟨id, decl'⟩, rfl, rfl⟩ := Option.map_eq_some_iff.1 hdecl
    exact ⟨id, hentry⟩
  · rintro ⟨id, hentry⟩
    exact ⟨_, hentry, rfl⟩

theorem Declares.finds {host : Host} {name : String} {decl : Declaration}
    (h : host.Declares name decl) : host.Finds name (some decl) :=
  finds_some_iff.2 h

theorem Finds.unique {host : Host} {name : String} {decl decl' : Option Declaration}
    (h : host.Finds name decl) (h' : host.Finds name decl') : decl = decl' := by
  obtain ⟨entry, hentry, rfl⟩ := h
  obtain ⟨entry', hentry', rfl⟩ := h'
  cases hentry.symm.trans hentry'
  rfl

theorem Finds.not_declares {host : Host} {name : String} (h : host.Finds name none)
    (decl : Declaration) : ¬ host.Declares name decl := fun hdecl =>
  Option.some_ne_none decl (hdecl.finds.unique h)

theorem Declares.mem_names {host : Host} {name : String} {decl : Declaration}
    (h : host.Declares name decl) : name ∈ host.names := by
  obtain ⟨id, h⟩ := h
  exact findData_mem_names h

theorem Declares.carries_iff {host : Host} {name mark : String} {decl : Declaration}
    (h : host.Declares name decl) :
    host.Carries name mark ↔ ∃ use ∈ decl.annotations, use.name = mark :=
  ⟨fun ⟨_, h', found⟩ => h.unique h' ▸ found, fun found => ⟨decl, h, found⟩⟩

/-! ## Templates -/

/-- The least set that contains the names of `given` and every name, other than the barred ones,
whose declaration carries the marker or a name of the set. -/
inductive Derivable (host : Host) (given barred : String → Prop) : String → Prop where
  /-- A name to start from. -/
  | given {name : String} : given name → Derivable host given barred name
  /-- The declaration carries the marker. -/
  | marked {name : String} :
      host.Carries name templateMarker → ¬ barred name → Derivable host given barred name
  /-- The declaration carries a name of the set. -/
  | carried {name parent : String} :
      host.Carries name parent → Derivable host given barred parent → ¬ barred name →
      Derivable host given barred name

/-- The templates: the least set that contains the roots and every declared name, other than those
that are never templates, whose declaration carries the marker or a template. -/
def Template (host : Host) : String → Prop :=
  host.Derivable (· ∈ rootTemplates) (· ∈ neverTemplates)

/-- The least set that contains the roots and every declared name whose declaration carries the
marker or a name of the set. -/
def Rooted (host : Host) : String → Prop :=
  host.Derivable (· ∈ rootTemplates) fun _ => False

namespace Derivable

variable {host : Host} {given given' barred barred' : String → Prop} {name : String}

/-- What is derived can be derived from other givens past other barred names, as long as the names
that are derived themselves lose nothing by the change. -/
theorem transfer (h : host.Derivable given barred name)
    (hgiven : ∀ n, host.Derivable given barred n → given n → host.Derivable given' barred' n)
    (hbarred : ∀ n, host.Derivable given barred n → ¬ barred n → ¬ barred' n) :
    host.Derivable given' barred' name := by
  -- By induction on the derivation. The hypotheses speak of derived names only, so each case hands
  -- over its own conclusion.
  induction h with
  | given hn => exact hgiven _ (.given hn) hn
  | marked hc hb => exact .marked hc (hbarred _ (.marked hc hb) hb)
  | carried hc hp hb ih => exact .carried hc ih (hbarred _ (.carried hc hp hb) hb)

theorem mono (h : host.Derivable given barred name)
    (hgiven : ∀ n, given n → host.Derivable given' barred' n)
    (hbarred : ∀ n, barred' n → barred n) : host.Derivable given' barred' name :=
  h.transfer (fun n _ => hgiven n) fun n _ hb hb' => hb (hbarred n hb')

/-- What is derived without being given carries the marker or something that is derived. -/
theorem carries (h : host.Derivable given barred name) (hgiven : ¬ given name) :
    ∃ mark, host.Carries name mark ∧
      (mark = templateMarker ∨ host.Derivable given barred mark) := by
  cases h with
  | given hname => exact absurd hname hgiven
  | marked hc _ => exact ⟨_, hc, .inl rfl⟩
  | carried hc hp _ => exact ⟨_, hc, .inr hp⟩

/-- A name that is neither given nor carries the marker, and none of whose annotations can be
derived once it is barred itself, cannot be derived. -/
theorem not_derivable_of_uses {own : String} (hgiven : ¬ given own)
    (hmarked : ¬ host.Carries own templateMarker)
    (hsub : ∀ n, given n → n ≠ own → given' n)
    (hbar : ∀ n, ¬ barred n → n ≠ own → ¬ barred' n)
    (huses : ∀ parent, host.Carries own parent → ¬ host.Derivable given' barred' parent) :
    ¬ host.Derivable given barred own := by
  -- Nothing derivable is `own`, so barring `own` loses nothing.
  have key : ∀ n, host.Derivable given barred n →
      n ≠ own ∧ host.Derivable given' barred' n := by
    intro n hn
    -- By induction on the derivation of `n`. The bound name differs from `own` in each case for its
    -- own reason, so it is named there.
    induction hn with
    | given hn =>
      rename_i m
      have hne : m ≠ own := fun e => hgiven (e ▸ hn)
      exact ⟨hne, .given (hsub _ hn hne)⟩
    | marked hc hb =>
      rename_i m
      have hne : m ≠ own := fun e => hmarked (e ▸ hc)
      exact ⟨hne, .marked hc (hbar _ hb hne)⟩
    | carried hc hp hb ih =>
      rename_i m parent
      have hne : m ≠ own := fun e => huses parent (e ▸ hc) ih.2
      exact ⟨hne, .carried hc ih.2 (hbar _ hb hne)⟩
  exact fun h => (key own h).1 rfl

end Derivable

end Host

/-! ## Defaults -/

/-- The first annotation of a declaration whose name is in a set. -/
def Declaration.FirstUse (isTemplate : String → Prop) (decl : Declaration)
    (use : AnnotationUse) : Prop :=
  ∃ before after, decl.annotations = before ++ use :: after ∧ isTemplate use.name ∧
    ∀ other ∈ before, ¬ isTemplate other.name

namespace Declaration.FirstUse

variable {isTemplate other : String → Prop} {decl : Declaration} {use use' : AnnotationUse}

theorem mem (h : decl.FirstUse isTemplate use) : use ∈ decl.annotations := by
  obtain ⟨before, after, happ, _, _⟩ := h
  rw [happ]
  exact List.mem_append_right _ List.mem_cons_self

theorem holds (h : decl.FirstUse isTemplate use) : isTemplate use.name := by
  obtain ⟨_, _, _, ht, _⟩ := h
  exact ht

theorem unique (h : decl.FirstUse isTemplate use) (h' : decl.FirstUse isTemplate use') :
    use = use' := by
  obtain ⟨before, after, happ, ht, hbefore⟩ := h
  obtain ⟨before', after', happ', ht', hbefore'⟩ := h'
  rw [happ] at happ'
  -- Two splits of one list: either one prefix continues into the other, and the longer one holds
  -- the use of the shorter, or they are the same.
  rcases List.append_eq_append_iff.1 happ' with ⟨rest, hrest, hafter⟩ | ⟨rest, hrest, hafter⟩
  · cases rest with
    | nil => exact (List.cons.inj hafter).1
    | cons head rest =>
      have hhead : use = head := (List.cons.inj hafter).1
      exact absurd ht (hbefore' use (by rw [hrest, hhead]; simp))
  · cases rest with
    | nil => exact (List.cons.inj hafter).1.symm
    | cons head rest =>
      have hhead : use' = head := (List.cons.inj hafter).1
      exact absurd ht' (hbefore use' (by rw [hrest, hhead]; simp))

/-- Only what is said of the annotations of the declaration counts. -/
theorem congr (h : decl.FirstUse isTemplate use)
    (hagree : ∀ use ∈ decl.annotations, (isTemplate use.name ↔ other use.name)) :
    decl.FirstUse other use := by
  obtain ⟨before, after, happ, ht, hbefore⟩ := h
  refine ⟨before, after, happ, (hagree use (by rw [happ]; simp)).1 ht, fun mark hmark => ?_⟩
  have hmem : mark ∈ decl.annotations := by
    rw [happ]
    exact List.mem_append_left _ hmark
  exact fun ho => hbefore mark hmark ((hagree mark hmem).2 ho)

end Declaration.FirstUse

namespace Scope

/-- What a template makes of the defaults that it inherits: the flag of the enum root, then its own
element defaults. -/
def ownDefaults (scope : Scope) (name : String) (decl : Option Declaration)
    (inherited : Descriptor) : Except LookupError Descriptor :=
  let flagged := if name = enumPrototype
    then inherited.setCustom Descriptor.enumKey (.flag true) else inherited
  match decl with
  | some decl => flagged.takeDefaults (Lookup.resolveEnricher scope) name decl.methods
  | none => .ok flagged

/-- The defaults that a template contributes, where `isTemplate` tells the templates: its own over
those of the first template that its declaration carries, changed by the attributes of the usage. -/
inductive Defaults (scope : Scope) (isTemplate : String → Prop) :
    String → Descriptor → Prop where
  /-- A template that carries none starts from the base defaults. -/
  | base {name : String} {decl : Option Declaration} {defaults : Descriptor} :
      scope.host.Finds name decl →
      (∀ d ∈ decl, ∀ use ∈ d.annotations, ¬ isTemplate use.name) →
      scope.ownDefaults name decl {} = .ok defaults →
      Defaults scope isTemplate name defaults
  /-- Any other inherits from the first one that it carries. -/
  | inherited {name : String} {decl : Declaration} {use : AnnotationUse}
      {parent taken defaults : Descriptor} :
      scope.host.Declares name decl → decl.FirstUse isTemplate use →
      Defaults scope isTemplate use.name parent →
      parent.takeUsage (Lookup.resolveEnricher scope) use = .ok taken →
      scope.ownDefaults name (some decl) taken = .ok defaults →
      Defaults scope isTemplate name defaults

/-- The defaults that are computed for a template where those of other templates are taken as they
are `kept`. -/
inductive Computes (scope : Scope) (kept : String → Option Descriptor)
    (isTemplate : String → Prop) : String → Descriptor → Prop where
  | base {name : String} {decl : Option Declaration} {defaults : Descriptor} :
      scope.host.Finds name decl →
      (∀ d ∈ decl, ∀ use ∈ d.annotations, ¬ isTemplate use.name) →
      scope.ownDefaults name decl {} = .ok defaults →
      Computes scope kept isTemplate name defaults
  /-- The defaults that are inherited are kept. -/
  | kept {name : String} {decl : Declaration} {use : AnnotationUse}
      {parent taken defaults : Descriptor} :
      scope.host.Declares name decl → decl.FirstUse isTemplate use →
      kept use.name = some parent →
      parent.takeUsage (Lookup.resolveEnricher scope) use = .ok taken →
      scope.ownDefaults name (some decl) taken = .ok defaults →
      Computes scope kept isTemplate name defaults
  /-- The defaults that are inherited are computed as well. -/
  | computed {name : String} {decl : Declaration} {use : AnnotationUse}
      {parent taken defaults : Descriptor} :
      scope.host.Declares name decl → decl.FirstUse isTemplate use →
      kept use.name = none → Computes scope kept isTemplate use.name parent →
      parent.takeUsage (Lookup.resolveEnricher scope) use = .ok taken →
      scope.ownDefaults name (some decl) taken = .ok defaults →
      Computes scope kept isTemplate name defaults

/-- The defaults that are told of a template: the kept ones, or else the computed ones. -/
def Told (scope : Scope) (kept : String → Option Descriptor) (isTemplate : String → Prop)
    (name : String) (defaults : Descriptor) : Prop :=
  kept name = some defaults ∨ kept name = none ∧ scope.Computes kept isTemplate name defaults

section

variable {scope : Scope} {kept : String → Option Descriptor} {isTemplate other : String → Prop}
  {name : String} {decl : Declaration} {use : AnnotationUse}
  {parent taken defaults defaults' : Descriptor}

namespace Computes

theorem inherited (hdecl : scope.host.Declares name decl) (hfirst : decl.FirstUse isTemplate use)
    (htold : scope.Told kept isTemplate use.name parent)
    (htaken : parent.takeUsage (Lookup.resolveEnricher scope) use = .ok taken)
    (hown : scope.ownDefaults name (some decl) taken = .ok defaults) :
    scope.Computes kept isTemplate name defaults := by
  rcases htold with hkept | ⟨hnone, hparent⟩
  · exact .kept hdecl hfirst hkept htaken hown
  · exact .computed hdecl hfirst hnone hparent htaken hown

/-- What is computed for a template without another one on its declaration. -/
theorem ownDefaults_of_plain (h : scope.Computes kept isTemplate name defaults)
    {decl : Option Declaration} (hfind : scope.host.Finds name decl)
    (hnone : ∀ d ∈ decl, ∀ use ∈ d.annotations, ¬ isTemplate use.name) :
    scope.ownDefaults name decl {} = .ok defaults := by
  -- The other rules need a template on the declaration.
  cases h with
  | base hfind' _ hown =>
    cases hfind.unique hfind'
    exact hown
  | kept hdecl hfirst _ _ _ | computed hdecl hfirst _ _ _ _ =>
    cases hfind.unique hdecl.finds
    exact absurd hfirst.holds (hnone _ rfl _ hfirst.mem)

/-- What is computed for a template that inherits from another one. -/
theorem inherits (h : scope.Computes kept isTemplate name defaults)
    (hdecl : scope.host.Declares name decl) (hfirst : decl.FirstUse isTemplate use) :
    ∃ parent taken, scope.Told kept isTemplate use.name parent ∧
      parent.takeUsage (Lookup.resolveEnricher scope) use = .ok taken ∧
      scope.ownDefaults name (some decl) taken = .ok defaults := by
  cases h with
  | base hfind hnone _ =>
    cases hdecl.finds.unique hfind
    exact absurd hfirst.holds (hnone _ rfl _ hfirst.mem)
  | kept hdecl' hfirst' hkept htaken hown =>
    cases hdecl.unique hdecl'
    cases hfirst.unique hfirst'
    exact ⟨_, _, .inl hkept, htaken, hown⟩
  | computed hdecl' hfirst' hnone hparent htaken hown =>
    cases hdecl.unique hdecl'
    cases hfirst.unique hfirst'
    exact ⟨_, _, .inr ⟨hnone, hparent⟩, htaken, hown⟩

/-- One descriptor is computed for a template. -/
theorem unique (h : scope.Computes kept isTemplate name defaults)
    (h' : scope.Computes kept isTemplate name defaults') : defaults = defaults' := by
  -- By induction on the first computation. The other one has the same first template, and takes its
  -- defaults from the same place, since a name is either kept or not.
  induction h generalizing defaults' with
  | base hfind hnone hown =>
    exact Except.ok.inj (hown.symm.trans (h'.ownDefaults_of_plain hfind hnone))
  | kept hdecl hfirst hkept htaken hown =>
    obtain ⟨parent', taken', htold, htaken', hown'⟩ := h'.inherits hdecl hfirst
    rcases htold with hkept' | ⟨hnone, _⟩
    · cases hkept.symm.trans hkept'
      cases Except.ok.inj (htaken.symm.trans htaken')
      exact Except.ok.inj (hown.symm.trans hown')
    · cases hkept.symm.trans hnone
  | computed hdecl hfirst hnone _ htaken hown ih =>
    obtain ⟨parent', taken', htold, htaken', hown'⟩ := h'.inherits hdecl hfirst
    rcases htold with hkept | ⟨_, hparent⟩
    · cases hnone.symm.trans hkept
    · cases ih hparent
      cases Except.ok.inj (htaken.symm.trans htaken')
      exact Except.ok.inj (hown.symm.trans hown')

end Computes

theorem Told.unique (h : scope.Told kept isTemplate name defaults)
    (h' : scope.Told kept isTemplate name defaults') : defaults = defaults' := by
  rcases h with hkept | ⟨hnone, hcomputes⟩
  · rcases h' with hkept' | ⟨hnone, _⟩
    · exact Option.some.inj (hkept.symm.trans hkept')
    · cases hkept.symm.trans hnone
  · rcases h' with hkept | ⟨_, hcomputes'⟩
    · cases hnone.symm.trans hkept
    · exact hcomputes.unique hcomputes'

/-- Where nothing is kept the declared defaults are computed. -/
theorem computes_none_iff :
    scope.Computes (fun _ => none) isTemplate name defaults ↔
      scope.Defaults isTemplate name defaults := by
  constructor
  · intro h
    induction h with
    | base hfind hnone hown => exact .base hfind hnone hown
    | kept _ _ hkept _ _ => cases hkept
    | computed hdecl hfirst _ _ htaken hown ih => exact .inherited hdecl hfirst ih htaken hown
  · intro h
    induction h with
    | base hfind hnone hown => exact .base hfind hnone hown
    | inherited hdecl hfirst _ htaken hown ih => exact .computed hdecl hfirst rfl ih htaken hown

theorem told_none_iff :
    scope.Told (fun _ => none) isTemplate name defaults ↔
      scope.Defaults isTemplate name defaults := by
  simp [Told, computes_none_iff]

namespace Defaults

/-- A template has one descriptor of defaults. -/
theorem unique (h : scope.Defaults isTemplate name defaults)
    (h' : scope.Defaults isTemplate name defaults') : defaults = defaults' :=
  (computes_none_iff.2 h).unique (computes_none_iff.2 h')

/-- Only what is said of the annotations on templates counts. -/
theorem congr (h : scope.Defaults isTemplate name defaults) (hname : isTemplate name)
    (hagree : ∀ n decl, isTemplate n → scope.host.Declares n decl →
      ∀ use ∈ decl.annotations, (isTemplate use.name ↔ other use.name)) :
    scope.Defaults other name defaults := by
  -- By induction on the defaults: the name stays a template, since the first use is one.
  induction h with
  | base hfind hnone hown =>
    refine .base hfind (fun decl hdecl use huse ho => ?_) hown
    cases hdecl
    exact hnone _ rfl use huse ((hagree _ _ hname (Host.finds_some_iff.1 hfind) use huse).2 ho)
  | inherited hdecl hfirst _ htaken hown ih =>
    exact .inherited hdecl (hfirst.congr (hagree _ _ hname hdecl)) (ih hfirst.holds) htaken hown

end Defaults

end

/-! ## Prototypes -/

/-- The prototype that the annotations of a declaration give it: the defaults of the first template
among them, changed by the attributes of the usage. -/
inductive PrototypeOf (scope : Scope) (isTemplate : String → Prop) (decl : Declaration) :
    Option Descriptor → Prop where
  /-- A declaration without a template has no prototype. -/
  | none : (∀ use ∈ decl.annotations, ¬ isTemplate use.name) →
      PrototypeOf scope isTemplate decl none
  /-- Its first template decides. -/
  | some {use : AnnotationUse} {defaults prototype : Descriptor} :
      decl.FirstUse isTemplate use → scope.Defaults isTemplate use.name defaults →
      defaults.takeUsage (Lookup.resolveEnricher scope) use = .ok prototype →
      PrototypeOf scope isTemplate decl (some prototype)

/-- The prototype of a qualified name: none unless it is declared, else that of its declaration. -/
def Prototype (scope : Scope) (isTemplate : String → Prop) (name : String)
    (prototype : Option Descriptor) : Prop :=
  (∃ decl, scope.host.Declares name decl ∧ scope.PrototypeOf isTemplate decl prototype) ∨
    (∀ decl, ¬ scope.host.Declares name decl) ∧ prototype = .none

variable {scope : Scope} {isTemplate : String → Prop}

/-- A declaration has one prototype at most. -/
theorem PrototypeOf.unique {decl : Declaration} {prototype prototype' : Option Descriptor}
    (h : scope.PrototypeOf isTemplate decl prototype)
    (h' : scope.PrototypeOf isTemplate decl prototype') : prototype = prototype' := by
  -- The rules exclude each other: one says that no annotation is a template, the other names one.
  cases h with
  | none hnone => cases h' with
    | none _ => rfl
    | some hfirst _ _ => exact absurd hfirst.holds (hnone _ hfirst.mem)
  | some hfirst hdefaults htaken => cases h' with
    | none hnone => exact absurd hfirst.holds (hnone _ hfirst.mem)
    | some hfirst' hdefaults' htaken' =>
      cases hfirst.unique hfirst'
      cases hdefaults.unique hdefaults'
      cases Except.ok.inj (htaken.symm.trans htaken')
      rfl

theorem Prototype.unique {name : String} {prototype prototype' : Option Descriptor}
    (h : scope.Prototype isTemplate name prototype)
    (h' : scope.Prototype isTemplate name prototype') : prototype = prototype' := by
  rcases h with ⟨decl, hdecl, hp⟩ | ⟨hnone, rfl⟩
  · rcases h' with ⟨decl', hdecl', hp'⟩ | ⟨hnone', _⟩
    · cases hdecl.unique hdecl'
      exact hp.unique hp'
    · exact absurd hdecl (hnone' decl)
  · rcases h' with ⟨decl', hdecl', _⟩ | ⟨_, rfl⟩
    · exact absurd hdecl' (hnone decl')
    · rfl

end Scope

end PrototypeLens
