import PrototypeLens.Proofs.Registry.Recording
import PrototypeLens.Proofs.Template.Defaults

/-!
# Discovery without fuel

Discovery as a relation between registries: a derivation for each way in which an annotation in the
sources is discovered, without the limit on the nesting and without a session. Every discovery that
is run with enough fuel has a derivation, so that what the rules of the relation preserve, discovery
preserves.

## Layers

- `Scope.Ensures`: making sure of a template, which is kept, registered or left announced.
- `Task` and `Discovery`: discovering an annotation, asking for one on another, and taking the
  annotations on a declaration, with the rules for how each comes out.
- `Lookup.Answers`: what asking for a template makes of the registry.

## Main results

- `yields_inspect`: taking annotations one by one follows the rules.
- `yields_discoverStep`: so does one discovery, if those that it asks for do.
- `yields_discoverWithin`: the bounded recursion does, as long as the limit exceeds the declared
  names that are not being discovered.
- `yields_template?`: so every answer about a template has a derivation.
-/

namespace PrototypeLens

variable {scope : Scope} {name : String}

/-! ## Making sure of a template -/

/-- Making sure that a template is registered: its defaults are kept, or they are computed after it
was announced. -/
inductive Scope.Ensures (scope : Scope) (name : String) (decl : Option Declaration)
    (r : Registry) : Except LookupError Descriptor → Registry → Prop where
  | kept {defaults : Descriptor} :
      r.templates.get? name = some defaults → Ensures scope name decl r (.ok defaults) r
  | registered {defaults : Descriptor} :
      r.templates.get? name = none →
      scope.defaultsOf (r.announceTemplate name) name decl = .ok defaults →
      Ensures scope name decl r (.ok defaults)
        ((r.announceTemplate name).publishTemplate (r.announceTemplate name).epoch name
          (decl.map (·.file)) defaults)
  /-- A template without defaults stays announced. -/
  | failed {e : LookupError} :
      r.templates.get? name = none →
      scope.defaultsOf (r.announceTemplate name) name decl = .error e →
      Ensures scope name decl r (.error e) (r.announceTemplate name)

namespace Lookup

variable {decl : Option Declaration} {r : Registry} {g : Guards}

theorem yields_registerTemplate (hidle : g.defaulting = [])
    (hnew : r.templates.get? name = none) :
    (registerTemplate scope name decl).Yields r g (scope.Ensures name decl r) := by
  have hcompute : (templateDefaults scope name decl).exec ⟨r.announceTemplate name, g⟩ =
      (scope.defaultsOf (r.announceTemplate name) name decl, ⟨r.announceTemplate name, g⟩) :=
    exec_templateDefaults hidle
  refine .after (exec_record _) (.after (exec_ask _) ?_)
  -- Without defaults the template stays announced.
  cases hdefaults : scope.defaultsOf (r.announceTemplate name) name decl with
  | error e =>
    rw [hdefaults] at hcompute
    exact ⟨.error e, _, SessionM.exec_bind_error hcompute, .failed hnew hdefaults⟩
  | ok defaults =>
    rw [hdefaults] at hcompute
    refine .after hcompute (.after (exec_record _) ?_)
    exact SessionM.yields_pure (.registered hnew hdefaults)

theorem yields_ensureTemplate (hidle : g.defaulting = []) :
    (ensureTemplate scope name decl).Yields r g (scope.Ensures name decl r) := by
  refine .after exec_cachedTemplate? ?_
  cases hget : r.templates.get? name with
  | some defaults => exact SessionM.yields_pure (.kept hget)
  | none => exact .nested (yields_registerTemplate hidle hget)

end Lookup

/-! ## The relation -/

/-- A step of discovery. -/
inductive Task where
  /-- To discover an annotation that no one discovers yet. -/
  | discover (name : String)
  /-- To ask for an annotation on an annotation. -/
  | consult (name : String)
  /-- To take annotations on the declaration of `own`, after some that led to `sofar`. -/
  | inspect (own : String) (decl : Declaration) (sofar : Option Descriptor)
    (marks : List AnnotationUse)

/-- How a task comes out while the annotations `path` are being discovered, and what it makes of the
registry. -/
inductive Discovery (scope : Scope) : NameSet → Task → Registry →
    Except LookupError (Option Descriptor) → Registry → Prop where
  /-- A root is a template whatever it carries. -/
  | root {path : NameSet} {name : String} {decl : Option Declaration}
      {r r' : Registry} {out : Except LookupError Descriptor} :
      name ∈ rootTemplates → scope.host.Finds name decl → scope.Ensures name decl r out r' →
      Discovery scope path (.discover name) r (out.map some) r'
  /-- What is not declared is not a template. -/
  | undeclared {path : NameSet} {name : String} {r : Registry} :
      name ∉ rootTemplates → scope.host.Finds name none →
      Discovery scope path (.discover name) r (.ok none) r
  | decided {path : NameSet} {name : String} {decl : Declaration} {r r' : Registry}
      {out : Except LookupError (Option Descriptor)} :
      name ∉ rootTemplates → scope.host.Declares name decl →
      Discovery scope (path.add name) (.inspect name decl none decl.annotations) r out r' →
      out ≠ .ok none → Discovery scope path (.discover name) r out r'
  /-- Without a template among them the annotation is denied. -/
  | denied {path : NameSet} {name : String} {decl : Declaration} {r r' : Registry} :
      name ∉ rootTemplates → scope.host.Declares name decl →
      Discovery scope (path.add name) (.inspect name decl none decl.annotations) r (.ok none) r' →
      Discovery scope path (.discover name) r (.ok none) (r'.denyTemplate name (some decl.file))
  | kept {path : NameSet} {name : String} {r : Registry} {defaults : Descriptor} :
      r.templates.get? name = some defaults →
      Discovery scope path (.consult name) r (.ok (some defaults)) r
  /-- An annotation that is being discovered does not count. -/
  | circular {path : NameSet} {name : String} {r : Registry} :
      r.templates.get? name = none → name ∈ path →
      Discovery scope path (.consult name) r (.ok none) r
  | opened {path : NameSet} {name : String} {r r' : Registry}
      {out : Except LookupError (Option Descriptor)} :
      r.templates.get? name = none → name ∉ path →
      Discovery scope path (.discover name) r out r' →
      Discovery scope path (.consult name) r out r'
  | done {path : NameSet} {own : String} {decl : Declaration} {sofar : Option Descriptor}
      {r : Registry} :
      Discovery scope path (.inspect own decl sofar []) r (.ok sofar) r
  /-- The marker makes a template. -/
  | marked {path : NameSet} {own : String} {decl : Declaration} {sofar : Option Descriptor}
      {mark : AnnotationUse} {marks : List AnnotationUse} {r r₁ r' : Registry}
      {defaults : Descriptor} {out : Except LookupError (Option Descriptor)} :
      mark.name = templateMarker → scope.Ensures own (some decl) r (.ok defaults) r₁ →
      Discovery scope path (.inspect own decl (some defaults) marks) r₁ out r' →
      Discovery scope path (.inspect own decl sofar (mark :: marks)) r out r'
  | markedFailed {path : NameSet} {own : String} {decl : Declaration} {sofar : Option Descriptor}
      {mark : AnnotationUse} {marks : List AnnotationUse} {r r₁ : Registry} {e : LookupError} :
      mark.name = templateMarker → scope.Ensures own (some decl) r (.error e) r₁ →
      Discovery scope path (.inspect own decl sofar (mark :: marks)) r (.error e) r₁
  /-- What is known not to be a template is passed over. -/
  | barred {path : NameSet} {own : String} {decl : Declaration} {sofar : Option Descriptor}
      {mark : AnnotationUse} {marks : List AnnotationUse} {r r' : Registry}
      {out : Except LookupError (Option Descriptor)} :
      mark.name ≠ templateMarker → mark.name ∈ r.nonTemplates →
      Discovery scope path (.inspect own decl sofar marks) r out r' →
      Discovery scope path (.inspect own decl sofar (mark :: marks)) r out r'
  /-- A template makes what carries it a template, which depends on it from now on. -/
  | carried {path : NameSet} {own : String} {decl : Declaration} {sofar : Option Descriptor}
      {mark : AnnotationUse} {marks : List AnnotationUse} {r r₁ r₂ r' : Registry}
      {parent defaults : Descriptor} {out : Except LookupError (Option Descriptor)} :
      mark.name ≠ templateMarker → mark.name ∉ r.nonTemplates →
      Discovery scope path (.consult mark.name) r (.ok (some parent)) r₁ →
      scope.Ensures own (some decl) (r₁.recordDependent mark.name own) (.ok defaults) r₂ →
      Discovery scope path (.inspect own decl (some defaults) marks) r₂ out r' →
      Discovery scope path (.inspect own decl sofar (mark :: marks)) r out r'
  | carriedFailed {path : NameSet} {own : String} {decl : Declaration}
      {sofar : Option Descriptor} {mark : AnnotationUse} {marks : List AnnotationUse}
      {r r₁ r₂ : Registry} {parent : Descriptor} {e : LookupError} :
      mark.name ≠ templateMarker → mark.name ∉ r.nonTemplates →
      Discovery scope path (.consult mark.name) r (.ok (some parent)) r₁ →
      scope.Ensures own (some decl) (r₁.recordDependent mark.name own) (.error e) r₂ →
      Discovery scope path (.inspect own decl sofar (mark :: marks)) r (.error e) r₂
  /-- What turns out not to be a template is denied. -/
  | passed {path : NameSet} {own : String} {decl : Declaration} {sofar : Option Descriptor}
      {mark : AnnotationUse} {marks : List AnnotationUse} {r r₁ r' : Registry}
      {out : Except LookupError (Option Descriptor)} :
      mark.name ≠ templateMarker → mark.name ∉ r.nonTemplates →
      Discovery scope path (.consult mark.name) r (.ok none) r₁ →
      Discovery scope path (.inspect own decl sofar marks) (r₁.denyTemplate mark.name none) out r' →
      Discovery scope path (.inspect own decl sofar (mark :: marks)) r out r'
  | failing {path : NameSet} {own : String} {decl : Declaration} {sofar : Option Descriptor}
      {mark : AnnotationUse} {marks : List AnnotationUse} {r r₁ : Registry} {e : LookupError} :
      mark.name ≠ templateMarker → mark.name ∉ r.nonTemplates →
      Discovery scope path (.consult mark.name) r (.error e) r₁ →
      Discovery scope path (.inspect own decl sofar (mark :: marks)) r (.error e) r₁

/-! ## Runs have derivations -/

namespace Lookup

variable {recur : String → Lookup (Option Descriptor)} {g : Guards}

theorem yields_parentTemplate? {r : Registry}
    (hrecur : ∀ r', name ∉ g.discovering →
      (recur name).Yields r' g (Discovery scope g.discovering (.discover name) r')) :
    (parentTemplate? recur name).Yields r g
      (Discovery scope g.discovering (.consult name) r) := by
  refine .after exec_cachedTemplate? ?_
  -- Kept, being discovered, or discovered now: one rule for each.
  cases hget : r.templates.get? name with
  | some defaults => exact SessionM.yields_pure (.kept hget)
  | none =>
    refine .after (exec_askGuards (·.discovering.contains name)) ?_
    by_cases hmet : name ∈ g.discovering
    · rw [if_pos (by simpa using hmet)]
      exact SessionM.yields_pure (.circular hget hmet)
    · rw [if_neg (by simpa using hmet)]
      exact (hrecur r hmet).mono fun out r' hdisc => .opened hget hmet hdisc

/-- Taking annotations one by one follows the rules, if discovering each of them does. -/
theorem yields_inspect (hidle : g.defaulting = []) {own : String} {decl : Declaration}
    (marks : List AnnotationUse)
    (hrecur : ∀ mark ∈ marks, ∀ r', mark.name ∉ g.discovering →
      (recur mark.name).Yields r' g
        (Discovery scope g.discovering (.discover mark.name) r')) :
    ∀ (sofar : Option Descriptor) (r : Registry),
      (marks.foldlM (inspectUse scope recur own decl) sofar).Yields r g
        (Discovery scope g.discovering (.inspect own decl sofar marks) r) := by
  -- The induction is on the annotations, for any result so far and any registry.
  induction marks with
  | nil =>
    intro sofar r
    exact SessionM.yields_pure .done
  | cons mark marks ih =>
    intro sofar r
    have hrest := ih fun mark' hmark' => hrecur mark' (List.mem_cons_of_mem _ hmark')
    have hensure (r : Registry) : (ensureTemplate scope own (some decl)).Yields r g
        (scope.Ensures own (some decl) r) := yields_ensureTemplate hidle
    rw [List.foldlM_cons, inspectUse]
    by_cases hmarker : mark.name = templateMarker
    · -- The marker: `own` is registered before the rest is taken.
      rw [if_pos hmarker, bind_assoc]
      refine (hensure r).bind ?_ fun e r₁ hens => .markedFailed hmarker hens
      intro defaults r₁ hens
      rw [pure_bind]
      exact (hrest _ r₁).mono fun out r' hdisc => .marked hmarker hens hdisc
    · rw [if_neg hmarker, bind_assoc]
      refine .after (exec_ask (·.nonTemplates.contains mark.name)) ?_
      by_cases hnon : mark.name ∈ r.nonTemplates
      · rw [if_pos (by simpa using hnon), pure_bind]
        exact (hrest sofar r).mono fun out r' hdisc => .barred hmarker hnon hdisc
      · rw [if_neg (by simpa using hnon), bind_assoc]
        refine (yields_parentTemplate? (hrecur mark List.mem_cons_self)).bind ?_
          fun e r₁ hconsult => .failing hmarker hnon hconsult
        intro found r₁ hconsult
        cases found with
        | none =>
          -- No template: the denial is recorded, then the rest is taken.
          simp only [bind_assoc, pure_bind]
          refine .after (exec_record _) ?_
          exact (hrest sofar _).mono fun out r' hdisc => .passed hmarker hnon hconsult hdisc
        | some parent =>
          -- A template: the dependent is recorded, and `own` is registered.
          simp only [bind_assoc, pure_bind]
          refine .after (exec_record _) ?_
          refine (hensure _).bind ?_ fun e r₂ hens => .carriedFailed hmarker hnon hconsult hens
          intro defaults r₂ hens
          exact (hrest _ r₂).mono fun out r' hdisc => .carried hmarker hnon hconsult hens hdisc

/-- Discovering an annotation of the sources follows the rules, if discovering each annotation on it
does. -/
theorem yields_discoverStep (h : scope.host.Healthy) (hs : scope.host.Sourced) {path : NameSet}
    (hpath : g.discovering = path.add name) (hidle : g.defaulting = [])
    (hsource : scope.host.InSource name)
    (hrecur : ∀ mark, scope.host.Carries name mark → ∀ r', mark ∉ g.discovering →
      (recur mark).Yields r' g (Discovery scope g.discovering (.discover mark) r'))
    (r : Registry) :
    (discoverStep scope recur name).Yields r g (Discovery scope path (.discover name) r) := by
  obtain ⟨decl, hfind⟩ := h.finds name
  refine .after (exec_declarationOf? hfind) ?_
  -- A root is registered without a look at what is on it.
  by_cases hroot : name ∈ rootTemplates
  · rw [if_pos (by simpa using hroot)]
    have hensure : (ensureTemplate scope name decl).Yields r g (scope.Ensures name decl r) :=
      yields_ensureTemplate hidle
    refine hensure.bind (fun defaults r' hens => ?_) fun e r' hens => ?_
    · exact SessionM.yields_pure (.root hroot hfind hens)
    · exact .root hroot hfind hens
  · rw [if_neg (by simpa using hroot)]
    cases decl with
    | none => exact SessionM.yields_pure (.undeclared hroot hfind)
    | some decl =>
      have hdecl : scope.host.Declares name decl := Host.finds_some_iff.1 hfind
      -- The declaration is read from the sources, so its annotations are looked at.
      obtain ⟨id, _, hid⟩ := hdecl.declaration
      obtain ⟨file, hfile⟩ := h.file_ok hid
      refine .after (exec_query_of_ok hfile) ?_
      rw [hsource decl hdecl file hfile]
      have hinspect : (decl.annotations.foldlM (inspectUse scope recur name decl) none).Yields r g
          (Discovery scope (path.add name) (.inspect name decl none decl.annotations) r) := by
        rw [← hpath]
        exact yields_inspect hidle decl.annotations
          (fun mark hmark => hrecur mark.name ⟨decl, hdecl, mark, hmark, rfl⟩) none r
      rw [inspectDeclaration, hs.named hdecl]
      refine hinspect.bind ?_ fun e r' hdisc => .decided hroot hdecl hdisc (by simp)
      intro result r' hdisc
      cases result with
      | none =>
        -- Nothing on the declaration is a template: the name is denied on the way out.
        exact .after (exec_record _) (SessionM.yields_pure (.denied hroot hdecl hdisc))
      | some defaults => exact SessionM.yields_pure (.decided hroot hdecl hdisc (by simp))

/-- Discovering an annotation of the sources follows the rules, as long as the limit exceeds the
number of declared names that are not being discovered. -/
theorem yields_discoverWithin (h : scope.host.Healthy) (hs : scope.host.Sourced) (limit : Nat) :
    ∀ {name : String} {g : Guards} (r : Registry), scope.host.InSource name →
      g.defaulting = [] → Outlasts limit g.discovering scope.host.names → name ∉ g.discovering →
      (discoverWithin scope limit name).Yields r g
        (Discovery scope g.discovering (.discover name) r) := by
  -- What is being discovered is declared and not repeated, so that the limit outlasts it.
  induction limit with
  | zero => exact fun _ _ _ hlimit => absurd hlimit Outlasts.not_zero
  | succ limit ih =>
    intro name g r hsource hidle hlimit hfresh
    refine .within (by simp [NameSet.remove_add hfresh]) ?_
    -- One step, which asks for what stands on the name, each with one less to go.
    refine yields_discoverStep (g := { g with discovering := g.discovering.add name }) h hs rfl
      hidle hsource (fun mark hcarries r' hmet => ?_) r
    obtain ⟨decl, hdecl, use, huse, rfl⟩ := hcarries
    exact ih r' (hs.inSource hdecl huse) hidle (hlimit.add hdecl.mem_names hfresh) hmet

/-- What asking for a template makes of the registry: nothing if the answer is kept, else what
discovering it does. -/
inductive Answers (scope : Scope) (name : String) (r : Registry) :
    Except LookupError (Option Descriptor) → Registry → Prop where
  | kept {defaults : Descriptor} :
      r.templates.get? name = some defaults → Answers scope name r (.ok (some defaults)) r
  | barred : r.templates.get? name = none → name ∈ r.nonTemplates →
      Answers scope name r (.ok none) r
  | discovered {out : Except LookupError (Option Descriptor)} {r' : Registry} :
      r.templates.get? name = none → name ∉ r.nonTemplates →
      Discovery scope [] (.discover name) r out r' → Answers scope name r out r'

/-- A request that discovers nothing else gets its answer by the rules. -/
theorem yields_template? (h : scope.host.Healthy) (hs : scope.host.Sourced)
    (hsource : scope.host.InSource name) {r : Registry} (hidle : g.discovering = [])
    (hidle' : g.defaulting = []) : (template? scope name).Yields r g (Answers scope name r) := by
  refine .after exec_cachedTemplate? ?_
  cases hget : r.templates.get? name with
  | some defaults => exact SessionM.yields_pure (.kept hget)
  | none =>
    refine .after (exec_ask (·.nonTemplates.contains name)) ?_
    by_cases hnon : name ∈ r.nonTemplates
    · rw [if_pos (by simpa using hnon)]
      exact SessionM.yields_pure (.barred hget hnon)
    · rw [if_neg (by simpa using hnon)]
      refine .after (exec_askGuards (·.discovering.contains name)) ?_
      rw [if_neg (by simp [hidle])]
      refine (yields_discoverWithin h hs _ r hsource hidle' (.start hidle (by omega))
        (by simp [hidle])).mono fun out r' hdisc => ?_
      rw [hidle] at hdisc
      exact .discovered hget hnon hdisc

end Lookup

end PrototypeLens
