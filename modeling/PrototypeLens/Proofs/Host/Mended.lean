import PrototypeLens.Lookup.Class
import PrototypeLens.Proofs.Descriptor.Marking
import PrototypeLens.Proofs.Host.Health

/-!
# Malformed strategies

A host that differs from another in that no declaration but one has a malformed strategy on its
annotations. The strategies are read where a template usage is taken, and nowhere else: what the two
hosts tell of markers and enrichers is the same, and so are the defaults that a usage makes, unless
the usage fails for its strategy on the first host.

## Layers

- `Use.mended`: an annotation without its malformed strategies. No other attribute changes.
- `Declaration.mendedBut`: a declaration with all annotations mended, unless it has the given name.
- `Host.mendedBut` and `Scope.mendedBut`: the same for all declarations of a host.

## Main results

- `Descriptor.takeUsage_mended`: a mended usage is taken as before, or it failed for its strategy.
- `Enricher.ofDeclaration_mendedBut` and `Lookup.originOf?_mendedBut`: enrichers and markers are the
  same.
- `Lookup.resolveEnricher_mendedBut`: so is what class names resolve to as enrichers.
-/

namespace PrototypeLens

/-! ## Annotations -/

/-- A strategy that is not one of the constants. -/
def Attr.MalformedStrategy (attr : Attr AttrValue) : Prop :=
  attr.name = "strategy" ∧ ¬ attr.value.IsStrategy

instance (attr : Attr AttrValue) : Decidable attr.MalformedStrategy :=
  inferInstanceAs (Decidable (_ ∧ _))

namespace Use

/-- An annotation without the malformed strategies. -/
def mended (mark : AnnotationUse) : AnnotationUse :=
  { mark with attrs := mark.attrs.filter (¬ ·.MalformedStrategy) }

theorem attr?_mended {key : String} (hkey : key ≠ "strategy") (mark : AnnotationUse) :
    mark.mended.attr? key = mark.attr? key := by
  rw [attr?, attr?, mended, List.find?_filter]
  congr 2
  funext attr
  -- What has the key is not named as a strategy, so that it is kept.
  by_cases hname : attr.name = key
  · simp [hname, hkey, Attr.MalformedStrategy]
  · simp [hname]

end Use

/-- Strategies say nothing about an enricher. -/
theorem Enricher.foldl_takeAttr_mended (attrs : List (Attr AttrValue)) (e : Enricher) :
    (attrs.filter (¬ ·.MalformedStrategy)).foldl takeAttr e = attrs.foldl takeAttr e := by
  induction attrs generalizing e with
  | nil => rfl
  | cons attr attrs ih =>
    by_cases hbad : attr.MalformedStrategy
    · -- An enricher has no attribute of that name.
      have hskip : takeAttr e attr = e := by
        simp only [takeAttr, hbad.1]
        rfl
      rw [List.filter_cons_of_neg (by simpa using hbad), List.foldl_cons, hskip]
      apply ih
    · rw [List.filter_cons_of_pos (by simpa using hbad), List.foldl_cons, List.foldl_cons]
      apply ih

namespace Descriptor

variable {resolve : String → Except QueryError (Option Enricher)}

theorem takeAttr_malformedStrategy (origin : AttrOrigin) (usage : String) (d : Descriptor)
    {attr : Attr AttrValue} (h : attr.MalformedStrategy) :
    takeAttr resolve origin usage d attr.name attr.value =
      .error (.malformedAttribute usage "strategy") := by
  obtain ⟨hname, hvalue⟩ := h
  have hconstant : attr.value.enumConstant?.bind Strategy.ofConstant? = none :=
    Option.eq_none_iff_forall_ne_some.2 fun strategy h => hvalue ⟨strategy, h⟩
  simp only [takeAttr, hname, hconstant]

/-- A usage that loses its malformed strategies is taken as before, or it failed for the first of
them. -/
theorem takeUsage_mended (d : Descriptor) (mark : AnnotationUse) :
    d.takeUsage resolve mark.mended = d.takeUsage resolve mark ∨
      (∃ attr ∈ mark.attrs, attr.MalformedStrategy) ∧
        d.takeUsage resolve mark = .error (.malformedAttribute mark.name "strategy") := by
  have hattrs (attrs : List (Attr AttrValue)) (d : Descriptor) :
      let take := fun (d : Descriptor) (attr : Attr AttrValue) =>
        takeAttr resolve .usage mark.name d attr.name attr.value
      (attrs.filter (¬ ·.MalformedStrategy)).foldlM take d = attrs.foldlM take d ∨
        (∃ attr ∈ attrs, attr.MalformedStrategy) ∧
          attrs.foldlM take d = .error (.malformedAttribute mark.name "strategy") := by
    -- The induction is on the attributes, with the descriptor open, as each of them changes it.
    intro take
    induction attrs generalizing d with
    | nil => exact .inl rfl
    | cons attr attrs ih =>
      -- The attributes are taken in order, so that the first malformed strategy ends the usage.
      by_cases hbad : attr.MalformedStrategy
      · have hfail : take d attr = .error (.malformedAttribute mark.name "strategy") :=
          takeAttr_malformedStrategy _ _ d hbad
        refine .inr ⟨⟨attr, List.mem_cons_self, hbad⟩, ?_⟩
        rw [List.foldlM_cons, hfail]
        rfl
      · rw [List.filter_cons_of_pos (by simpa using hbad), List.foldlM_cons, List.foldlM_cons]
        cases take d attr with
        | error e => exact .inl rfl
        | ok d' =>
          apply (ih d').imp id
          rintro ⟨⟨bad, hmem, hbad⟩, hfail⟩
          exact ⟨⟨bad, List.mem_cons_of_mem _ hmem, hbad⟩, hfail⟩
  exact hattrs mark.attrs _

end Descriptor

/-! ## Declarations -/

namespace Declaration

/-- What becomes of an annotation on a declaration: that of the given name keeps them as they
are. -/
def mend (d : Declaration) (kept : String) (mark : AnnotationUse) : AnnotationUse :=
  if d.qualifiedName = some kept then mark else mark.mended

/-- A declaration whose annotations have no malformed strategies, unless it has the given name. -/
def mendedBut (d : Declaration) (kept : String) : Declaration :=
  { d with annotations := d.annotations.map (d.mend kept) }

variable (d : Declaration) (kept : String) (mark : AnnotationUse)

@[simp] theorem mend_name : (d.mend kept mark).name = mark.name := by
  rw [mend]
  split <;> rfl

theorem mend_goesBy (name : String) : (d.mend kept mark).goesBy name = mark.goesBy name := by
  simp only [Use.goesBy, mend_name]

theorem attr?_mend {key : String} (hkey : key ≠ "strategy") :
    (d.mend kept mark).attr? key = mark.attr? key := by
  rw [mend]
  split
  · rfl
  · exact Use.attr?_mended hkey mark

theorem annotationUse?_mendedBut (name : String) :
    (d.mendedBut kept).annotationUse? name = (d.annotationUse? name).map (d.mend kept) := by
  -- Mending changes attributes and never names, so that the same annotations are found.
  have hgoes : (fun mark : AnnotationUse => mark.goesBy name) ∘ d.mend kept =
      fun mark => mark.goesBy name := funext fun mark => d.mend_goesBy kept mark name
  rw [annotationUse?, annotationUse?, mendedBut, List.find?_map, hgoes]

theorem isAnnotatedWith_mendedBut (name : String) :
    (d.mendedBut kept).isAnnotatedWith name = d.isAnnotatedWith name := by
  rw [isAnnotatedWith, isAnnotatedWith, annotationUse?_mendedBut, Option.isSome_map]

end Declaration

theorem Enricher.ofDeclaration_mendedBut (className : String) (d : Declaration) (kept : String) :
    ofDeclaration className (d.mendedBut kept) = ofDeclaration className d := by
  rw [ofDeclaration, ofDeclaration, d.annotationUse?_mendedBut]
  cases d.annotationUse? augmentAnnotationName with
  | none => rfl
  | some mark =>
    rw [Option.map_some, Declaration.mend]
    -- The declaration of the kept name is not mended at all.
    by_cases hkept : d.qualifiedName = some kept
    · rw [if_pos hkept]
    · rw [if_neg hkept]
      exact foldl_takeAttr_mended mark.attrs _

theorem Lookup.originOf?_mendedBut (markers : List String) (d : Declaration) (kept : String) :
    originOf? markers (d.mendedBut kept) = originOf? markers d := by
  have hmarker (marker : String) :
      markerText? (d.mendedBut kept) marker = markerText? d marker := by
    have hname : (fun mark : AnnotationUse => mark.name == marker) ∘ d.mend kept =
        fun mark => mark.name == marker := by
      funext mark
      rw [Function.comp_apply, d.mend_name]
    -- The markers are read by their value, which is no strategy.
    have hvalue : (fun mark : AnnotationUse => mark.attr? "value") ∘ d.mend kept =
        fun mark => mark.attr? "value" := funext fun mark => d.attr?_mend kept mark (by decide)
    rw [markerText?, markerText?, Declaration.mendedBut, List.find?_map, hname, Option.bind_map,
      hvalue]
  rw [originOf?, originOf?, funext hmarker]

/-! ## Hosts -/

namespace Host

/-- Some declaration but that of the given name has an annotation with a malformed strategy. -/
def Misuses (host : Host) (kept usage : String) : Prop :=
  ∃ id decl, host.declaration id = .ok decl ∧ decl.qualifiedName ≠ some kept ∧
    ∃ mark ∈ decl.annotations, mark.name = usage ∧ ∃ attr ∈ mark.attrs, attr.MalformedStrategy

/-- A host without the malformed strategies on the annotations of all declarations but that of the
given name. -/
def mendedBut (host : Host) (kept : String) : Host where
  find := host.find
  declaration id := (host.declaration id).map (·.mendedBut kept)
  file := host.file
  declarationsIn := host.declarationsIn
  classpath := host.classpath
  archiveAt := host.archiveAt
  names := host.names
  ids := host.ids
  mem_names := host.mem_names
  mem_ids {id decl} h := by
    cases hdecl : host.declaration id with
    | ok decl' => exact host.mem_ids hdecl
    | error e =>
      rw [hdecl] at h
      cases h

variable {host : Host} {kept : String}

theorem declaration_mendedBut_eq_ok_iff {id : DeclId} {decl : Declaration} :
    (host.mendedBut kept).declaration id = .ok decl ↔
      ∃ d, host.declaration id = .ok d ∧ d.mendedBut kept = decl := by
  simp only [mendedBut]
  cases host.declaration id with
  | error e => exact ⟨nofun, nofun⟩
  | ok d => simp [Except.map]

theorem findData_mendedBut (host : Host) (kept name : String) :
    (host.mendedBut kept).findData name =
      (host.findData name).map (Option.map fun (id, d) => (id, d.mendedBut kept)) := by
  simp only [findData, mendedBut]
  cases host.find name with
  | error e => rfl
  -- Which declaration it is, is told by the identifier; mending does not change those.
  | ok found =>
    cases found with
    | none => rfl
    | some id =>
      simp only [bind, Except.bind, pure, Except.pure]
      cases host.declaration id <;> rfl

end Host

/-- The scope with a host without the malformed strategies. -/
def Scope.mendedBut (scope : Scope) (kept : String) : Scope :=
  ⟨scope.host.mendedBut kept, scope.settings⟩

theorem Lookup.resolveEnricher_mendedBut (scope : Scope) (kept : String) :
    resolveEnricher (scope.mendedBut kept) = resolveEnricher scope := by
  funext className
  rw [resolveEnricher, resolveEnricher, Scope.mendedBut, Host.findData_mendedBut]
  cases scope.host.findData className with
  | error e => rfl
  | ok entry =>
    cases entry with
    | none => rfl
    | some entry =>
      obtain ⟨_, decl⟩ := entry
      simp only [Except.map, Option.map_some, Enricher.ofDeclaration_mendedBut]

end PrototypeLens
