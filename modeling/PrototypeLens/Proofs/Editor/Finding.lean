import PrototypeLens.Proofs.Descriptor.Naming
import PrototypeLens.Proofs.Editor.Symmetry

/-!
# Whether usages of a generated type find it

The search for usages of a generated declaration starts over from its name: it goes through the
declaration that the conventions lead to from there, and through the prototype that the markers on
that one name. So it goes through the declaration itself and its prototype as long as the
conventions keep the name and the declaration carries the marker itself; a type that is generated
because it stands in a generated one is not found.

## Layers

- `Request.exec_generatedNameOf`, `Request.exec_isGeneratedDecl_of_belongsTo` and
  `Request.exec_prototypeClass`: what each request answers in a session that is in balance, and that
  it leaves the session so.
- `Inspection.exec_declarationTargets` puts them together: the targets of the search for a
  declaration that belongs to a prototype.
- `Host.Orderly.finds_both_iff`: when two searches from one name end at both.

## Main results

- When exactly a generated declaration and its prototype are among the targets, in terms of its
  generated name and of the markers.
- The interface within a generated interface is generated, too, and its search goes through nothing.
-/

namespace PrototypeLens

/-- The markers on a declaration name the prototype that another one declares. -/
def Host.PointsTo (host : Host) (markers : List String) (id prototype : DeclId) : Prop :=
  ∃ name, host.Generated markers id name ∧ host.find name = .ok (some prototype)

theorem Host.PointsTo.unique {host : Host} {markers : List String}
    {id prototype prototype' : DeclId} (h : host.PointsTo markers id prototype)
    (h' : host.PointsTo markers id prototype') : prototype = prototype' := by
  obtain ⟨name, hname, hfind⟩ := h
  obtain ⟨name', hname', hfind'⟩ := h'
  cases hname.unique hname'
  cases hfind.symm.trans hfind'
  rfl

/-! ## What the search goes through -/

variable {settings : DiscoverySettings} {host : Host} {among : String → Prop}
  {stale : FileId → Prop} {id : DeclId} {decl : Declaration} {name : String}

section Search

variable (h : host.Orderly among) {r : Registry}
  (hr : r.Balanced host settings.generatedMarkers among stale)
include h hr

/-- The generated name of a declaration is told by the descriptor of its prototype, and it counts as
nested if another one stands around it. -/
theorem Request.exec_generatedNameOf (hdecl : host.declaration id = .ok decl)
    (hname : decl.qualifiedName = some name) : ∃ descriptor r',
    (prototypeData ⟨host, settings⟩ name).exec ⟨r, {}⟩ = (.ok descriptor, ⟨r', {}⟩) ∧
    (generatedNameOf ⟨host, settings⟩ name).exec ⟨r, {}⟩ =
      (.ok (generatedName descriptor name decl.parent.isSome), ⟨r', {}⟩) ∧
    r'.Balanced host settings.generatedMarkers among stale := by
  have htells : Lookup.Tells ⟨host, settings⟩ among stale {}
      (Lookup.prototype? ⟨host, settings⟩ name) fun _ => True :=
    Lookup.tells_prototype? h Guards.idle_empty name
  obtain ⟨_, r', hexec, hr', descriptor, rfl, _⟩ := htells r hr
  refine ⟨descriptor, r', exec_contain_ok hexec, ?_, hr'⟩
  have hfound : host.findData name = .ok (some (id, decl)) :=
    Host.findData_eq_some_iff.2 ⟨h.indexed hdecl hname, hdecl⟩
  have hentry : (contain none (Lookup.query (host.findData name))).exec ⟨r, {}⟩ =
      (.ok (some (id, decl)), ⟨r, {}⟩) := by
    rw [hfound]
    rfl
  rw [generatedNameOf, SessionM.exec_bind_ok hentry]
  exact exec_contain_ok (SessionM.exec_bind_ok hexec)

variable (hfresh : ∀ file, ¬ stale file)
include hfresh

/-- A declaration that belongs to a prototype is generated. -/
theorem Request.exec_isGeneratedDecl_of_belongsTo (hdecl : host.declaration id = .ok decl)
    {prototype : String} (hbelongs : host.BelongsTo settings.generatedMarkers id prototype) :
    ∃ r', (isGeneratedDecl ⟨host, settings⟩ id).exec ⟨r, {}⟩ = (.ok true, ⟨r', {}⟩) ∧
      r'.Balanced host settings.generatedMarkers among stale := by
  have htells : Lookup.Tells ⟨host, settings⟩ among stale {}
      (return (← Lookup.declOrigin? ⟨host, settings⟩ id).isSome) (· = true) := by
    -- A declaration is generated exactly if it belongs to something, which this one does.
    refine (Lookup.tells_declOrigin? h Guards.idle_empty hfresh hdecl).bind fun origin horigin => ?_
    exact Lookup.tells_pure (by rw [horigin.eq_some_iff.2 hbelongs]; rfl)
  obtain ⟨_, r', hexec, rfl, hr'⟩ := htells.exec_contain_balanced hr false
  exact ⟨r', hexec, hr'⟩

/-- The prototype of a name that finds a declaration is the one that its markers point to. -/
theorem Request.exec_prototypeClass (hfind : host.find name = .ok (some id)) :
    ∃ found r', (prototypeClass ⟨host, settings⟩ name).exec ⟨r, {}⟩ = (.ok found, ⟨r', {}⟩) ∧
      ∀ target, found = some target ↔ host.PointsTo settings.generatedMarkers id target := by
  obtain ⟨decl, hdecl, hname⟩ := h.found hfind
  have hgenerated (prototype : String) :
      host.Generated settings.generatedMarkers id prototype ↔
        (some decl).bind (Lookup.originOf? settings.generatedMarkers) = some prototype := by
    rw [Option.bind_some, Lookup.originOf?_eq_some_iff]
    -- The markers that count are those on the declaration itself, not on the ones around it.
    constructor
    · rintro ⟨decl', hdecl', _, hfrom⟩
      cases hdecl.symm.trans hdecl'
      exact hfrom
    · exact fun hfrom => ⟨decl, hdecl, by simp [hname], hfrom⟩
  have htells : Lookup.Tells ⟨host, settings⟩ among stale {}
      (do Lookup.originDeclaration? ⟨host, settings⟩ (← Lookup.origin? ⟨host, settings⟩ name))
      fun found => ∀ target, found = some target ↔
        host.PointsTo settings.generatedMarkers id target := by
    refine (Lookup.tells_origin? h Guards.idle_empty hfresh (h.declares hdecl hname).finds).bind ?_
    rintro _ rfl
    refine (Lookup.tells_originDeclaration? h Guards.idle_empty _).mono ?_
    intro found hfound target
    simp only [hfound, Host.PointsTo, hgenerated]
  obtain ⟨found, r', hexec, hfound, _⟩ := htells.exec_contain_balanced hr none
  exact ⟨found, r', hexec, hfound⟩

/-- The search for a declaration that belongs to a prototype goes through what its generated name
finds, and the prototype that the markers on this point to. -/
theorem Inspection.exec_declarationTargets (hdecl : host.declaration id = .ok decl)
    (hname : decl.qualifiedName = some name) {prototype : String}
    (hbelongs : host.BelongsTo settings.generatedMarkers id prototype) :
    ∃ descriptor s targets s',
      (Request.prototypeData ⟨host, settings⟩ name).exec ⟨r, {}⟩ = (.ok descriptor, s) ∧
      (declarationTargets ⟨host, settings⟩ id).exec ⟨r, {}⟩ = (.ok targets, s') ∧
      ∀ target, .declaration target ∈ targets ↔ ∃ found,
        host.find (generatedName descriptor name decl.parent.isSome) = .ok (some found) ∧
          (target = found ∨ host.PointsTo settings.generatedMarkers found target) := by
  obtain ⟨descriptor, r₁, hdescriptor, hgenerated, hr₁⟩ :=
    Request.exec_generatedNameOf h hr hdecl hname
  obtain ⟨found, hfind⟩ := h.find_ok (generatedName descriptor name decl.parent.isSome)
  rw [declarationTargets, SessionM.exec_bind_ok (exec_query_ok hdecl), hname]
  simp only
  rw [SessionM.exec_bind_ok (exec_ask_ok hgenerated),
    SessionM.exec_bind_ok (exec_ask_ok (exec_findDeclaration hfind))]
  cases found with
  | none => exact ⟨descriptor, _, [], _, hdescriptor, rfl, by simp [hfind]⟩
  | some found =>
    -- Each request starts in the session that the one before has left, which is in balance still.
    obtain ⟨r₂, hbelonging, hr₂⟩ :=
      Request.exec_isGeneratedDecl_of_belongsTo h hr₁ hfresh hdecl hbelongs
    obtain ⟨origin, r₃, horigin, hpoints⟩ := Request.exec_prototypeClass h hr₂ hfresh hfind
    simp only
    rw [SessionM.exec_bind_ok (exec_ask_ok hbelonging)]
    simp only [if_true]
    rw [SessionM.exec_bind_ok (exec_ask_ok horigin)]
    refine ⟨descriptor, _, _, _, hdescriptor, rfl, fun target => ?_⟩
    simp only [List.mem_map, List.mem_append, Option.mem_toList, hpoints, hfind]
    grind

end Search

/-! ## Finding itself -/

/-- Where two searches from one name end at a declaration and at its target, the name is that of the
declaration, or it is that of another one whose markers point to it. -/
theorem Host.Orderly.finds_both_iff (h : host.Orderly among)
    (hdecl : host.declaration id = .ok decl) (hname : decl.qualifiedName = some name)
    {markers : List String} {generated : String} {target : DeclId} :
    (∃ found, host.find generated = .ok (some found) ∧
          (target = found ∨ host.PointsTo markers found target)) ∧
        (∃ found, host.find generated = .ok (some found) ∧
          (id = found ∨ host.PointsTo markers found id)) ↔
      generated = name ∧ (target = id ∨ host.PointsTo markers id target) ∨
        ∃ other, host.find generated = .ok (some other) ∧
          host.PointsTo markers other id ∧ (target = id ∨ target = other) := by
  constructor
  · rintro ⟨⟨found, hfind, htarget⟩, found', hfind', hself⟩
    cases hfind.symm.trans hfind'
    rcases hself with rfl | hself
    · -- The name leads back to the declaration, so that it is its own.
      obtain ⟨decl', hdecl', hname'⟩ := h.found hfind
      cases hdecl.symm.trans hdecl'
      exact .inl ⟨Option.some.inj (hname'.symm.trans hname), htarget⟩
    · -- Another declaration bears the name, and its markers point back to this one.
      refine .inr ⟨found, hfind, hself, ?_⟩
      rcases htarget with htarget | htarget
      · exact .inr htarget
      · exact .inl (htarget.unique hself)
  · rintro (⟨hown, htarget⟩ | ⟨other, hfind, hself, htarget⟩)
    · -- With its own name the search comes back to the declaration first.
      have hfind := h.indexed hdecl hname
      rw [← hown] at hfind
      exact ⟨⟨id, hfind, htarget⟩, id, hfind, .inl rfl⟩
    · refine ⟨⟨other, hfind, ?_⟩, other, hfind, .inr hself⟩
      rcases htarget with rfl | rfl
      · exact .inr hself
      · exact .inl rfl

/-- The search for usages of a generated declaration, which answers that its prototype is declared,
goes through the prototype and the declaration itself exactly if the generated name of the
declaration is its own and the marker on it points to the prototype, or if that name finds another
declaration whose marker points to this one and which is the prototype. For what is not a prototype
itself the generated name is its own if the conventions have nothing to change about it. -/
theorem Editor.primaryElements_generated_iff {editor : Editor}
    (hs : History settings (Host.Orderly among) host ⟨editor.registry, {}⟩ stale)
    (hfresh : ∀ file, ¬ stale file) (hused : editor.UsesGenerator host)
    (hdecl : host.declaration id = .ok decl) (hname : decl.qualifiedName = some name)
    {target : DeclId}
    (hprototype : ((Request.prototypeClassOf ⟨host, settings⟩ id).exec ⟨editor.registry, {}⟩).1 =
      .ok (some target)) :
    ∃ descriptor s targets editor',
      (Request.prototypeData ⟨host, settings⟩ name).exec ⟨editor.registry, {}⟩ =
        (.ok descriptor, s) ∧
      primaryElements ⟨host, settings⟩ (.declaration id) editor = (.ok targets, editor') ∧
      (.declaration target ∈ targets ∧ .declaration id ∈ targets ↔
        generatedName descriptor name decl.parent.isSome = name ∧
            (target = id ∨ host.PointsTo settings.generatedMarkers id target) ∨
          ∃ other, host.find (generatedName descriptor name decl.parent.isSome) =
              .ok (some other) ∧
            host.PointsTo settings.generatedMarkers other id ∧ (target = id ∨ target = other)) ∧
      (descriptor = none → (generatedName descriptor name decl.parent.isSome = name ↔
        FollowsConventions name decl.parent.isSome)) := by
  have h : host.Orderly among := hs.fit
  obtain ⟨_, hr⟩ := hs.balanced
  -- That its prototype is declared was the answer, and the answer is right.
  obtain ⟨prototype, hbelongs, _⟩ : ∃ prototype,
      host.BelongsTo settings.generatedMarkers id prototype ∧
        host.find prototype = .ok (some target) := by
    obtain ⟨found, s, hexec, hfound⟩ := ((Request.origins_current hs hfresh).2 id decl hdecl).2
    rw [hexec] at hprototype
    exact (hfound target).1 (Except.ok.inj hprototype)
  obtain ⟨descriptor, s, targets, s', hdescriptor, htargets, hmem⟩ :=
    Inspection.exec_declarationTargets h hr hfresh hdecl hname hbelongs
  have hsearch : (Inspection.targets ⟨host, settings⟩ (.declaration id)).exec
      ⟨editor.registry, {}⟩ = (.ok targets, s') := htargets
  obtain ⟨editor', hprimary⟩ := primaryElements_of_targets ⟨host, settings⟩ hused hsearch
  refine ⟨descriptor, s, targets, editor', hdescriptor, hprimary, ?_, ?_⟩
  · -- Both are among the targets: two searches from one name.
    rw [hmem, hmem]
    exact h.finds_both_iff hdecl hname
  · rintro rfl
    -- Without a descriptor only the conventions are left to tell the name.
    exact generatedName_eq_self_iff

/-! ### A generated interface and one in it -/

namespace Program

/-- The prototype and the interface that was generated from it, and in that one the interface of
its modifiers, next to the generator. -/
def generatedNested : Program :=
  (ofDeclarations [{ path := "src/a/FooPrototype.java" }, { path := "src/a/Foo.java" }]
    [gettersPrototype, gettersInterface,
      { name := "Modify", qualifiedName := some "a.Foo.Modify", file := ⟨1⟩, kind := .interfaceType
        parent := some ⟨1⟩ }]).withGenerator

theorem consistent_generatedNested : generatedNested.Consistent :=
  (Consistent.ofDeclarations (by decide) (by decide)).withGenerator

theorem orderly_generatedNested : generatedNested.toHost.Orderly fun _ => True :=
  consistent_generatedNested.orderly (consistent_generatedNested.wellFormed _ (by decide))
    (by decide)

end Program

namespace Editor

/-- Usages of the interface are searched through it and its prototype. -/
theorem primaryElements_generated_iff_generatedNested :
    let scope : Scope := ⟨Program.generatedNested.toHost, {}⟩
    History {} (Host.Orderly fun _ => True) scope.host ⟨{}, {}⟩ (fun _ => False) ∧
      UsesGenerator scope.host {} ∧
      scope.host.declaration ⟨1⟩ = .ok Program.gettersInterface ∧
      ((Request.prototypeClassOf scope ⟨1⟩).exec ⟨{}, {}⟩).1 = .ok (some ⟨0⟩) ∧
      ∃ targets editor', primaryElements scope (.declaration ⟨1⟩) {} = (.ok targets, editor') ∧
        .declaration ⟨0⟩ ∈ targets ∧ .declaration ⟨1⟩ ∈ targets := by
  intro scope
  have hs : History {} (Host.Orderly fun _ => True) scope.host ⟨{}, {}⟩ fun _ => False :=
    .start Program.orderly_generatedNested
  have hused : UsesGenerator scope.host {} := Program.usesGenerator_withGenerator _
  have hprototype : ((Request.prototypeClassOf scope ⟨1⟩).exec ⟨{}, {}⟩).1 = .ok (some ⟨0⟩) := rfl
  have hplain : ((Request.prototypeData scope "a.Foo").exec ⟨{}, {}⟩).1 = .ok none := rfl
  obtain ⟨descriptor, s, targets, editor', hdescriptor, hprimary, hfound, hown⟩ :=
    primaryElements_generated_iff hs (fun _ => id) hused rfl rfl hprototype
  rw [hdescriptor] at hplain
  -- The marker is on the interface itself, and names the prototype.
  have hpoints : scope.host.PointsTo ["javax.annotation.processing.Generated"] ⟨1⟩ ⟨0⟩ :=
    ⟨"a.FooPrototype", ⟨_, rfl, nofun, Lookup.originOf?_eq_some_iff.1 rfl⟩, rfl⟩
  have hkept : FollowsConventions "a.Foo" false := ⟨nofun, by decide, by decide⟩
  exact ⟨hs, hused, rfl, hprototype, targets, editor', hprimary,
    hfound.2 (.inl ⟨(hown (Except.ok.inj hplain)).2 hkept, .inr hpoints⟩)⟩

/-- The interface in it is generated as well, and belongs to the same prototype, but the search for
its usages goes through nothing. -/
theorem primaryElements_eq_nil_generatedNested :
    let scope : Scope := ⟨Program.generatedNested.toHost, {}⟩
    scope.host.Healthy ∧ UsesGenerator scope.host {} ∧
      ((Request.isGeneratedDecl scope ⟨2⟩).exec ⟨{}, {}⟩).1 = .ok true ∧
      ((Request.prototypeClassOf scope ⟨2⟩).exec ⟨{}, {}⟩).1 = .ok (some ⟨0⟩) ∧
      (primaryElements scope (.declaration ⟨2⟩) {}).1 = .ok [] :=
  ⟨Program.consistent_generatedNested.healthy, Program.usesGenerator_withGenerator _, rfl, rfl, rfl⟩

end Editor

end PrototypeLens
