import PrototypeLens.Proofs.Session.History

/-!
# Answers about origins

Once every file has been refreshed after its last edit, what is answered about generated
declarations is read off the declarations that stand now.

## Layers

- `Lookup.Tells`: a lookup that succeeds on every balanced registry, with a result of a given
  property, and leaves it balanced. `Tells.bind` composes, `Tells.exec_contain` goes to the request.
- `tells_registerClass`, `tells_prototype?` and `tells_origin?`: what is asked about a name.
- `tells_declOriginWithin`: what a declaration belongs to, from the outermost declaration inwards.
- `tells_originDeclaration?`: the declaration of a prototype.

## Main results

- The origin of a name is what the markers on its current declaration tell; a declaration is
  generated if it or one around it is; and its prototype is that of the outermost of them.
- A class that was generated is edited by hand, and the class within it tells its own origin.
-/

namespace PrototypeLens

open Relation (ReflTransGen TransGen)

/-! ## Lookups that succeed -/

/-- Whatever a balanced registry holds, the lookup succeeds with a result of the given property and
leaves the registry balanced. -/
def Lookup.Tells {α : Type} (scope : Scope) (among : String → Prop) (stale : FileId → Prop)
    (g : Guards) (lookup : Lookup α) (post : α → Prop) : Prop :=
  ∀ r : Registry, r.Balanced scope.host scope.settings.generatedMarkers among stale →
    lookup.Yields r g fun out r' =>
      r'.Balanced scope.host scope.settings.generatedMarkers among stale ∧
        ∃ a, out = .ok a ∧ post a

namespace Lookup

variable {α β : Type} {scope : Scope} {among : String → Prop} {stale : FileId → Prop} {g : Guards}
  {lookup : Lookup α} {post : α → Prop}

theorem tells_pure {a : α} (ha : post a) : Tells scope among stale g (pure a) post := fun _ hr =>
  SessionM.yields_pure ⟨hr, a, rfl, ha⟩

theorem tells_query {result : Except QueryError α} {a : α} (hok : result = .ok a) (ha : post a) :
    Tells scope among stale g (query result) post := by
  subst hok
  exact tells_pure ha

theorem Tells.bind {f : α → Lookup β} {post' : β → Prop} (h : Tells scope among stale g lookup post)
    (hf : ∀ a, post a → Tells scope among stale g (f a) post') :
    Tells scope among stale g (lookup >>= f) post' := by
  intro r hr
  refine (h r hr).bind ?_ ?_
  · -- The first result is the one that the second lookup is given.
    rintro a r' ⟨hr', a', hok, ha⟩
    cases hok
    exact hf a ha r' hr'
  · rintro e r' ⟨_, a, hok, _⟩
    cases hok

theorem Tells.mono {post' : α → Prop} (h : Tells scope among stale g lookup post)
    (himp : ∀ a, post a → post' a) : Tells scope among stale g lookup post' := fun r hr =>
  (h r hr).mono fun _ _ ⟨hr', a, hok, ha⟩ => ⟨hr', a, hok, himp a ha⟩

/-- Contained failures are not met, and the registry stays balanced. -/
theorem Tells.exec_contain_balanced {r : Registry} (h : Tells scope among stale g lookup post)
    (hr : r.Balanced scope.host scope.settings.generatedMarkers among stale) (nothing : α) :
    ∃ a r', (Request.contain nothing lookup).exec ⟨r, g⟩ = (.ok a, ⟨r', g⟩) ∧ post a ∧
      r'.Balanced scope.host scope.settings.generatedMarkers among stale := by
  obtain ⟨out, r', hexec, hr', a, rfl, ha⟩ := h r hr
  exact ⟨a, r', Request.exec_contain_ok hexec, ha, hr'⟩

theorem Tells.exec_contain {s : Session} (h : Tells scope among stale s.guards lookup post)
    (hr : s.registry.Balanced scope.host scope.settings.generatedMarkers among stale)
    (nothing : α) : ∃ a s', (Request.contain nothing lookup).exec s = (.ok a, s') ∧ post a := by
  obtain ⟨a, r', hexec, ha, _⟩ := h.exec_contain_balanced hr nothing
  exact ⟨a, _, hexec, ha⟩

/-! ## Origins of names -/

section Origins

variable (h : scope.host.Orderly among) (hidle : g.Idle)
include h hidle

theorem balanced_of_kept {r r' : Registry}
    (hr : r.Balanced scope.host scope.settings.generatedMarkers among stale)
    (hkept : (accountedConduct scope stale h).Kept g.registering r r') :
    r'.Balanced scope.host scope.settings.generatedMarkers among stale := by
  -- Nothing is being registered, so that no declaration may be stranded for the time being.
  refine ⟨hkept.inv, fun name hs => hr.sealed name ?_⟩
  refine (hkept.seals id).stranded ?_ hs
  simp [hidle.registering]

theorem tells_registerClass {id : DeclId} {decl : Declaration}
    (hdecl : scope.host.declaration id = .ok decl) :
    Tells scope among stale g (registerClass scope id) fun _ => True := by
  intro r hr
  have hid : (accountedConduct scope stale h).Resolvable id := by
    intro e herror
    cases herror.symm.trans hdecl
  refine (Conduct.yields_registerClass hidle.toCalm hid hr.toAccounted).mono fun out r' hdone => ?_
  refine ⟨balanced_of_kept h hidle hr hdone.toKept, ?_⟩
  cases out with
  | ok prototype => exact ⟨prototype, rfl, trivial⟩
  | error e => exact (hdone.failed rfl).elim

theorem tells_prototype? (name : String) :
    Tells scope among stale g (prototype? scope name) fun _ => True := by
  intro r hr
  refine (Conduct.yields_prototype? hidle.toCalm name
    (C := accountedConduct scope stale h) hr.toAccounted).mono fun out r' hdone => ?_
  refine ⟨balanced_of_kept h hidle hr hdone.toKept, ?_⟩
  cases out with
  | ok prototype => exact ⟨prototype, rfl, trivial⟩
  | error e => exact (hdone.failed rfl).elim

variable (hfresh : ∀ file, ¬ stale file)
include hfresh

/-- The origin of a name is that of its declaration. -/
theorem tells_origin? {name : String} {found : Option Declaration}
    (hfound : scope.host.Finds name found) : Tells scope among stale g (origin? scope name)
      (· = found.bind (originOf? scope.settings.generatedMarkers)) := by
  intro r hr
  refine (Conduct.yields_origin? hidle.toCalm name
    (C := accountedConduct scope stale h) hr.toAccounted).mono ?_
  rintro out r' ⟨hdone, htold⟩
  refine ⟨balanced_of_kept h hidle hr hdone.toKept, ?_⟩
  -- What was told is the origin that is known, or the one that the declaration was read for.
  cases out with
  | error e => exact (hdone.failed rfl).elim
  | ok origin =>
    exact ⟨origin, rfl, (htold origin rfl).eq_of_finds (hr.sealed name)
      (fun hknown => hr.attributed.current hfresh hknown) hfound⟩

/-! ## Origins of declarations -/

/-- Without anything generated around it, the name of a declaration decides. -/
theorem tells_own {id : DeclId} {decl : Declaration} (hdecl : scope.host.declaration id = .ok decl)
    (houter : ∀ outer, decl.parent = some outer →
      scope.host.Belonging scope.settings.generatedMarkers outer none) :
    Tells scope among stale g (match (none : Option String), decl.qualifiedName with
      | some origin, _ => pure (some origin)
      | none, some name => origin? scope name
      | none, none => pure none) (scope.host.Belonging scope.settings.generatedMarkers id) := by
  have hbelongs := Host.belonging_own hdecl houter
  cases hname : decl.qualifiedName with
  | none =>
    rw [hname] at hbelongs
    exact tells_pure hbelongs
  | some name =>
    rw [hname] at hbelongs
    refine (tells_origin? h hidle hfresh (h.declares hdecl hname).finds).mono ?_
    rintro _ rfl
    exact hbelongs

/-- What a declaration belongs to is told from the outermost declaration inwards, as long as the
limit exceeds the number of declarations that are not within it. -/
theorem tells_declOriginWithin (limit : Nat) :
    ∀ (inner : List DeclId) {id : DeclId} {decl : Declaration},
      Outlasts limit inner scope.host.ids → (∀ i ∈ inner, TransGen scope.host.EnclosedBy i id) →
      scope.host.declaration id = .ok decl →
      Tells scope among stale g (declOriginWithin scope limit id)
        (scope.host.Belonging scope.settings.generatedMarkers id) := by
  -- No declaration stands within itself, so that those on the way out are different.
  induction limit with
  | zero => exact fun _ _ _ hlimit => absurd hlimit Outlasts.not_zero
  | succ limit ih =>
    intro inner id decl hlimit hinner hdecl
    unfold declOriginWithin
    have hquery : Tells scope among stale g (query (scope.host.declaration id)) (decl = ·) :=
      tells_query hdecl rfl
    refine hquery.bind ?_
    rintro _ rfl
    cases hparent : decl.parent with
    | none =>
      have hnothing : Tells scope among stale g (pure none) fun outer : Option String =>
          outer = none := tells_pure rfl
      refine hnothing.bind ?_
      rintro _ rfl
      exact tells_own h hidle hfresh hdecl fun outer houter => by cases hparent.symm.trans houter
    | some parent =>
      have henclosed : scope.host.EnclosedBy id parent := ⟨decl, hdecl, hparent⟩
      obtain ⟨outer, houter⟩ := h.enclosing henclosed
      have hnew : id ∉ inner := fun hmem => h.acyclic id (hinner id hmem)
      have hrecur : Tells scope among stale g (declOriginWithin scope limit parent)
          (scope.host.Belonging scope.settings.generatedMarkers parent) := by
        refine ih (id :: inner) (hlimit.cons (scope.host.mem_ids hdecl) hnew) ?_ houter
        rintro i (_ | ⟨_, hi⟩)
        · exact .single henclosed
        · exact (hinner i hi).tail henclosed
      refine hrecur.bind fun origin horigin => ?_
      -- An origin further out is told for everything within; otherwise the own name decides.
      cases origin with
      | some prototype => exact tells_pure (horigin.inner henclosed)
      | none =>
        refine tells_own h hidle hfresh hdecl fun outer houter => ?_
        cases hparent.symm.trans houter
        exact horigin

theorem tells_declOrigin? {id : DeclId} {decl : Declaration}
    (hdecl : scope.host.declaration id = .ok decl) :
    Tells scope among stale g (declOrigin? scope id)
      (scope.host.Belonging scope.settings.generatedMarkers id) :=
  tells_declOriginWithin h hidle hfresh _ [] (.start rfl (by omega)) (by simp) hdecl

omit hfresh in
/-- The declaration of a prototype is registered and told. -/
theorem tells_originDeclaration? (origin : Option String) :
    Tells scope among stale g (originDeclaration? scope origin) fun found =>
      ∀ target, found = some target ↔
        ∃ prototype, origin = some prototype ∧ scope.host.find prototype = .ok (some target) := by
  cases origin with
  | none => exact tells_pure (by simp)
  | some prototype =>
    obtain ⟨found, hfind⟩ := h.find_ok prototype
    have hquery : Tells scope among stale g (query (scope.host.find prototype)) (found = ·) :=
      tells_query hfind rfl
    refine hquery.bind ?_
    rintro _ rfl
    cases found with
    | none => exact tells_pure (by simp [hfind])
    | some id =>
      obtain ⟨decl, hdecl, _⟩ := h.found hfind
      -- Whatever comes of registering it, the declaration is told.
      have hregister : Tells scope among stale g (discard (registerClass scope id))
          fun _ => True := fun r hr => by
        refine SessionM.Yields.discard ((tells_registerClass h hidle hdecl r hr).mono ?_)
        rintro _ r' ⟨hr', _, rfl, _⟩
        exact ⟨hr', (), rfl, trivial⟩
      exact hregister.bind fun _ _ => tells_pure (by simp [hfind, eq_comm])

end Origins

end Lookup

/-! ## Answers -/

namespace Request

variable {settings : DiscoverySettings} {among : String → Prop} {host : Host} {s : Session}
  {stale : FileId → Prop}

/-- Once every file has been refreshed after its last edit, the origin of a name is what the markers
on its current declaration tell, none for an undeclared name. A declaration is generated if it or
one around it has a name and an origin, and its prototype is that of the outermost of them. -/
theorem origins_current (hs : History settings (Host.Orderly among) host s stale)
    (hfresh : ∀ file, ¬ stale file) :
    (∀ name, ∃ origin s', (prototypeOf ⟨host, settings⟩ name).exec s = (.ok origin, s') ∧
      ∀ prototype, origin = some prototype ↔ ∃ decl, host.Declares name decl ∧
        decl.GeneratedFrom settings.generatedMarkers prototype) ∧
    ∀ id decl, host.declaration id = .ok decl →
      (∃ generated s', (isGeneratedDecl ⟨host, settings⟩ id).exec s = (.ok generated, s') ∧
        (generated = true ↔ ∃ outer, ReflTransGen host.EnclosedBy id outer ∧
          ∃ prototype, host.Generated settings.generatedMarkers outer prototype)) ∧
      ∃ found s', (prototypeClassOf ⟨host, settings⟩ id).exec s = (.ok found, s') ∧
        ∀ target, found = some target ↔ ∃ prototype,
          host.BelongsTo settings.generatedMarkers id prototype ∧
            host.find prototype = .ok (some target) := by
  have h : host.Orderly among := hs.fit
  obtain ⟨hidle, hr⟩ := hs.balanced
  refine ⟨fun name => ?_, fun id decl hdecl => ⟨?_, ?_⟩⟩
  · -- A declaration that is generated is the one that its name finds.
    obtain ⟨found, hfound⟩ := h.finds name
    have htells : Lookup.Tells ⟨host, settings⟩ among stale s.guards
        (Lookup.origin? ⟨host, settings⟩ name)
        (· = found.bind (Lookup.originOf? settings.generatedMarkers)) :=
      Lookup.tells_origin? h hidle hfresh hfound
    obtain ⟨_, s', hexec, rfl⟩ := htells.exec_contain hr none
    refine ⟨_, s', hexec, fun prototype => ?_⟩
    simp only [Option.bind_eq_some_iff, Lookup.originOf?_eq_some_iff]
    refine exists_congr fun decl => and_congr_left fun _ => ?_
    exact ⟨fun hd => Host.finds_some_iff.1 (hd ▸ hfound), fun hd => hfound.unique hd.finds⟩
  · -- It is generated if it belongs to anything.
    have htells : Lookup.Tells ⟨host, settings⟩ among stale s.guards
        (return (← Lookup.declOrigin? ⟨host, settings⟩ id).isSome) fun generated =>
          generated = true ↔ ∃ outer, ReflTransGen host.EnclosedBy id outer ∧
            ∃ prototype, host.Generated settings.generatedMarkers outer prototype :=
      (Lookup.tells_declOrigin? h hidle hfresh hdecl).bind fun _ horigin =>
        Lookup.tells_pure horigin.isSome_iff
    exact htells.exec_contain hr false
  · have htells : Lookup.Tells ⟨host, settings⟩ among stale s.guards
        (do Lookup.originDeclaration? ⟨host, settings⟩ (← Lookup.declOrigin? ⟨host, settings⟩ id))
        fun found => ∀ target, found = some target ↔ ∃ prototype,
          host.BelongsTo settings.generatedMarkers id prototype ∧
            host.find prototype = .ok (some target) := by
      refine (Lookup.tells_declOrigin? h hidle hfresh hdecl).bind fun origin horigin => ?_
      refine (Lookup.tells_originDeclaration? h hidle origin).mono fun found hfound target => ?_
      simp only [hfound target, horigin.eq_some_iff]
    exact htells.exec_contain hr none

end Request

/-! ### A generated class that is edited -/

namespace Program

/-- A program is orderly if it has no malformed strategies and every declaration stands in one that
was added before it. -/
theorem Consistent.orderly {p : Program} (h : p.Consistent)
    (hwf : p.toHost.WellFormed fun _ => True)
    (hcheck : ∀ entry ∈ p.declarations.entries, ∀ outer ∈ entry.2.parent,
      (p.declarations.get? outer).isSome ∧ outer.raw < entry.1.raw) :
    p.toHost.Orderly fun _ => True := by
  -- A chain of enclosing declarations ends, as it runs towards those that were added before.
  have hentry {id outer : DeclId} (henclosed : p.toHost.EnclosedBy id outer) :
      (p.declarations.get? outer).isSome ∧ outer.raw < id.raw := by
    obtain ⟨decl, hdecl, hparent⟩ := henclosed
    exact hcheck (id, decl) (Table.mem_entries_of_get? (h.declaration_eq_ok_iff.1 hdecl)) outer
      hparent
  have hpath {id outer : DeclId} (hpath : TransGen p.toHost.EnclosedBy id outer) :
      outer.raw < id.raw := by
    induction hpath with
    | single henclosed => exact (hentry henclosed).2
    | tail _ henclosed ih => exact Nat.lt_trans (hentry henclosed).2 ih
  -- Positions decrease outwards, so that no declaration stands within itself.
  refine { h.healthy with
    templates := ⟨fun _ => trivial, fun _ _ => trivial, fun _ _ => trivial⟩
    wellFormed := hwf
    enclosing := fun henclosed => ?_
    acyclic := fun id hcycle => Nat.lt_irrefl _ (hpath hcycle) }
  obtain ⟨decl, hdecl⟩ := Option.isSome_iff_exists.1 (hentry henclosed).1
  exact ⟨decl, h.declaration_eq_ok_iff.2 hdecl⟩

/-- A declaration that was generated from a prototype, by the default marker. -/
def generatedFrom (prototype : String) : AnnotationUse :=
  { name := "javax.annotation.processing.Generated"
    attrs := [⟨"value", .text prototype, none⟩] }

/-- A prototype, a class that was generated from it, and a class in that one which claims to be
generated from the other. -/
def nestedGenerated : Program :=
  .ofDeclarations [{ path := "src/a/P.java" }, { path := "out/a/G.java" }]
    [{ name := "P", qualifiedName := some "a.P", file := ⟨0⟩, kind := .interfaceType },
     { name := "G", qualifiedName := some "a.G", file := ⟨1⟩, kind := .classType
       annotations := [generatedFrom "a.P"] },
     { name := "B", qualifiedName := some "a.G.B", file := ⟨1⟩, kind := .classType
       parent := some ⟨1⟩, annotations := [generatedFrom "a.G"] }]

/-- The same with the outer class written by hand. -/
def nestedWritten : Program :=
  nestedGenerated.updateDeclaration ⟨1⟩
    { name := "G", qualifiedName := some "a.G", file := ⟨1⟩, kind := .classType }

theorem consistent_nestedGenerated : nestedGenerated.Consistent :=
  .ofDeclarations (by decide) (by decide)

theorem consistent_nestedWritten : nestedWritten.Consistent :=
  consistent_nestedGenerated.updateDeclaration_same rfl rfl (by decide)

theorem orderly_nestedGenerated : nestedGenerated.toHost.Orderly fun _ => True :=
  consistent_nestedGenerated.orderly (consistent_nestedGenerated.wellFormed _ (by decide))
    (by decide)

theorem orderly_nestedWritten : nestedWritten.toHost.Orderly fun _ => True :=
  consistent_nestedWritten.orderly (consistent_nestedWritten.wellFormed _ (by decide))
    (by decide)

end Program

/-- The session after the inner class was asked for, the outer one edited and its file
refreshed. -/
theorem Request.origins_current_nestedWritten :
    let host := Program.nestedWritten.toHost
    let markers := ["javax.annotation.processing.Generated"]
    ∃ s stale, History {} (Host.Orderly fun _ => True) host s stale ∧ (∀ file, ¬ stale file) ∧
      (∃ origin s', (prototypeOf ⟨host, {}⟩ "a.G").exec s = (.ok origin, s') ∧
        ∀ prototype, origin = some prototype ↔
          ∃ decl, host.Declares "a.G" decl ∧ decl.GeneratedFrom markers prototype) ∧
      ∃ found s', (prototypeClassOf ⟨host, {}⟩ ⟨2⟩).exec s = (.ok found, s') ∧
        ∀ target, found = some target ↔ ∃ prototype, host.BelongsTo markers ⟨2⟩ prototype ∧
          host.find prototype = .ok (some target) := by
  intro host markers
  have hstart : History {} (Host.Orderly fun _ => True) Program.nestedGenerated.toHost ⟨{}, {}⟩
      fun _ => False := .start Program.orderly_nestedGenerated
  have hasked := hstart.ask (.prototypeClassOf ⟨2⟩)
  have hedited := hasked.edit Program.orderly_nestedWritten
  have hs := hedited.refresh ⟨1⟩
  -- The edit changed one file, which was refreshed.
  have hfresh : ∀ file, ¬ ((False ∨ ¬ Program.nestedGenerated.toHost.SameIn host file) ∧
      file ≠ ⟨1⟩) := by
    rintro file ⟨hnever | hchanged, hfile⟩
    · exact hnever
    · apply hchanged
      apply Program.consistent_nestedGenerated.sameIn_updateDeclaration
        Program.consistent_nestedWritten (Ne.symm hfile)
      intro old hold
      cases hold
      exact Ne.symm hfile
  obtain ⟨horigins, hdecls⟩ := origins_current hs hfresh
  exact ⟨_, _, hs, hfresh, horigins "a.G", (hdecls ⟨2⟩ _ rfl).2⟩

end PrototypeLens
