import PrototypeLens.Proofs.Registry.Evolution
import PrototypeLens.Proofs.Registry.Support

/-!
# Why an origin may be believed

The registry keeps the origin of a name with the file that it was read from. It is the origin of the
current declaration, or the name is suspect: a refresh is going to forget it. Lookups, edits and
refreshes keep it so.

## Layers

- `Attributed` is the invariant. `Attributed.extend` keeps it in a registry that grows by origins of
  current declarations, and `Attributed.of_spares` in one that grows by none.
- `knownOrigin?_forgetAll`: what is known after names were forgotten was known before.

## Main results

- `Attributed.publishGenerated` and `Attributed.publishNonGenerated`: both publications keep it.
- `Attributed.refresh` and `Attributed.edit`: a refresh makes one file no longer stale, an edit
  makes the edited files stale.
- `Attributed.current`: without stale files a known origin is that of the current declaration.
-/

namespace PrototypeLens

namespace Registry

variable {host host' : Host} {markers : List String} {stale : FileId → Prop} {r r' : Registry}
  {name : String} {decl : Declaration}

/-- Every origin that is known is that of the current declaration, or its name is suspect. -/
def Attributed (host : Host) (markers : List String) (stale : FileId → Prop) (r : Registry) :
    Prop :=
  ∀ name origin, Lookup.knownOrigin? r name = some origin →
    r.Suspect host stale name ∨
      ∃ decl, r.Current host name decl ∧ Lookup.originOf? markers decl = origin

theorem attributed_fresh : Attributed host markers stale {} := nofun

/-! ## Lookups -/

/-- A registry that grows, and by no other origins than those of current declarations. -/
theorem Attributed.extend (h : r.Attributed host markers stale) (hext : r.Extends host r')
    (horigins : ∀ name origin, Lookup.knownOrigin? r' name = some origin →
      Lookup.knownOrigin? r name = some origin ∨
        ∃ decl, r'.Current host name decl ∧ Lookup.originOf? markers decl = origin) :
    r'.Attributed host markers stale := by
  intro name origin hknown
  rcases horigins name origin hknown with hkept | hnew
  · rcases h name origin hkept with hsuspect | ⟨decl, hcurrent, horigin⟩
    · exact .inl (hsuspect.extend hext)
    · exact .inr ⟨decl, hcurrent.extend hext, horigin⟩
  · exact .inr hnew

theorem Spares.knownOrigin? (h : r.Spares r') {origin : Option String}
    (hknown : Lookup.knownOrigin? r' name = some origin) :
    Lookup.knownOrigin? r name = some origin := by
  -- An epoch that drops the answers about origins leaves none that could be known.
  cases h with
  | kept _ _ hgenerated hnon => rwa [Lookup.knownOrigin?, hgenerated, hnon] at hknown
  | dropped _ _ hgenerated hnon =>
    rw [Lookup.knownOrigin?, hgenerated, hnon] at hknown
    cases hknown

theorem Attributed.of_spares (h : r.Attributed host markers stale) (hext : r.Extends host r')
    (hspares : r.Spares r') : r'.Attributed host markers stale :=
  h.extend hext fun _ _ hknown => .inl (hspares.knownOrigin? hknown)

theorem Attributed.publishGenerated (h : r.Attributed host markers stale) (epoch : Nat)
    (hdecl : host.Declares name decl) {prototype : String}
    (horigin : Lookup.originOf? markers decl = some prototype) :
    (r.publishGenerated epoch name decl.file prototype).Attributed host markers stale := by
  refine h.extend (r.extends_publishGenerated epoch prototype hdecl) fun other origin hknown => ?_
  rcases knownOrigin?_publishGenerated hknown with hkept | ⟨rfl, rfl, howner⟩
  · exact .inl hkept
  · exact .inr ⟨decl, ⟨hdecl, howner⟩, horigin⟩

theorem Attributed.publishNonGenerated (h : r.Attributed host markers stale) (epoch : Nat)
    (hdecl : host.Declares name decl) (horigin : Lookup.originOf? markers decl = none) :
    (r.publishNonGenerated epoch name decl.file).Attributed host markers stale := by
  refine h.extend (r.extends_publishNonGenerated epoch hdecl) fun other origin hknown => ?_
  rcases knownOrigin?_publishNonGenerated hknown with hkept | ⟨rfl, rfl, howner⟩
  · exact .inl hkept
  · exact .inr ⟨decl, ⟨hdecl, howner⟩, horigin⟩

/-! ## Refreshes -/

theorem knownOrigin?_forget (r : Registry) (name other : String) :
    Lookup.knownOrigin? (r.forget name) other =
      if other = name then none else Lookup.knownOrigin? r other := by
  by_cases hother : other = name
  · simp [Lookup.knownOrigin?, forget, Table.get?_erase, NameSet.mem_remove, hother]
  · simp [Lookup.knownOrigin?, forget, Table.get?_erase, NameSet.mem_remove, hother]

theorem knownOrigin?_foldl_forget (names : List String) (name : String) :
    Lookup.knownOrigin? (names.foldl forget r) name =
      if name ∈ names then none else Lookup.knownOrigin? r name := by
  induction names generalizing r with
  | nil => rfl
  | cons other names ih =>
    rw [List.foldl_cons, ih, knownOrigin?_forget]
    by_cases hname : name = other <;> simp [hname]

/-- What is known after some names were forgotten was known before, about other names. -/
theorem knownOrigin?_forgetAll {names : List String} {origin : Option String}
    (h : Lookup.knownOrigin? (r.forgetAll names) name = some origin) :
    name ∉ names ∧ Lookup.knownOrigin? r name = some origin := by
  rw [forgetAll] at h
  split at h
  · cases h
  · rw [knownOrigin?_foldl_forget] at h
    split at h
    · cases h
    · exact ⟨‹_›, h⟩

/-- A declaration loses its origin only together with its prototype. -/
theorem stranded_of_forgetAll {names : List String} (h : (r.forgetAll names).Stranded name) :
    r.Stranded name := by
  obtain ⟨hclass, horigin⟩ := h
  obtain ⟨prototype, hclass⟩ := Option.ne_none_iff_exists'.1 hclass
  obtain ⟨hname, hkept⟩ := (r.forgets_forgetAll names).classes hclass
  refine ⟨by simp [hkept], ?_⟩
  -- The prototype that is left shows that nothing else was dropped with a known template.
  rw [forgetAll, if_neg, knownOrigin?_foldl_forget, if_neg hname] at horigin
  · exact horigin
  · simpa using not_known_of_forgetAll_classes hclass

theorem Attributed.refresh (h : r.Attributed host markers stale) (hhealthy : host.Healthy)
    (file : FileId) :
    (r.refresh host file).2.Attributed host markers fun f => stale f ∧ f ≠ file := by
  obtain ⟨names, hrefresh, hcovers⟩ := hhealthy.refresh r file
  have hforgets := r.forgets_forgetAll names
  rw [hrefresh]
  intro name origin hknown
  obtain ⟨hname, hknown⟩ := knownOrigin?_forgetAll hknown
  rcases h name origin hknown with hsuspect | ⟨decl, hcurrent, horigin⟩
  · exact .inl (hsuspect.forget hforgets hcovers hname)
  · -- The name was not forgotten, so that its owner and its declaration are not in the file.
    exact .inr ⟨decl, hcurrent.forget hforgets hname, horigin⟩

theorem stranded_of_refresh (hhealthy : host.Healthy) {file : FileId}
    (h : (r.refresh host file).2.Stranded name) : r.Stranded name := by
  obtain ⟨names, hrefresh, _⟩ := hhealthy.refresh r file
  rw [hrefresh] at h
  exact stranded_of_forgetAll h

/-! ## Edits -/

theorem Attributed.edit (h : r.Attributed host markers stale) (hhealthy : host.Healthy)
    (hhealthy' : host'.Healthy) :
    r.Attributed host' markers fun f => stale f ∨ ¬ host.SameIn host' f := by
  intro name origin hknown
  rcases h name origin hknown with hsuspect | ⟨decl, hcurrent, horigin⟩
  · exact .inl (hsuspect.edit hhealthy hhealthy')
  · exact (hcurrent.edit hhealthy hhealthy').symm.imp_right fun hcurrent =>
      ⟨decl, hcurrent, horigin⟩

/-! ## Without stale files -/

/-- A known origin is that of the current declaration. -/
theorem Attributed.current (h : r.Attributed host markers stale) (hfresh : ∀ file, ¬ stale file)
    {origin : Option String} (hknown : Lookup.knownOrigin? r name = some origin) :
    ∃ decl, host.Declares name decl ∧ Lookup.originOf? markers decl = origin := by
  rcases h name origin hknown with ⟨⟨file, _, hstale⟩, _⟩ | ⟨decl, hcurrent, horigin⟩
  · -- Without stale files no name is suspect.
    exact absurd hstale (hfresh file)
  · exact ⟨decl, hcurrent.1, horigin⟩

end Registry

end PrototypeLens
