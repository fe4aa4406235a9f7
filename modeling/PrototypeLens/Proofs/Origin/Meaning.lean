import Mathlib.Logic.Relation
import PrototypeLens.Lookup.Class

/-!
# What origins mean

The meaning of generated declarations, read off the declarations of a host alone: which prototype a
declaration was generated from by its markers, and which one it belongs to together with the
declarations around it. Nothing here mentions a registry.

## Layers

- `Declaration.MarkedWith` and `Declaration.GeneratedFrom`: what the markers on a declaration say.
- `Host.EnclosedBy` and `Host.Generated`: the declarations of a host, from the inside outwards.
- `Host.BelongsTo` and `Host.Belonging`: the outermost generated one decides.

## Main results

- `Lookup.originOf?_eq_some_iff`: the origin that is computed is the one that the markers name.
- `Host.BelongsTo.unique`: a declaration belongs to one prototype at most.
- `Host.BelongsTo.inner` and `Host.belonging_own`: how the answer for a declaration is found from
  those around it.
-/

namespace PrototypeLens

open Relation (ReflTransGen TransGen)

/-! ## Markers -/

/-- The first text among the elements of the annotation's `value`. -/
def Use.Names (mark : AnnotationUse) (text : String) : Prop :=
  ∃ value, mark.attr? "value" = some value ∧ ∃ before after,
    value.elements = before ++ .text text :: after ∧ ∀ v ∈ before, ∀ t, v ≠ .text t

namespace Declaration

/-- The first annotation with the name of the marker names a prototype. -/
def MarkedWith (decl : Declaration) (marker prototype : String) : Prop :=
  ∃ before mark after, decl.annotations = before ++ mark :: after ∧
    (∀ m ∈ before, m.name ≠ marker) ∧ mark.name = marker ∧ mark.Names prototype

/-- The first marker, in the order of the markers, with which any prototype is named. -/
def GeneratedFrom (decl : Declaration) (markers : List String) (prototype : String) : Prop :=
  ∃ before marker after, markers = before ++ marker :: after ∧
    (∀ m ∈ before, ∀ p, ¬ decl.MarkedWith m p) ∧ decl.MarkedWith marker prototype

end Declaration

namespace Lookup

variable {decl : Declaration} {prototype : String}

theorem findSome?_text?_eq_some_iff {values : List AttrValue} :
    values.findSome? AttrValue.text? = some prototype ↔ ∃ before after,
      values = before ++ .text prototype :: after ∧ ∀ v ∈ before, ∀ t, v ≠ .text t := by
  have htext {v : AttrValue} {t : String} : v.text? = some t ↔ v = .text t := by
    cases v <;> simp [AttrValue.text?]
  have hnone {v : AttrValue} : v.text? = none ↔ ∀ t, v ≠ .text t := by
    cases v <;> simp [AttrValue.text?]
  rw [List.findSome?_eq_some_iff]
  -- The first text is found where only other values stand before it.
  constructor
  · rintro ⟨before, v, after, rfl, hv, hbefore⟩
    cases htext.1 hv
    exact ⟨before, after, rfl, fun w hw => hnone.1 (hbefore w hw)⟩
  · rintro ⟨before, after, rfl, hbefore⟩
    exact ⟨before, _, after, rfl, rfl, fun w hw => hnone.2 (hbefore w hw)⟩

theorem markerText?_eq_some_iff {marker : String} :
    markerText? decl marker = some prototype ↔ decl.MarkedWith marker prototype := by
  rw [markerText?, Option.bind_eq_some_iff]
  -- The marker is the first annotation of its name, whether or not it has a text.
  constructor
  · rintro ⟨value, hvalue, htext⟩
    obtain ⟨mark, hfind, hattr⟩ := Option.bind_eq_some_iff.1 hvalue
    obtain ⟨hname, before, after, hsplit, hbefore⟩ := List.find?_eq_some_iff_append.1 hfind
    refine ⟨before, mark, after, hsplit, fun m hm => by simpa using hbefore m hm,
      by simpa using hname, value, hattr, findSome?_text?_eq_some_iff.1 htext⟩
  · rintro ⟨before, mark, after, hsplit, hbefore, hname, value, hattr, htext⟩
    refine ⟨value, Option.bind_eq_some_iff.2 ⟨mark, ?_, hattr⟩, findSome?_text?_eq_some_iff.2 htext⟩
    rw [List.find?_eq_some_iff_append]
    exact ⟨by simpa using hname, before, after, hsplit, fun m hm => by simpa using hbefore m hm⟩

/-- The origin of a declaration is the prototype that it was generated from by its markers. -/
theorem originOf?_eq_some_iff {markers : List String} :
    originOf? markers decl = some prototype ↔ decl.GeneratedFrom markers prototype := by
  have hnone {marker : String} :
      markerText? decl marker = none ↔ ∀ p, ¬ decl.MarkedWith marker p := by
    simp only [Option.eq_none_iff_forall_ne_some, ne_eq, markerText?_eq_some_iff]
  rw [originOf?, List.findSome?_eq_some_iff]
  -- Markers that name nothing are passed over, so that the first one that names something decides.
  constructor
  · rintro ⟨before, marker, after, hsplit, hmarker, hbefore⟩
    exact ⟨before, marker, after, hsplit, fun m hm => hnone.1 (hbefore m hm),
      markerText?_eq_some_iff.1 hmarker⟩
  · rintro ⟨before, marker, after, hsplit, hbefore, hmarker⟩
    exact ⟨before, marker, after, hsplit, markerText?_eq_some_iff.2 hmarker,
      fun m hm => hnone.2 (hbefore m hm)⟩

end Lookup

theorem Declaration.GeneratedFrom.unique {decl : Declaration} {markers : List String}
    {prototype prototype' : String} (h : decl.GeneratedFrom markers prototype)
    (h' : decl.GeneratedFrom markers prototype') : prototype = prototype' := by
  -- Both are what the computation gives.
  rw [← Lookup.originOf?_eq_some_iff] at h h'
  exact Option.some.inj (h.symm.trans h')

/-! ## Enclosing declarations -/

namespace Host

variable {host : Host} {markers : List String} {id outer : DeclId} {prototype : String}

/-- A declaration stands directly in another. -/
def EnclosedBy (host : Host) (id outer : DeclId) : Prop :=
  ∃ decl, host.declaration id = .ok decl ∧ decl.parent = some outer

theorem EnclosedBy.rightUnique : Relator.RightUnique host.EnclosedBy := by
  rintro id outer outer' ⟨decl, hdecl, hparent⟩ ⟨decl', hdecl', hparent'⟩
  rw [hdecl] at hdecl'
  cases hdecl'
  exact Option.some.inj (hparent.symm.trans hparent')

/-- A declaration with a qualified name was generated from a prototype. -/
def Generated (host : Host) (markers : List String) (id : DeclId) (prototype : String) : Prop :=
  ∃ decl, host.declaration id = .ok decl ∧ decl.qualifiedName ≠ none ∧
    decl.GeneratedFrom markers prototype

theorem Generated.unique {prototype' : String} (h : host.Generated markers id prototype)
    (h' : host.Generated markers id prototype') : prototype = prototype' := by
  obtain ⟨decl, hdecl, _, horigin⟩ := h
  obtain ⟨decl', hdecl', _, horigin'⟩ := h'
  rw [hdecl] at hdecl'
  cases hdecl'
  exact horigin.unique horigin'

/-- The outermost generated declaration among a declaration and those around it was generated from
a prototype. -/
def BelongsTo (host : Host) (markers : List String) (id : DeclId) (prototype : String) : Prop :=
  ∃ outer, ReflTransGen host.EnclosedBy id outer ∧ host.Generated markers outer prototype ∧
    ∀ farther, TransGen host.EnclosedBy outer farther → ∀ p, ¬ host.Generated markers farther p

theorem BelongsTo.unique {prototype' : String} (h : host.BelongsTo markers id prototype)
    (h' : host.BelongsTo markers id prototype') : prototype = prototype' := by
  obtain ⟨outer, hpath, hgenerated, houtermost⟩ := h
  obtain ⟨outer', hpath', hgenerated', houtermost'⟩ := h'
  -- Both stand around one declaration, so one of them stands around the other.
  rcases ReflTransGen.total_of_right_unique EnclosedBy.rightUnique hpath hpath' with
    hbetween | hbetween
  · rcases Relation.reflTransGen_iff_eq_or_transGen.1 hbetween with rfl | hfarther
    · exact hgenerated.unique hgenerated'
    · exact absurd hgenerated' (houtermost _ hfarther _)
  · rcases Relation.reflTransGen_iff_eq_or_transGen.1 hbetween with rfl | hfarther
    · exact hgenerated.unique hgenerated'
    · exact absurd hgenerated (houtermost' _ hfarther _)

/-- What a declaration belongs to, together with those around it: `none` if none of them is
generated. -/
def Belonging (host : Host) (markers : List String) (id : DeclId) : Option String → Prop
  | some prototype => host.BelongsTo markers id prototype
  | none => ∀ outer, ReflTransGen host.EnclosedBy id outer → ∀ p, ¬ host.Generated markers outer p

theorem Belonging.isSome_iff {origin : Option String} (h : host.Belonging markers id origin) :
    origin.isSome = true ↔
      ∃ outer, ReflTransGen host.EnclosedBy id outer ∧ ∃ p, host.Generated markers outer p := by
  cases origin with
  | some p =>
    obtain ⟨outer, hpath, hgenerated, _⟩ := h
    exact iff_of_true rfl ⟨outer, hpath, p, hgenerated⟩
  | none =>
    refine iff_of_false nofun ?_
    rintro ⟨outer, hpath, p, hgenerated⟩
    exact h outer hpath p hgenerated

theorem Belonging.eq_some_iff {origin : Option String} (h : host.Belonging markers id origin) :
    origin = some prototype ↔ host.BelongsTo markers id prototype := by
  cases origin with
  | some p =>
    refine ⟨fun heq => Option.some.inj heq ▸ h, fun h' => ?_⟩
    rw [h.unique h']
  | none =>
    refine iff_of_false nofun ?_
    rintro ⟨outer, hpath, hgenerated, _⟩
    exact h outer hpath prototype hgenerated

/-- What stands around a declaration decides for it. -/
theorem BelongsTo.inner (hparent : host.EnclosedBy id outer)
    (h : host.BelongsTo markers outer prototype) : host.BelongsTo markers id prototype := by
  obtain ⟨outermost, hpath, h⟩ := h
  exact ⟨outermost, .head hparent hpath, h⟩

/-- If nothing around it is generated, its own markers decide. -/
theorem belonging_own {decl : Declaration} (hdecl : host.declaration id = .ok decl)
    (houter : ∀ outer, decl.parent = some outer → host.Belonging markers outer none) :
    host.Belonging markers id
      (decl.qualifiedName.bind fun _ => Lookup.originOf? markers decl) := by
  have hfarther : ∀ farther, TransGen host.EnclosedBy id farther →
      ∀ p, ¬ host.Generated markers farther p := by
    -- Everything farther out is around the declaration that stands directly around this one.
    intro farther hpath
    obtain ⟨outer, ⟨decl', hdecl', hparent⟩, hrest⟩ := TransGen.head'_iff.1 hpath
    rw [hdecl] at hdecl'
    cases hdecl'
    exact houter outer hparent farther hrest
  have hown (p : String) : host.Generated markers id p ↔
      (decl.qualifiedName.bind fun _ => Lookup.originOf? markers decl) = some p := by
    constructor
    · rintro ⟨decl', hdecl', hname, horigin⟩
      rw [hdecl] at hdecl'
      cases hdecl'
      obtain ⟨name, hname⟩ := Option.ne_none_iff_exists'.1 hname
      rw [hname]
      exact Lookup.originOf?_eq_some_iff.2 horigin
    · intro h
      obtain ⟨name, hname, horigin⟩ := Option.bind_eq_some_iff.1 h
      exact ⟨decl, hdecl, by simp [hname], Lookup.originOf?_eq_some_iff.1 horigin⟩
  -- It is the outermost one itself, or there is none.
  cases horigin : decl.qualifiedName.bind fun _ => Lookup.originOf? markers decl with
  | some p => exact ⟨id, .refl, (hown p).2 horigin, hfarther⟩
  | none =>
    intro outer hpath p hgenerated
    rcases Relation.reflTransGen_iff_eq_or_transGen.1 hpath with rfl | hpath
    · rw [hown, horigin] at hgenerated
      cases hgenerated
    · exact hfarther outer hpath p hgenerated

end Host

end PrototypeLens
