import PrototypeLens.Proofs.Program.Checks
import PrototypeLens.Proofs.Registry.Support
import PrototypeLens.Proofs.Session.Registration
import PrototypeLens.Proofs.Session.Requests

/-!
# Answers while the program changes

Sessions on one registry while declarations are edited and files are refreshed, in any order. Once
every file has been refreshed after its last edit, what is answered to be a template or a prototype
is one by the declarations that stand now.

## Layers

- `Lifetime`: the sessions on one registry, with the files that are stale. An edit makes those files
  stale whose declarations it changes, and a refresh takes one file off.
- `upheldUpkeep`: lookups keep every entry supported but by declarations in stale files.
- `Lifetime.upheld`: so does every step of a lifetime.

## Main results

- Once no file is stale, an annotation that is answered to be a template is derived from the roots
  or the marker, and a name that is answered to be a prototype carries such an annotation.
- An instance in which the marker on a template is replaced by a root.
-/

namespace PrototypeLens

/-! ## Lifetimes -/

/-- The session after a file was refreshed. -/
def Session.refresh (s : Session) (host : Host) (file : FileId) : Session :=
  { s with registry := (s.registry.refresh host file).2 }

/-- The sessions on one registry while the program is edited, with the host as it is at the end and
the files whose declarations were edited after they had last been refreshed. -/
inductive Lifetime (settings : DiscoverySettings) : Host → Session → (FileId → Prop) → Prop where
  /-- The first session starts with an empty registry. -/
  | start {host : Host} : host.Healthy → host.SourceOnly →
      Lifetime settings host ⟨{}, {}⟩ fun _ => False
  | ask {host : Host} {s : Session} {stale : FileId → Prop} (q : Question) :
      Lifetime settings host s stale →
      Lifetime settings host ((q.ask ⟨host, settings⟩).exec s).2 stale
  /-- Another session is opened. -/
  | reopen {host : Host} {s : Session} {stale : FileId → Prop} :
      Lifetime settings host s stale → Lifetime settings host ⟨s.registry, {}⟩ stale
  /-- Declarations are added, changed, moved or removed. -/
  | edit {host host' : Host} {s : Session} {stale : FileId → Prop} :
      Lifetime settings host s stale → host'.Healthy → host'.SourceOnly →
      Lifetime settings host' s fun file => stale file ∨ ¬ host.SameIn host' file
  /-- A file is refreshed. -/
  | refresh {host : Host} {s : Session} {stale : FileId → Prop} (file : FileId) :
      Lifetime settings host s stale →
      Lifetime settings host (s.refresh host file) fun other => stale other ∧ other ≠ file

/-- Lookups keep a registry upheld. -/
def upheldUpkeep (scope : Scope) (stale : FileId → Prop) : Upkeep scope where
  Inv := Registry.Upheld scope.host stale
  Passed _ := True
  Taken r name defaults := r.templates.get? name = some defaults
  Failed := True
  answer hr hans := by
    refine ⟨Registry.upheld_of_steps hans.steps hr, by simp, ?_, by simp⟩
    intro defaults hsome
    subst hsome
    exact hans.verdict.2.2 defaults rfl
  take _ _ _ _ := trivial
  -- A prototype that is published has the support of the template that gave it.
  publishClass epoch hr hdecl hresolves :=
    hr.publishClass epoch hdecl fun hsome => hresolves.exists_taken hsome
  publishGenerated epoch prototype hr hdecl :=
    hr.extend (Registry.extends_publishGenerated _ epoch prototype hdecl)
      (Registry.sameTemplates_publishGenerated ..) (Registry.publishGenerated_classes ..)
  publishNonGenerated epoch hr hdecl :=
    hr.extend (Registry.extends_publishNonGenerated _ epoch hdecl)
      (Registry.sameTemplates_publishNonGenerated ..) (Registry.publishNonGenerated_classes ..)
  publishValidator epoch descriptor hr hfind :=
    hr.extend (Registry.extends_publishValidator _ epoch descriptor hfind)
      (Registry.sameTemplates_publishValidator ..) (Registry.publishValidator_classes ..)
  recordDependent parent hr _ := hr.recordDependent parent _

namespace Lifetime

variable {settings : DiscoverySettings} {host : Host} {s : Session} {stale : FileId → Prop}

/-- The host is healthy at any time, its declarations lie in the sources. -/
theorem healthy (h : Lifetime settings host s stale) : host.Healthy ∧ host.SourceOnly := by
  induction h with
  | start hhealthy hsource => exact ⟨hhealthy, hsource⟩
  | ask _ _ ih => exact ih
  | reopen _ ih => exact ih
  | edit _ hhealthy hsource _ => exact ⟨hhealthy, hsource⟩
  | refresh _ _ ih => exact ih

/-- At any time the registry is upheld but for the files that are stale. -/
theorem upheld (h : Lifetime settings host s stale) :
    s.guards.Calm ∧ s.registry.Upheld host stale := by
  -- One case for each thing that can happen: a question adds support, an edit moves it to the files
  -- that were edited, and a refresh takes it off the file.
  induction h with
  | start _ _ => exact ⟨⟨rfl, rfl, rfl⟩, Registry.upheld_fresh⟩
  | @ask host s stale q h ih =>
    obtain ⟨hhealthy, hsource⟩ := h.healthy
    -- Everything that is asked for lies in the sources, which only a question for a template has to
    -- know.
    refine Upkeep.holds_ask (U := upheldUpkeep ⟨host, settings⟩ stale) hhealthy
      (hhealthy.sourced hsource) ih q ?_
    cases q with
    | templateData name => exact hsource.inSource name
    | _ => trivial
  | reopen _ ih => exact ⟨⟨rfl, rfl, rfl⟩, ih.2⟩
  | edit h hhealthy' _ ih => exact ⟨ih.1, ih.2.edit h.healthy.1 hhealthy'⟩
  | refresh file h ih => exact ⟨ih.1, ih.2.refresh h.healthy.1 file⟩

end Lifetime

/-! ## Positive answers -/

namespace Request

variable {settings : DiscoverySettings} {host : Host} {s s' : Session} {stale : FileId → Prop}
  {name : String}

/-- Once every file has been refreshed after its last edit, an annotation that is answered to be a
template is derived from the roots or the marker by the current declarations, and a name that is
answered to be a prototype has a current declaration that carries such a template. -/
theorem positives_declared (hs : Lifetime settings host s stale) (hfresh : ∀ file, ¬ stale file)
    (name : String) :
    (FindsTemplate ⟨host, settings⟩ s name → host.Rooted name) ∧
    (FindsPrototype ⟨host, settings⟩ s name →
      ∃ decl, host.Declares name decl ∧ ∃ use ∈ decl.annotations, host.Rooted use.name) := by
  obtain ⟨r, g⟩ := s
  obtain ⟨hhealthy, hsource⟩ := hs.healthy
  obtain ⟨hcalm, hr⟩ := hs.upheld
  have hsourced : host.Sourced := hhealthy.sourced hsource
  constructor
  · rintro ⟨defaults, s', hanswer⟩
    have hyields : (Lookup.template? ⟨host, settings⟩ name).Yields r g
        (Lookup.Answers ⟨host, settings⟩ name r) := Lookup.yields_template? hhealthy hsourced
      (hsource.inSource name) hcalm.discovering hcalm.defaulting
    obtain ⟨out, r', hexec, hans⟩ := hyields
    rw [exec_of_contain_some hanswer] at hexec
    cases hexec
    -- The defaults that were answered are kept afterwards, in a registry that is upheld.
    have hr' : r'.Upheld host stale := Registry.upheld_of_steps hans.steps hr
    have hkept : r'.templates.get? name = some defaults := hans.verdict.2.2 defaults rfl
    exact (hr'.supported hkept).rooted hfresh
  · rintro ⟨s', hanswer⟩
    obtain ⟨prototype, hdata⟩ := prototypeData_of_isPrototype hanswer
    have hproto : Lookup.Prototyped ⟨host, settings⟩ r name (some prototype) :=
      Lookup.prototyped_of_exec hhealthy hcalm (exec_of_contain_some hdata)
    -- It was kept before, or it is none, or the declaration carries a template that is kept now.
    rcases hproto.resolves (U := upheldUpkeep ⟨host, settings⟩ stale) hhealthy hsourced hr with
      hget | ⟨_, hnone⟩ | ⟨decl, r', hdecl, hr', hresolves⟩
    · exact (hr.backed hget).declared hfresh
    · cases hnone
    · obtain ⟨use, huse, defaults, hget⟩ := hresolves.exists_taken (by simp)
      exact ⟨decl, hdecl, use, huse, (hr'.supported hget).rooted hfresh⟩

end Request

/-! ### A template that is edited -/

namespace Program

/-- An annotation that carries the marker, and a declaration that carries the annotation. -/
def markedTemplate : Program :=
  .ofDeclarations [{ path := "src/a/N.java" }, { path := "src/a/D.java" }]
    [{ name := "N", qualifiedName := some "a.N", file := ⟨0⟩, kind := .annotationType
       annotations := [{ name := templateMarker }] },
     { name := "D", qualifiedName := some "a.D", file := ⟨1⟩, kind := .interfaceType
       annotations := [{ name := "a.N" }] }]

/-- The same with a root in place of the marker. -/
def rootedTemplate : Program :=
  markedTemplate.updateDeclaration ⟨0⟩
    { name := "N", qualifiedName := some "a.N", file := ⟨0⟩, kind := .annotationType
      annotations := [{ name := codePrototype }] }

theorem consistent_markedTemplate : markedTemplate.Consistent :=
  .ofDeclarations (by decide) (by decide)

theorem consistent_rootedTemplate : rootedTemplate.Consistent :=
  consistent_markedTemplate.updateDeclaration_same rfl rfl (by decide)

end Program

/-- The session after the declaration was asked for, the annotation edited and its file
refreshed. -/
theorem Request.positives_declared_rootedTemplate :
    let host := Program.rootedTemplate.toHost
    ∃ s stale, Lifetime {} host s stale ∧ (∀ file, ¬ stale file) ∧
      (FindsTemplate ⟨host, {}⟩ s "a.D" → host.Rooted "a.D") ∧
      (FindsPrototype ⟨host, {}⟩ s "a.D" →
        ∃ decl, host.Declares "a.D" decl ∧ ∃ use ∈ decl.annotations, host.Rooted use.name) := by
  intro host
  have hp := Program.consistent_markedTemplate
  have hp' := Program.consistent_rootedTemplate
  have hstart : Lifetime {} Program.markedTemplate.toHost ⟨{}, {}⟩ fun _ => False :=
    .start hp.healthy (hp.sourceOnly (by decide))
  have hasked := hstart.ask (.isPrototype "a.D")
  have hedited := hasked.edit hp'.healthy (hp'.sourceOnly (by decide))
  have hs := hedited.refresh ⟨0⟩
  have hfresh : ∀ file, ¬ ((False ∨ ¬ Program.markedTemplate.toHost.SameIn host file) ∧
      file ≠ ⟨0⟩) := by
    rintro file ⟨hnever | hchanged, hfile⟩
    · exact hnever
    · apply hchanged
      apply hp.sameIn_updateDeclaration hp' (Ne.symm hfile)
      intro old hold
      cases hold
      exact Ne.symm hfile
  exact ⟨_, _, hs, hfresh, positives_declared hs hfresh "a.D"⟩

end PrototypeLens
