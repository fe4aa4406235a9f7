import PrototypeLens.Proofs.Program.Checks
import PrototypeLens.Proofs.Registry.Saving

/-!
# What a refresh removes

A refresh of a file removes exactly what derives from the file: the names whose answers were read
from it, the names that it declares, and what was derived from these, even where names were derived
from each other in a circle. No table says anything about such a name afterwards, and what the
tables say about every other name stays. Only where a known template goes with the file the answers
go as well that were given with it: then the tables that an edited template may change are those of
a new registry.

## Layers

- `DerivesFrom`: the least set of names that derive from a file, with `mem_derived_iff` to say that
  a refresh collects exactly these.
- `Entry`: what all tables say about one name. `entry_forgetAll_of_unknown` and
  `entry_forgetAll_of_known` compute it after names were forgotten.

## Main results

- What a refresh leaves of the entry of each name, for names that derive from the file and for
  others, with and without a known template among the former.
- Two templates that were derived from each other both go with the file of the first one.
-/

namespace PrototypeLens

variable {host : Host} {file : FileId} {r : Registry} {name : String} {names : List String}

/-! ## What derives from a file -/

/-- The host lists a name among those that a file declares, which it does only if it can tell every
declaration of the file. -/
def Host.Lists (host : Host) (file : FileId) (name : String) : Prop :=
  ∃ ids, host.declarationsIn file = .ok ids ∧ (∀ id ∈ ids, ∃ decl, host.declaration id = .ok decl) ∧
    ∃ id ∈ ids, ∃ decl, host.declaration id = .ok decl ∧ decl.qualifiedName = some name

namespace Registry

theorem mem_declaredNames_iff :
    name ∈ (declaredNames host file).toOption.getD [] ↔ host.Lists file name := by
  unfold declaredNames Host.Lists
  cases hids : host.declarationsIn file with
  | error e => simp [bind, Except.bind, Except.toOption]
  | ok ids =>
    cases hdecls : ids.mapM host.declaration with
    | error e =>
      -- A single declaration that cannot be read makes the host list none.
      have hunreadable : ¬ ∀ id ∈ ids, ∃ decl, host.declaration id = .ok decl := by
        simp [← exists_mapM_ok_iff, hdecls]
      simpa [hdecls, bind, Except.bind, Except.toOption] using fun h => absurd h hunreadable
    | ok decls =>
      have hreadable := exists_mapM_ok_iff.1 ⟨decls, hdecls⟩
      simp only [hdecls, bind, Except.bind, pure, Except.pure, Except.toOption, Option.getD_some,
        List.mem_filterMap, mem_iff_of_mapM hdecls, Except.ok.injEq, exists_eq_left']
      grind

/-- The names that derive from a file: the least set of names that holds what was read from the file
or is declared in it, and with a name what was derived from it. -/
inductive DerivesFrom (r : Registry) (host : Host) (file : FileId) : String → Prop where
  | owned {name : String} : r.owners.get? name = some file → r.DerivesFrom host file name
  | declared {name : String} : host.Lists file name → r.DerivesFrom host file name
  | dependent {parent name : String} : r.DerivesFrom host file parent →
      name ∈ r.dependentsOf parent → r.DerivesFrom host file name

/-- The names that a refresh forgets are those that derive from the file. -/
theorem mem_derived_iff : name ∈ r.derived host file ↔ r.DerivesFrom host file name := by
  constructor
  · -- The set is closed under all three ways to derive, and the walk collects no more.
    exact derived_within (fun _ => .owned) (fun _ h => .declared (mem_declaredNames_iff.1 h))
      (fun _ _ => .dependent) name
  · intro h
    -- The induction is on how the name derives, one way after the other.
    induction h with
    | owned howner => exact mem_derived_of_owner howner
    | declared hlists => exact mem_derived_of_declared (mem_declaredNames_iff.2 hlists)
    | dependent _ hname ih => exact r.derived_closed host file _ ih hname

/-! ## The tables at a name -/

/-- What the tables of a registry say about a name. -/
structure Entry where
  /-- The prototype that the name was resolved to. -/
  prototype : Option (Option Descriptor) := none
  defaults : Option Descriptor := none
  isKnown : Bool := false
  isDenied : Bool := false
  /-- The name of the prototype that the name was generated from. -/
  origin : Option String := none
  isWritten : Bool := false
  validator : Option ValidationDescriptor := none
  owner : Option FileId := none
  dependents : Option NameSet := none

/-- What each of the tables says about a name. -/
def entry (r : Registry) (name : String) : Entry where
  prototype := r.classes.get? name
  defaults := r.templates.get? name
  isKnown := name ∈ r.knownTemplates
  isDenied := name ∈ r.nonTemplates
  origin := r.generated.get? name
  isWritten := name ∈ r.nonGenerated
  validator := r.validators.get? name
  owner := r.owners.get? name
  dependents := r.dependents.get? name

/-- What is left of an entry when a new template may change what was answered. -/
def Entry.invalidated (e : Entry) (name : String) : Entry where
  isKnown := e.isKnown
  isDenied := name ∈ neverTemplates
  validator := e.validator
  owner := e.owner
  dependents := e.dependents

theorem entry_invalidateAll (r : Registry) (name : String) :
    r.invalidateAll.entry name = (r.entry name).invalidated name := rfl

theorem entry_forget (r : Registry) (name other : String) :
    (r.forget name).entry other = if other = name then {} else r.entry other := by
  simp only [entry, forget, Table.get?_erase, NameSet.mem_remove]
  split <;> simp [*]

theorem entry_foldl_forget (names : List String) (r : Registry) (name : String) :
    (names.foldl forget r).entry name = if name ∈ names then {} else r.entry name := by
  induction names generalizing r with
  | nil => rfl
  | cons other names ih =>
    rw [List.foldl_cons, ih, entry_forget]
    by_cases hname : name = other <;> simp [hname]

/-- Forgetting names empties the tables at these and leaves what they say about others, unless a
known template is forgotten. -/
theorem entry_forgetAll_of_unknown (hunknown : ∀ template ∈ names, template ∉ r.knownTemplates) :
    (r.forgetAll names).entry name = if name ∈ names then {} else r.entry name := by
  have hnone : names.any (· ∈ r.knownTemplates) = false := by simpa using hunknown
  rw [forgetAll, hnone]
  exact entry_foldl_forget names _ name

theorem forgetAll_of_known (hknown : ∃ template ∈ names, template ∈ r.knownTemplates) :
    r.forgetAll names = (names.foldl forget { r with epoch := r.epoch + 1 }).invalidateAll := by
  have hany : names.any (· ∈ r.knownTemplates) = true := by simpa using hknown
  rw [forgetAll, if_pos hany]

theorem entry_forgetAll_of_known (hknown : ∃ template ∈ names, template ∈ r.knownTemplates) :
    (r.forgetAll names).entry name =
      (if name ∈ names then {} else r.entry name).invalidated name := by
  rw [forgetAll_of_known hknown, entry_invalidateAll, entry_foldl_forget]
  rfl

/-! ## Refreshing -/

/-- A refresh that is answered was not cancelled before it forgot what derives from the file. -/
theorem refresh_of_ok {modules : List ModuleId} (h : (r.refresh host file).1 = .ok modules) :
    (r.refresh host file).2 = r.forgetAll (r.derived host file) := by
  refine congrArg Prod.snd (r.refresh_eq fun hcancelled => ?_)
  rw [refresh, refreshedNames, hcancelled] at h
  cases h

/-- After a refresh no table has an entry of a name that derives from the file. What the tables say
about other names is what they said before, if no known template derives from the file; if one does,
the tables of answers that a template may change are new, and the others say about other names what
they said before. -/
theorem entry_refresh {modules : List ModuleId} (h : (r.refresh host file).1 = .ok modules) :
    (∀ name, r.DerivesFrom host file name → name ∉ neverTemplates →
      (r.refresh host file).2.entry name = {}) ∧
    ((∀ template, r.DerivesFrom host file template → template ∉ r.knownTemplates) →
      ∀ name, ¬ r.DerivesFrom host file name →
        (r.refresh host file).2.entry name = r.entry name) ∧
    ((∃ template, r.DerivesFrom host file template ∧ template ∈ r.knownTemplates) →
      ((r.refresh host file).2.classes = ∅ ∧ (r.refresh host file).2.templates = ∅ ∧
        (r.refresh host file).2.generated = ∅ ∧ (r.refresh host file).2.nonGenerated = [] ∧
        (r.refresh host file).2.nonTemplates = neverTemplates) ∧
      ∀ name, ¬ r.DerivesFrom host file name →
        (r.refresh host file).2.entry name = (r.entry name).invalidated name) := by
  simp only [refresh_of_ok h, ← mem_derived_iff]
  refine ⟨fun name hname hnever => ?_, fun hunknown name hname => ?_, fun hknown => ⟨?_, ?_⟩⟩
  · -- An invalidation denies what is never a template, which the name is not; everything else is
    -- empty.
    by_cases hknown : ∃ template ∈ r.derived host file, template ∈ r.knownTemplates
    · rw [entry_forgetAll_of_known hknown, if_pos hname]
      simp [Entry.invalidated, hnever]
    · rw [entry_forgetAll_of_unknown fun t ht hk => hknown ⟨t, ht, hk⟩, if_pos hname]
  · rw [entry_forgetAll_of_unknown hunknown, if_neg hname]
  · rw [forgetAll_of_known hknown]
    exact ⟨rfl, rfl, rfl, rfl, rfl⟩
  · intro name hname
    rw [entry_forgetAll_of_known hknown, if_neg hname]

/-! ### Templates that were derived from each other -/

/-- A file of a build module that declares an annotation, and another file. -/
def declaredAnnotation : Program :=
  .ofDeclarations [{ path := "src/a/First.java", buildModule := some ⟨3⟩ },
      { path := "src/b/Other.java" }]
    [{ name := "First", qualifiedName := some "a.First", file := ⟨0⟩, kind := .annotationType }]

theorem consistent_declaredAnnotation : declaredAnnotation.Consistent :=
  .ofDeclarations (by decide) (by decide)

/-- Two templates that were derived from each other, one of them owned by no file, and a declaration
of the other file. -/
def circularDependents : Registry where
  classes := ⟨[("b.Other", none)]⟩
  knownTemplates := ["a.First", "a.Second"]
  owners := ⟨[("a.First", ⟨0⟩), ("b.Other", ⟨1⟩)]⟩
  dependents := ⟨[("a.First", ["a.Second"]), ("a.Second", ["a.First"])]⟩

/-- Nothing but the two templates derives from the file of the first one. -/
theorem derivesFrom_circularDependents
    (h : circularDependents.DerivesFrom declaredAnnotation.toHost ⟨0⟩ name) :
    name = "a.First" ∨ name = "a.Second" := by
  induction h with
  | @owned name howner =>
    simp only [circularDependents, Table.get?_cons] at howner
    split at howner
    · exact .inl ‹_›
    · split at howner <;> cases howner
  | @declared name hlists =>
    have hp := consistent_declaredAnnotation
    obtain ⟨_, _, _, _, _, decl, hdecl, hname⟩ := hlists
    -- There is one declaration, in the file that is refreshed.
    obtain ⟨hmem, _⟩ := hp.mem_decls (hp.healthy.declares hdecl hname)
    cases List.mem_singleton.1 hmem
    cases hname
    exact .inl rfl
  -- Each of the two templates is the only dependent of the other.
  | @dependent parent name _ hname ih =>
    rcases ih with rfl | rfl
    · exact .inr (List.mem_singleton.1 hname)
    · exact .inl (List.mem_singleton.1 hname)

/-- Both templates go with the file of the first one, and with them the prototype of the
declaration, whose owner stays. -/
theorem entry_refresh_circularDependents :
    (circularDependents.refresh declaredAnnotation.toHost ⟨0⟩).1 = .ok [⟨3⟩] ∧
      (circularDependents.refresh declaredAnnotation.toHost ⟨0⟩).2.entry "a.First" = {} ∧
      (circularDependents.refresh declaredAnnotation.toHost ⟨0⟩).2.entry "a.Second" = {} ∧
      (circularDependents.refresh declaredAnnotation.toHost ⟨0⟩).2.entry "b.Other" =
        { owner := some ⟨1⟩ } := by
  have hfirst : circularDependents.DerivesFrom declaredAnnotation.toHost ⟨0⟩ "a.First" :=
    .owned (by decide)
  have hsecond : circularDependents.DerivesFrom declaredAnnotation.toHost ⟨0⟩ "a.Second" :=
    hfirst.dependent (by decide)
  have hother : ¬ circularDependents.DerivesFrom declaredAnnotation.toHost ⟨0⟩ "b.Other" :=
    fun h => by simpa using derivesFrom_circularDependents h
  have hok : (circularDependents.refresh declaredAnnotation.toHost ⟨0⟩).1 = .ok [⟨3⟩] := by
    have hanswers : (circularDependents.derived declaredAnnotation.toHost ⟨0⟩).any
        circularDependents.answers = true :=
      List.any_eq_true.2 ⟨_, mem_derived_iff.2 hfirst, by decide⟩
    obtain ⟨declared, hdeclared, _⟩ := consistent_declaredAnnotation.healthy.declaredNames_ok ⟨0⟩
    rw [refresh_eq _ (by simp [hdeclared]), hanswers]
    rfl
  obtain ⟨hgone, _, hinvalidated⟩ := entry_refresh hok
  exact ⟨hok, hgone _ hfirst (by decide), hgone _ hsecond (by decide),
    (hinvalidated ⟨_, hfirst, by decide⟩).2 _ hother⟩

end Registry

end PrototypeLens
