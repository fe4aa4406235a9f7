import PrototypeLens.Proofs.Host.Mended
import PrototypeLens.Proofs.Session.Run
import PrototypeLens.Proofs.Template.Defaults

/-!
# Lookups without malformed strategies

How a lookup on a healthy host goes on the host without malformed strategies: alike, unless it fails
on the first host for one of the strategies that are gone. Every way of composing lookups keeps
this.

## Layers

- `Answered` and `Mends`: no lookup fails for a query, and the second one does what the first one
  does unless that one fails for a strategy. `Mends.bind`, `within`, `forM` and `foldlM` compose.
- `exists_declarationOf?`: a name has the same declaration on both hosts, apart from strategies.
- One lemma for each lookup, in the order of their definitions: defaults, discovery, registration.

## Main results

- `mends_template?`: looking for a template mends.
- `mends_registerClass` and `mends_prototype?`: so does registering a declaration, and what is asked
  about a name.
-/

namespace PrototypeLens

namespace Lookup

/-! ## Lookups that differ in a failure -/

/-- A lookup that does not fail for a query. -/
def Answered {α : Type} (lookup : Lookup α) : Prop :=
  ∀ s cause, (lookup.exec s).1 ≠ .error (.query cause)

theorem Answered.bind {α β : Type} {lookup : Lookup α} {f : α → Lookup β} (h : Answered lookup)
    (hf : ∀ a, Answered (f a)) : Answered (lookup >>= f) := by
  intro s cause
  have hfirst := h s cause
  -- The first computation either ends the whole or hands on to the second one.
  rcases hexec : lookup.exec s with ⟨out, s'⟩
  rw [hexec] at hfirst
  cases out with
  | error e =>
    rw [SessionM.exec_bind_error hexec]
    exact fun hfail => hfirst (congrArg Except.error (Except.error.inj hfail))
  | ok a =>
    rw [SessionM.exec_bind_ok hexec]
    exact hf a s' cause

/-- The second lookup does what the first one does, unless the first one fails for a malformed
strategy at one of some usages. Both are answered by the host. -/
structure Mends (misused : String → Prop) {α : Type} (lookup lookup' : Lookup α) : Prop where
  answered : Answered lookup
  answered' : Answered lookup'
  agrees (s : Session) : lookup'.exec s = lookup.exec s ∨ ∃ usage, misused usage ∧
    (lookup.exec s).1 = .error (.malformedAttribute usage "strategy")

namespace Mends

variable {misused : String → Prop} {α β : Type}

/-- A lookup that is the same on both hosts. -/
theorem refl {lookup : Lookup α} (h : Answered lookup) : Mends misused lookup lookup :=
  ⟨h, h, fun _ => .inl rfl⟩

theorem pure (a : α) : Mends misused (Pure.pure a : Lookup α) (Pure.pure a) :=
  .refl fun _ _ => nofun

theorem tooDeep : Mends misused (throw .tooDeep : Lookup α) (throw .tooDeep) :=
  .refl fun _ _ => nofun

theorem ask (view : Registry → α) : Mends misused (Lookup.ask view) (Lookup.ask view) :=
  .refl fun _ _ => nofun

theorem askGuards (view : Guards → α) :
    Mends misused (Lookup.askGuards view) (Lookup.askGuards view) :=
  .refl fun _ _ => nofun

theorem record (change : Registry → Registry) :
    Mends misused (Lookup.record change) (Lookup.record change) :=
  .refl fun _ _ => nofun

theorem bind {lookup lookup' : Lookup α} {f f' : α → Lookup β}
    (h : Mends misused lookup lookup') (hf : ∀ a, Mends misused (f a) (f' a)) :
    Mends misused (lookup >>= f) (lookup' >>= f') where
  answered := h.answered.bind fun a => (hf a).answered
  answered' := h.answered'.bind fun a => (hf a).answered'
  agrees s := by
    rw [SessionM.exec_bind, SessionM.exec_bind]
    rcases hexec : lookup.exec s with ⟨out, s'⟩
    rcases h.agrees s with hsame | ⟨usage, husage, hfail⟩
    · -- After the same first part the second one goes on from the same session.
      rw [hsame, hexec]
      cases out with
      | error e => exact .inl rfl
      | ok a => exact (hf a).agrees s'
    · -- What follows the failure on the second host does not matter.
      rw [hexec] at hfail
      obtain rfl : out = _ := hfail
      exact .inr ⟨usage, husage, rfl⟩

theorem map {lookup lookup' : Lookup α} (f : α → β) (h : Mends misused lookup lookup') :
    Mends misused (f <$> lookup) (f <$> lookup') := by
  rw [← bind_pure_comp, ← bind_pure_comp]
  exact h.bind fun _ => .pure _

theorem discard {lookup lookup' : Lookup α} (h : Mends misused lookup lookup') :
    Mends misused (discard lookup) (discard lookup') :=
  h.map _

theorem within {lookup lookup' : Lookup α} (enter leave : Guards → Guards)
    (h : Mends misused lookup lookup') :
    Mends misused (SessionM.within enter leave lookup) (SessionM.within enter leave lookup') where
  answered _ := h.answered _
  answered' _ := h.answered' _
  agrees s := by
    rw [SessionM.exec_within, SessionM.exec_within]
    apply (h.agrees { s with guards := enter s.guards }).imp
    · intro hsame
      rw [hsame]
    · exact id

theorem nested {lookup lookup' : Lookup α} (h : Mends misused lookup lookup') :
    Mends misused (SessionM.nested lookup) (SessionM.nested lookup') :=
  h.within _ _

theorem forM {f f' : α → Lookup Unit} {as : List α} (hf : ∀ a, Mends misused (f a) (f' a)) :
    Mends misused (as.forM f) (as.forM f') := by
  induction as with
  | nil => exact .pure _
  | cons a as ih => exact (hf a).bind fun _ => ih

theorem foldlM {f f' : β → α → Lookup β} (hf : ∀ b a, Mends misused (f b a) (f' b a))
    (as : List α) (b : β) : Mends misused (as.foldlM f b) (as.foldlM f' b) := by
  induction as generalizing b with
  | nil => exact .pure b
  | cons a as ih =>
    rw [List.foldlM_cons, List.foldlM_cons]
    exact (hf b a).bind ih

end Mends

/-! ## What a healthy host answers -/

section Healthy

variable {scope : Scope} (h : scope.host.Healthy)
include h

theorem exists_query_find (name : String) : ∃ found, query (scope.host.find name) = pure found ∧
    ∀ id ∈ found, ∃ decl, scope.host.declaration id = .ok decl := by
  obtain ⟨found, hfound⟩ := h.find_ok name
  refine ⟨found, by rw [hfound]; rfl, ?_⟩
  rintro id rfl
  obtain ⟨decl, hdecl, _⟩ := h.found hfound
  exact ⟨decl, hdecl⟩

/-- On both hosts a name has the same declaration, apart from its malformed strategies. -/
theorem exists_declarationOf? (kept name : String) : ∃ found,
    declarationOf? scope name = pure found ∧
    declarationOf? (scope.mendedBut kept) name = pure (found.map (·.mendedBut kept)) ∧
    ∀ decl ∈ found, ∃ id, scope.host.declaration id = .ok decl := by
  obtain ⟨entry, hentry⟩ := h.findData_ok name
  refine ⟨entry.map (·.2), ?_, ?_, ?_⟩
  · rw [declarationOf?, hentry]
    rfl
  · rw [declarationOf?, Scope.mendedBut, Host.findData_mendedBut, hentry]
    cases entry <;> rfl
  · rintro decl hdecl
    obtain ⟨⟨id, decl⟩, rfl, rfl⟩ := Option.map_eq_some_iff.1 hdecl
    exact ⟨id, (Host.findData_eq_some_iff.1 hentry).2⟩

end Healthy

/-! ## Defaults -/

section Lookups

variable {scope : Scope} (h : scope.host.Healthy) (kept : String)
include h

theorem mends_takeUsage {id : DeclId} {decl : Declaration}
    (hdecl : scope.host.declaration id = .ok decl) {mark : AnnotationUse}
    (hmark : mark ∈ decl.annotations) (d : Descriptor) :
    Mends (scope.host.Misuses kept) (ofExcept (d.takeUsage (resolveEnricher scope) mark))
      (ofExcept (d.takeUsage (resolveEnricher (scope.mendedBut kept)) (decl.mend kept mark))) where
  answered s cause := by
    rw [exec_ofExcept]
    exact d.takeUsage_ne_query h.resolveEnricher_ok mark cause
  answered' s cause := by
    rw [exec_ofExcept, resolveEnricher_mendedBut]
    exact d.takeUsage_ne_query h.resolveEnricher_ok _ cause
  agrees s := by
    rw [exec_ofExcept, exec_ofExcept, resolveEnricher_mendedBut, Declaration.mend]
    by_cases hkept : decl.qualifiedName = some kept
    · -- The declaration that is kept has its usages as they are.
      rw [if_pos hkept]
      exact .inl rfl
    · -- On any other declaration the usage loses its malformed strategies.
      rw [if_neg hkept]
      rcases @Descriptor.takeUsage_mended (resolveEnricher scope) d mark with hsame | ⟨hbad, hfail⟩
      · exact .inl (congrArg (·, s) hsame)
      · exact .inr ⟨mark.name, ⟨id, decl, hdecl, hkept, mark, hmark, rfl, hbad⟩, hfail⟩

theorem mends_takeDefaults (d : Descriptor) (name : String) (methods : List Method) :
    Mends (scope.host.Misuses kept)
      (ofExcept (d.takeDefaults (resolveEnricher scope) name methods))
      (ofExcept (d.takeDefaults (resolveEnricher (scope.mendedBut kept)) name methods)) := by
  rw [resolveEnricher_mendedBut]
  -- Elements have their defaults from the declaration itself, not from its annotations.
  refine .refl fun s cause => ?_
  rw [exec_ofExcept]
  exact d.takeDefaults_ne_query h.resolveEnricher_ok name methods cause

omit h in
theorem parentUse?_mendedBut (known : NameSet) (name : String) (decl : Declaration) :
    parentUse? known name (some (decl.mendedBut kept)) =
      (parentUse? known name (some decl)).map (decl.mend kept) := by
  have hname : (fun mark : AnnotationUse => mark.name != name && mark.name ∈ known) ∘
      decl.mend kept = fun mark => mark.name != name && mark.name ∈ known := by
    funext mark
    -- Mending leaves the names of annotations alone, by which parents are found.
    rw [Function.comp_apply, decl.mend_name]
  rw [parentUse?, parentUse?, Option.bind_some, Option.bind_some, Declaration.mendedBut,
    List.find?_map, hname]

/-- Lookups for the defaults of declarations of the host, and of those without malformed
strategies. -/
def MendsDefaults (scope : Scope) (kept : String)
    (recur recur' : String → Option Declaration → Lookup Descriptor) : Prop :=
  ∀ name decl, (∀ d ∈ decl, ∃ id, scope.host.declaration id = .ok d) →
    Mends (scope.host.Misuses kept) (recur name decl) (recur' name (decl.map (·.mendedBut kept)))

variable {kept}

theorem mends_inheritedDefaults {recur recur' : String → Option Declaration → Lookup Descriptor}
    (hrecur : MendsDefaults scope kept recur recur') {id : DeclId} {decl : Declaration}
    (hdecl : scope.host.declaration id = .ok decl) {parent : AnnotationUse}
    (hparent : parent ∈ decl.annotations) :
    Mends (scope.host.Misuses kept) (inheritedDefaults scope recur parent)
      (inheritedDefaults (scope.mendedBut kept) recur' (decl.mend kept parent)) := by
  have htake := mends_takeUsage h kept hdecl hparent
  unfold inheritedDefaults
  rw [decl.mend_name]
  refine Mends.bind (.ask _) fun cached => ?_
  -- Kept defaults are the same for both; otherwise they are computed within each other.
  cases cached with
  | some defaults => exact Mends.bind (.pure defaults) htake
  | none =>
    obtain ⟨found, hfound, hfound', hheld⟩ := exists_declarationOf? h kept parent.name
    simp only [hfound, hfound', pure_bind]
    exact (hrecur parent.name found hheld).bind htake

theorem mends_defaultsStep {recur recur' : String → Option Declaration → Lookup Descriptor}
    (hrecur : MendsDefaults scope kept recur recur') :
    MendsDefaults scope kept (defaultsStep scope recur)
      (defaultsStep (scope.mendedBut kept) recur') := by
  rintro name (_ | decl) hdecl
  · refine Mends.bind (.ask _) fun known => ?_
    exact Mends.bind (.pure _) fun _ => .pure _
  · obtain ⟨id, hid⟩ := hdecl decl rfl
    refine Mends.bind (.ask _) fun known => ?_
    rw [Option.map_some, parentUse?_mendedBut]
    cases hparent : parentUse? known name (some decl) with
    | none => exact Mends.bind (.pure _) fun d => mends_takeDefaults h kept _ name decl.methods
    | some parent =>
      have hmem : parent ∈ decl.annotations := List.mem_of_find?_eq_some hparent
      apply (mends_inheritedDefaults h hrecur hid hmem).bind
      exact fun d => mends_takeDefaults h kept _ name decl.methods

theorem mends_defaultsWithin (limit : Nat) :
    MendsDefaults scope kept (defaultsWithin scope limit)
      (defaultsWithin (scope.mendedBut kept) limit) := by
  -- The induction is on the limit, which is reached by both or by neither.
  induction limit with
  | zero => exact fun _ _ _ => .tooDeep
  | succ limit ih =>
    intro name decl hdecl
    refine Mends.bind (.askGuards _) fun defaulting => ?_
    split
    · exact .pure _
    · exact (mends_defaultsStep h ih name decl hdecl).within _ _

theorem mends_ensureTemplate (name : String) {decl : Option Declaration}
    (hdecl : ∀ d ∈ decl, ∃ id, scope.host.declaration id = .ok d) :
    Mends (scope.host.Misuses kept) (ensureTemplate scope name decl)
      (ensureTemplate (scope.mendedBut kept) name (decl.map (·.mendedBut kept))) := by
  -- Mending does not move a declaration to another file.
  have hfile : (decl.map (·.mendedBut kept)).map (·.file) = decl.map (·.file) := by
    cases decl <;> rfl
  unfold ensureTemplate registerTemplate
  rw [hfile]
  refine Mends.bind (.ask _) fun cached => ?_
  cases cached with
  | some defaults => exact .pure _
  | none =>
    refine (Mends.bind (.record _) fun _ => ?_).nested
    refine Mends.bind (.ask _) fun epoch => ?_
    apply (mends_defaultsWithin h _ name decl hdecl).bind
    exact fun defaults => Mends.bind (.record _) fun _ => .pure _

/-! ## Discovery -/

section Discovery

variable {discover discover' : String → Lookup (Option Descriptor)}
  (hdiscover : ∀ name, Mends (scope.host.Misuses kept) (discover name) (discover' name))
include hdiscover

omit h in
theorem mends_parentTemplate? (name : String) :
    Mends (scope.host.Misuses kept) (parentTemplate? discover name)
      (parentTemplate? discover' name) := by
  refine Mends.bind (.ask _) fun cached => ?_
  cases cached with
  | some defaults => exact .pure _
  | none =>
    refine Mends.bind (.askGuards _) fun met => ?_
    split
    · exact .pure _
    · exact hdiscover name

theorem mends_inspectUse {id : DeclId} {decl : Declaration}
    (hdecl : scope.host.declaration id = .ok decl) (own : String) (result : Option Descriptor)
    (mark : AnnotationUse) :
    Mends (scope.host.Misuses kept) (inspectUse scope discover own decl result mark)
      (inspectUse (scope.mendedBut kept) discover' own (decl.mendedBut kept) result
        (decl.mend kept mark)) := by
  have hensure : Mends (scope.host.Misuses kept) (ensureTemplate scope own (some decl))
      (ensureTemplate (scope.mendedBut kept) own (some (decl.mendedBut kept))) :=
    mends_ensureTemplate h own (by rintro _ ⟨⟩; exact ⟨id, hdecl⟩)
  unfold inspectUse
  rw [decl.mend_name]
  -- The marker, a denied name and any other annotation are told apart by names alone.
  split
  · exact hensure.bind fun _ => .pure _
  · refine Mends.bind (.ask _) fun denied => ?_
    split
    · exact .pure _
    · apply (mends_parentTemplate? hdiscover mark.name).bind
      rintro (_ | parent)
      · exact Mends.bind (.record _) fun _ => .pure _
      · exact Mends.bind (.record _) fun _ => hensure.bind fun _ => .pure _

theorem mends_inspectDeclaration {id : DeclId} {decl : Declaration}
    (hdecl : scope.host.declaration id = .ok decl) :
    Mends (scope.host.Misuses kept) (inspectDeclaration scope discover decl)
      (inspectDeclaration (scope.mendedBut kept) discover' (decl.mendedBut kept)) := by
  have hname : (decl.mendedBut kept).qualifiedName = decl.qualifiedName := rfl
  have hmarks : (decl.mendedBut kept).annotations = decl.annotations.map (decl.mend kept) := rfl
  unfold inspectDeclaration
  rw [hname, hmarks]
  cases decl.qualifiedName with
  | none => exact .pure _
  | some own =>
    simp only [List.foldlM_map]
    -- The same fold runs over the annotations of both declarations.
    exact .foldlM (mends_inspectUse h hdiscover hdecl own) _ _

omit h in
theorem mends_discoverUse (mark : AnnotationUse) :
    Mends (scope.host.Misuses kept) (discoverUse discover mark) (discoverUse discover' mark) := by
  unfold discoverUse
  split
  · exact .pure _
  · refine Mends.bind (.askGuards _) fun met => ?_
    split
    · exact .pure _
    · refine Mends.bind (.ask _) fun denied => ?_
      split
      · exact .pure _
      · refine Mends.bind (.ask _) fun known => ?_
        split
        · exact .pure _
        · exact (hdiscover mark.name).discard

theorem mends_takeListed (name : String) :
    Mends (scope.host.Misuses kept) (takeListed scope discover name)
      (takeListed (scope.mendedBut kept) discover' name) := by
  obtain ⟨found, hfound, hfound', hheld⟩ := exists_declarationOf? h kept name
  have hensure : Mends (scope.host.Misuses kept) (ensureTemplate scope name found)
      (ensureTemplate (scope.mendedBut kept) name (found.map (·.mendedBut kept))) :=
    mends_ensureTemplate h name hheld
  unfold takeListed
  simp only [hfound, hfound', pure_bind]
  -- A record with the marker in it needs no look at the annotations.
  split
  · exact hensure.discard
  · cases found with
    | none => exact .pure _
    | some decl =>
      simp only [Option.map_some, decl.isAnnotatedWith_mendedBut]
      split
      · -- Annotations are discovered by their names.
        have huse (mark : AnnotationUse) : discoverUse discover' (decl.mend kept mark) =
            discoverUse discover' mark := by simp only [discoverUse, decl.mend_name]
        have hmarks : (decl.mendedBut kept).annotations.forM (discoverUse discover') =
            decl.annotations.forM (discoverUse discover') := by
          simp only [Declaration.mendedBut, List.forM_eq_forM, List.forM_map, huse]
        rw [hmarks]
        exact (Mends.forM (mends_discoverUse hdiscover)).bind fun _ => hensure.discard
      · exact .record _

theorem mends_takeManifest (entries : List ManifestEntry) :
    Mends (scope.host.Misuses kept) (takeManifest scope discover entries)
      (takeManifest (scope.mendedBut kept) discover' entries) := by
  refine Mends.forM fun entry => Mends.bind (.ask _) fun cached => ?_
  cases cached with
  | some defaults => exact .pure _
  | none => exact mends_takeListed h hdiscover entry.name

omit h hdiscover in
theorem mends_settle (name : String) (decl : Declaration) (result : Option Descriptor) :
    Mends (scope.host.Misuses kept) (settle name decl result)
      (settle name (decl.mendedBut kept) result) := by
  cases result with
  | none => exact Mends.bind (.record _) fun _ => .pure _
  | some defaults => exact .pure _

theorem mends_discoverArchived (archive : Archive) (name : String) {id : DeclId}
    {decl : Declaration} (hdecl : scope.host.declaration id = .ok decl) :
    Mends (scope.host.Misuses kept) (discoverArchived scope discover archive name decl)
      (discoverArchived (scope.mendedBut kept) discover' archive name (decl.mendedBut kept)) := by
  have hsettings : (scope.mendedBut kept).settings = scope.settings := rfl
  unfold discoverArchived
  rw [hsettings]
  -- The manifest is read off the archive, which is the same.
  rcases archive.templateManifest scope.settings.manifestPath with _ | _ | ⟨entry, entries⟩
  · exact .pure _
  · exact Mends.bind (.record _) fun _ => .pure _
  · apply (mends_takeManifest h hdiscover (entry :: entries)).bind
    refine fun _ => Mends.bind (.ask _) fun cached => ?_
    cases cached with
    | some defaults => exact .pure _
    | none => exact (mends_inspectDeclaration h hdiscover hdecl).bind (mends_settle name decl)

theorem mends_discoverStep (name : String) :
    Mends (scope.host.Misuses kept) (discoverStep scope discover name)
      (discoverStep (scope.mendedBut kept) discover' name) := by
  obtain ⟨found, hfound, hfound', hheld⟩ := exists_declarationOf? h kept name
  unfold discoverStep
  simp only [hfound, hfound', pure_bind]
  split
  · exact (mends_ensureTemplate h name hheld).bind fun _ => .pure _
  · cases found with
    | none => exact .pure _
    | some decl =>
      obtain ⟨id, hid⟩ := hheld decl rfl
      obtain ⟨file, hfile⟩ := h.file_ok hid
      have hfile' : (scope.mendedBut kept).host.file (decl.mendedBut kept).file = .ok file := hfile
      simp only [Option.map_some, hfile, hfile']
      refine Mends.bind (.pure file) fun file => ?_
      split
      · exact mends_discoverArchived h hdiscover _ name hid
      · exact (mends_inspectDeclaration h hdiscover hid).bind (mends_settle name decl)

end Discovery

theorem mends_template? (name : String) :
    Mends (scope.host.Misuses kept) (template? scope name)
      (template? (scope.mendedBut kept) name) := by
  have hdiscover (limit : Nat) (name : String) : Mends (scope.host.Misuses kept)
      (discoverWithin scope limit name) (discoverWithin (scope.mendedBut kept) limit name) := by
    -- The induction is on the limit.
    induction limit generalizing name with
    | zero => exact .tooDeep
    | succ limit ih => exact (mends_discoverStep h ih name).within _ _
  refine Mends.bind (.ask _) fun cached => ?_
  cases cached with
  | some defaults => exact .pure _
  | none =>
    refine Mends.bind (.ask _) fun denied => ?_
    split
    · exact .pure _
    · refine Mends.bind (.askGuards _) fun met => ?_
      split
      · exact .pure _
      · exact hdiscover _ name

/-! ## Registration -/

theorem mends_prototypeOfUses {id : DeclId} {decl : Declaration}
    (hdecl : scope.host.declaration id = .ok decl) {marks : List AnnotationUse}
    (hmarks : ∀ mark ∈ marks, mark ∈ decl.annotations) :
    Mends (scope.host.Misuses kept) (prototypeOfUses scope marks)
      (prototypeOfUses (scope.mendedBut kept) (marks.map (decl.mend kept))) := by
  -- The usage of the first template decides, so that a strategy further on is never read.
  induction marks with
  | nil => exact .pure _
  | cons mark marks ih =>
    obtain ⟨hmark, hmarks⟩ := List.forall_mem_cons.1 hmarks
    rw [List.map_cons, prototypeOfUses, prototypeOfUses, decl.mend_name]
    apply (mends_template? h mark.name).bind
    rintro (_ | defaults)
    · exact ih hmarks
    · exact (mends_takeUsage h kept hdecl hmark defaults).bind fun _ => .pure _

/-- Registrations of the declarations of the host, and of those without malformed strategies. -/
def MendsRegistrations (scope : Scope) (kept : String)
    (register register' : DeclId → Lookup (Option Descriptor)) : Prop :=
  ∀ id decl, scope.host.declaration id = .ok decl →
    Mends (scope.host.Misuses kept) (register id) (register' id)

section Registration

variable {register register' : DeclId → Lookup (Option Descriptor)}
  (hregister : MendsRegistrations scope kept register register')
include hregister

theorem mends_checkGenerated (name : String) (decl : Declaration) :
    Mends (scope.host.Misuses kept) (checkGenerated scope register name decl)
      (checkGenerated (scope.mendedBut kept) register' name (decl.mendedBut kept)) := by
  unfold checkGenerated
  refine Mends.bind (.ask _) fun known => ?_
  cases known with
  | some origin => exact .pure _
  | none =>
    refine Mends.bind (.ask _) fun epoch => ?_
    rw [originOf?_mendedBut]
    simp only [Scope.mendedBut, Host.mendedBut]
    cases originOf? scope.settings.generatedMarkers decl with
    | none => exact Mends.bind (.record _) fun _ => .pure _
    | some prototype =>
      -- The other declaration that is registered here is where a strategy may be malformed.
      obtain ⟨found, hfound, hheld⟩ := exists_query_find h prototype
      simp only [hfound, pure_bind]
      cases found with
      | none => exact Mends.bind (.record _) fun _ => .pure _
      | some id =>
        obtain ⟨decl', hdecl'⟩ := hheld id rfl
        apply (hregister id decl' hdecl').discard.bind
        exact fun _ => Mends.bind (.record _) fun _ => .pure _

theorem mends_registerStep {id : DeclId} {decl : Declaration}
    (hdecl : scope.host.declaration id = .ok decl) (name : String) :
    Mends (scope.host.Misuses kept) (registerStep scope register name decl)
      (registerStep (scope.mendedBut kept) register' name (decl.mendedBut kept)) := by
  refine Mends.bind (.ask _) fun epoch => ?_
  apply (mends_prototypeOfUses h hdecl fun _ hmark => hmark).bind
  refine fun prototype => Mends.bind (.record _) fun _ => ?_
  exact (mends_checkGenerated h hregister name decl).discard.bind fun _ => .pure _

end Registration

theorem mends_registerWithin (limit : Nat) :
    MendsRegistrations scope kept (registerWithin scope limit)
      (registerWithin (scope.mendedBut kept) limit) := by
  -- The induction is on the limit.
  induction limit with
  | zero => exact fun _ _ _ => .tooDeep
  | succ limit ih =>
    intro id decl hdecl
    have hdecl' : (scope.mendedBut kept).host.declaration id = .ok (decl.mendedBut kept) :=
      Host.declaration_mendedBut_eq_ok_iff.2 ⟨decl, hdecl, rfl⟩
    have hname : (decl.mendedBut kept).qualifiedName = decl.qualifiedName := rfl
    rw [registerWithin, registerWithin, hdecl, hdecl']
    simp only [query, pure_bind, hname]
    cases decl.qualifiedName with
    | none => exact .pure _
    | some name =>
      -- A name that is kept or under way is not registered again.
      refine Mends.bind (.ask _) fun cached => ?_
      cases cached with
      | some prototype => exact .pure _
      | none =>
        refine Mends.bind (.askGuards _) fun registering => ?_
        split
        · exact .pure _
        · exact (mends_registerStep h ih hdecl name).nested.within _ _

/-- Registering a declaration does the same on both hosts, unless it fails on the first one for a
strategy that is gone on the second one. -/
theorem mends_registerClass :
    MendsRegistrations scope kept (registerClass scope) (registerClass (scope.mendedBut kept)) :=
  mends_registerWithin h _

theorem mends_prototype? (name : String) :
    Mends (scope.host.Misuses kept) (prototype? scope name)
      (prototype? (scope.mendedBut kept) name) := by
  obtain ⟨found, hfound, hheld⟩ := exists_query_find h name
  have hfound' : query ((scope.mendedBut kept).host.find name) = pure found := hfound
  refine Mends.bind (.ask _) fun cached => ?_
  cases cached with
  | some prototype => exact .pure _
  | none =>
    simp only [hfound, hfound', pure_bind]
    cases found with
    | none => exact .pure _
    | some id =>
      obtain ⟨decl, hdecl⟩ := hheld id rfl
      exact mends_registerClass h id decl hdecl

end Lookups

end Lookup

end PrototypeLens
