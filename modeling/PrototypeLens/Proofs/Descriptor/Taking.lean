import PrototypeLens.Proofs.Host.Health

/-!
# Taking attributes

Attributes are taken without failure where the host resolves classes and strategies are given by
constants.

## Layers

- `foldlM_ok`, `foldlM_induct` and `foldlM_ne_error`: what holds of each step of a fold that may
  fail holds of the whole fold.
- One attribute: `takeAttr_ok` and `takeAttr_ne_tooDeep`.
- A usage and element defaults, which are folds over their attributes.

## Main results

- `takeUsage_ok` and `takeDefaults_ok`: no failure if every strategy is a constant.
- `Scope.ownDefaults_ok`: the same for what a template makes of inherited defaults.
-/

namespace PrototypeLens

namespace Descriptor

variable {resolve : String → Except QueryError (Option Enricher)}

theorem resolveEnrichers_ok (h : ∀ name, ∃ e, resolve name = .ok e) (value : AttrValue) :
    ∃ enrichers, resolveEnrichers resolve value = .ok enrichers := by
  obtain ⟨found, hfound⟩ := exists_mapM_ok_iff.2 fun name (_ : name ∈ value.classes) => h name
  exact ⟨found.filterMap id, by rw [resolveEnrichers, hfound]; rfl⟩

/-- An attribute is taken unless it is a malformed strategy. -/
theorem takeAttr_ok (h : ∀ name, ∃ e, resolve name = .ok e) (origin : AttrOrigin)
    (usage : String) (d : Descriptor) (name : String) (value : AttrValue)
    (hstrategy : name = "strategy" → value.IsStrategy) :
    ∃ d', takeAttr resolve origin usage d name value = .ok d' := by
  -- Three attributes read their value before they set a field: the strategy and both lists of
  -- enrichers.
  unfold takeAttr
  split
  · obtain ⟨strategy, hs⟩ := hstrategy rfl
    exact ⟨_, by rw [hs]⟩
  · obtain ⟨enrichers, he⟩ := resolveEnrichers_ok h value
    exact ⟨_, by rw [he]⟩
  · obtain ⟨enrichers, he⟩ := resolveEnrichers_ok h value
    exact ⟨_, by rw [he]⟩
  · exact ⟨_, rfl⟩

theorem foldlM_ok {ε α β : Type} {f : β → α → Except ε β} {as : List α}
    (h : ∀ a ∈ as, ∀ b, ∃ b', f b a = .ok b') (b : β) : ∃ b', as.foldlM f b = .ok b' := by
  induction as generalizing b with
  | nil => exact ⟨b, rfl⟩
  | cons a as ih =>
    obtain ⟨b₁, h₁⟩ := h a List.mem_cons_self b
    obtain ⟨b₂, h₂⟩ := ih (fun x hx => h x (List.mem_cons_of_mem _ hx)) b₁
    exact ⟨b₂, by rw [List.foldlM_cons, h₁]; exact h₂⟩

/-- What each step keeps, all of them together keep. -/
theorem foldlM_induct {ε α β : Type} {f : β → α → Except ε β} {as : List α} {b b' : β}
    {P : β → Prop} (hstep : ∀ a ∈ as, ∀ b b', P b → f b a = .ok b' → P b') (hb : P b)
    (h : as.foldlM f b = .ok b') : P b' := by
  induction as generalizing b with
  | nil =>
    cases h
    exact hb
  -- The first step succeeded, or the whole fold would have failed with it.
  | cons a as ih =>
    rw [List.foldlM_cons] at h
    cases hfirst : f b a with
    | error e =>
      rw [hfirst] at h
      cases h
    | ok b₁ =>
      rw [hfirst] at h
      exact ih (fun a ha => hstep a (List.mem_cons_of_mem _ ha))
        (hstep a List.mem_cons_self b b₁ hb hfirst) h

/-- A usage whose strategies are constants is taken. -/
theorem takeUsage_ok (h : ∀ name, ∃ e, resolve name = .ok e) (d : Descriptor)
    (mark : AnnotationUse)
    (hstrategy : ∀ attr ∈ mark.attrs, attr.name = "strategy" → attr.value.IsStrategy) :
    ∃ d', d.takeUsage resolve mark = .ok d' :=
  foldlM_ok (fun attr hattr d => takeAttr_ok h _ _ d _ _ (hstrategy attr hattr)) _

/-- Element defaults whose strategies are constants are taken. -/
theorem takeDefaults_ok (h : ∀ name, ∃ e, resolve name = .ok e) (d : Descriptor)
    (template : String) (methods : List Method)
    (hstrategy : ∀ m ∈ methods, m.origin = .source → m.name = "strategy" →
      ∀ value, m.defaultValue = some value → value.IsStrategy) :
    ∃ d', d.takeDefaults resolve template methods = .ok d' := by
  refine foldlM_ok (fun m hm d => ?_) d
  -- Only an element of a source annotation with a default is an attribute; the others are passed
  -- over.
  split
  · rename_i value horigin hvalue
    exact takeAttr_ok h _ _ d _ _ fun hname => hstrategy m hm horigin hname value hvalue
  · exact ⟨d, rfl⟩

/-! ## Failures -/

theorem foldlM_ne_error {ε α β : Type} {f : β → α → Except ε β} {e : ε}
    (h : ∀ b a, f b a ≠ .error e) (as : List α) (b : β) : as.foldlM f b ≠ .error e := by
  induction as generalizing b with
  | nil => exact nofun
  | cons a as ih =>
    rw [List.foldlM_cons]
    cases hstep : f b a with
    | ok b' => exact ih b'
    -- A fold that fails at once fails with the error of its first step.
    | error e' =>
      rintro herror
      cases herror
      exact h b a hstep

theorem takeAttr_ne_tooDeep (origin : AttrOrigin) (usage : String) (d : Descriptor)
    (name : String) (value : AttrValue) :
    takeAttr resolve origin usage d name value ≠ .error .tooDeep := by
  unfold takeAttr
  split
  · split <;> exact nofun
  · split <;> exact nofun
  · split <;> exact nofun
  · exact nofun

/-- Taking attributes does not nest. -/
theorem takeUsage_ne_tooDeep (d : Descriptor) (mark : AnnotationUse) :
    d.takeUsage resolve mark ≠ .error .tooDeep :=
  foldlM_ne_error (fun d _ => takeAttr_ne_tooDeep _ _ d _ _) _ _

theorem takeDefaults_ne_tooDeep (d : Descriptor) (template : String) (methods : List Method) :
    d.takeDefaults resolve template methods ≠ .error .tooDeep := by
  refine foldlM_ne_error (fun d m => ?_) _ _
  split
  · exact takeAttr_ne_tooDeep _ _ d _ _
  · exact nofun

end Descriptor

/-- On a healthy host every class resolves, though perhaps to nothing. -/
theorem Host.Healthy.resolveEnricher_ok {scope : Scope} (h : scope.host.Healthy) (name : String) :
    ∃ enricher, Lookup.resolveEnricher scope name = .ok enricher := by
  obtain ⟨entry, he⟩ := h.findData_ok name
  exact ⟨_, by rw [Lookup.resolveEnricher, he]; rfl⟩

/-- What a template makes of inherited defaults does not fail if its own strategy is a constant. -/
theorem Scope.ownDefaults_ok {scope : Scope} (h : scope.host.Healthy) (name : String)
    (decl : Option Declaration) (inherited : Descriptor)
    (hstrategy : ∀ d ∈ decl, ∀ m ∈ d.methods, m.origin = .source → m.name = "strategy" →
      ∀ value, m.defaultValue = some value → value.IsStrategy) :
    ∃ defaults, scope.ownDefaults name decl inherited = .ok defaults := by
  cases decl with
  | none => exact ⟨_, rfl⟩
  | some decl => exact Descriptor.takeDefaults_ok h.resolveEnricher_ok _ _ _ (hstrategy _ rfl)

end PrototypeLens
