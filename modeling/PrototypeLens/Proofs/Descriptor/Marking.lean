import PrototypeLens.Proofs.Descriptor.Taking

/-!
# The annotation that a descriptor was read from

Every descriptor that is read from the usage of a template says so under a key of its own, which
only an attribute or an element of that name writes. Whether attributes can be taken does not depend
on the descriptor that takes them.

## Layers

- The key: what one attribute does to it, and from there what a usage or element defaults do.
- Failures: an attribute is refused whatever came before it, and so are all of them together.

## Main results

- `takeUsage_isMarked`: what was read from a usage is marked.
- `takeDefaults_custom`: element defaults leave the key alone unless an element is named like it.
- `takeUsage_ne_query` and `takeDefaults_ne_query`: where classes resolve, no query fails.
-/

namespace PrototypeLens

namespace Descriptor

variable {resolve : String → Except QueryError (Option Enricher)}

/-! ## The key of the annotation -/

/-- Whether the descriptor was read from the usage of a template. -/
def IsMarked (d : Descriptor) : Prop := d.custom.get? prototypeKey ≠ none

theorem custom_get?_setCustom (d : Descriptor) (key other : String) (value : CustomValue) :
    (d.setCustom key value).custom.get? other =
      if other = key then some value else d.custom.get? other :=
  d.custom.get?_insert key other value

/-- Only an attribute that is named like the key touches it. -/
theorem takePlain_custom (origin : AttrOrigin) (d : Descriptor) (name : String)
    (value : AttrValue) :
    (takePlain origin d name value).custom.get? prototypeKey = d.custom.get? prototypeKey ∨
      name = prototypeKey ∧ (takePlain origin d name value).IsMarked := by
  unfold takePlain
  split
  case h_1 =>
    -- The name of a usage derives others; none of them is a custom setting.
    cases origin with
    | usage =>
      cases contributedText? .usage value with
      | none => exact .inl rfl
      | some text => exact .inl rfl
    | templateDefault => exact .inl rfl
  case h_15 =>
    by_cases hname : name = prototypeKey
    · exact .inr ⟨hname, by simp [IsMarked, custom_get?_setCustom, hname]⟩
    · exact .inl (by rw [custom_get?_setCustom, if_neg (Ne.symm hname)])
  all_goals exact .inl rfl

theorem takeAttr_custom {origin : AttrOrigin} {usage : String} {d d' : Descriptor} {name : String}
    {value : AttrValue} (h : takeAttr resolve origin usage d name value = .ok d') :
    d'.custom.get? prototypeKey = d.custom.get? prototypeKey ∨
      name = prototypeKey ∧ d'.IsMarked := by
  -- The three attributes that can be refused set fields of their own, and no custom setting.
  unfold takeAttr at h
  split at h
  · split at h
    · cases h
      exact .inl rfl
    · cases h
  · split at h
    · cases h
      exact .inl rfl
    · cases h
  · split at h
    · cases h
      exact .inl rfl
    · cases h
  · cases h
    exact takePlain_custom origin d name value

theorem takeUsage_isMarked {d d' : Descriptor} {mark : AnnotationUse}
    (h : d.takeUsage resolve mark = .ok d') : d'.IsMarked := by
  -- Once marked, a descriptor stays marked, since an attribute that touches the key marks again.
  refine foldlM_induct (fun attr _ d d' hd hattr => ?_) ?_ h
  · rcases takeAttr_custom hattr with hsame | ⟨_, hmarked⟩
    · rwa [IsMarked, hsame]
    · exact hmarked
  · simp [IsMarked, custom_get?_setCustom]

/-- Without an element of that name, element defaults leave the key alone. -/
theorem takeDefaults_custom {d d' : Descriptor} {template : String} {methods : List Method}
    (hnone : ∀ m ∈ methods, m.name ≠ prototypeKey)
    (h : d.takeDefaults resolve template methods = .ok d') :
    d'.custom.get? prototypeKey = d.custom.get? prototypeKey := by
  -- The induction is on the elements: each of them keeps the key as it found it.
  refine foldlM_induct (P := fun d' => d'.custom.get? prototypeKey = d.custom.get? prototypeKey)
    (fun m hm d₁ d₂ hd hstep => ?_) rfl h
  split at hstep
  · rcases takeAttr_custom hstep with hsame | ⟨hname, _⟩
    · exact hsame.trans hd
    · exact absurd hname (hnone m hm)
  · cases hstep
    exact hd

/-! ## Failures -/

/-- An attribute is refused for what it is, whatever descriptor it is for. -/
theorem takeAttr_eq_error {origin : AttrOrigin} {usage : String} {d : Descriptor} {name : String}
    {value : AttrValue} {e : LookupError}
    (h : takeAttr resolve origin usage d name value = .error e) (d' : Descriptor) :
    takeAttr resolve origin usage d' name value = .error e := by
  -- Of the four ways to take an attribute only the three that read the value first can fail.
  unfold takeAttr at h
  split at h
  · split at h
    · cases h
    · rename_i hstrategy
      cases h
      simp only [takeAttr, hstrategy]
  · split at h
    · cases h
    · rename_i henrichers
      cases h
      simp only [takeAttr, henrichers]
  · split at h
    · cases h
    · rename_i henrichers
      cases h
      simp only [takeAttr, henrichers]
  · cases h

/-- What each step refuses whatever came before, all of them together refuse. -/
theorem foldlM_eq_error {ε α β : Type} {f : β → α → Except ε β} {e : ε}
    (hstep : ∀ b a e, f b a = .error e → ∀ b', f b' a = .error e) {as : List α} {b : β}
    (h : as.foldlM f b = .error e) (b' : β) : as.foldlM f b' = .error e := by
  induction as generalizing b b' with
  | nil => cases h
  | cons a as ih =>
    rw [List.foldlM_cons] at h ⊢
    cases hfirst : f b a with
    | error e' =>
      rw [hfirst] at h
      cases h
      rw [hstep b a e hfirst b']
      rfl
    | ok b₁ =>
      rw [hfirst] at h
      -- The other run cannot be refused earlier: then this one would have been.
      cases hother : f b' a with
      | error e' => cases hfirst.symm.trans (hstep b' a e' hother b)
      | ok b₂ => exact ih h b₂

theorem takeDefaults_eq_error {d : Descriptor} {template : String} {methods : List Method}
    {e : LookupError} (h : d.takeDefaults resolve template methods = .error e) (d' : Descriptor) :
    d'.takeDefaults resolve template methods = .error e := by
  refine foldlM_eq_error (fun d m e hstep d' => ?_) h d'
  split at hstep
  · exact takeAttr_eq_error hstep d'
  · cases hstep

/-- Where classes resolve, attributes are refused for their form only. -/
theorem takeAttr_ne_query (h : ∀ name, ∃ e, resolve name = .ok e) (origin : AttrOrigin)
    (usage : String) (d : Descriptor) (name : String) (value : AttrValue) (cause : QueryError) :
    takeAttr resolve origin usage d name value ≠ .error (.query cause) := by
  obtain ⟨enrichers, henrichers⟩ := resolveEnrichers_ok h value
  unfold takeAttr
  split
  · split <;> exact nofun
  · rw [henrichers]
    exact nofun
  · rw [henrichers]
    exact nofun
  · exact nofun

theorem takeUsage_ne_query (h : ∀ name, ∃ e, resolve name = .ok e) (d : Descriptor)
    (mark : AnnotationUse) (cause : QueryError) :
    d.takeUsage resolve mark ≠ .error (.query cause) :=
  foldlM_ne_error (fun d _ => takeAttr_ne_query h _ _ d _ _ cause) _ _

theorem takeDefaults_ne_query (h : ∀ name, ∃ e, resolve name = .ok e) (d : Descriptor)
    (template : String) (methods : List Method) (cause : QueryError) :
    d.takeDefaults resolve template methods ≠ .error (.query cause) := by
  refine foldlM_ne_error (fun d m => ?_) _ _
  split
  · exact takeAttr_ne_query h _ _ d _ _ cause
  · exact nofun

end Descriptor

end PrototypeLens
