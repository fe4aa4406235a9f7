import PrototypeLens.Proofs.Augment.Distinct
import PrototypeLens.Proofs.Host.Written
import PrototypeLens.Proofs.Walk.Mapping

/-!
# Declarations that members were merged into

What merging members does to a declaration, and what is then still added to it. A member whose
signature the declaration has now is not added again, by whatever path it was added before. Only an
enricher whose parameters are selected among the methods may ask for another one afterwards.

## Layers

- `Declaration.Grows`: a declaration with all members of another. Merging makes it grow, and gives
  it the signatures of what was merged.
- `unless_eq_nil`: what is added unless it is there is not added once its signature is there.
- Each kind of addition: fields, methods, constructors, getters and setters.

## Main results

- `signature_mem_merge`: a declaration has the signatures of the members that were merged into it.
- `addedOfKind_eq_nil`: an enricher adds nothing again, unless it takes methods as parameters and
  these have changed.
-/

namespace PrototypeLens

/-! ## Merging -/

namespace Declaration

variable {d d' : Declaration} {m : VirtualMember} {members : List VirtualMember}

/-- The second declaration has all members of the first one. -/
structure Grows (d d' : Declaration) : Prop where
  fields : d.fields ⊆ d'.fields
  methods : d.methods ⊆ d'.methods
  constructors : d.constructors ⊆ d'.constructors

theorem Grows.refl (d : Declaration) : d.Grows d :=
  ⟨List.Subset.refl _, List.Subset.refl _, List.Subset.refl _⟩

theorem Grows.trans {d'' : Declaration} (h : d.Grows d') (h' : d'.Grows d'') : d.Grows d'' :=
  ⟨List.Subset.trans h.fields h'.fields, List.Subset.trans h.methods h'.methods,
    List.Subset.trans h.constructors h'.constructors⟩

theorem Grows.signatures (h : d.Grows d') : d.signatures ⊆ d'.signatures := by
  intro signature hmem
  -- Signatures are told by members of their own kind.
  cases signature with
  | field name =>
    rw [field_mem_signatures] at hmem ⊢
    exact hmem.imp fun _ hf => ⟨h.fields hf.1, hf.2⟩
  | method name types =>
    rw [method_mem_signatures] at hmem ⊢
    exact hmem.imp fun _ hm => ⟨h.methods hm.1, hm.2⟩
  | constructor types =>
    rw [constructor_mem_signatures] at hmem ⊢
    exact hmem.imp fun _ hc => ⟨h.constructors hc.1, hc.2⟩

theorem grows_mergeMember (d : Declaration) (m : VirtualMember) : d.Grows (d.mergeMember m) := by
  cases m with
  | field f => exact { Grows.refl d with fields := List.subset_append_left _ _ }
  | method m => exact { Grows.refl d with methods := List.subset_append_left _ _ }
  | constructor c => exact { Grows.refl d with constructors := List.subset_append_left _ _ }

theorem grows_merge (d : Declaration) (members : List VirtualMember) :
    d.Grows (d.merge members) := by
  induction members generalizing d with
  | nil => exact .refl d
  | cons m members ih => exact (d.grows_mergeMember m).trans (ih (d.mergeMember m))

theorem signature_mem_mergeMember (d : Declaration) (m : VirtualMember) :
    m.signature ∈ (d.mergeMember m).signatures := by
  cases m <;> simp [VirtualMember.signature, mergeMember, signatures, VirtualField.toField,
    VirtualMethod.toMethod, VirtualConstructor.toConstructor]

/-- A declaration has the signatures of the members that were merged into it. -/
theorem signature_mem_merge (d : Declaration) (h : m ∈ members) :
    m.signature ∈ (d.merge members).signatures := by
  -- Once its signature is there it stays, as the rest only makes the declaration grow.
  induction members generalizing d with
  | nil => cases h
  | cons n members ih =>
    rcases List.mem_cons.1 h with rfl | h
    · exact (grows_merge _ members).signatures (d.signature_mem_mergeMember m)
    · exact ih (d.mergeMember n) h

/-- Methods and constructors leave the fields alone. -/
theorem merge_fields (d : Declaration) (h : ∀ m ∈ members, m.kind = .method) :
    (d.merge members).fields = d.fields := by
  induction members generalizing d with
  | nil => rfl
  | cons m members ih =>
    obtain ⟨hkind, hmembers⟩ := List.forall_mem_cons.1 h
    refine (ih (d.mergeMember m) hmembers).trans ?_
    cases m with
    | field f => cases hkind
    | method m => rfl
    | constructor c => rfl

end Declaration

/-! ## What enrichers add afterwards -/

/-- The enricher adds members whose parameters are selected among the methods. -/
def Enricher.TakesMethods (e : Enricher) : Prop :=
  (e.adds = some .method ∨ e.adds = some .constructor) ∧
    ∃ filter, e.filter = some filter ∧ filter.source = .methods

section Enriched

variable {d d' : Declaration} {e : Enricher} {kind : MemberKind}

/-- Such an enricher adds no field. -/
theorem addedOfKind_field_of_takesMethods (h : e.TakesMethods) : addedOfKind d .field e = [] := by
  rcases h.1 with hadds | hadds
  · rw [addedOfKind, hadds]
    rfl
  · rw [addedOfKind, hadds]
    rfl

/-- A member that is added unless it is there is not added once its signature is there. -/
theorem unless_eq_nil {there there' : Bool} {m m' : VirtualMember} {signatures : List Signature}
    (hkept : there = true → there' = true)
    (hadded : ∀ n ∈ (if there then [] else [m]), n.signature ∈ signatures)
    (hpresent : m.signature ∈ signatures → there' = true) :
    (if there' then [] else [m']) = [] := by
  -- Either it was there before and is so now, or it was added and its signature is there.
  cases there with
  | true => rw [if_pos (hkept rfl)]
  | false => rw [if_pos (hpresent (hadded m List.mem_cons_self))]

variable (h : d.Grows d')
include h

theorem addedField_eq_nil (hadded : ∀ m ∈ addedField d e, m.signature ∈ d'.signatures) :
    addedField d' e = [] := by
  refine unless_eq_nil (fun hthere => ?_) hadded fun hpresent => ?_
  · rcases Bool.or_eq_true_iff.1 hthere with hnamed | hfield
    · rw [hnamed, Bool.true_or]
    · have hmem := h.signatures (Declaration.field?_isSome_iff.1 hfield)
      rw [Declaration.field?_isSome_iff.2 hmem, Bool.or_true]
  · rw [Declaration.field?_isSome_iff.2 hpresent, Bool.or_true]

theorem methodsNamed_any {name : String} {p : Method → Bool}
    (hany : (d.methodsNamed name).any p = true) : (d'.methodsNamed name).any p = true := by
  obtain ⟨m, hm, hp⟩ := List.any_eq_true.1 hany
  obtain ⟨hmem, hname⟩ := Declaration.mem_methodsNamed.1 hm
  exact List.any_eq_true.2 ⟨m, Declaration.mem_methodsNamed.2 ⟨h.methods hmem, hname⟩, hp⟩

theorem addedMethod_eq_nil (hparams : e.parametersFor d' = e.parametersFor d)
    (hadded : ∀ m ∈ addedMethod d e, m.signature ∈ d'.signatures) : addedMethod d' e = [] := by
  rw [addedMethod, hparams]
  refine unless_eq_nil (fun hthere => ?_) hadded fun hpresent => ?_
  · -- What the test found among the methods before is among them now.
    rcases Bool.or_eq_true_iff.1 hthere with hnamed | hany
    · rw [hnamed, Bool.true_or]
    · rw [methodsNamed_any h hany, Bool.or_true]
  · rw [Declaration.similarMethod_of_signature hpresent, Bool.or_true]

theorem addedConstructor_eq_nil (hparams : e.parametersFor d' = e.parametersFor d)
    (hadded : ∀ m ∈ addedConstructor d e, m.signature ∈ d'.signatures) :
    addedConstructor d' e = [] := by
  rw [addedConstructor, hparams]
  refine unless_eq_nil (fun hthere => ?_) hadded fun hpresent => ?_
  · -- The same for constructors, which have no names.
    obtain ⟨c, hc, hsame⟩ := List.any_eq_true.1 hthere
    exact List.any_eq_true.2 ⟨c, h.constructors hc, hsame⟩
  · exact Declaration.similarConstructor_of_signature hpresent

theorem addedGetter_eq_nil {f : Field}
    (hadded : ∀ m ∈ addedGetter d f, m.signature ∈ d'.signatures) : addedGetter d' f = [] :=
  unless_eq_nil (methodsNamed_any h) hadded Declaration.getter_of_signature

theorem addedSetter_eq_nil {f : Field}
    (hadded : ∀ m ∈ addedSetter d f, m.signature ∈ d'.signatures) : addedSetter d' f = [] := by
  refine unless_eq_nil (fun hthere => ?_) hadded fun hpresent => ?_
  · rcases Bool.or_eq_true_iff.1 hthere with hstatic | hany
    · rw [hstatic, Bool.true_or]
    · rw [methodsNamed_any h hany, Bool.or_true]
  · rw [Declaration.setter_of_signature hpresent, Bool.or_true]

omit h in
/-- Members for each field, none of which is added again. -/
theorem flatten_eq_nil {added : Declaration → Field → List VirtualMember}
    (hfields : d'.fields = d.fields)
    (hnil : ∀ f, (∀ m ∈ added d f, m.signature ∈ d'.signatures) → added d' f = [])
    (hadded : ∀ m ∈ (d.fields.map (added d)).flatten, m.signature ∈ d'.signatures) :
    (d'.fields.map (added d')).flatten = [] := by
  rw [hfields, List.flatten_eq_nil_iff, List.forall_mem_map]
  intro f hf
  refine hnil f fun m hm => hadded m (List.mem_flatten.2 ⟨_, List.mem_map.2 ⟨f, hf, rfl⟩, hm⟩)

omit h in
/-- Parameters that are selected among the fields stay the same. -/
theorem parametersFor_of_fields (hfields : d'.fields = d.fields)
    (hfilter : ∀ filter, e.filter = some filter → filter.source = .fields) :
    e.parametersFor d' = e.parametersFor d := by
  cases hf : e.filter with
  | none => simp [Enricher.parametersFor, hf]
  | some filter =>
    have hselect : filter.select d' = filter.select d := by
      simp [ElementFilter.select, ElementFilter.candidates, hfilter filter hf, hfields]
    simp [Enricher.parametersFor, hf, hselect]

/-- What an enricher added is not added again, unless it takes methods as parameters and these have
changed. -/
theorem addedOfKind_eq_nil (hfields : kind = .method → d'.fields = d.fields)
    (hparams : e.TakesMethods → e.parametersFor d' = e.parametersFor d)
    (hadded : ∀ m ∈ addedOfKind d kind e, m.signature ∈ d'.signatures) :
    addedOfKind d' kind e = [] := by
  -- An enricher adds members of one kind only, so the cases are those of the kind it adds.
  rw [addedOfKind] at hadded ⊢
  cases hadds : e.adds with
  | none => rfl
  | some adds =>
    simp only [hadds] at hadded
    dsimp only
    split
    · rename_i hkind
      rw [if_pos hkind] at hadded
      have hsame (hbuilds : e.adds = some .method ∨ e.adds = some .constructor)
          (hmethod : kind = .method) : e.parametersFor d' = e.parametersFor d := by
        -- Parameters change only if they are selected among methods that were added.
        by_cases htakes : e.TakesMethods
        · exact hparams htakes
        · refine parametersFor_of_fields (hfields hmethod) fun filter hfilter => ?_
          cases hsource : filter.source with
          | fields => rfl
          | methods => exact absurd ⟨hbuilds, filter, hfilter, hsource⟩ htakes
      -- Getters and setters are methods, and where methods were added the fields are the same.
      cases adds with
      | field => exact addedField_eq_nil h hadded
      | method => exact addedMethod_eq_nil h (hsame (.inl hadds) hkind.symm) hadded
      | constructor => exact addedConstructor_eq_nil h (hsame (.inr hadds) hkind.symm) hadded
      | getter =>
        exact flatten_eq_nil (hfields hkind.symm) (fun f => addedGetter_eq_nil h) hadded
      | setter =>
        exact flatten_eq_nil (hfields hkind.symm) (fun f => addedSetter_eq_nil h) hadded
    · rfl

end Enriched

end PrototypeLens
