import PrototypeLens.Augment.Enriched
import PrototypeLens.Augment.Inherited

/-!
# Signatures of members

When two members have the same signature. The canonical text of a type determines how an editor
shows it: what stands after its last dot. So parameter lists that look different differ in their
canonical texts, and a test by looks lets no member through whose signature is taken.

## Layers

- The texts of types: `JavaType.presentableText_eq` tells the shown text by the canonical one.
- Signatures that are taken: which members have them, and the tests that find these members.
- `firstByKey`: of items in a row the first one of each key that is not taken.

## Main results

- `sameParameters_of_paramTypes`: the same canonical types look the same.
- `nodup_firstByKey` and `key_mem_firstByKey`: no key twice, and every free one once.
- `firstByKey_eq_nil_of_added`: once all of them are taken, nothing is left.
- `least_of_mem_firstByKey`: where near items come first, a nearest one of each key is left.
-/

namespace PrototypeLens

/-! ## The texts of types -/

namespace Text

/-- Characters behind a dotted name belong to its simple name, unless there is a dot among
them. -/
theorem simpleName_append (name : String) {ending : String} (h : '.' ∉ ending.toList) :
    simpleName (name ++ ending) = simpleName name ++ ending := by
  have hending : '.' ∉ ending.toList.reverse := by simpa using h
  simp only [simpleName, splitLast?, String.toList_append, List.reverse_append,
    splitFirst?_append hending]
  cases splitFirst? '.' name.toList.reverse with
  | none => rfl
  | some parts => simp

theorem simpleName_of_not_dotted {name : String} (h : '.' ∉ name.toList) :
    simpleName name = name := by
  have hnone : splitFirst? '.' name.toList.reverse = none :=
    splitFirst?_eq_none_iff.2 (by simpa using h)
  rw [simpleName, splitLast?, hnone]
  rfl

end Text

namespace JavaType

/-- An editor shows the part of the canonical text after the last dot. -/
theorem presentableText_eq (type : JavaType) :
    type.presentableText = Text.simpleName type.canonicalText := by
  -- The shown text and the canonical text part only at named types; array brackets have no dot.
  induction type with
  | void => exact (Text.simpleName_of_not_dotted (by decide)).symm
  | primitive p => exact (Text.simpleName_of_not_dotted (by cases p <;> decide)).symm
  | named name => rfl
  | array element ih =>
    rw [presentableText, canonicalText, ih, Text.simpleName_append _ (by decide)]

end JavaType

theorem paramTypes_eq_map (ps : List Parameter) :
    ps.map (·.type.presentableText) = (paramTypes ps).map Text.simpleName := by
  simp [paramTypes, JavaType.presentableText_eq]

/-- Parameter lists with the same canonical types look the same. -/
theorem sameParameters_of_paramTypes {ps qs : List Parameter} (h : paramTypes ps = paramTypes qs) :
    sameParameters ps qs = true := by
  simp [sameParameters, paramTypes_eq_map, h]

theorem paramTypes_eq_nil_iff {ps : List Parameter} : paramTypes ps = [] ↔ ps = [] :=
  List.map_eq_nil_iff

/-! ## Signatures that are taken -/

namespace Declaration

variable {d : Declaration} {name : String} {types : List String}

theorem field_mem_signatures :
    Signature.field name ∈ d.signatures ↔ ∃ f ∈ d.fields, f.name = name := by
  simp [signatures]

theorem method_mem_signatures :
    Signature.method name types ∈ d.signatures ↔
      ∃ m ∈ d.methods, m.name = name ∧ paramTypes m.params = types := by
  simp [signatures]

theorem constructor_mem_signatures :
    Signature.constructor types ∈ d.signatures ↔
      ∃ c ∈ d.constructors, paramTypes c.params = types := by
  simp [signatures]

theorem field?_isSome_iff :
    (d.field? name).isSome = true ↔ Signature.field name ∈ d.signatures := by
  simp [field?, field_mem_signatures]

theorem mem_methodsNamed {m : Method} :
    m ∈ d.methodsNamed name ↔ m ∈ d.methods ∧ m.name = name := by
  simp [methodsNamed]

/-- Where the signature of a method is taken, a test finds the method by its canonical parameter
types. -/
theorem methodsNamed_any_of_signature {p : Method → Bool}
    (h : Signature.method name types ∈ d.signatures)
    (hp : ∀ m : Method, paramTypes m.params = types → p m = true) :
    (d.methodsNamed name).any p = true := by
  obtain ⟨m, hm, hname, htypes⟩ := method_mem_signatures.1 h
  exact List.any_eq_true.2 ⟨m, mem_methodsNamed.2 ⟨hm, hname⟩, hp m htypes⟩

/-- A method with the same canonical parameter types looks the same. -/
theorem similarMethod_of_signature {ps : List Parameter}
    (h : Signature.method name (paramTypes ps) ∈ d.signatures) :
    (d.methodsNamed name).any (fun m => sameParameters m.params ps) = true :=
  methodsNamed_any_of_signature h fun _ => sameParameters_of_paramTypes

theorem similarConstructor_of_signature {ps : List Parameter}
    (h : Signature.constructor (paramTypes ps) ∈ d.signatures) :
    d.constructors.any (fun c => sameParameters c.params ps) = true := by
  obtain ⟨c, hc, htypes⟩ := constructor_mem_signatures.1 h
  exact List.any_eq_true.2 ⟨c, hc, sameParameters_of_paramTypes htypes⟩

theorem getter_of_signature (h : Signature.method name [] ∈ d.signatures) :
    (d.methodsNamed name).any (·.params.isEmpty) = true :=
  methodsNamed_any_of_signature h fun _ htypes =>
    List.isEmpty_iff.2 (paramTypes_eq_nil_iff.1 htypes)

theorem setter_of_signature {type : String} (h : Signature.method name [type] ∈ d.signatures) :
    (d.methodsNamed name).any (fun m => paramTypes m.params == [type]) = true :=
  methodsNamed_any_of_signature h fun _ => beq_iff_eq.2

end Declaration

/-! ## The first item of each key -/

section FirstByKey

variable {α κ : Type} [DecidableEq κ] {key : α → κ} {taken : List κ} {as : List α} {a : α}

theorem mem_of_mem_firstByKey (h : a ∈ firstByKey key taken as) : a ∈ as := by
  -- The induction is on the items, with the taken keys open: each item that is left adds its own.
  induction as generalizing taken with
  | nil => exact h
  | cons b as ih =>
    rw [firstByKey] at h
    split at h
    · exact List.mem_cons_of_mem _ (ih h)
    · rcases List.mem_cons.1 h with rfl | h
      · exact List.mem_cons_self
      · exact List.mem_cons_of_mem _ (ih h)

theorem key_not_mem_of_mem_firstByKey (h : a ∈ firstByKey key taken as) : key a ∉ taken := by
  induction as generalizing taken with
  -- What is left later is free of the keys that were taken meanwhile, and so of those from the
  -- start.
  | nil => cases h
  | cons b as ih =>
    rw [firstByKey] at h
    split at h
    · exact ih h
    · rename_i hb
      rcases List.mem_cons.1 h with rfl | h
      · exact hb
      · exact fun hmem => ih h (List.mem_cons_of_mem _ hmem)

/-- No key comes twice. -/
theorem nodup_firstByKey : ((firstByKey key taken as).map key).Nodup := by
  induction as generalizing taken with
  | nil => exact .nil
  | cons b as ih =>
    rw [firstByKey]
    split
    · exact ih
    · rw [List.map_cons, List.nodup_cons]
      refine ⟨fun hmem => ?_, ih⟩
      obtain ⟨a, ha, hkey⟩ := List.mem_map.1 hmem
      exact key_not_mem_of_mem_firstByKey ha (hkey ▸ List.mem_cons_self)

/-- A key that is left out was taken, or came before. -/
theorem key_mem_firstByKey (key : α → κ) (taken : List κ) (h : a ∈ as) :
    key a ∈ taken ∨ key a ∈ (firstByKey key taken as).map key := by
  induction as generalizing taken with
  | nil => cases h
  | cons b as ih =>
    rw [firstByKey]
    split
    · rename_i hb
      rcases List.mem_cons.1 h with rfl | h
      · exact .inl hb
      · exact ih taken h
    · rw [List.map_cons, List.mem_cons]
      rcases List.mem_cons.1 h with rfl | h
      · exact .inr (.inl rfl)
      · -- What the rest leaves out may have the key of this item.
        rcases ih (key b :: taken) h with hmem | hmem
        · exact (List.mem_cons.1 hmem).symm.imp_right .inl
        · exact .inr (.inr hmem)

/-- Nothing is left if every key is taken. -/
theorem firstByKey_eq_nil_iff : firstByKey key taken as = [] ↔ ∀ a ∈ as, key a ∈ taken := by
  constructor
  · intro hnil a ha
    rcases key_mem_firstByKey key taken ha with hmem | hmem
    · -- Every key was taken or is left, and none is left.
      exact hmem
    · rw [hnil] at hmem
      cases hmem
  · intro h
    refine List.eq_nil_iff_forall_not_mem.2 fun a ha => ?_
    exact key_not_mem_of_mem_firstByKey ha (h a (mem_of_mem_firstByKey ha))

/-- Nothing is left once the keys of all that was left before are taken as well. -/
theorem firstByKey_eq_nil_of_added {taken' : List κ} (hkept : taken ⊆ taken')
    (hadded : ∀ a ∈ firstByKey key taken as, key a ∈ taken') : firstByKey key taken' as = [] := by
  refine firstByKey_eq_nil_iff.2 fun a ha => ?_
  rcases key_mem_firstByKey key taken ha with hold | hnew
  · exact hkept hold
  · -- The first item of that key was left.
    obtain ⟨b, hb, hkey⟩ := List.mem_map.1 hnew
    exact hkey ▸ hadded b hb

theorem firstByKey_nil_eq_nil_iff : firstByKey key [] as = [] ↔ as = [] := by
  rw [firstByKey_eq_nil_iff, List.eq_nil_iff_forall_not_mem]
  exact forall₂_congr fun a _ => by simp

/-- Items with keys of their own stay, whatever comes behind them. -/
theorem firstByKey_append (hfree : ∀ a ∈ as, key a ∉ taken) (hnodup : (as.map key).Nodup)
    (bs : List α) : ∃ rest, rest ⊆ bs ∧ firstByKey key taken (as ++ bs) = as ++ rest := by
  -- Each of the items is left in turn, as the keys before it are others.
  induction as generalizing taken with
  | nil => exact ⟨firstByKey key taken bs, fun _ => mem_of_mem_firstByKey, rfl⟩
  | cons a as ih =>
    obtain ⟨ha, hfree⟩ := List.forall_mem_cons.1 hfree
    obtain ⟨hnew, hnodup⟩ := List.nodup_cons.1 hnodup
    have hfree' : ∀ b ∈ as, key b ∉ key a :: taken := fun b hb hmem =>
      (List.mem_cons.1 hmem).elim (fun heq => hnew (heq ▸ List.mem_map_of_mem hb)) (hfree b hb)
    obtain ⟨rest, hrest, heq⟩ := ih hfree' hnodup
    exact ⟨rest, hrest, by rw [List.cons_append, firstByKey, if_neg ha, heq, List.cons_append]⟩

/-- Where near items come first, the item that is left of a key is as near as any of that key. -/
theorem least_of_mem_firstByKey {levels : List (Nat × α)}
    (hsorted : levels.Pairwise fun p q => p.1 ≤ q.1)
    (h : a ∈ firstByKey key taken (levels.map Prod.snd)) :
    ∃ k, (k, a) ∈ levels ∧ ∀ j b, (j, b) ∈ levels → key b = key a → k ≤ j := by
  -- The induction is on the items, with the taken keys open; the order of the distances is kept in
  -- the rest.
  induction levels generalizing taken with
  | nil => cases h
  | cons p levels ih =>
    obtain ⟨i, b⟩ := p
    obtain ⟨hle, hsorted⟩ := List.pairwise_cons.1 hsorted
    rw [List.map_cons, firstByKey] at h
    -- The first item is the one, or has another key.
    have hlater {taken' : List κ} (hmem : a ∈ firstByKey key taken' (levels.map Prod.snd))
        (hne : key b ≠ key a) :
        ∃ k, (k, a) ∈ (i, b) :: levels ∧
          ∀ j c, (j, c) ∈ (i, b) :: levels → key c = key a → k ≤ j := by
      obtain ⟨k, hk, hleast⟩ := ih hsorted hmem
      refine ⟨k, List.mem_cons_of_mem _ hk, fun j c hc hkey => ?_⟩
      rcases List.mem_cons.1 hc with heq | hc
      · cases heq
        exact absurd hkey hne
      · exact hleast j c hc hkey
    split at h
    · rename_i hb
      exact hlater h fun heq => key_not_mem_of_mem_firstByKey h (heq ▸ hb)
    · rcases List.mem_cons.1 h with rfl | h
      · refine ⟨i, List.mem_cons_self, fun j c hc _ => ?_⟩
        rcases List.mem_cons.1 hc with heq | hc
        · cases heq
          exact Nat.le_refl i
        · exact hle _ hc
      · exact hlater h fun heq =>
          key_not_mem_of_mem_firstByKey h (heq ▸ List.mem_cons_self)

end FirstByKey

end PrototypeLens
