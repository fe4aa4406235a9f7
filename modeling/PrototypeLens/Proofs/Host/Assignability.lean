import Mathlib.Logic.Relation
import PrototypeLens.Proofs.Host.Ascent
import PrototypeLens.Proofs.Model.TypeText
import PrototypeLens.Proofs.Program.Checks

/-!
# Assignability

A type can be assigned by one of four rules: to its own name, to the root of all types, to its box,
or up its supertypes. Whether the walk that decides the last one arrives is a matter of what is
declared, and no cycle keeps it from an end. Two assignments in a row make one, unless a value is
boxed in just one of them.

## Layers

- `HasSupertype`: one step up. Any number of them is a path in the graph of supertypes.
- `Assignable`: the four rules, with one lemma for each kind of type.
- `Findable.isAssignable_spec`: the decision always ends, and is made by the rules.
- `BoxesMidway`: the two ways in which assignments do not compose.

## Main results

- References to named types: to the same name, to the root, or up one or more supertypes.
- `Assignable.trans_or_boxesMidway`: two assignments in a row, by the kind of the first type.
- When two assignments in a row make one, exactly: if they do not box a value midway.
-/

namespace PrototypeLens

open Relation

theorem Primitive.wrapper_ne_objectType (p : Primitive) : p.wrapper ≠ Host.objectType := by
  cases p <;> decide

namespace Host

variable {host : Host} {type : JavaType} {p : Primitive} {name mid target : String}

/-! ## Supertypes -/

/-- The declared type of a name lists another name among its supertypes. -/
def HasSupertype (host : Host) (name upper : String) : Prop :=
  ∃ decl, host.Declares name decl ∧ upper ∈ decl.supertypes

theorem reflTransGen_hasSupertype_iff_leads :
    ReflTransGen host.HasSupertype name target ↔
      ∃ k, host.supertypeGraph.Leads [name] k target := by
  constructor
  · intro h
    -- The induction is on the path; each of its steps is an edge of the graph.
    induction h with
    | refl => exact ⟨0, .start List.mem_cons_self⟩
    | tail _ hstep ih =>
      obtain ⟨k, hk⟩ := ih
      obtain ⟨decl, hdecl, hupper⟩ := hstep
      exact ⟨k + 1, .step hk (expand_typeGraph_eq_some_iff.2 ⟨hdecl, rfl⟩) hupper⟩
  · rintro ⟨k, h⟩
    induction h with
    | start hstart =>
      obtain rfl := List.mem_singleton.1 hstart
      exact .refl
    | step _ hexpand hupper ih =>
      obtain ⟨hdecl, hnext⟩ := expand_typeGraph_eq_some_iff.1 hexpand
      cases hnext
      exact ih.tail ⟨_, hdecl, hupper⟩

/-! ## The rules -/

/-- A value of a type can be assigned to the type of a name. -/
inductive Assignable (host : Host) : JavaType → String → Prop
  | same {type : JavaType} {target : String} :
      type.canonicalText = target → Assignable host type target
  | root {type : JavaType} : type ≠ .void → Assignable host type objectType
  | boxed {p : Primitive} : Assignable host (.primitive p) p.wrapper
  | upper {name target : String} :
      TransGen host.HasSupertype name target → Assignable host (.named name) target

theorem assignable_void_iff : host.Assignable .void target ↔ target = "void" := by
  constructor
  · intro h
    cases h with
    | same heq => exact heq.symm
    | root hne => exact absurd rfl hne
  · rintro rfl
    exact .same rfl

theorem assignable_primitive_iff : host.Assignable (.primitive p) target ↔
    target = p.keyword ∨ target = p.wrapper ∨ target = objectType := by
  constructor
  · intro h
    cases h with
    | same heq => exact .inl heq.symm
    | root => exact .inr (.inr rfl)
    | boxed => exact .inr (.inl rfl)
  · rintro (rfl | rfl | rfl)
    · exact .same rfl
    · exact .boxed
    · exact .root nofun

theorem assignable_array_iff : host.Assignable (.array type) target ↔
    target = (JavaType.array type).canonicalText ∨ target = objectType := by
  constructor
  · intro h
    cases h with
    | same heq => exact .inl heq.symm
    | root => exact .inr rfl
  · rintro (rfl | rfl)
    · exact .same rfl
    · exact .root nofun

theorem assignable_named_iff : host.Assignable (.named name) target ↔
    target = name ∨ target = objectType ∨ TransGen host.HasSupertype name target := by
  constructor
  · intro h
    cases h with
    | same heq => exact .inl heq.symm
    | root => exact .inr (.inl rfl)
    | upper h => exact .inr (.inr h)
  · rintro (rfl | rfl | h)
    · exact .same rfl
    · exact .root nofun
    · exact .upper h

/-- Whether a type can be assigned is always decided, and by the rules. -/
theorem Findable.isAssignable_spec (h : host.Findable) (type : JavaType) (target : String) :
    ∃ answer, host.isAssignable type target = .ok answer ∧
      (answer = true ↔ host.Assignable type target) := by
  unfold isAssignable
  by_cases hsame : type.canonicalText = target
  · exact ⟨true, if_pos hsame, iff_of_true rfl (.same hsame)⟩
  rw [if_neg hsame]
  -- What is left are the other rules, as the text of the type is not the target.
  have hother : target ≠ type.canonicalText := fun heq => hsame heq.symm
  cases type with
  | void => exact ⟨false, rfl, iff_of_false nofun fun h => hother (assignable_void_iff.1 h)⟩
  | primitive p =>
    refine ⟨_, rfl, ?_⟩
    have hother : target ≠ p.keyword := hother
    rw [assignable_primitive_iff, or_iff_right hother, Bool.or_eq_true, beq_iff_eq, beq_iff_eq,
      eq_comm]
  | array element =>
    refine ⟨_, rfl, ?_⟩
    rw [assignable_array_iff, or_iff_right hother, beq_iff_eq]
  | named name =>
    have hother : target ≠ name := hother
    by_cases hroot : target = objectType
    · exact ⟨true, if_pos hroot, iff_of_true rfl (assignable_named_iff.2 (.inr (.inl hroot)))⟩
    obtain ⟨journey, hjourney⟩ :=
      h.typeGraph_walk_ok (fun decl => some decl.supertypes) [name] (· == target)
    have hjourney : host.supertypeGraph.walk [name] (· == target) = .ok journey := hjourney
    refine ⟨journey.arrived, ?_, ?_⟩
    · simp only [if_neg hroot, hjourney, Except.map]
    -- Since the target is another name, the walk arrives after one step or more.
    · rw [Graph.walk_arrived_iff_leads hjourney, assignable_named_iff, or_iff_right hother,
        or_iff_right hroot]
      simp only [beq_iff_eq, exists_eq_left, ← reflTransGen_hasSupertype_iff_leads,
        reflTransGen_iff_eq_or_transGen, hother, false_or]

theorem Findable.isAssignable_eq_true_iff (h : host.Findable) :
    host.isAssignable type target = .ok true ↔ host.Assignable type target := by
  obtain ⟨answer, hanswer, hiff⟩ := h.isAssignable_spec type target
  rw [hanswer, Except.ok.injEq, hiff]

/-- A reference to a value of a named type can be assigned to a type of the same name, to the root
of all types, and to what one or more steps from declared types to their supertypes lead to. -/
theorem isAssignable_named_iff (h : host.Findable) (name target : String) :
    ∃ answer, host.isAssignable (.named name) target = .ok answer ∧
      (answer = true ↔ target = name ∨ target = objectType ∨
        TransGen host.HasSupertype name target) := by
  obtain ⟨answer, hanswer, hiff⟩ := h.isAssignable_spec (.named name) target
  exact ⟨answer, hanswer, hiff.trans assignable_named_iff⟩

end Host

/-- The box of `int` and its superclass, which implements an interface that is not declared. -/
def Program.boxes : Program :=
  .ofDeclarations [{ path := "src/java/lang/Types.java" }]
    [{ name := "Integer", qualifiedName := some "java.lang.Integer", kind := .classType, file := ⟨0⟩
       extended := ["java.lang.Number"] },
     { name := "Number", qualifiedName := some "java.lang.Number", kind := .classType, file := ⟨0⟩
       implemented := ["java.io.Serializable"] }]

theorem Program.findable_boxes : boxes.toHost.Findable :=
  (Consistent.ofDeclarations (by decide) (by decide)).healthy.findData_ok

theorem Program.hasSupertype_integer :
    boxes.toHost.HasSupertype "java.lang.Integer" "java.lang.Number" :=
  ⟨_, ⟨⟨0⟩, rfl⟩, List.mem_cons_self⟩

theorem Program.hasSupertype_number :
    boxes.toHost.HasSupertype "java.lang.Number" "java.io.Serializable" :=
  ⟨_, ⟨⟨1⟩, rfl⟩, List.mem_cons_self⟩

namespace Host

/-- The box of `int` can be assigned to an interface that is not declared. -/
theorem isAssignable_named_iff_boxes :
    Program.boxes.toHost.Findable ∧
      ∃ answer, Program.boxes.toHost.isAssignable (.named "java.lang.Integer")
          "java.io.Serializable" = .ok answer ∧
        (answer = true ↔ "java.io.Serializable" = "java.lang.Integer" ∨
          "java.io.Serializable" = objectType ∨
          TransGen Program.boxes.toHost.HasSupertype "java.lang.Integer" "java.io.Serializable") ∧
        answer = true := by
  obtain ⟨answer, hanswer, hiff⟩ := isAssignable_named_iff Program.findable_boxes
    "java.lang.Integer" "java.io.Serializable"
  have hreach := (TransGen.single Program.hasSupertype_integer).tail Program.hasSupertype_number
  exact ⟨Program.findable_boxes, answer, hanswer, hiff, hiff.2 (.inr (.inr hreach))⟩

/-! ## Two assignments in a row -/

variable {host : Host} {type : JavaType} {p : Primitive} {name mid target : String}

/-- Just one of two assignments boxes a value. Either a value of a primitive type goes to its box
and on to a supertype of the box, or one of a named type to a keyword, which is its name or that of
a supertype, and on to the box of the primitive type with that keyword. -/
inductive BoxesMidway (host : Host) : JavaType → String → String → Prop
  | first {p : Primitive} {target : String} :
      TransGen host.HasSupertype p.wrapper target → target ≠ p.keyword → target ≠ p.wrapper →
      target ≠ objectType → BoxesMidway host (.primitive p) p.wrapper target
  | last {p : Primitive} {name : String} :
      name ≠ p.wrapper → ¬ TransGen host.HasSupertype name p.wrapper →
      BoxesMidway host (.named name) p.keyword p.wrapper

theorem BoxesMidway.not_assignable (h : host.BoxesMidway type mid target) :
    ¬ host.Assignable type target := by
  cases h with
  | first _ hkeyword hbox hroot =>
    -- A primitive type goes to its keyword, its box and the root, and the target is none of these.
    rw [assignable_primitive_iff]
    exact fun h => h.elim hkeyword fun h => h.elim hbox hroot
  | @last p name hname hreach =>
    rw [assignable_named_iff]
    exact fun h => h.elim (fun heq => hname heq.symm) fun h => h.elim p.wrapper_ne_objectType hreach

/-- The root of all types can be assigned to nothing else. -/
theorem Assignable.eq_objectType
    (hroot : ∀ decl, host.Declares objectType decl → decl.supertypes = [])
    (h : host.Assignable (.parse objectType) target) :
    target = objectType := by
  have hread : JavaType.parse objectType = .named objectType := rfl
  rw [hread, assignable_named_iff] at h
  rcases h with h | h | h
  · exact h
  · exact h
  · -- There is a first step up from the root, but it has no supertypes.
    obtain ⟨_, ⟨decl, hdecl, hmem⟩, _⟩ := TransGen.head'_iff.1 h
    rw [hroot decl hdecl] at hmem
    cases hmem

/-- A primitive type goes by its box to what the box can be assigned to, unless that is above the
box. -/
theorem Assignable.of_wrapper (h : host.Assignable (.named p.wrapper) target) :
    host.Assignable (.primitive p) target ∨
      host.BoxesMidway (.primitive p) p.wrapper target := by
  by_cases hdirect : host.Assignable (.primitive p) target
  · exact .inl hdirect
  · rw [assignable_primitive_iff, not_or, not_or] at hdirect
    obtain ⟨hkeyword, hbox, hroot⟩ := hdirect
    have hup := ((assignable_named_iff.1 h).resolve_left hbox).resolve_left hroot
    exact .inr (.first hup hkeyword hbox hroot)

/-- A named type goes by its own name or that of a supertype to what a type with that text can be
assigned to, unless that is the box of a primitive type. -/
theorem Assignable.of_reflTransGen {middle : JavaType} (hmid : middle.canonicalText = mid)
    (hup : ReflTransGen host.HasSupertype name mid) (h : host.Assignable middle target) :
    host.Assignable (.named name) target ∨ host.BoxesMidway (.named name) mid target := by
  -- The rules of the second assignment decide; the first one only led up to the middle.
  cases h with
  | same heq =>
    obtain rfl : mid = target := hmid.symm.trans heq
    exact .inl (assignable_named_iff.2 ((reflTransGen_iff_eq_or_transGen.1 hup).imp_right .inr))
  | root => exact .inl (.root nofun)
  | @boxed p =>
    obtain rfl : p.keyword = mid := hmid
    by_cases hdirect : host.Assignable (.named name) p.wrapper
    · exact .inl hdirect
    · rw [assignable_named_iff, not_or, not_or] at hdirect
      obtain ⟨hname, _, hreach⟩ := hdirect
      exact .inr (.last (Ne.symm hname) hreach)
  | upper h =>
    obtain rfl := hmid
    exact .inl (.upper (TransGen.trans_right hup h))

/-- Two assignments in a row make one, unless they box a value midway. -/
theorem Assignable.trans_or_boxesMidway
    (hroot : ∀ decl, host.Declares objectType decl → decl.supertypes = [])
    (hread : (JavaType.parse mid).canonicalText = mid) (h : host.Assignable type mid)
    (h' : host.Assignable (.parse mid) target) :
    host.Assignable type target ∨ host.BoxesMidway type mid target := by
  -- The root of all types leads no further. Otherwise the kind of the type tells by which rule it
  -- comes to the name.
  by_cases hobject : mid = objectType
  · obtain rfl := hobject
    obtain rfl := h'.eq_objectType hroot
    exact .inl h
  cases type with
  | void =>
    -- Nothing but `void` itself can be assigned from `void`.
    obtain rfl := assignable_void_iff.1 h
    exact .inl h'
  | primitive p =>
    rcases assignable_primitive_iff.1 h with rfl | rfl | rfl
    · rw [JavaType.parse_keyword] at h'
      exact .inl h'
    · rw [JavaType.parse_wrapper] at h'
      exact h'.of_wrapper
    · exact absurd rfl hobject
  | array element =>
    -- What the text of an array is read as is an array with that text again.
    obtain rfl := (assignable_array_iff.1 h).resolve_right hobject
    have hparse : JavaType.parse (JavaType.array element).canonicalText =
        .array (.parse element.canonicalText) := JavaType.parse_append_brackets _
    rw [hparse] at hread h'
    rw [assignable_array_iff, hread] at h'
    exact .inl (assignable_array_iff.2 h')
  | named name =>
    -- A named type came to the middle by its own name or up its supertypes.
    refine h'.of_reflTransGen hread (reflTransGen_iff_eq_or_transGen.2 ?_)
    exact (assignable_named_iff.1 h).imp_right fun h => h.resolve_left hobject

/-- A type that can be assigned to a name, which is read as a type that can be assigned to another
one, can be assigned to that one, unless just one of the two assignments boxes a value. The root of
all types has no supertypes here, and the first name is written as the type that it is read as. -/
theorem isAssignable_trans_iff (h : host.Findable)
    (hroot : ∀ decl, host.Declares objectType decl → decl.supertypes = [])
    (hread : (JavaType.parse mid).canonicalText = mid)
    (hfirst : host.isAssignable type mid = .ok true)
    (hsecond : host.isAssignable (.parse mid) target = .ok true) :
    ∃ answer, host.isAssignable type target = .ok answer ∧
      (answer = false ↔ host.BoxesMidway type mid target) := by
  obtain ⟨answer, hanswer, hiff⟩ := h.isAssignable_spec type target
  refine ⟨answer, hanswer, ?_⟩
  rw [← Bool.not_eq_true, hiff]
  -- If the type cannot be assigned, only boxing midway is left.
  refine ⟨fun hnone => ?_, BoxesMidway.not_assignable⟩
  exact (((h.isAssignable_eq_true_iff).1 hfirst).trans_or_boxesMidway hroot hread
    (h.isAssignable_eq_true_iff.1 hsecond)).resolve_left hnone

-- A text with blanks stands for a type with another text.
example : host.isAssignable (.array (.named " a")) " a[]" = .ok true ∧
    host.isAssignable (.parse " a[]") "a[]" = .ok true ∧
    host.isAssignable (.array (.named " a")) "a[]" = .ok false := ⟨rfl, rfl, rfl⟩

theorem supertypes_objectType_boxes (decl : Declaration)
    (h : Program.boxes.toHost.Declares objectType decl) : decl.supertypes = [] := by
  obtain ⟨id, h⟩ := h
  -- The root is not declared in this program.
  have hnone : Program.boxes.toHost.findData objectType = .ok none := rfl
  cases hnone.symm.trans h

/-- The box of `int` goes on from its superclass to the interface of that. -/
theorem isAssignable_trans_iff_boxes :
    let host := Program.boxes.toHost
    let number := JavaType.parse "java.lang.Number"
    let box := JavaType.named "java.lang.Integer"
    host.Findable ∧ (∀ decl, host.Declares objectType decl → decl.supertypes = []) ∧
      number.canonicalText = "java.lang.Number" ∧
      host.isAssignable box "java.lang.Number" = .ok true ∧
      host.isAssignable number "java.io.Serializable" = .ok true ∧
      ∃ answer, host.isAssignable box "java.io.Serializable" = .ok answer ∧
        (answer = false ↔ host.BoxesMidway box "java.lang.Number" "java.io.Serializable") ∧
        answer = true := by
  intro host number box
  have hfind : host.Findable := Program.findable_boxes
  have hfirst : host.isAssignable box "java.lang.Number" = .ok true :=
    hfind.isAssignable_eq_true_iff.2 (.upper (.single Program.hasSupertype_integer))
  have hsecond : host.isAssignable number "java.io.Serializable" = .ok true :=
    hfind.isAssignable_eq_true_iff.2 (.upper (.single Program.hasSupertype_number))
  obtain ⟨answer, hanswer, hiff⟩ :=
    isAssignable_trans_iff hfind supertypes_objectType_boxes rfl hfirst hsecond
  have hreach := (TransGen.single Program.hasSupertype_integer).tail Program.hasSupertype_number
  have hdirect : host.isAssignable box "java.io.Serializable" = .ok true :=
    hfind.isAssignable_eq_true_iff.2 (.upper hreach)
  exact ⟨hfind, supertypes_objectType_boxes, rfl, hfirst, hsecond, answer, hanswer, hiff,
    Except.ok.inj (hanswer.symm.trans hdirect)⟩

/-- A value of type `int` can be assigned to its box, and the box to its superclass, but the value
not to the superclass. -/
theorem not_isAssignable_int_number :
    let host := Program.boxes.toHost
    host.Findable ∧ (∀ decl, host.Declares objectType decl → decl.supertypes = []) ∧
      host.isAssignable (.primitive .int) "java.lang.Integer" = .ok true ∧
      host.isAssignable (.parse "java.lang.Integer") "java.lang.Number" = .ok true ∧
      host.isAssignable (.primitive .int) "java.lang.Number" = .ok false := by
  intro host
  have hfind : host.Findable := Program.findable_boxes
  have hsecond : host.isAssignable (.parse "java.lang.Integer") "java.lang.Number" = .ok true :=
    hfind.isAssignable_eq_true_iff.2 (.upper (.single Program.hasSupertype_integer))
  exact ⟨hfind, supertypes_objectType_boxes, rfl, hsecond, rfl⟩

end Host

end PrototypeLens
