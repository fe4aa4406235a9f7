import Mathlib.Data.List.Nodup
import Mathlib.Data.String.Basic
import PrototypeLens.Proofs.Descriptor.Marking

/-!
# Attributes in any order

What the attributes of a usage make of a descriptor can be told by their names alone: each field is
set by the attribute of its own, and what has no field goes to the settings, which keep their order.
So the order in which the attributes are written does not show, with one exception. The interface
name is set by two attributes, `interfaceName` and `name`, and the last of them decides.

## Layers

- `CustomSettings.insert_comm`: settings with different keys may be inserted in any order.
- `given`: a descriptor told field by field from the attributes, without going through them.
- `takeUsage_eq_given`: attributes with different names, taken one after the other, make just that.
- `takeUsage_refused_iff`: a usage is refused exactly if one of its attributes is.

## Main results

- `given_perm`: only the interface name depends on the order.
- `lastInterface?_perm`: it does not either where no two attributes give different ones.
- Reading a usage in any order of its attributes: refused in both orders or in neither, and the same
  descriptor but for the interface name, of which is told what it is.
-/

namespace PrototypeLens

/-! ## Settings in any order -/

namespace CustomSettings

theorem insertOrdered_comm {key other : String} (hne : key ≠ other) (value held : CustomValue)
    (entries : List (String × CustomValue)) :
    insertOrdered key value (insertOrdered other held entries) =
      insertOrdered other held (insertOrdered key value entries) := by
  -- Both insertions walk down the same ordered entries, so the cases are where each of them stops.
  induction entries with
  | nil => grind [insertOrdered]
  | cons entry rest ih => grind [insertOrdered]

theorem insert_comm {key other : String} (hne : key ≠ other) (settings : CustomSettings)
    (value held : CustomValue) :
    (settings.insert other held).insert key value =
      (settings.insert key value).insert other held :=
  congrArg mk (insertOrdered_comm hne value held settings.entries)

end CustomSettings

namespace Descriptor

variable {resolve : String → Except QueryError (Option Enricher)} {d d' : Descriptor}
  {attr : Attr AttrValue} {attrs attrs' : List (Attr AttrValue)} {name : String}

/-! ## What attributes give -/

/-- The value that is given under a name. -/
def givenValue? (attrs : List (Attr AttrValue)) (name : String) : Option AttrValue :=
  (attrs.find? fun attr => attr.name == name).map (·.value)

/-- The interface name that an attribute gives; that of `name` is derived. -/
def interfaceText? (attr : Attr AttrValue) : Option String :=
  if attr.name = "name" then attr.value.nonBlankText?.map (Text.replace "Entity" "")
  else if attr.name = "interfaceName" then attr.value.text?
  else none

/-- The interface name that the last attribute gives that gives one. -/
def lastInterface? (attrs : List (Attr AttrValue)) : Option String :=
  attrs.reverse.findSome? interfaceText?

/-- The attributes that set fields. -/
def fieldAttributes : List String :=
  ["name", "interfaceName", "interfacePackage", "implementationPackage", "basePath",
   "interfacePath", "implementationPath", "generateConstructor", "generateImplementation",
   "generateInterface", "classGetters", "classSetters", "interfaceSetters", "base", "strategy",
   "enrichers", "inheritedEnrichers"]

/-- What the attributes of a usage make of a descriptor, field by field. -/
def given (resolve : String → Except QueryError (Option Enricher)) (d : Descriptor)
    (attrs : List (Attr AttrValue)) : Descriptor :=
  let text (name : String) := (givenValue? attrs name).bind AttrValue.nonBlankText?
  let flag (name : String) := (givenValue? attrs name).bind AttrValue.bool?
  let enrichers (name : String) :=
    (givenValue? attrs name).bind fun value => (resolveEnrichers resolve value).toOption
  { name := (text "name").or d.name
    interfaceName := (lastInterface? attrs).or d.interfaceName
    interfacePackage := (text "interfacePackage").or d.interfacePackage
    className := (text "name").or d.className
    classPackage := (text "implementationPackage").or d.classPackage
    basePath := (text "basePath").or d.basePath
    interfacePath := (text "interfacePath").or d.interfacePath
    implementationPath := (text "implementationPath").or d.implementationPath
    longModifierName :=
      ((text "name").map fun name => Text.replace "Entity" "" name ++ ".Modify").or
        d.longModifierName
    generateInterface := (flag "generateInterface").getD d.generateInterface
    generateImplementation := (flag "generateImplementation").getD d.generateImplementation
    generateConstructor := (flag "generateConstructor").getD d.generateConstructor
    classGetters := (flag "classGetters").getD d.classGetters
    classSetters := (flag "classSetters").getD d.classSetters
    interfaceSetters := (flag "interfaceSetters").getD d.interfaceSetters
    base := (flag "base").getD d.base
    strategy := ((givenValue? attrs "strategy").bind fun value =>
      value.enumConstant?.bind Strategy.ofConstant?).getD d.strategy
    enrichers := (enrichers "enrichers").getD d.enrichers
    inheritedEnrichers := (enrichers "inheritedEnrichers").getD d.inheritedEnrichers
    custom := (attrs.filter fun attr => !fieldAttributes.contains attr.name).foldl
      (fun custom attr => custom.insert attr.name (.attr attr.value)) d.custom }

@[simp] theorem givenValue?_cons (attr : Attr AttrValue) (attrs : List (Attr AttrValue))
    (name : String) : givenValue? (attr :: attrs) name =
      if attr.name = name then some attr.value else givenValue? attrs name := by
  rw [givenValue?, List.find?_cons, givenValue?]
  by_cases hname : attr.name = name
  · simp [hname]
  · simp [hname, beq_eq_false_iff_ne.2 hname]

@[simp] theorem lastInterface?_cons (attr : Attr AttrValue) (attrs : List (Attr AttrValue)) :
    lastInterface? (attr :: attrs) = (lastInterface? attrs).or (interfaceText? attr) := by
  rw [lastInterface?, List.reverse_cons, List.findSome?_append, lastInterface?]
  simp

theorem given_nil (d : Descriptor) : given resolve d [] = d := by
  cases d
  simp [given, givenValue?, lastInterface?]

/-! ## One attribute after the other -/

theorem given_setCustom (hname : name ∉ fieldAttributes) (d : Descriptor) (value : AttrValue)
    (span : Option Span) (attrs : List (Attr AttrValue)) :
    given resolve (d.setCustom name (.attr value)) attrs =
      given resolve d (⟨name, value, span⟩ :: attrs) := by
  simp only [fieldAttributes, List.mem_cons, List.not_mem_nil, or_false, not_or] at hname
  simp [given, setCustom, interfaceText?, fieldAttributes, hname]

/-- Taking an attribute first and the others from there is giving all of them at once, if no other
has its name. -/
theorem given_takePlain {value : AttrValue} (span : Option Span)
    (hfresh : givenValue? attrs name = none) (hstrategy : name ≠ "strategy")
    (henrichers : name ≠ "enrichers") (hinherited : name ≠ "inheritedEnrichers") :
    given resolve (takePlain .usage d name value) attrs =
      given resolve d (⟨name, value, span⟩ :: attrs) := by
  unfold takePlain
  split
  case h_1 =>
    -- A blank name derives nothing.
    cases htext : value.nonBlankText? <;>
      simp [given, interfaceText?, fieldAttributes, contributedText?, withName, hfresh, htext]
  case h_2 => simp [given, interfaceText?, fieldAttributes, Option.or_assoc]
  case h_15 =>
    refine given_setCustom ?_ d value span attrs
    simp only [fieldAttributes, List.mem_cons, List.not_mem_nil]
    tauto
  all_goals simp [given, interfaceText?, fieldAttributes, contributedText?, hfresh]

theorem given_takeAttr {usage : String} (hfresh : givenValue? attrs attr.name = none)
    (h : takeAttr resolve .usage usage d attr.name attr.value = .ok d') :
    given resolve d' attrs = given resolve d (attr :: attrs) := by
  obtain ⟨name, value, span⟩ := attr
  dsimp only at hfresh h
  -- Three attributes are read first and may be refused; the fourth case is that of all others.
  unfold takeAttr at h
  split at h
  case h_4 hstrategy henrichers hinherited =>
    cases h
    exact given_takePlain span hfresh hstrategy henrichers hinherited
  -- The other attributes are read before they set their field, and refused where that fails.
  all_goals
    split at h
    · rename_i hread
      cases h
      simp [given, interfaceText?, fieldAttributes, hfresh, hread, Except.toOption]
    · cases h

theorem givenValue?_eq_some_iff (hdistinct : (attrs.map (·.name)).Nodup) {value : AttrValue} :
    givenValue? attrs name = some value ↔
      ∃ attr ∈ attrs, attr.name = name ∧ attr.value = value := by
  induction attrs with
  | nil => simp [givenValue?]
  | cons attr attrs ih =>
    obtain ⟨hfresh, hdistinct⟩ := List.nodup_cons.1 hdistinct
    rw [givenValue?_cons]
    split
    · rename_i hname
      -- No other attribute has the name of the first one.
      refine ⟨fun h => ⟨attr, List.mem_cons_self, hname, Option.some.inj h⟩, ?_⟩
      rintro ⟨other, hmem, hother, rfl⟩
      rcases List.mem_cons.1 hmem with rfl | hmem
      · rfl
      · exact absurd (List.mem_map.2 ⟨other, hmem, hother.trans hname.symm⟩) hfresh
    · rename_i hname
      rw [ih hdistinct]
      simp [hname]

theorem eq_given_of_foldlM {usage : String} (hdistinct : (attrs.map (·.name)).Nodup)
    (h : attrs.foldlM (fun d attr => takeAttr resolve .usage usage d attr.name attr.value) d =
      .ok d') : d' = given resolve d attrs := by
  -- The induction leaves the descriptor open: the rest of the attributes is taken into what the
  -- first one made of it.
  induction attrs generalizing d with
  | nil =>
    cases h
    exact (given_nil _).symm
  | cons attr attrs ih =>
    obtain ⟨hfresh, hdistinct⟩ := List.nodup_cons.1 hdistinct
    rw [List.foldlM_cons] at h
    cases hfirst : takeAttr resolve .usage usage d attr.name attr.value with
    | error e =>
      rw [hfirst] at h
      cases h
    | ok d₁ =>
      rw [hfirst] at h
      -- None of the attributes behind has the name of the first one, so the first one alone sets
      -- its field.
      have hnone : givenValue? attrs attr.name = none := by
        rw [Option.eq_none_iff_forall_ne_some]
        intro value hvalue
        obtain ⟨other, hmem, hname, _⟩ := (givenValue?_eq_some_iff hdistinct).1 hvalue
        exact hfresh (List.mem_map.2 ⟨other, hmem, hname⟩)
      rw [ih hdistinct h, given_takeAttr hnone hfirst]

/-- Taking a usage whose attributes have different names sets each field by the attribute of its
own. -/
theorem takeUsage_eq_given {mark : AnnotationUse} (hdistinct : (mark.attrs.map (·.name)).Nodup)
    (h : d.takeUsage resolve mark = .ok d') :
    d' = given resolve (d.setCustom prototypeKey (.text mark.name)) mark.attrs :=
  eq_given_of_foldlM hdistinct h

/-! ## Refusals -/

/-- What each step refuses whatever came before, all of them refuse exactly if one of them does. -/
theorem exists_foldlM_eq_error_iff {ε α β : Type} {f : β → α → Except ε β}
    (hstep : ∀ b a e, f b a = .error e → ∀ b', f b' a = .error e) {as : List α} {b : β} :
    (∃ e, as.foldlM f b = .error e) ↔ ∃ a ∈ as, ∃ e, f b a = .error e := by
  induction as generalizing b with
  | nil => exact iff_of_false (fun ⟨_, h⟩ => nomatch h) (fun ⟨_, h, _⟩ => nomatch h)
  | cons a as ih =>
    rw [List.foldlM_cons]
    cases hfirst : f b a with
    | error e => exact iff_of_true ⟨e, rfl⟩ ⟨a, List.mem_cons_self, e, hfirst⟩
    | ok b₁ =>
      -- What an attribute is refused for does not depend on the descriptor.
      have hrest : (∃ a ∈ as, ∃ e, f b₁ a = .error e) ↔ ∃ a ∈ as, ∃ e, f b a = .error e :=
        exists_congr fun a => and_congr_right fun _ =>
          exists_congr fun e => ⟨fun h => hstep b₁ a e h b, fun h => hstep b a e h b₁⟩
      refine (ih (b := b₁)).trans (hrest.trans ?_)
      simp [hfirst]

/-- A usage is refused exactly if one of its attributes is. -/
theorem takeUsage_refused_iff {mark : AnnotationUse} :
    (∃ e, d.takeUsage resolve mark = .error e) ↔
      ∃ attr ∈ mark.attrs, ∃ e, takeAttr resolve .usage mark.name
        (d.setCustom prototypeKey (.text mark.name)) attr.name attr.value = .error e :=
  exists_foldlM_eq_error_iff fun _ _ _ h => takeAttr_eq_error h

/-! ## Other orders -/

theorem givenValue?_perm (hperm : attrs'.Perm attrs) (hdistinct : (attrs.map (·.name)).Nodup) :
    givenValue? attrs' = givenValue? attrs := by
  have hdistinct' : (attrs'.map (·.name)).Nodup := (hperm.map _).nodup_iff.2 hdistinct
  funext name
  refine Option.ext fun value => ?_
  simp only [givenValue?_eq_some_iff hdistinct, givenValue?_eq_some_iff hdistinct', hperm.mem_iff]

/-- Only the interface name depends on the order of the attributes. -/
theorem given_perm (hperm : attrs'.Perm attrs) (hdistinct : (attrs.map (·.name)).Nodup)
    (d : Descriptor) : given resolve d attrs' =
      { given resolve d attrs with
        interfaceName := (lastInterface? attrs').or d.interfaceName } := by
  -- Settings are inserted in the order of the attributes; two that differ in name may change
  -- places.
  have hcustom := (hperm.filter fun attr => !fieldAttributes.contains attr.name).foldl_eq'
    (f := fun (custom : CustomSettings) attr => custom.insert attr.name (.attr attr.value))
    (fun first hfirst second hsecond custom => by
      by_cases hname : second.name = first.name
      · -- Equal names mean the same attribute, since the names are distinct.
        have hmem := (List.mem_filter.1 hfirst).1
        have hmem' := (List.mem_filter.1 hsecond).1
        have hdistinct' : (attrs'.map (·.name)).Nodup := (hperm.map _).nodup_iff.2 hdistinct
        rw [List.inj_on_of_nodup_map hdistinct' hmem' hmem hname]
      · exact custom.insert_comm hname _ _) d.custom
  simp only [given, givenValue?_perm hperm hdistinct, hcustom]

/-- No two attributes give different interface names. -/
def NamesOneInterface (attrs : List (Attr AttrValue)) : Prop :=
  ∀ attr ∈ attrs, ∀ other ∈ attrs, ∀ text text', interfaceText? attr = some text →
    interfaceText? other = some text' → text = text'

theorem lastInterface?_perm (hperm : attrs'.Perm attrs) (hone : NamesOneInterface attrs) :
    lastInterface? attrs' = lastInterface? attrs := by
  have hmem : ∀ attr, attr ∈ attrs'.reverse ↔ attr ∈ attrs.reverse := by
    simp [hperm.mem_iff]
  rw [lastInterface?, lastInterface?]
  -- Which attribute is last differs between the orders, so compare what any two of them give.
  cases hfound : attrs.reverse.findSome? interfaceText? with
  | none =>
    rw [List.findSome?_eq_none_iff] at hfound ⊢
    exact fun attr hattr => hfound attr ((hmem attr).1 hattr)
  | some text =>
    obtain ⟨attr, hattr, htext⟩ := List.exists_of_findSome?_eq_some hfound
    cases hfound' : attrs'.reverse.findSome? interfaceText? with
    | none =>
      have hnone := List.findSome?_eq_none_iff.1 hfound' attr ((hmem attr).2 hattr)
      exact nomatch hnone.symm.trans htext
    | some text' =>
      obtain ⟨other, hother, htext'⟩ := List.exists_of_findSome?_eq_some hfound'
      rw [hone attr (List.mem_reverse.1 hattr) other (List.mem_reverse.1 ((hmem other).1 hother))
        text text' htext htext']

/-- Attributes with different names may be written in any order: either order is refused, or both
make the same descriptor but for the interface name. This is what the last attribute tells that
tells one, so that it is the same as well unless two attributes give different interface names. -/
theorem takeUsage_perm {mark : AnnotationUse} (hperm : attrs'.Perm mark.attrs)
    (hdistinct : (mark.attrs.map (·.name)).Nodup) (d : Descriptor)
    (resolve : String → Except QueryError (Option Enricher)) :
    (∃ e e', d.takeUsage resolve mark = .error e ∧
      d.takeUsage resolve { mark with attrs := attrs' } = .error e') ∨
    ∃ r r', d.takeUsage resolve mark = .ok r ∧
      d.takeUsage resolve { mark with attrs := attrs' } = .ok r' ∧
      r' = { r with interfaceName := (lastInterface? attrs').or d.interfaceName } ∧
      (NamesOneInterface mark.attrs → r' = r) := by
  have hrefused : (∃ e, d.takeUsage resolve { mark with attrs := attrs' } = .error e) ↔
      ∃ e, d.takeUsage resolve mark = .error e := by
    simp only [takeUsage_refused_iff, hperm.mem_iff]
  cases htake : d.takeUsage resolve mark with
  | error e =>
    obtain ⟨e', htake'⟩ := hrefused.2 ⟨e, htake⟩
    exact .inl ⟨e, e', rfl, htake'⟩
  | ok r =>
    cases htake' : d.takeUsage resolve { mark with attrs := attrs' } with
    | error e' =>
      obtain ⟨e, herror⟩ := hrefused.1 ⟨e', htake'⟩
      cases htake.symm.trans herror
    | ok r' =>
      -- Both descriptors are now told by their attributes, so that their orders can be compared.
      have hr := takeUsage_eq_given hdistinct htake
      have hr' := takeUsage_eq_given ((hperm.map _).nodup_iff.2 hdistinct) htake'
      have hsame := hr'.trans (given_perm hperm hdistinct _)
      refine .inr ⟨r, r', rfl, rfl, ?_, fun hone => ?_⟩
      · rw [hr]
        exact hsame
      · rw [hsame, lastInterface?_perm hperm hone, hr]
        rfl

/-! ### A name and an interface name -/

/-- The usage `@Entity(interfaceName = "Shown", strategy = IMPLEMENTATION, mixIn = Base.class)`. -/
def shownEntity : AnnotationUse where
  name := "a.Entity"
  attrs := [⟨"interfaceName", .text "Shown", none⟩,
    ⟨"strategy", .enumConstant "GenerationStrategy" "IMPLEMENTATION", none⟩,
    ⟨"mixIn", .classLiteral "a.Base", none⟩]

theorem takeUsage_perm_shownEntity :
    shownEntity.attrs.reverse.Perm shownEntity.attrs ∧
      (shownEntity.attrs.map (·.name)).Nodup ∧
      ((∃ e e', takeUsage (fun _ => .ok none) {} shownEntity = .error e ∧
        takeUsage (fun _ => .ok none) {}
          { shownEntity with attrs := shownEntity.attrs.reverse } = .error e') ∨
      ∃ r r', takeUsage (fun _ => .ok none) {} shownEntity = .ok r ∧
        takeUsage (fun _ => .ok none) {}
          { shownEntity with attrs := shownEntity.attrs.reverse } = .ok r' ∧
        r' = { r with interfaceName := (lastInterface? shownEntity.attrs.reverse).or none } ∧
        (NamesOneInterface shownEntity.attrs → r' = r)) := by
  have hdistinct : (shownEntity.attrs.map (·.name)).Nodup := by decide
  exact ⟨List.reverse_perm _, hdistinct, takeUsage_perm (List.reverse_perm _) hdistinct {} _⟩

/-- The usage `@Entity(interfaceName = "Shown", name = "AccountEntity")`. -/
def shownAccount : AnnotationUse where
  name := "a.Entity"
  attrs := [⟨"interfaceName", .text "Shown", none⟩, ⟨"name", .text "AccountEntity", none⟩]

/-- An interface name is overwritten by the one that is derived from a name behind it, and stays if
the name stands before it. -/
theorem takeUsage_not_perm_shownAccount :
    shownAccount.attrs.reverse.Perm shownAccount.attrs ∧
      (shownAccount.attrs.map (·.name)).Nodup ∧
      (takeUsage (fun _ => .ok none) {} shownAccount).map (·.interfaceName) =
        .ok (some "Account") ∧
      (takeUsage (fun _ => .ok none) {}
        { shownAccount with attrs := shownAccount.attrs.reverse }).map (·.interfaceName) =
        .ok (some "Shown") :=
  ⟨List.reverse_perm _, by decide, by rfl, by rfl⟩

end Descriptor

end PrototypeLens
