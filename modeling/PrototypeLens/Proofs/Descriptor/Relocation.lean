import PrototypeLens.Proofs.Descriptor.Segments

/-!
# Explicit packages

A descriptor can name the package of the generated type. The type of a prototype that is not nested,
or that the descriptor names as well, stands in that package. A nested one without such a name is
hoisted only after it was put there, so that it loses the last segment of the package.

## Layers

- A package and a simple name joined: `Text.append_inj` reads both off their join.
- `hoistedPackage`: what hoisting does to such a name, told by its package alone.
- `dropSegments_dropSuffixes_append`: the other conventions shorten the simple name only.
- `relocatedPackage` and `generatedSimpleName`: the two parts of the generated name.

## Main results

- `generatedName_eq_relocated`: the generated name is those two joined.
- Whether it stands in the explicit package itself, for every descriptor that gives one: exactly if
  the type is not nested, is named explicitly or the package has one segment.
-/

namespace PrototypeLens

namespace Text

variable {package simple : String}

theorem segments_append (package : String) (hsimple : '.' ∉ simple.toList) :
    segments (package ++ "." ++ simple) = segments package ++ [simple.toList] := by
  have htext : (package ++ "." ++ simple).toList = package.toList ++ '.' :: simple.toList := by
    simp
  rw [segments, htext, splitAt_eq_splitOn, List.splitOn_append_cons_self,
    List.splitOn_eq_singleton hsimple, segments, splitAt_eq_splitOn]

/-- A package and a simple name can be read off their join. -/
theorem append_inj {package' simple' : String} (hsimple : '.' ∉ simple.toList)
    (hsimple' : '.' ∉ simple'.toList)
    (h : package ++ "." ++ simple = package' ++ "." ++ simple') : package = package' := by
  -- The simple names are the last segments of the joins, so that the packages are what stands
  -- before.
  have hsegs := congrArg segments h
  rw [segments_append _ hsimple, segments_append _ hsimple'] at hsegs
  rw [← dotted_segments package, (List.append_inj' hsegs rfl).1, dotted_segments]

theorem not_dotted_simpleName (name : String) : '.' ∉ (simpleName name).toList := by
  rw [simpleName]
  cases hlast : splitLast? '.' name.toList with
  | none => exact splitLast?_eq_none_iff.1 hlast
  | some parts => simpa using (splitLast?_eq_some hlast).2

theorem packageName?_eq_none_iff : packageName? package = none ↔ '.' ∉ package.toList := by
  rw [packageName?, Option.map_eq_none_iff, splitLast?_eq_none_iff]

/-- The package of a name is the name without its last segment. -/
theorem packageName?_eq_some {outer : String} (h : packageName? package = some outer) :
    ∃ last, '.' ∉ last.toList ∧ package = outer ++ "." ++ last := by
  obtain ⟨⟨before, after⟩, hsplit, rfl⟩ := Option.map_eq_some_iff.1 h
  obtain ⟨hpackage, hafter⟩ := splitLast?_eq_some hsplit
  refine ⟨String.ofList after, by simpa using hafter, ?_⟩
  rw [← String.toList_inj, hpackage]
  simp

end Text

/-! ## Conventions on a relocated name -/

/-- What hoisting leaves of the package of a name: all but its last segment, if it has another. -/
def hoistedPackage (package : String) : String := (Text.packageName? package).getD package

section Conventions

variable {package simple : String}

theorem hoistedPackage_eq_self_iff : hoistedPackage package = package ↔ '.' ∉ package.toList := by
  rw [hoistedPackage, ← Text.packageName?_eq_none_iff]
  cases houter : Text.packageName? package with
  | none => exact iff_of_true rfl rfl
  | some outer =>
    obtain ⟨last, -, hpackage⟩ := Text.packageName?_eq_some houter
    refine iff_of_false (fun hsame => ?_) (Option.some_ne_none _)
    rw [Option.getD_some] at hsame
    -- A package with an outer one is longer than that.
    have hlength := congrArg (·.toList.length) hpackage
    simp [hsame] at hlength

/-- The segments of the hoisted package are segments of the package. -/
theorem segments_hoistedPackage_subset (package : String) :
    Text.segments (hoistedPackage package) ⊆ Text.segments package := by
  rw [hoistedPackage]
  cases houter : Text.packageName? package with
  | none => exact List.Subset.refl _
  | some outer =>
    obtain ⟨last, hlast, rfl⟩ := Text.packageName?_eq_some houter
    rw [Text.segments_append _ hlast]
    exact List.subset_append_left _ _

theorem hoist_append (package : String) (hsimple : '.' ∉ simple.toList) :
    hoist (package ++ "." ++ simple) = hoistedPackage package ++ "." ++ simple := by
  have htext : (package ++ "." ++ simple).toList = package.toList ++ '.' :: simple.toList := by
    simp
  rw [hoist, htext, Text.splitLast?_append hsimple, hoistedPackage, Text.packageName?]
  dsimp only
  -- Hoisting out of a package of one segment would leave nothing, so the name stays.
  cases Text.splitLast? '.' package.toList with
  | none => rfl
  | some parts =>
    rw [← String.toList_inj]
    simp

theorem not_dotted_dropSuffixes (hsimple : '.' ∉ simple.toList) :
    '.' ∉ (dropSuffixes simple).toList := by
  rw [dropSuffixes_eq, String.toList_ofList]
  exact fun hdot => hsimple ((shortened_prefix_self simple.toList).subset hdot)

theorem withoutAlternate_eq_self {inner : List (List Char)} (hinner : prototypeSegment ∉ inner) :
    withoutAlternate inner = inner := by
  rw [(withoutAlternate_eq_iff inner).2 fun hinside => hinner (hinside.subset (by simp))]
  refine List.filter_eq_self.2 fun segment hsegment => decide_eq_true fun hsame => ?_
  exact hinner (hsame ▸ hsegment)

/-- Where the package has no `prototype` segment, only the simple name is shortened. -/
theorem dropSegments_dropSuffixes_append (hpackage : prototypeSegment ∉ Text.segments package)
    (hsimple : '.' ∉ simple.toList) :
    dropSegments (dropSuffixes (package ++ "." ++ simple)) =
      package ++ "." ++ dropSuffixes simple := by
  have hshort : (dropSuffixes simple).toList = shortened simple.toList := by
    rw [dropSuffixes_eq, String.toList_ofList]
  obtain ⟨first, inner, hsegs⟩ := List.exists_cons_of_ne_nil (Text.segments_ne_nil package)
  rw [hsegs] at hpackage
  -- The segments behind the first one of the package are the inner ones of the whole name.
  rw [dropSegments_dropSuffixes, Text.segments_append _ hsimple, hsegs, List.cons_append,
    renamed_append, withoutAlternate_eq_self fun h => hpackage (List.mem_cons_of_mem _ h),
    ← List.cons_append, ← hsegs, ← hshort,
    ← Text.segments_append _ (not_dotted_dropSuffixes hsimple), Text.dotted_segments]

/-- Of a nested type the conventions see the package without its last segment. -/
theorem dropSegments_dropSuffixes_hoist (hpackage : prototypeSegment ∉ Text.segments package)
    (hsimple : '.' ∉ simple.toList) :
    dropSegments (dropSuffixes (hoist (package ++ "." ++ simple))) =
      hoistedPackage package ++ "." ++ dropSuffixes simple := by
  rw [hoist_append package hsimple, dropSegments_dropSuffixes_append _ hsimple]
  exact fun hmem => hpackage (segments_hoistedPackage_subset package hmem)

end Conventions

namespace Descriptor

/-! ## The generated type in an explicit package -/

/-- The simple name of the generated type: the explicit one, else the shortened one of the
prototype, which is marked for the implementation strategy. -/
def generatedSimpleName (d : Descriptor) (name : String) : String :=
  d.explicitTarget.1.getD
    (dropSuffixes (Text.simpleName name) ++ if d.strategy == .implementation then "Impl" else "")

/-- What is left of an explicit package: the name of a nested type is hoisted inside it, unless it
is explicit as well. -/
def relocatedPackage (d : Descriptor) (package : String) (nested : Bool) : String :=
  if nested && d.explicitTarget.1.isNone then hoistedPackage package else package

section Relocation

variable {d : Descriptor} {package : String}

theorem not_dotted_generatedSimpleName
    (hsimple : ∀ simple ∈ d.explicitTarget.1, '.' ∉ simple.toList) (name : String) :
    '.' ∉ (d.generatedSimpleName name).toList := by
  rw [generatedSimpleName]
  cases hname : d.explicitTarget.1 with
  | some simple => exact hsimple simple hname
  | none =>
    -- The marker of the implementation has no dot in it.
    have hshort := not_dotted_dropSuffixes (Text.not_dotted_simpleName name)
    rw [Option.getD_none, String.toList_append, List.mem_append, not_or]
    exact ⟨hshort, by split <;> decide⟩

theorem relocatedPackage_eq_self_iff (d : Descriptor) (package : String) (nested : Bool) :
    d.relocatedPackage package nested = package ↔
      (nested = true → d.explicitTarget.1 = none → '.' ∉ package.toList) := by
  rw [relocatedPackage]
  cases nested with
  | false => exact iff_of_true rfl nofun
  | true => cases hname : d.explicitTarget.1 <;> simp [hoistedPackage_eq_self_iff]

theorem generatedName_eq_relocated (hpackage : d.explicitTarget.2 = some package)
    (hsegment : prototypeSegment ∉ Text.segments package) (name : String) (nested : Bool) :
    generatedName (some d) name nested =
      d.relocatedPackage package nested ++ "." ++ d.generatedSimpleName name := by
  have hsimple := Text.not_dotted_simpleName name
  have htarget : d.explicitTarget = (d.explicitTarget.1, some package) := by rw [← hpackage]
  rw [generatedName, NameDraft.ofDescriptor, generatedSimpleName, relocatedPackage, htarget]
  -- An explicit name is put into the explicit package as it is.
  cases d.explicitTarget.1 with
  | some simple => simp
  | none =>
    -- The name is put into the package before it is hoisted.
    have hdropped : dropSegments (dropSuffixes
        (if nested then hoist (package ++ "." ++ Text.simpleName name)
          else package ++ "." ++ Text.simpleName name)) =
        (if nested then hoistedPackage package else package) ++ "." ++
          dropSuffixes (Text.simpleName name) := by
      cases nested with
      | true => exact dropSegments_dropSuffixes_hoist hsegment hsimple
      | false => exact dropSegments_dropSuffixes_append hsegment hsimple
    dsimp only
    rw [hdropped]
    cases d.strategy <;> simp [String.append_assoc]

/-- With an explicit package the generated name is a simple name without dots in what hoisting
leaves of the package. So it stands in the package itself exactly if the type is not nested, is
named explicitly or the package is a single segment. -/
theorem generatedName_explicitPackage_iff (hpackage : d.explicitTarget.2 = some package)
    (hsegment : prototypeSegment ∉ Text.segments package)
    (hsimple : ∀ simple ∈ d.explicitTarget.1, '.' ∉ simple.toList) (name : String)
    (nested : Bool) :
    generatedName (some d) name nested =
        d.relocatedPackage package nested ++ "." ++ d.generatedSimpleName name ∧
      '.' ∉ (d.generatedSimpleName name).toList ∧
      ((∃ simple : String, '.' ∉ simple.toList ∧
          generatedName (some d) name nested = package ++ "." ++ simple) ↔
        (nested = true → d.explicitTarget.1 = none → '.' ∉ package.toList)) := by
  have hname := generatedName_eq_relocated hpackage hsegment name nested
  have hgenerated := not_dotted_generatedSimpleName hsimple name
  refine ⟨hname, hgenerated, ?_⟩
  rw [← relocatedPackage_eq_self_iff, hname]
  constructor
  · -- Two dotless simple names end where the same package ends.
    rintro ⟨simple, hdot, hjoin⟩
    exact Text.append_inj hgenerated hdot hjoin
  · intro hkept
    exact ⟨_, hgenerated, by rw [hkept]⟩

end Relocation

/-- An implementation in a package of its own. -/
def movedImplementation : Descriptor :=
  { classPackage := some "com.y", interfacePackage := some "com.z", strategy := .implementation }

theorem generatedName_explicitPackage_iff_movedImplementation :
    movedImplementation.explicitTarget.2 = some "com.y" ∧
      prototypeSegment ∉ Text.segments "com.y" ∧
      (∀ simple ∈ movedImplementation.explicitTarget.1, '.' ∉ simple.toList) ∧
      generatedName (some movedImplementation) "com.x.FooPrototype" false = "com.y.FooImpl" ∧
      generatedName (some movedImplementation) "com.x.FooPrototype" false =
        movedImplementation.relocatedPackage "com.y" false ++ "." ++
          movedImplementation.generatedSimpleName "com.x.FooPrototype" ∧
      '.' ∉ (movedImplementation.generatedSimpleName "com.x.FooPrototype").toList ∧
      ((∃ simple : String, '.' ∉ simple.toList ∧
          generatedName (some movedImplementation) "com.x.FooPrototype" false =
            "com.y" ++ "." ++ simple) ↔
        (false = true → movedImplementation.explicitTarget.1 = none → '.' ∉ "com.y".toList)) := by
  have hpackage : movedImplementation.explicitTarget.2 = some "com.y" := by decide
  have hsegment : prototypeSegment ∉ Text.segments "com.y" := by decide
  have hsimple : ∀ simple ∈ movedImplementation.explicitTarget.1, '.' ∉ simple.toList := nofun
  exact ⟨hpackage, hsegment, hsimple, by rfl,
    generatedName_explicitPackage_iff hpackage hsegment hsimple _ _⟩

/-- An interface in a package of its own. -/
def movedInterface : Descriptor := { interfacePackage := some "com.y" }

/-- A nested type loses the last segment of its package instead of the type around it. -/
theorem generatedName_leaves_package :
    movedInterface.explicitTarget = (none, some "com.y") ∧
      generatedName (some movedInterface) "com.x.Outer.InnerPrototype" true = "com.Inner" ∧
      ¬ ∃ simple : String, '.' ∉ simple.toList ∧
        generatedName (some movedInterface) "com.x.Outer.InnerPrototype" true =
          "com.y" ++ "." ++ simple := by
  have hname : generatedName (some movedInterface) "com.x.Outer.InnerPrototype" true =
      "com.Inner" := by rfl
  refine ⟨by decide, hname, ?_⟩
  rintro ⟨simple, hdot, hjoin⟩
  have hsame : "com" ++ "." ++ "Inner" = "com.y" ++ "." ++ simple := hname.symm.trans hjoin
  exact absurd (Text.append_inj (by decide) hdot hsame) (by decide)

end Descriptor

end PrototypeLens
