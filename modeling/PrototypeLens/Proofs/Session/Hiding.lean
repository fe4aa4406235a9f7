import PrototypeLens.Proofs.Origin.Meaning
import PrototypeLens.Proofs.Session.Mending
import PrototypeLens.Proofs.Session.Origins
import PrototypeLens.Proofs.Session.Roots

/-!
# Prototypes that hide what was generated from them

Asked for the origin of a name, a session looks for the prototype. When this fails for a malformed
strategy, the declaration of the name is told not to be generated, though its marker is as it should
be. Without the strategy it is told to be.

## Layers

- `exec_origin?_first`: a first session tells the declared origin if the lookup for the prototype
  succeeds, and fails with that lookup otherwise.
- `TellsOrigin`: the two questions about an origin, taken together. `tellsOrigin_of_first` turns a
  failure of the lookup into no origin.
- `Hides`: a prototype that is lost so. `not_hides_of_alike` and `hides_iff_of_misused` are the two
  cases of a lookup on the two hosts.
- `OriginsDifferBy`: the two origins differ exactly by what is hidden.

## Main results

- `originsDifferBy_of_told`: the case of a declaration that tells a prototype.
- On a healthy host and on the one without the malformed strategies of other declarations, the
  origins of any name differ exactly by what is hidden.
- A prototype whose strategy does not exist, and the class that was generated from it.
-/

namespace PrototypeLens

variable {scope : Scope} {name : String}

/-! ## Origins in a first session -/

namespace Lookup

/-- A first session tells the origin of a declaration unless the lookup for the prototype fails. -/
theorem exec_origin?_first {found : Option Declaration}
    (hfound : declarationOf? scope name = pure found) :
    ((origin? scope name).exec ⟨{}, {}⟩).1 =
      match found.bind (originOf? scope.settings.generatedMarkers) with
      | none => .ok none
      | some prototype =>
        ((prototype? scope prototype).exec ⟨{}, {}⟩).1.map fun _ => some prototype := by
  -- Nothing is known of the name, so that its declaration is looked for.
  rw [origin?, hfound]
  cases found with
  | none => rfl
  | some decl =>
    show ((checkGenerated scope (registerClass scope) name decl).exec ⟨{}, {}⟩).1 = _
    rw [Option.bind_some, checkGenerated]
    cases originOf? scope.settings.generatedMarkers decl with
    | none => rfl
    | some prototype =>
      -- Nothing is known of the prototype either.
      simp only [prototype?]
      cases scope.host.find prototype with
      | error e => rfl
      | ok target =>
        cases target with
        | none => rfl
        | some id =>
          show ((discard (registerClass scope id) >>= fun _ => do
              record (·.publishGenerated 0 name decl.file prototype)
              pure (some prototype) : Lookup (Option String)).exec ⟨{}, {}⟩).1 =
            ((registerClass scope id).exec ⟨{}, {}⟩).1.map fun _ => some prototype
          rw [SessionM.exec_bind, SessionM.exec_discard]
          rcases (registerClass scope id).exec ⟨{}, {}⟩ with ⟨out, s⟩
          cases out <;> rfl

/-- The declarations of a name on the two hosts tell the same origin. -/
theorem bind_originOf?_mendedBut (markers : List String) (found : Option Declaration)
    (kept : String) :
    (found.map (·.mendedBut kept)).bind (originOf? markers) = found.bind (originOf? markers) := by
  cases found with
  | none => rfl
  | some decl => exact originOf?_mendedBut markers decl kept

end Lookup

/-! ## Hidden origins -/

namespace Request

/-- What a first session answers about the origin of a name. -/
def TellsOrigin (scope : Scope) (name : String) (origin : Option String) : Prop :=
  ((prototypeOf scope name).exec ⟨{}, {}⟩).1 = .ok origin ∧
    ((isGenerated scope name).exec ⟨{}, {}⟩).1 = .ok origin.isSome

theorem tellsOrigin_of_ok {origin : Option String}
    (horigin : ((Lookup.origin? scope name).exec ⟨{}, {}⟩).1 = .ok origin) :
    TellsOrigin scope name origin := by
  -- Both questions are the same lookup, contained.
  rcases hexec : (Lookup.origin? scope name).exec ⟨{}, {}⟩ with ⟨out, s⟩
  rw [hexec] at horigin
  obtain rfl : out = .ok origin := horigin
  constructor
  · rw [prototypeOf, exec_contain_ok hexec]
  · have hsome : (return (← Lookup.origin? scope name).isSome : Lookup Bool).exec ⟨{}, {}⟩ =
        (.ok origin.isSome, s) := SessionM.exec_bind_ok hexec
    rw [isGenerated, exec_contain_ok hsome]

theorem tellsOrigin_of_error {e : LookupError}
    (herror : ((Lookup.origin? scope name).exec ⟨{}, {}⟩).1 = .error e)
    (hquery : ∀ cause, e ≠ .query cause) : TellsOrigin scope name none := by
  rcases hexec : (Lookup.origin? scope name).exec ⟨{}, {}⟩ with ⟨out, s⟩
  rw [hexec] at herror
  obtain rfl : out = .error e := herror
  constructor
  · rw [prototypeOf, exec_contain_error hexec hquery]
  · have hfail : (return (← Lookup.origin? scope name).isSome : Lookup Bool).exec ⟨{}, {}⟩ =
        (.error e, s) := SessionM.exec_bind_error hexec
    rw [isGenerated, exec_contain_error hfail hquery]
    rfl

/-- A prototype that is declared as an origin is told where the lookup for it succeeds. -/
theorem tellsOrigin_of_first {found : Option Declaration} {prototype : String}
    (hfound : Lookup.declarationOf? scope name = pure found)
    (htold : found.bind (Lookup.originOf? scope.settings.generatedMarkers) = some prototype)
    (hanswered : (Lookup.prototype? scope prototype).Answered) : TellsOrigin scope name
      (((Lookup.prototype? scope prototype).exec ⟨{}, {}⟩).1.toOption.map fun _ => prototype) := by
  have hout := Lookup.exec_origin?_first hfound
  rw [htold] at hout
  cases hlookup : ((Lookup.prototype? scope prototype).exec ⟨{}, {}⟩).1 with
  | ok descriptor =>
    apply tellsOrigin_of_ok
    simp only [hout, hlookup]
    rfl
  | error e =>
    refine tellsOrigin_of_error (e := e) ?_ ?_
    · simp only [hout, hlookup]
      rfl
    · -- A query error would be handed on, and the lookup has none on a healthy host.
      rintro cause rfl
      exact hanswered ⟨{}, {}⟩ cause hlookup

/-- The declaration of the name tells that it was generated from the prototype. The lookup for this
one fails for a malformed strategy on another declaration, and does not fail without those
strategies. -/
def Hides (scope : Scope) (name prototype : String) : Prop :=
  (∃ decl, scope.host.Declares name decl ∧
    decl.GeneratedFrom scope.settings.generatedMarkers prototype) ∧
  (∃ usage, scope.host.Misuses name usage ∧
    ((Lookup.prototype? scope prototype).exec ⟨{}, {}⟩).1 =
      .error (.malformedAttribute usage "strategy")) ∧
  ∃ found, ((Lookup.prototype? (scope.mendedBut name) prototype).exec ⟨{}, {}⟩).1 = .ok found

theorem hides_iff {found : Option Declaration} (hfound : scope.host.Finds name found)
    {prototype : String} : Hides scope name prototype ↔
      found.bind (Lookup.originOf? scope.settings.generatedMarkers) = some prototype ∧
      (∃ usage, scope.host.Misuses name usage ∧
        ((Lookup.prototype? scope prototype).exec ⟨{}, {}⟩).1 =
          .error (.malformedAttribute usage "strategy")) ∧
      ∃ found, ((Lookup.prototype? (scope.mendedBut name) prototype).exec ⟨{}, {}⟩).1 =
        .ok found := by
  refine and_congr_left' ?_
  simp only [Option.bind_eq_some_iff, Lookup.originOf?_eq_some_iff]
  refine exists_congr fun decl => and_congr_left fun _ => ?_
  -- A name has one declaration, the one that was found.
  exact ⟨fun hdecl => hfound.unique hdecl.finds,
    fun hdecl => Host.finds_some_iff.1 (hdecl ▸ hfound)⟩

/-- Where the lookups for the prototype end alike on the two hosts, nothing is hidden. -/
theorem not_hides_of_alike {found : Option Declaration} (hfound : scope.host.Finds name found)
    {prototype : String}
    (htold : found.bind (Lookup.originOf? scope.settings.generatedMarkers) = some prototype)
    (halike : ((Lookup.prototype? (scope.mendedBut name) prototype).exec ⟨{}, {}⟩).1 =
      ((Lookup.prototype? scope prototype).exec ⟨{}, {}⟩).1) (p : String) :
    ¬ Hides scope name p := by
  rw [hides_iff hfound, htold]
  rintro ⟨hp, ⟨usage, _, hfail⟩, descriptor, hok⟩
  cases hp
  cases hok.symm.trans (halike.trans hfail)

/-- Where the lookup for the prototype fails for a malformed strategy, the prototype is hidden if
and only if the lookup succeeds without the strategy. -/
theorem hides_iff_of_misused {found : Option Declaration} (hfound : scope.host.Finds name found)
    {prototype usage : String}
    (htold : found.bind (Lookup.originOf? scope.settings.generatedMarkers) = some prototype)
    (husage : scope.host.Misuses name usage)
    (hfail : ((Lookup.prototype? scope prototype).exec ⟨{}, {}⟩).1 =
      .error (.malformedAttribute usage "strategy")) (p : String) :
    Hides scope name p ↔ p = prototype ∧ ∃ descriptor,
      ((Lookup.prototype? (scope.mendedBut name) prototype).exec ⟨{}, {}⟩).1 = .ok descriptor := by
  rw [hides_iff hfound, htold]
  constructor
  · rintro ⟨hp, -, hok⟩
    cases hp
    exact ⟨rfl, hok⟩
  · rintro ⟨rfl, hok⟩
    exact ⟨rfl, ⟨usage, husage, hfail⟩, hok⟩

/-- The origins that the two hosts tell differ exactly where a prototype is hidden, and then in
it. -/
def OriginsDifferBy (scope : Scope) (name : String) (origin origin' : Option String) : Prop :=
  (origin = origin' ↔ ∀ prototype, ¬ Hides scope name prototype) ∧
    ∀ prototype, Hides scope name prototype → origin = none ∧ origin' = some prototype

theorem OriginsDifferBy.refl (hnone : ∀ prototype, ¬ Hides scope name prototype)
    (origin : Option String) : OriginsDifferBy scope name origin origin :=
  ⟨iff_of_true rfl hnone, fun prototype hidden => absurd hidden (hnone prototype)⟩

theorem OriginsDifferBy.of_hides {prototype : String} (hidden : Hides scope name prototype)
    (hunique : ∀ p, Hides scope name p → p = prototype) :
    OriginsDifferBy scope name none (some prototype) := by
  refine ⟨iff_of_false nofun fun hnone => hnone prototype hidden, fun p hp => ?_⟩
  obtain rfl := hunique p hp
  exact ⟨rfl, rfl⟩

/-- Where the declaration tells a prototype, the lookups for it on the two hosts decide what is
told. -/
theorem originsDifferBy_of_told {found : Option Declaration} (hfound : scope.host.Finds name found)
    {prototype : String}
    (htold : found.bind (Lookup.originOf? scope.settings.generatedMarkers) = some prototype)
    (hmends : Lookup.Mends (scope.host.Misuses name) (Lookup.prototype? scope prototype)
      (Lookup.prototype? (scope.mendedBut name) prototype)) :
    OriginsDifferBy scope name
      (((Lookup.prototype? scope prototype).exec ⟨{}, {}⟩).1.toOption.map fun _ => prototype)
      (((Lookup.prototype? (scope.mendedBut name) prototype).exec ⟨{}, {}⟩).1.toOption.map
        fun _ => prototype) := by
  obtain ⟨_, _, hagrees⟩ := hmends
  rcases hagrees ⟨{}, {}⟩ with halike | ⟨usage, husage, hfail⟩
  · -- They end alike, so that the same is told.
    have hnone := not_hides_of_alike hfound htold (congrArg Prod.fst halike)
    rw [halike]
    exact .refl hnone _
  · -- The first one fails for a strategy; it hides the prototype if the second one succeeds.
    have hhides := hides_iff_of_misused hfound htold husage hfail
    rw [hfail]
    cases hout : ((Lookup.prototype? (scope.mendedBut name) prototype).exec ⟨{}, {}⟩).1 with
    | ok descriptor =>
      exact .of_hides ((hhides prototype).2 ⟨rfl, descriptor, hout⟩) fun p hp => ((hhides p).1 hp).1
    | error e =>
      refine .refl (fun p hp => ?_) none
      obtain ⟨-, descriptor, hok⟩ := (hhides p).1 hp
      cases hout.symm.trans hok

/-- On a healthy host and on the one without the malformed strategies of other declarations, first
sessions agree on the origin of a name, unless these strategies hide it: then the first host tells
none, and the other one the prototype. -/
theorem origin_mendedBut_iff {host : Host} (h : host.Healthy) (settings : DiscoverySettings)
    (name : String) : ∃ origin origin',
      TellsOrigin ⟨host, settings⟩ name origin ∧
      TellsOrigin ⟨host.mendedBut name, settings⟩ name origin' ∧
      (origin = origin' ↔ ∀ prototype, ¬ Hides ⟨host, settings⟩ name prototype) ∧
      ∀ prototype, Hides ⟨host, settings⟩ name prototype →
        origin = none ∧ origin' = some prototype := by
  let scope : Scope := ⟨host, settings⟩
  have hhealthy : scope.host.Healthy := h
  obtain ⟨found, hfound, hfound', -⟩ := Lookup.exists_declarationOf? hhealthy name name
  have hexec : (Lookup.declarationOf? scope name).exec ⟨{}, {}⟩ = (.ok found, ⟨{}, {}⟩) := by
    rw [hfound]
    rfl
  have hfinds : scope.host.Finds name found := (Lookup.exec_declarationOf?_eq_ok hexec).1
  have hsame := Lookup.bind_originOf?_mendedBut settings.generatedMarkers found name
  -- The two declarations of the name tell the same prototype, if any.
  cases htold : found.bind (Lookup.originOf? scope.settings.generatedMarkers) with
  | none =>
    have htold' : (found.map (·.mendedBut name)).bind
        (Lookup.originOf? (scope.mendedBut name).settings.generatedMarkers) = none :=
      hsame.trans htold
    have horigin := Lookup.exec_origin?_first hfound
    have horigin' := Lookup.exec_origin?_first hfound'
    rw [htold] at horigin
    rw [htold'] at horigin'
    have hnone (prototype : String) : ¬ Hides scope name prototype := by
      rw [hides_iff hfinds, htold]
      -- Nothing can be hidden where nothing is told.
      exact fun hidden => nomatch hidden.1
    exact ⟨none, none, tellsOrigin_of_ok horigin, tellsOrigin_of_ok horigin',
      OriginsDifferBy.refl hnone none⟩
  | some prototype =>
    have hmends : Lookup.Mends (scope.host.Misuses name) (Lookup.prototype? scope prototype)
        (Lookup.prototype? (scope.mendedBut name) prototype) :=
      Lookup.mends_prototype? hhealthy prototype
    exact ⟨_, _, tellsOrigin_of_first hfound htold hmends.answered,
      tellsOrigin_of_first hfound' (hsame.trans htold) hmends.answered',
      originsDifferBy_of_told hfinds htold hmends⟩

end Request

/-! ### A prototype with a strategy that does not exist -/

namespace Program

/-- A class, and the prototype that it was generated from, whose strategy was edited. -/
def misspeltStrategy : Program :=
  .ofDeclarations [{ path := "src/a/Foo.java" }, { path := "src/a/FooPrototype.java" }]
    [{ name := "Foo", qualifiedName := some "a.Foo", file := ⟨0⟩, kind := .classType
       annotations := [generatedFrom "a.FooPrototype"] },
     { name := "FooPrototype", qualifiedName := some "a.FooPrototype", file := ⟨1⟩
       kind := .interfaceType
       annotations := [{ name := codePrototype
                         attrs := [⟨"strategy", .enumConstant "GenerationStrategy" "SIDEWAYS",
                           none⟩] }] }]

theorem consistent_misspeltStrategy : misspeltStrategy.Consistent :=
  .ofDeclarations (by decide) (by decide)

end Program

namespace Request

/-- The first session tells no origin of the class, and it would if the prototype had no
strategy. -/
theorem origin_mendedBut_iff_misspeltStrategy :
    let host := Program.misspeltStrategy.toHost
    host.Healthy ∧ Hides ⟨host, {}⟩ "a.Foo" "a.FooPrototype" ∧ ∃ origin origin',
      TellsOrigin ⟨host, {}⟩ "a.Foo" origin ∧
      TellsOrigin ⟨host.mendedBut "a.Foo", {}⟩ "a.Foo" origin' ∧
      (origin = origin' ↔ ∀ prototype, ¬ Hides ⟨host, {}⟩ "a.Foo" prototype) ∧
      ∀ prototype, Hides ⟨host, {}⟩ "a.Foo" prototype →
        origin = none ∧ origin' = some prototype := by
  intro host
  have h : host.Healthy := Program.consistent_misspeltStrategy.healthy
  -- The marker tells the prototype, and the lookup for it succeeds on the mended host.
  refine ⟨h, ⟨⟨_, ⟨⟨0⟩, rfl⟩, Lookup.originOf?_eq_some_iff.1 rfl⟩, ?_, _, rfl⟩,
    origin_mendedBut_iff h {} "a.Foo"⟩
  refine ⟨codePrototype, ⟨⟨1⟩, _, rfl, by decide, _, List.mem_cons_self, rfl, _,
    List.mem_cons_self, by decide⟩, rfl⟩

/-- The origin that the marker tells is hidden by the strategy of the prototype. -/
theorem origin_hidden_misspeltStrategy :
    let host := Program.misspeltStrategy.toHost
    host.Healthy ∧ TellsOrigin ⟨host, {}⟩ "a.Foo" none ∧
      TellsOrigin ⟨host.mendedBut "a.Foo", {}⟩ "a.Foo" (some "a.FooPrototype") :=
  ⟨Program.consistent_misspeltStrategy.healthy, ⟨rfl, rfl⟩, rfl, rfl⟩

end Request

end PrototypeLens
