import PrototypeLens.Proofs.Augment.Synthesis
import PrototypeLens.Proofs.Session.Termination

/-!
# Requests leave the guards as they were

A guard is set around a computation and taken back however that ends. No guard is set twice for one
name, so that what is taken back was not there before. So a request leaves the guards of its session
as it found them, whether it is answered, contains a failure or is cut short by a cancellation: all
but the requests whose task it is to mark a declaration. Between the requests of a session that was
opened fresh no registration is under way.

## Layers

- `SessionM.Restores`: the guards are left as they are. The recursive lookups do so as they match
  themselves under all guards, and `compositional_restores` takes it to what is composed of them.
- `restores_guarded` and the lemmas after it: so do the steps of an augmentation, which sets a mark
  of its own.
- `Question.SetsMark`: the questions that set or take off a mark, and change nothing else.

## Main results

- `Question.restores_reply` and `restores_augment`: every other request restores the guards.
- `Session.Between.guards_eq`: between requests no guard is set but the marks of the host.
- All of these in one statement, with a lookup that is cut short as an instance.
-/

namespace PrototypeLens

variable {ε α β : Type}

/-! ## Computations that leave the guards as they were -/

namespace SessionM

/-- The computation leaves the guards of every session as they are, however it ends. -/
def Restores (m : SessionM ε α) : Prop := ∀ s, (m.exec s).2.guards = s.guards

/-- What runs like itself under all guards leaves them as they are. -/
theorem restores_of_matches [Limited ε] {K : Registry → Registry → Prop} {m : SessionM ε α}
    (h : ∀ g, Matches K g m m) : m.Restores := by
  rintro ⟨r, g⟩
  obtain ⟨out, r', hexec, _⟩ := h g r
  rw [hexec]

theorem restores_pure (a : α) : (pure a : SessionM ε α).Restores := fun _ => rfl

theorem restores_query (result : Except QueryError α) : (Lookup.query result).Restores := by
  cases result <;> exact fun _ => rfl

namespace Restores

variable {m : SessionM ε α}

theorem bind {f : α → SessionM ε β} (hm : m.Restores) (hf : ∀ a, (f a).Restores) :
    (m >>= f).Restores := by
  intro s
  have hguards := hm s
  rw [exec_bind]
  rcases hexec : m.exec s with ⟨out, s'⟩
  rw [hexec] at hguards
  -- An error ends the run with the guards that the first computation has left.
  cases out with
  | error e => exact hguards
  | ok a => exact (hf a s').trans hguards

theorem map (f : α → β) (hm : m.Restores) : (f <$> m).Restores := by
  rw [← bind_pure_comp]
  exact hm.bind fun _ => restores_pure _

theorem contain {lookup : Lookup α} (nothing : α) (h : lookup.Restores) :
    (Request.contain nothing lookup).Restores := by
  intro s
  rw [Request.exec_contain]
  exact h s

end Restores

/-- The recursive lookups leave the guards as they are, and so does what is composed of them. -/
theorem compositional_restores (scope : Scope) : Compositional scope Restores where
  pure := restores_pure
  throw _ _ := rfl
  query := restores_query
  bind := Restores.bind
  contain := Restores.contain
  -- What becomes of the registry does not matter for the guards.
  template? name := restores_of_matches fun _ =>
    Lookup.matches_template? (.refl scope) .any name
  registerClass id := restores_of_matches fun _ =>
    Lookup.matches_registerClass (.refl scope) .any id
  prototype? name := restores_of_matches fun _ =>
    Lookup.matches_prototype? (.refl scope) .any name
  origin? name := restores_of_matches fun _ =>
    Lookup.matches_origin? (.refl scope) .any name
  validationDescriptor name := restores_of_matches fun _ =>
    Lookup.matches_validationDescriptor (.refl scope) .any (fun _ _ _ _ _ => trivial) name

end SessionM

open SessionM

/-! ## Augmentation -/

namespace Request

variable (scope : Scope) (features : Features) (id : DeclId) (decl : Declaration)
  (kind : MemberKind)

/-- The mark on the declaration is taken off again. -/
theorem restores_guarded (members : Except QueryError (List VirtualMember)) :
    (guarded id members).Restores := by
  rw [guarded_eq]
  -- The mark is set only where it was not set before.
  refine Restores.bind (fun _ => rfl) fun busy => ?_
  split
  · exact restores_pure _
  · exact (restores_query members).contain _

theorem restores_prototypeDataOf : (prototypeDataOf scope id).Restores :=
  ((compositional_restores scope).registerClass id).contain _

theorem restores_isRelevant : (isRelevant scope id).Restores := by
  refine ((restores_prototypeDataOf scope id).bind fun _ => restores_pure _).bind fun found => ?_
  split
  · exact restores_pure _
  · have horigin := (compositional_restores scope).declOrigin? id
    exact (horigin.bind fun _ => restores_pure _).contain _

theorem restores_inheritedMembers :
    (inheritedMembers scope features id decl kind).Restores := by
  unfold inheritedMembers
  split
  · exact restores_guarded id _
  · exact restores_pure _

theorem restores_bracketlessMembers :
    (bracketlessMembers scope features id decl kind).Restores := by
  rw [bracketlessMembers_eq]
  refine (restores_isRelevant scope id).bind fun relevant => ?_
  split
  · exact restores_guarded id _
  · exact restores_pure _

theorem restores_membersOfEnrichers : (membersOfEnrichers scope id decl kind).Restores := by
  refine (restores_prototypeDataOf scope id).bind fun descriptor => ?_
  cases descriptor with
  | some descriptor => exact restores_pure _
  | none => exact restores_pure _

theorem restores_collectedMembers :
    (collectedMembers scope features id decl kind).Restores := by
  unfold collectedMembers
  split
  · exact restores_inheritedMembers scope features id decl kind
  · refine (restores_bracketlessMembers scope features id decl kind).bind fun bracketless => ?_
    exact (restores_membersOfEnrichers scope id decl kind).bind fun _ => restores_pure _

theorem restores_augment : (augment scope features id kind).Restores := by
  rw [augment_eq]
  -- Whether the declaration is being augmented is asked without setting anything.
  refine Restores.bind (fun _ => rfl) fun busy => ?_
  split
  · exact restores_pure _
  · refine (((restores_query _).map some).contain none).bind fun found => ?_
    cases found with
    | none => exact restores_pure _
    | some decl => exact (restores_collectedMembers scope features id decl kind).map _

end Request

/-! ## Requests -/

namespace Question

/-- The question is there to mark a declaration as being augmented, or to take the mark off. -/
def SetsMark : Question → Prop
  | beginAugmenting _ | endAugmenting _ => True
  | _ => False

theorem restores_reply (scope : Scope) {q : Question} (hq : ¬ q.SetsMark) :
    (q.reply scope).Restores := by
  by_cases hlookup : q.IsLookup
  · exact (compositional_restores scope).reply q hlookup
  · cases q with
    | isRegistering => exact fun _ => rfl
    | isAugmenting id => exact fun _ => rfl
    | beginAugmenting id => exact absurd trivial hq
    | endAugmenting id => exact absurd trivial hq
    | _ => exact absurd trivial hlookup

/-- A mark is all that such a question changes. -/
theorem guards_reply_of_setsMark (scope : Scope) {q : Question} (hq : q.SetsMark) (s : Session) :
    ∃ augmenting, ((q.reply scope).exec s).2.guards = { s.guards with augmenting } := by
  cases q with
  | endAugmenting id => exact ⟨_, rfl⟩
  | beginAugmenting id =>
    have hbegin : (Request.beginAugmenting id).exec s =
        if s.guards.augmenting.contains id then (.ok false, s)
        else (.ok true, { s with guards := s.guards.mark id }) := rfl
    rw [reply, exec_map, hbegin]
    split
    · exact ⟨s.guards.augmenting, rfl⟩
    · exact ⟨_, rfl⟩
  | _ => exact hq.elim

end Question

/-- A session between its requests. It is opened fresh on any registry, the program may be edited
from one request to the next, and other sessions may change the registry in the meantime. -/
inductive Session.Between : Session → Prop where
  | opened (r : Registry) : Between ⟨r, {}⟩
  | ask {s : Session} (scope : Scope) (q : Question) :
      Between s → Between ((q.reply scope).exec s).2
  | augment {s : Session} (scope : Scope) (features : Features) (id : DeclId) (kind : MemberKind) :
      Between s → Between ((Request.augment scope features id kind).exec s).2
  | elsewhere {s : Session} (r : Registry) : Between s → Between { s with registry := r }

/-- Between requests no guard is set but the marks that the host has set itself. -/
theorem Session.Between.guards_eq {s : Session} (h : s.Between) :
    ∃ augmenting, s.guards = { augmenting } := by
  -- The induction is on the requests, after each of which only marks may be left.
  induction h with
  | opened r => exact ⟨[], rfl⟩
  | elsewhere r _ ih => exact ih
  | augment scope features id kind _ ih =>
    rwa [Request.restores_augment scope features id kind]
  | @ask s scope q _ ih =>
    by_cases hq : q.SetsMark
    · obtain ⟨_, hguards⟩ := ih
      obtain ⟨augmenting, hmark⟩ := q.guards_reply_of_setsMark scope hq s
      rw [hguards] at hmark
      exact ⟨augmenting, hmark⟩
    · rwa [q.restores_reply scope hq]

/-- Every question but those that set a mark, and every augmentation, leaves the guards of a session
as it found them, whatever its outcome. Between the requests of a session that was opened fresh no
registration is under way. -/
theorem Request.guards_after (scope : Scope) (s : Session) :
    (∀ q : Question, ¬ q.SetsMark → ((q.reply scope).exec s).2.guards = s.guards) ∧
    (∀ features id kind, ((augment scope features id kind).exec s).2.guards = s.guards) ∧
    (s.Between → isRegistering.exec s = (.ok false, s)) := by
  refine ⟨fun q hq => q.restores_reply scope hq s,
    fun features id kind => restores_augment scope features id kind s, fun hbetween => ?_⟩
  -- The depth counts the registrations under way, and it is not a mark.
  obtain ⟨augmenting, hguards⟩ := hbetween.guards_eq
  have hbusy : isRegistering.exec s = (.ok (decide (0 < s.guards.depth)), s) := rfl
  rw [hbusy, hguards]
  rfl

/-- The program in which two annotations are on each other, with the query for one of them
cancelled. -/
def Program.cutShort : Program := { circular with faults := [(.find "a.B", .cancelled)] }

/-- A class is registered, which discovers the one annotation, which is cut short when it looks for
the other one. The guards that were set before stay, and those that it set are gone. -/
theorem Request.guards_after_cutShort :
    let scope := Program.cutShort.scope
    let s : Session := ⟨{}, { discovering := ["a.X"], augmenting := [⟨0⟩] }⟩
    let outcome := ((Question.prototypeData "a.F").reply scope).exec s
    let fresh := ((Question.prototypeData "a.F").reply scope).exec ⟨{}, {}⟩
    ¬ (Question.prototypeData "a.F").SetsMark ∧ outcome.1 = .error {} ∧
      outcome.2.guards = s.guards ∧ fresh.1 = .error {} ∧ fresh.2.Between ∧
      isRegistering.exec fresh.2 = (.ok false, fresh.2) := by
  intro scope s outcome fresh
  have hbetween : fresh.2.Between := .ask scope _ (.opened {})
  exact ⟨id, rfl, (guards_after scope s).1 _ id, rfl, hbetween,
    (guards_after scope fresh.2).2.2 hbetween⟩

end PrototypeLens
