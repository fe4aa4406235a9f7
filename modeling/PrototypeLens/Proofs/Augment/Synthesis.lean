import PrototypeLens.Augment.Basic
import PrototypeLens.Proofs.Session.Run

/-!
# The stages of augmentation

Augmentation collects members and then takes out those whose signature came before. What is
collected depends on the declaration and on two answers of the registry: whether the declaration is
a prototype or generated, and the descriptor of its prototype.

## Main results

- `guarded_eq`: the walk between setting and clearing the mark, as one step.
- `bracketlessMembers_eq` and `augment_eq`: the stages in terms of what was collected.
-/

namespace PrototypeLens

namespace Request

variable (scope : Scope)

/-- The mark on the declaration is gone when the members have been found. -/
theorem guarded_eq (id : DeclId) (members : Except QueryError (List VirtualMember)) :
    guarded id members = isAugmenting id >>= fun busy =>
      if busy then pure [] else contain [] (Lookup.query members) := by
  funext s
  -- Asking for the mark answers at once and changes nothing.
  have hbusy : (isAugmenting id).exec s = (.ok (s.guards.augmenting.contains id), s) := rfl
  show (guarded id members).exec s = SessionM.exec _ s
  rw [guarded, SessionM.exec_bind_ok hbusy, SessionM.exec_bind_ok hbusy]
  cases hmarked : s.guards.augmenting.contains id with
  | true => rfl
  | false =>
    -- The declaration had no mark before, so that clearing it restores the guards.
    have hundone : (s.guards.mark id).unmark id = s.guards :=
      Guards.unmark_mark (by simpa using hmarked)
    have hwalk (s : Session) : (contain [] (Lookup.query members)).exec s =
        (contained [] (members.mapError .query), s) := by
      cases members <;> rfl
    simp only [Bool.false_eq_true, if_false, SessionM.exec_within, hwalk, hundone]

/-- Whether a declaration is a prototype, or it or one around it is generated. -/
def isRelevant (id : DeclId) : Request Bool := do
  if ← isPrototypeDecl scope id then pure true else isGeneratedDecl scope id

/-- The members that are collected for a declaration, also several with one signature. -/
def collectedMembers (features : Features) (id : DeclId) (decl : Declaration) (kind : MemberKind) :
    Request (List VirtualMember) :=
  if decl.isAnnotationType then inheritedMembers scope features id decl kind
  else do
    let bracketless ← bracketlessMembers scope features id decl kind
    let enriched ← membersOfEnrichers scope id decl kind
    pure (bracketless ++ enriched)

theorem bracketlessMembers_eq (features : Features) (id : DeclId) (decl : Declaration)
    (kind : MemberKind) :
    bracketlessMembers scope features id decl kind =
      isRelevant scope id >>= fun relevant =>
        if relevant && kind = .field && features.bracketlessMethods then
          guarded id (bracketlessFields scope.host decl)
        else pure [] := by
  rw [bracketlessMembers, isRelevant, bind_assoc]
  refine bind_congr fun isPrototype => ?_
  cases isPrototype <;> simp

theorem augment_eq (features : Features) (id : DeclId) (kind : MemberKind) :
    augment scope features id kind =
      isRegistering >>= fun busy =>
        if busy then pure []
        else contain none (some <$> Lookup.query (scope.host.declaration id)) >>= fun found =>
          match found with
          | none => pure []
          | some decl => firstByKey VirtualMember.signature [] <$>
              collectedMembers scope features id decl kind := by
  rw [augment]
  -- The cases are those of the function: busy, no such declaration, and one to collect members for.
  refine bind_congr fun busy => ?_
  cases busy with
  | true => rfl
  | false =>
    refine bind_congr fun found => ?_
    cases found with
    | none => rfl
    | some decl =>
      simp only [collectedMembers]
      split <;> simp

end Request

end PrototypeLens
