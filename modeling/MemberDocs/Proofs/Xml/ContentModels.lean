import MemberDocs.Proofs.Result
import MemberDocs.Xml.Document

/-! # Groups of content models

The groups that are open are those of the content model that is being read (`Phase.OpenGroups`): every
token keeps it so (`OpenGroups.next`), whichever way its group is closed, that of mixed content too. So a
declaration starts with no group open, whatever has been declared before it, and none is open at the
document element (`groups_of_readProlog`).
-/

namespace MemberDocs.Xml

/-- How many groups are open after a token with this role. -/
def Role.groupsAfter (depth : Nat) : Role → Nat
  | .groupOpen => depth + 1
  | .groupClose => depth - 1
  | _ => depth

/-- So many groups can be open in a phase. -/
def Phase.OpenGroups (depth : Nat) : Phase → Prop
  | .contentStart | .mixedNext | .mixedName | .mixedMore => depth = 1
  | .contentItem | .contentNext => 0 < depth
  | _ => depth = 0

variable {phase next : Phase} {depth : Nat} {token : DeclToken} {role : Role}

/-! ## Roles -/

theorem length_groups_of_separate {subset after : Subset} {comma : Bool}
    (done : subset.separate comma = .ok after) : after.groups.length = subset.groups.length := by
  unfold Subset.separate at done
  split at done
  next =>
    cases done
    rfl
  next opened =>
    split at done
    next => cases done
    next =>
      cases done
      simp [opened]

theorem groups_declareAttribute (subset : Subset) (isIdentifier : Bool)
    (default : Option (List Char)) :
    (subset.declareAttribute isIdentifier default).groups = subset.groups := by
  unfold Subset.declareAttribute
  dsimp only
  split <;> rfl

/-- Groups are opened and closed by their parentheses, and by nothing else. -/
theorem length_groups_of_act {subset after : Subset} {scheme : Scheme}
    (acted : subset.act scheme role = .ok after) :
    after.groups.length = role.groupsAfter subset.groups.length := by
  unfold Subset.act at acted
  cases role with
  | groupComma | groupBar => exact length_groups_of_separate acted
  | groupOpen | groupClose =>
    cases acted
    simp [Role.groupsAfter]
  | doctypePublic text | publicIdentifier text =>
    obtain ⟨_, -, done⟩ := bind_eq_ok_iff.mp acted
    cases done
    rfl
  | noDefault =>
    dsimp only at acted
    split at acted <;> cases acted
    · exact congrArg List.length (groups_declareAttribute ..)
    · rfl
  | default quote text =>
    dsimp only at acted
    split at acted
    next =>
      split at acted
      next => cases acted
      next =>
        cases acted
        exact congrArg List.length (groups_declareAttribute ..)
    next =>
      cases acted
      rfl
  | _ =>
    dsimp only at acted
    repeat' split at acted
    all_goals cases acted
    all_goals rfl

/-! ## Phases -/

namespace Phase

theorem openGroups_afterGroup (depth : Nat) :
    (Phase.afterGroup depth).OpenGroups (depth - 1) := by
  unfold Phase.afterGroup
  split
  next last => exact Nat.sub_eq_zero_of_le last
  next more => exact Nat.sub_pos_of_lt (Nat.lt_of_not_le more)

theorem openGroups_of_step? (leads : phase.step? depth token = some (next, role)) :
    phase.OpenGroups depth → next.OpenGroups (role.groupsAfter depth) := by
  unfold Phase.step? at leads
  split at leads
  all_goals repeat' split at leads
  all_goals cases leads
  all_goals intro opened
  all_goals first
    | exact openGroups_afterGroup depth
    | simp_all [OpenGroups, Role.groupsAfter]

/-- A token leads from a phase and its groups to a phase and its groups. -/
theorem OpenGroups.next? (opened : phase.OpenGroups depth)
    (leads : phase.next? depth token = some (next, role)) :
    next.OpenGroups (role.groupsAfter depth) := by
  unfold Phase.next? at leads
  split at leads
  next =>
    cases leads
    exact opened
  next =>
    split at leads
    next => cases leads
    next => exact openGroups_of_step? leads opened
  next => exact openGroups_of_step? leads opened

theorem openGroups_of_step?_element (leads : phase.step? depth token = some (next, .element)) :
    phase.OpenGroups depth → depth = 0 := by
  unfold Phase.step? at leads
  split at leads
  all_goals repeat' split at leads
  all_goals cases leads
  all_goals exact id

/-- The document element stands where no group is open. -/
theorem OpenGroups.of_element (opened : phase.OpenGroups depth)
    (leads : (phase.next? depth token).any (·.2 = .element)) : depth = 0 := by
  obtain ⟨⟨next, role⟩, found, element⟩ := (Option.any_eq_true _ _).mp leads
  obtain rfl : role = .element := by simpa using element
  unfold Phase.next? at found
  split at found
  next => cases found
  next =>
    split at found
    next => cases found
    next => exact openGroups_of_step?_element found opened
  next => exact openGroups_of_step?_element found opened

end Phase

/-! ## Prologs -/

/-- However many content models have been read, no group is open at the document element. -/
theorem groups_of_readProlog {context : Context} {subset after : Subset} {skip : Nat}
    {position place : Position} {source rest : List Char}
    (opened : phase.OpenGroups subset.groups.length)
    (read : readProlog context phase subset skip position source = .ok (after, place, rest)) :
    after.groups = [] := by
  induction source generalizing phase subset skip position with
  | nil => simp [readProlog] at read
  | cons c more ih =>
    cases skip with
    | succ skip => exact ih opened (by simpa only [readProlog] using read)
    | zero =>
      rw [readProlog] at read
      split at read
      next => cases read
      next token left scanned =>
        dsimp only at read
        split at read
        next reached =>
          obtain ⟨rfl, -⟩ := Prod.mk.inj (Except.ok.inj read)
          exact List.length_eq_zero_iff.mp (opened.of_element reached)
        next =>
          split at read
          next => cases read
          next account charged =>
            split at read
            next => cases read
            next nextPhase role leads =>
              split at read
              next => cases read
              next later acted =>
                refine ih ?_ read
                rw [length_groups_of_act acted]
                exact opened.next? leads

example : (readProlog ⟨.utf8, .complete⟩ .prolog {} 0 ⟨1, 1⟩
    ("<!DOCTYPE d [<!ELEMENT b (#PCDATA)><!ELEMENT c (#PCDATA|b)*>" ++
      "<!ELEMENT d ((b,c)|c)*>]><d/>").toList).toOption.map (·.1.groups) = some [] := by
  decide +kernel

end MemberDocs.Xml
