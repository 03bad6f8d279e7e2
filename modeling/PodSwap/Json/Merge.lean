import PodSwap.Json.Basic

/-!
# Merge patches

A merge patch is a value that says what to change: an object changes the members it names, `null`
removes a member, and anything else takes the place of what was there. `merge` applies a patch and
`mergeDiff` finds the patch between two values.
-/

namespace PodSwap.Json

mutual
/-- The target with a merge patch applied to it. -/
def merge (target : Json) : Json → Json
  | .obj ps => .obj (mergeMembers (target.members?.getD []) ps)
  | patch => patch
termination_by structural patch => patch

/-- The members of the target with the members of a patch applied in turn. -/
def mergeMembers (ts : List (String × Json)) : List (String × Json) → List (String × Json)
  | [] => ts
  | p :: ps => mergeMembers (mergeMember ts p) ps
termination_by structural ps => ps

/-- The members of the target with one member of a patch applied. -/
def mergeMember (ts : List (String × Json)) : String × Json → List (String × Json)
  | (k, .null) => Entries.erase k ts
  | (k, p) => Entries.insert k (merge ((Entries.get? k ts).getD .null) p) ts
termination_by structural p => p
end

mutual
/-- The merge patch that takes one value to another: only members that differ appear in it, and
removed ones are `null`. -/
def mergeDiff : Json → Json → Json
  | .obj os, .obj ms =>
    object (diffMembers os ms ++ ms.filter fun m => (Entries.get? m.1 os).isNone)
  | _, after => after
termination_by structural before => before

/-- What the members of the first object have to become. -/
def diffMembers : List (String × Json) → List (String × Json) → List (String × Json)
  | [], _ => []
  | o :: os, ms => (diffMember o ms).toList ++ diffMembers os ms
termination_by structural os => os

/-- What a member has to become, where that is something else. -/
def diffMember : String × Json → List (String × Json) → Option (String × Json)
  | (k, o), ms =>
    match Entries.get? k ms with
    | none => some (k, .null)
    | some m => if o.same m then none else some (k, mergeDiff o m)
termination_by structural o => o
end

/-- Whether a patch changes nothing: the empty object. -/
def isEmptyPatch (patch : Json) : Bool :=
  match patch with
  | .obj ms => ms.isEmpty
  | _ => false

end PodSwap.Json
