import PodSwap.Api.Request
import PodSwap.Api.Status

/-!
# Responses

What a response says to the call that was made. What is not there is an answer to calls that ask for
it or delete it, and a fault for all others. An object is read straight from the text, so parts that
nobody asks for may hold what no value holds; a deletion asks for all of its text.

Main statements: an object that is not found is absent (`answer_getPod_notFound`), and a pod that is
not there was not deleted (`answer_deletePod_notFound`).
-/

namespace PodSwap.Api

open Json (Written)

variable [Schema]

/-- What came back for a request. -/
inductive Response where
  /-- Nothing did. -/
  | dropped
  /-- A number that says how it went, and a text. -/
  | answered (code : Nat) (text : String)

/-- What a response writes. -/
def contentOf : Response → Except ApiFault Written
  | .dropped => .error .transport
  | .answered code text =>
    if 400 ≤ code ∧ code < 600 then .error (Failure.ofText code text).fault
    else
      match Written.ofText? text with
      | some w => .ok w
      | none => .error (.body "not a JSON value")

/-- What was read from a value. -/
def readAs {α : Type} : Reading α → Except ApiFault α
  | .ok a => .ok a
  | .error problem => .error (.body problem)

/-- The answer, which is absent where the object was not found. -/
def absentIfNotFound {α : Type} : Except ApiFault α → Except ApiFault (Option α)
  | .ok a => .ok (some a)
  | .error (.status code reason message) =>
    if reason = "NotFound" then .ok none else .error (.status code reason message)
  | .error e => .error e

/-- Whether something was deleted, which it was not where it was not found. -/
def falseIfNotFound : Except ApiFault Unit → Except ApiFault Bool
  | .ok () => .ok true
  | .error (.status code reason message) =>
    if code = 404 then .ok false else .error (.status code reason message)
  | .error e => .error e

/-- The only value under a key, if there is one. -/
def single? (ms : List (String × Written)) (name : String) : Reading (Option Written) :=
  match valuesUnder name ms with
  | [] => .ok none
  | [w] => .ok (some w)
  | _ => .error s!"{name} occurs twice"

/-- What is said about a list as a whole. -/
structure ListMeta where
  continueToken : Option String
  resourceVersion : Option String
  selfLink : Option String
  remainingItemCount : Option Int64

/-- Reads what is said about a list as a whole. -/
def ListMeta.ofWritten (w : Written) : Reading ListMeta := do
  let ms ← members w
  return {
    continueToken := ← optional ms "continue"
    resourceVersion := ← optional ms "resourceVersion"
    selfLink := ← optional ms "selfLink"
    remainingItemCount := ← optional ms "remainingItemCount" }

/-- Reads the pods of a list. What else the list has must be values, one level down. -/
def podsOfList (w : Written) : Reading (List Pod) := do
  let ms ← members w
  let others := ms.filter fun m => m.1 ≠ "items" && m.1 ≠ "metadata"
  if others.all fun m => (m.2.value? (Json.maxDepth - 1)).isSome then
    match ← single? ms "metadata" with
    | some m => let _ ← ListMeta.ofWritten m
    | none => pure ()
    match ← single? ms "items" with
    -- a list of nothing may be written as nothing
    | some .null => return []
    | some items => ofWritten items
    | none => .error "missing items"
  else .error "a member of a list without a value"

/-- Reads what a deletion answers: a status, or the pod that is deleted. -/
def readDeletion (w : Written) : Reading Unit :=
  match w.value? Json.maxDepth with
  | none => .error "not a value"
  | some j =>
    if (j.get? "kind").bind Json.text? = some "Status" then
      (Document.run Status.read w).map fun _ => ()
    else (ofWritten w : Reading Pod).map fun _ => ()

/-- What a response answers to a call. -/
def answerOf : (c : Call) → Response → Except ApiFault c.Answer
  | .getPod .., r => absentIfNotFound (do readAs (ofWritten (← contentOf r)))
  | .listPods .., r => do readAs (podsOfList (← contentOf r))
  | .createPod _, r => do readAs (ofWritten (← contentOf r))
  | .deletePod .., r => falseIfNotFound (do readAs (readDeletion (← contentOf r)))
  | .getWorkload kind .., r =>
    absentIfNotFound (do readAs (Workload.ofWritten kind (← contentOf r)))
  | .patchWorkload kind .., r => do
    let _ ← readAs (Workload.ofWritten kind (← contentOf r))
    return ()

/-- The request that a call sends, if it sends one, and what comes of it given the response. -/
def exchange (c : Call) (r : Response) : Option Request × Except Error c.Answer :=
  match requestOf c with
  | .error fault => (none, .error (.api fault))
  | .ok request =>
    match answerOf c r with
    | .ok a => (some request, .ok a)
    | .error fault => (some request, .error (.api fault))

/-! ## What is not there -/

/-- A pod that was not found is absent. -/
theorem answer_getPod_notFound (ns name : String) {r : Response} {code : Nat} {message : String}
    (h : contentOf r = .error (.status code "NotFound" message)) :
    answerOf (.getPod ns name) r = .ok none := by
  simp [answerOf, h, bind, Except.bind, absentIfNotFound]

/-- A pod that was not found was not deleted. -/
theorem answer_deletePod_notFound (ns name : String) {r : Response} {reason message : String}
    (h : contentOf r = .error (.status 404 reason message)) :
    answerOf (.deletePod ns name) r = .ok false := by
  simp [answerOf, h, bind, Except.bind, falseIfNotFound]

end PodSwap.Api
