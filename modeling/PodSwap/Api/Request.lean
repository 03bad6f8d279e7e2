import PodSwap.Api.Form
import PodSwap.Api.Target
import PodSwap.Cluster

/-!
# Requests

The request that a call sends. A name that would leave the last segment of a path empty is no name,
and then there is no request; nor is there one where names make no target.

Main statement: only a call that changes the cluster sends a body (`body_eq_none_iff`).
-/

namespace PodSwap.Api

variable [Schema]

/-- The methods of requests. -/
inductive Method where
  | get
  | post
  | delete
  | patch
deriving DecidableEq, Repr

/-- The name of a method. -/
def Method.text : Method → String
  | .get => "GET"
  | .post => "POST"
  | .delete => "DELETE"
  | .patch => "PATCH"

/-- A body of a request and what kind of text it is. -/
structure Body where
  contentType : String
  value : Json

/-- A request. -/
structure Request where
  method : Method
  target : Target
  body : Option Body := none

/-- The body of a plain value. -/
def plainBody (j : Json) : Body := ⟨"application/json", j⟩

/-- The body of a merge patch. -/
def mergePatchBody (j : Json) : Body := ⟨"application/merge-patch+json", j⟩

/-- The path of the pods of a namespace. -/
def podsPath (ns : String) : String := "/api/v1/namespaces/" ++ ns ++ "/pods"

/-- The path segment for workloads of a kind. -/
def plural : WorkloadKind → String
  | .replicaSet => "replicasets"
  | .deployment => "deployments"
  | .statefulSet => "statefulsets"

/-- The path of the workloads of a kind in a namespace. -/
def workloadsPath (kind : WorkloadKind) (ns : String) : String :=
  "/apis/apps/v1/namespaces/" ++ ns ++ "/" ++ plural kind

/-- The path of an object among others. -/
def objectPath (path name : String) : Except ApiFault String :=
  if name = "" then .error (.request "a name must not be empty") else .ok (path ++ "/" ++ name)

/-- The namespace in which a pod is created that names none. -/
def defaultNamespace : String := "default"

/-- The query for objects that fit a label selector. -/
def selectorQuery (selector : String) : String :=
  if selector = "" then "" else "&labelSelector=" ++ formEncoded selector

/-- The method of the request of a call. -/
def methodOf : Call → Method
  | .getPod .. => .get
  | .listPods .. => .get
  | .createPod _ => .post
  | .deletePod .. => .delete
  | .getWorkload .. => .get
  | .patchWorkload .. => .patch

/-- The text of the target of a call. Only the request for one object leaves out the question mark
of an empty query. -/
def targetText : Call → Except ApiFault String
  | .getPod ns name => objectPath (podsPath ns) name
  | .listPods ns selector => .ok (podsPath ns ++ "?" ++ selectorQuery selector)
  | .createPod pod => .ok (podsPath (pod.metadata.ns.getD defaultNamespace) ++ "?")
  | .deletePod ns name => (objectPath (podsPath ns) name).map (· ++ "?")
  | .getWorkload kind ns name => objectPath (workloadsPath kind ns) name
  | .patchWorkload kind ns name _ => (objectPath (workloadsPath kind ns) name).map (· ++ "?")

/-- The target of a call. -/
def targetOf (c : Call) : Except ApiFault Target := do
  let text ← targetText c
  match Target.ofText? text with
  | some t => .ok t
  | none => .error (.request "not a target")

/-- The body that a call sends, if it sends one. -/
def bodyOf : Call → Option Body
  | .getPod .. => none
  | .listPods .. => none
  | .createPod pod => some (plainBody (toJson pod))
  | .deletePod .. => some (plainBody (.obj []))
  | .getWorkload .. => none
  | .patchWorkload _ _ _ patch => some (mergePatchBody patch)

/-- The request that a call sends. -/
def requestOf (c : Call) : Except ApiFault Request :=
  (targetOf c).map fun target => { method := methodOf c, target, body := bodyOf c }

/-- A request has a body exactly if its call is one that changes the cluster. -/
theorem body_eq_none_iff {c : Call} {r : Request} (h : requestOf c = .ok r) :
    r.body = none ↔ c.isMutating = false := by
  unfold requestOf at h
  cases ht : targetOf c with
  | error e => simp [ht, Except.map] at h
  | ok t =>
    simp only [ht, Except.map, Except.ok.injEq] at h
    subst h
    cases c <;> simp [bodyOf, Call.isMutating]

end PodSwap.Api
