import PodSwap.Cluster
import PodSwap.Document
import PodSwap.Json.Reader
import PodSwap.Power
import PodSwap.Text.Quoted

/-!
# How requests end

A request that fails is answered with a short report; where its text is none, one is made up from
the text. A deletion may be answered with a status, which says more and requires less.

Main statement: a text that is no report is quoted in the one made up for it (`ofText_unreadable`).
-/

namespace PodSwap.Api

open Json (Written)

/-- A natural number below a bound. -/
def readNumber (bound : Nat) : Written → Following Nat
  | .num (some (.int n)) =>
    if 0 ≤ n ∧ n < bound then return n.toNat else throw "a number out of range"
  | _ => throw "expected a number"

/-- A text that is empty where it is missing. -/
def readText (fs : List (String × Written)) (name : String) : Following String :=
  Document.defaulted fs name "" Document.text

/-! ## Failures -/

/-- How a failure is reported. -/
structure Failure where
  status : String := ""
  message : String := ""
  reason : String := ""
  code : Nat := 0
deriving DecidableEq, Repr

namespace Failure

/-- Reads a report, which has to have a status and a code. -/
def read (w : Written) : Following Failure := do
  let fs ← Document.record ["status", "message", "reason", "code"] w
  return {
    status := ← Document.required fs "status" Document.text
    message := ← readText fs "message"
    reason := ← readText fs "reason"
    code := ← Document.required fs "code" (readNumber (pow2 16)) }

/-- The report of a failure with a text that is none. -/
def unreadable (code : Nat) (text : String) : Failure :=
  { code, reason := "Failed to parse error data", message := Text.quoted text }

/-- The report of a failure with a text. -/
def ofText (code : Nat) (text : String) : Failure :=
  match Written.ofText? text with
  | some w =>
    match Document.run read w with
    | .ok f => f
    | .error _ => unreadable code text
  | none => unreadable code text

/-- The report as a fault. -/
def fault (f : Failure) : ApiFault := .status f.code f.reason f.message

/-- A text that is not even JSON is quoted. -/
theorem ofText_unreadable {code : Nat} {text : String} (h : Written.ofText? text = none) :
    ofText code text = unreadable code text := by
  simp [ofText, h]

end Failure

/-! ## Statuses -/

/-- How an operation ended, in a word. -/
inductive Summary where
  | success
  | failure
deriving DecidableEq, Repr

/-- The summary that a text names. -/
def Summary.ofText? (s : String) : Option Summary :=
  if s = "Success" then some .success else if s = "Failure" then some .failure else none

/-- One of the causes of a failure. -/
structure Cause where
  reason : String
  message : String
  field : String
deriving DecidableEq, Repr

/-- Reads a cause. -/
def Cause.read (w : Written) : Following Cause := do
  let fs ← Document.record ["reason", "message", "field"] w
  return {
    reason := ← readText fs "reason"
    message := ← readText fs "message"
    field := ← readText fs "field" }

/-- What an operation was about. -/
structure Details where
  name : String
  group : String
  kind : String
  uid : String
  causes : List Cause
  retryAfterSeconds : Nat
deriving DecidableEq, Repr

/-- Reads details. -/
def Details.read (w : Written) : Following Details := do
  let fs ← Document.record ["name", "group", "kind", "uid", "causes", "retryAfterSeconds"] w
  return {
    name := ← readText fs "name"
    group := ← readText fs "group"
    kind := ← readText fs "kind"
    uid := ← readText fs "uid"
    causes := ← Document.defaulted fs "causes" [] (Document.list Cause.read)
    retryAfterSeconds :=
      ← Document.defaulted fs "retryAfterSeconds" 0 (readNumber (pow2 32)) }

/-- How an operation ended. -/
structure Status where
  summary : Option Summary
  code : Nat
  message : String
  reason : String
  details : Option Details
deriving DecidableEq, Repr

/-- Reads a status. -/
def Status.read (w : Written) : Following Status := do
  let fs ← Document.record ["status", "code", "message", "reason", "details"] w
  return {
    summary := ← Document.optional fs "status" (Document.choice Summary.ofText?)
    code := ← Document.defaulted fs "code" 0 (readNumber (pow2 16))
    message := ← readText fs "message"
    reason := ← readText fs "reason"
    details := ← Document.optional fs "details" Details.read }

end PodSwap.Api
