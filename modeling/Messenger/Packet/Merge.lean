import Messenger.Packet.Basic
import Messenger.Table

/-!
Joining the packets of one response. A policy says for each key whether a continued value extends
the last one, takes its place, or stands as a further entry; the header is always that of the first
packet.
-/

namespace Messenger

inductive MergeRule where
  | concatenate
  | replace
  | append
deriving DecidableEq, Repr, Inhabited

def MergeRule.join? : MergeRule → Option (String → String → String)
  | .concatenate => some fun last value => last ++ value
  | .replace => some fun _ value => value
  | .append => none

structure MergePolicy where
  rules : Table String MergeRule := ∅
deriving Repr, Inhabited

namespace MergePolicy

def withRule (policy : MergePolicy) (key : String) (rule : MergeRule) : MergePolicy :=
  ⟨policy.rules.insert key rule⟩

def ofList (rules : List (String × MergeRule)) : MergePolicy :=
  rules.foldl (fun policy rule => policy.withRule rule.1 rule.2) {}

def concatenating (keys : List String) : MergePolicy :=
  ofList (keys.map fun key => (key, .concatenate))

def ruleFor (policy : MergePolicy) (key : String) : MergeRule :=
  (policy.rules.find? key).getD .append

@[simp] theorem ruleFor_withRule_self (policy : MergePolicy) (key : String) (rule : MergeRule) :
    (policy.withRule key rule).ruleFor key = rule := by
  simp [ruleFor, withRule]

@[simp] theorem ruleFor_withRule_of_ne (policy : MergePolicy) {key other : String}
    (hne : other ≠ key) (rule : MergeRule) :
    (policy.withRule key rule).ruleFor other = policy.ruleFor other := by
  simp [ruleFor, withRule, hne]

end MergePolicy

namespace Body

def mergeField (rule : MergeRule) (fields : List (String × String)) (field : String × String) :
    List (String × String) :=
  match rule.join? with
  | none => field :: fields
  | some join =>
      match fields.findIdx? fun earlier => earlier.1 == field.1 with
      | none => field :: fields
      | some index => fields.modify index fun (key, last) => (key, join last field.2)

/-- The newest field stands in front while fields are added. -/
def mergeWith (policy : MergePolicy) (body continuation : Body) : Body :=
  ⟨(continuation.fields.foldl (fun fields field => mergeField (policy.ruleFor field.1) fields field)
    body.fields.reverse).reverse⟩

def append (body other : Body) : Body :=
  ⟨body.fields ++ other.fields⟩

end Body

namespace Packet

def mergeWith (policy : MergePolicy) (primary continuation : Packet) : Packet :=
  { primary with body := primary.body.mergeWith policy continuation.body }

/-- Values of the given keys continue, all others stand as further entries. -/
def mergeKeys (keys : List String) (primary continuation : Packet) : Packet :=
  primary.mergeWith (.concatenating keys) continuation

def append (primary continuation : Packet) : Packet :=
  { primary with body := primary.body.append continuation.body }

end Packet

end Messenger
