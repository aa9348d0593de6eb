import DynamicDns.Resource.Condition

/-!
# The condition ledger

A resource reports on each aspect in one condition of a list. An aspect that was never looked at has
an `Unknown` placeholder. Changes to a condition are assignments to its slots, applied in order; the
ledger says whether anything became different, slot by slot as the assignments are made, and the
transition time moves exactly then. Of several conditions of one type only the first is ever
touched.
-/

namespace DynamicDns.Condition

/-- An assignment to slots of a condition. -/
inductive Change where
  | reason (text : String)
  | message (text : String)
  | reasonAndMessage (code text : String)
  | hold
  | fail
  | observed (generation : Int64)
  deriving DecidableEq

def Change.apply : Change → Condition → Condition
  | .reason text, c => { c with reason := some text }
  | .message text, c => { c with message := some text }
  | .reasonAndMessage code text, c => { c with reason := some code, message := some text }
  | .hold, c => { c with status := statusTrue }
  | .fail, c => { c with status := statusFalse }
  | .observed generation, c => { c with observedGeneration := some generation }

/-- Makes assignments in order and says whether one of them changed the condition. -/
def applyAll : List Change → Condition → Condition × Bool
  | [], c => (c, false)
  | change :: rest, c =>
    let next := change.apply c
    let (final, changed) := applyAll rest next
    (final, decide (next ≠ c) || changed)

/-- The placeholder for an aspect that was never looked at. -/
def placeholder (now : String) (type : String) : Condition :=
  ⟨type, statusUnknown, some "Unknown", some "Unknown", none, some now⟩

/-- The first condition of a type. -/
def find? (conditions : List Condition) (type : String) : Option Condition :=
  conditions.find? fun c => c.type == type

/-- Adds a placeholder for each type that is missing, and says whether one was. -/
def ensureTypes (now : String) : List String → List Condition → List Condition × Bool
  | [], conditions => (conditions, false)
  | type :: rest, conditions =>
    match find? conditions type with
    | some _ => ensureTypes now rest conditions
    | none => ((ensureTypes now rest (conditions ++ [placeholder now type])).1, true)

/-- Makes assignments to the condition of a type, which is added at the end if it is missing, and
says whether the list changed. -/
def assign (now : String) (type : String) (changes : List Change) :
    List Condition → List Condition × Bool
  | [] =>
    let (c, _) := applyAll changes (placeholder now type)
    ([{ c with lastTransitionTime := some now }], true)
  | c :: rest =>
    if c.type = type then
      let (next, changed) := applyAll changes c
      if changed then ({ next with lastTransitionTime := some now } :: rest, true)
      else (c :: rest, false)
    else
      let (rest, changed) := assign now type changes rest
      (c :: rest, changed)

end DynamicDns.Condition
