import DynamicDns.Text.Blank

/-!
# Log filters

A filter is a list of directives: a level for all targets, a target of which everything is let
through, or a level for a target. A target stands for every target that begins with it. For each
event the directive with the longest fitting target decides; where none fits, the event is dropped.
-/

namespace DynamicDns.Log

/-- How much an event matters, from most to least. -/
inductive Level where
  | error
  | warn
  | info
  | debug
  | trace
  deriving DecidableEq, Repr

namespace Level

def name : Level → String
  | .error => "ERROR"
  | .warn => "WARN"
  | .info => "INFO"
  | .debug => "DEBUG"
  | .trace => "TRACE"

/-- The place of a level, from one. -/
def rank : Level → Nat
  | .error => 1
  | .warn => 2
  | .info => 3
  | .debug => 4
  | .trace => 5

end Level

/-- The least that is let through; nothing is when it is off. -/
abbrev Threshold := Option Level

namespace Threshold

def lets (threshold : Threshold) (level : Level) : Bool :=
  threshold.any fun least => level.rank ≤ least.rank

/-- The thresholds, in the order of their numbers, with their names. -/
def all : List (String × Threshold) :=
  [("off", none), ("error", some .error), ("warn", some .warn), ("info", some .info),
    ("debug", some .debug), ("trace", some .trace)]

/-- A threshold by name, in any case, or by number. -/
def parse? (text : String) : Option Threshold :=
  let digits := if text.startsWith "+" then (text.drop 1).toString else text
  if !digits.isEmpty && digits.all Char.isDigit then
    digits.toNat?.bind fun number => (all.map (·.2))[number]?
  else all.lookup text.toLower

end Threshold

/-- A threshold for the targets that begin with a text. -/
structure Directive where
  target : String
  threshold : Threshold
  deriving DecidableEq

namespace Directive

def canBegin (c : Char) : Bool := c.isAlphanum || 127 < c.toNat || ['-', ':', '_'].contains c

/-- A directive as it is written. Blanks in front are part of a target that stands alone, and no
target with a level has any. -/
def parse? (text : String) : Option Directive :=
  if !((trimBlanks text).toList.head?.any canBegin) then none
  else
    match text.splitOn "=" with
    | [word] =>
      match Threshold.parse? word with
      | some threshold => some ⟨"", threshold⟩
      | none => some ⟨word, some .trace⟩
    | [target, level] =>
      if target.toList.head?.any isBlank then none
      else if level = "" then some ⟨target, some .trace⟩
      else (Threshold.parse? level).map (⟨target, ·⟩)
    | _ => none

def fits (directive : Directive) (target : String) : Bool := target.startsWith directive.target

end Directive

abbrev Filter := List Directive

namespace Filter

def parse? (text : String) : Option Filter :=
  ((text.splitOn ",").filter (· ≠ "")).mapM Directive.parse?

/-- The filter that holds when none is set, or none that can be read. -/
def usual : Filter := [⟨"", some .info⟩]

/-- Of two directives the one with the longer target, or else the later. -/
def stronger (found : Option Directive) (directive : Directive) : Option Directive :=
  match found with
  | none => some directive
  | some other =>
    if other.target.utf8ByteSize ≤ directive.target.utf8ByteSize then some directive else found

def lets (filter : Filter) (target : String) (level : Level) : Bool :=
  ((filter.filter (·.fits target)).foldl stronger none).any (·.threshold.lets level)

end Filter

end DynamicDns.Log
