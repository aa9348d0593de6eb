import DynamicDns.Resource.Notifier
import DynamicDns.Resource.Provider

/-!
# Markers

Which address of a provider was last announced to a notifier is recorded on the provider, in an
annotation whose key names the notifier: the API group, a slash, the name, an underscore and the
namespace. Neither names nor namespaces hold underscores, so the last one divides them. Keys of
other groups, and keys without both parts, are not markers.
-/

namespace DynamicDns

/-- The notifier that a marker belongs to. -/
structure Marker where
  name : String
  ns : String
  deriving DecidableEq, Inhabited

namespace Marker

/-- What comes before the name of the notifier in a key. -/
def keyStem : String := apiGroup ++ "/"

def key (marker : Marker) : String := keyStem ++ marker.name ++ "_" ++ marker.ns

/-- What is before and what is behind the last underscore. -/
def splitLast (text : List Char) : Option (List Char × List Char) :=
  match text.reverse.dropWhile (· ≠ '_') with
  | [] => none
  | _ :: front => some (front.reverse, (text.reverse.takeWhile (· ≠ '_')).reverse)

def ofKey? (key : String) : Option Marker := do
  let rest ← keyStem.toList.isPrefixOf? key.toList
  let (name, ns) ← splitLast rest
  if name.isEmpty ∨ ns.isEmpty then none
  else some ⟨String.ofList name, String.ofList ns⟩

/-- Markers are ordered by name, then by namespace. -/
def before (a b : Marker) : Bool := a.name < b.name || (a.name == b.name && a.ns < b.ns)

def ofNotifier (notifier : Notifier) : Marker :=
  ⟨notifier.metadata.displayName, notifier.metadata.space⟩

/-- The patch of a provider that records an announced address. -/
def patch (marker : Marker) (ip : String) : Json :=
  .obj [("metadata", .obj [("annotations", .obj [(marker.key, .str ip)])])]

/-- Puts an address under a marker, in the marker's place. -/
def record (marker : Marker) (ip : String) : List (Marker × String) → List (Marker × String)
  | [] => [(marker, ip)]
  | (m, v) :: rest =>
    if marker = m then (marker, ip) :: rest
    else if marker.before m then (marker, ip) :: (m, v) :: rest
    else (m, v) :: record marker ip rest

/-- The addresses recorded in annotations, in the order of the markers. -/
def recorded (annotations : List (String × String)) : List (Marker × String) :=
  annotations.foldl (fun found entry =>
    match ofKey? entry.1 with
    | some marker => record marker entry.2 found
    | none => found) []

end Marker

/-- The addresses of a provider that were last announced, by notifier. -/
def Provider.announced (provider : Provider) : List (Marker × String) :=
  Marker.recorded provider.metadata.annotationList

/-- The address of a provider that was last announced to a notifier. -/
def Provider.announcedTo (provider : Provider) (marker : Marker) : Option String :=
  provider.announced.lookup marker

end DynamicDns
