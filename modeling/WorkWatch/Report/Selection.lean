import WorkWatch.Text.Case
import WorkWatch.Text.Split
import WorkWatch.Work.Snapshot

/-!
Selecting works by a pattern `name`, `Kind/name` or `Kind/namespace/name`, and listing them.
-/

namespace WorkWatch.Report

open WorkWatch.Text

/-- What a pattern asks for. Empty parts ask for nothing; name and namespace are in lower case. -/
structure Selection where
  kind : String
  space : String
  name : String
  deriving DecidableEq, Repr

namespace Selection

def lowered (s : List Char) : String := lower (String.ofList s)

/-- Reads a pattern. Slashes after the second belong to the name. -/
def ofPattern (pattern : String) : Selection :=
  match pieces '/' pattern.toList with
  | [] => ⟨"", "", ""⟩
  | [name] => ⟨"", "", lowered name⟩
  | [kind, name] => ⟨String.ofList kind, "", lowered name⟩
  | kind :: space :: name => ⟨String.ofList kind, lowered space, lowered (joined ['/'] name)⟩

/-- The part stands somewhere in the lower case of a text. -/
def within (part text : String) : Bool := holds part.toList (lower text).toList

/-- A manifest is what is asked for. Without a name a kind is needed. -/
def admitsManifest (selection : Selection) (manifest : Manifest) : Bool :=
  (selection.kind.isEmpty || sameFolded manifest.kind selection.kind) &&
    (selection.space.isEmpty || within selection.space manifest.space) &&
    if selection.name.isEmpty then !selection.kind.isEmpty else within selection.name manifest.name

/-- A work is what is asked for: by its own name or by one of its manifests. -/
def admits (selection : Selection) (work : Summary) : Bool :=
  (!selection.name.isEmpty && within selection.name work.name) ||
    work.manifests.any selection.admitsManifest

end Selection

/-- The works that a pattern selects; the empty pattern selects all. -/
def select (pattern : String) (works : List Summary) : List Summary :=
  if pattern.isEmpty then works else works.filter (Selection.ofPattern pattern).admits

def summaryLines (work : Summary) : List String :=
  ["ManifestWork: " ++ work.name,
    "  ID:        " ++ work.id,
    "  Version:   " ++ intText work.version,
    "  Created:   " ++ work.created,
    "  Updated:   " ++ work.updated,
    "  Manifests (" ++ natText work.manifests.length ++ "):"] ++
  work.manifests.map (fun manifest => "    - " ++ manifest.key) ++
  if work.conditions.isEmpty then []
  else "  Conditions:" ::
    work.conditions.map fun condition => "    - " ++ condition.type ++ ": " ++ condition.status.text

/-- The list of works of a consumer for readers, an empty line between two works. -/
def list (consumer pattern : String) : List Summary → List String
  | [] =>
    if pattern.isEmpty then ["No ManifestWorks found for consumer " ++ consumer]
    else ["No ManifestWorks matching '" ++ pattern ++ "' found for consumer " ++ consumer]
  | first :: rest =>
    summaryLines first ++ rest.flatMap (fun work => "" :: summaryLines work) ++
      ["", String.ofList (List.replicate 41 '-'),
        "Total: " ++ natText (rest.length + 1) ++ " ManifestWork(s) for consumer " ++ consumer]

end WorkWatch.Report
