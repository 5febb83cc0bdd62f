import WorkWatch.Net.Url
import WorkWatch.Work.Feedback

/-!
Failures of requests for works: what went wrong, with the text that is shown.
-/

namespace WorkWatch

inductive Failure where
  /-- The consumer has no work of this name. -/
  | workMissing (name consumer : String)
  /-- The consumer is none of those that are registered. -/
  | consumerMissing (consumer : String) (available : List String)
  /-- A request failed, maybe with an answer of some HTTP status. -/
  | api (text : String) (status : Option Nat)
  /-- A name cannot stand in a search. -/
  | searchRefused (text : String)
  /-- A document cannot be read as a bundle. -/
  | unreadable (problem : BundleProblem)
  /-- The address of a request is no URL. -/
  | invalidUrl (error : Net.UrlError)
  /-- Anything else, with the name of its kind. -/
  | other (kind text : String)
  deriving DecidableEq

namespace Failure

open Text

def kind : Failure → String
  | .workMissing .. => "WorkNotFoundError"
  | .consumerMissing .. => "ConsumerNotFoundError"
  | .api .. => "MaestroApiError"
  | .searchRefused _ => "InvalidSearchQueryError"
  | .unreadable (.number .infinite) => "OverflowError"
  | .unreadable (.number .nan) => "ValueError"
  | .unreadable (.tooDeep _) => "RecursionError"
  | .invalidUrl _ => "InvalidURL"
  | .other kind _ => kind

/-- The text of a failure, which may be empty. -/
def text : Failure → String
  | .workMissing name consumer =>
    "ManifestWork " ++ quoted name ++ " not found for consumer " ++ quoted consumer
  | .consumerMissing consumer [] =>
    "consumer " ++ quoted consumer ++ " not found: no consumers are registered with Maestro"
  | .consumerMissing consumer available =>
    "consumer " ++ quoted consumer ++ " not found. Available consumers: " ++
      ", ".intercalate available
  | .api text _ => text
  | .searchRefused text => text
  | .unreadable (.number .infinite) => "cannot convert float infinity to integer"
  | .unreadable (.number .nan) => "cannot convert float NaN to integer"
  | .unreadable (.tooDeep container) =>
    "maximum recursion depth exceeded while decoding a JSON " ++ container.text ++
      " from a unicode string"
  | .invalidUrl error => error.message
  | .other _ text => text

/-- What is shown of a failure: its text, or its kind when there is none. -/
def message (failure : Failure) : String :=
  if failure.text.isEmpty then failure.kind else failure.text

end Failure

end WorkWatch
