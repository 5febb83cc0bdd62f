import WorkWatch.Proofs.CommandLine.Trace
import WorkWatch.Proofs.Wait.Streak

/-! How steps of a command fail. An error that is reported has a text. What is not reported has one
of a few causes: an address that is no URL, a reply that cannot be decoded, a wait that fails itself,
and a file that cannot be written. -/

namespace WorkWatch

/-- A command ends with an error and its text. -/
def CommandError.IsReported (error : CommandError) : Prop :=
  ∃ text, text ≠ "" ∧ CommandLine.fatalError error = .reported text

/-- A bundle that cannot be read: a number in it is infinite, or a document nested too deep. -/
structure Json.Defies (consumer : String) (bundle : Json) (problem : BundleProblem) : Prop where
  read : Summary.ofBundle consumer bundle = .error problem ∨
    Snapshot.ofBundle consumer bundle = .error problem
  escapes : problem ≠ .number .nan

/-- A reply makes a request or a look-up fail in a way that is not reported. -/
inductive Reply.Spoils (consumer : String) : Reply → Failure → Prop
  | refused (kind message : String) : Spoils consumer (.refused kind message) (.other kind message)
  | tooDeep {status : Nat} {body : List UInt8} {container : Json.Container}
      (read : Json.ofBytes body = .error (.tooDeep container)) :
      Spoils consumer (.response status body) (.unreadable (.tooDeep container))
  | unreadable {status : Nat} {body : List UInt8} {payload bundle : Json} {problem : BundleProblem}
      (success : Net.isSuccess status = true) (said : Says body payload)
      (listed : bundle ∈ Client.items payload) (defies : bundle.Defies consumer problem) :
      Spoils consumer (.response status body) (.unreadable problem)

namespace Client

variable {consumer name : String} {reply : Reply} {failure : Failure}

end Client

end WorkWatch
