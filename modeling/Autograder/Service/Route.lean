import Autograder.Text.Cut
import Autograder.Text.Percent

/-!
# Routes

What can be asked of the service, by the path of a request. A path is cut at its slashes, so a
slash at its end makes it another path, and a slash that is escaped belongs to a parameter. The
parameter at the end of a path is not empty; one in the middle may be.
-/

namespace Autograder

/-- What a path asks for, with parameters of type `α`. -/
inductive Route (α : Type) where
  | run
  | submit
  | submission (id : α)
  /-- The latest submission of an attempt for a question. -/
  | latest (attempt question : α)
  /-- All submissions of an attempt. -/
  | submissions (attempt : α)
  | health
  | metrics
deriving DecidableEq

namespace Route

/-- The route of a path that is cut into its segments. -/
def ofSegments? : List String → Option (Route String)
  | ["run"] => some .run
  | ["submit"] => some .submit
  | ["submissions", id] => if id.isEmpty then none else some (.submission id)
  | ["attempts", attempt, "questions", question] =>
    if question.isEmpty then none else some (.latest attempt question)
  | ["attempts", attempt, "submissions"] => some (.submissions attempt)
  | ["health"] => some .health
  | ["metrics"] => some .metrics
  | _ => none

/-- The route of a request's target, whose parameters are still escaped. The target is a path with
perhaps a query or a fragment behind it. -/
def ofTarget? (target : String) : Option (Route String) :=
  match target.toList.takeWhile fun c => c != '?' && c != '#' with
  | '/' :: path => ofSegments? ((Text.segments (· == '/') path).map String.ofList)
  | _ => none

/-- A program or a submission is posted; all else is read, with or without the content. -/
def accepts (route : Route α) (method : String) : Bool :=
  match route with
  | run | submit => method == "POST"
  | _ => method == "GET" || method == "HEAD"

/-- The route with its parameters read, if all of them are text. -/
def decode? : Route String → Option (Route String)
  | run => some .run
  | submit => some .submit
  | submission id => (Text.percentDecode? id.toList).map .submission
  | latest attempt question =>
    match Text.percentDecode? attempt.toList, Text.percentDecode? question.toList with
    | some attempt, some question => some (.latest attempt question)
    | _, _ => none
  | submissions attempt => (Text.percentDecode? attempt.toList).map .submissions
  | health => some .health
  | metrics => some .metrics

end Route

end Autograder
