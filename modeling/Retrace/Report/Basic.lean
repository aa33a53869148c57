import Retrace.Report.Deadline
import Retrace.Resolver.Sharing

/-!
# Reports

The report on an error: the frames of its stack, resolved, and the components that it came about
in, as `build_report` makes it. While the stack is being resolved the name of the error is bound in
the journal, and it is released however that ends. The resolving is a task of its own
(`asyncio.wait_for`), with a copy of the row of bound fields.

* `ErrorNotice`: an error as it arrives, and `ErrorSource`: an error that may have to be read first;
* `namedComponents`: the components that a report names;
* `Report.build`: the report on an error, under a course;
* `Report.onError`: the report on what a source tells, by a resolver at its workplace.
-/

namespace Retrace

/-- An error as it arrives. -/
structure ErrorNotice where
  name : Text
  message : Text
  stack : Text

/-- The text of a value that counts as present, or another. -/
def presentText (value : Option Json) (other : Text) : Except NumeralFault Text :=
  match value with
  | some value => if value.isTruthy then value.display else .ok other
  | none => .ok other

/-- The error that fields describe. A stack has to be there, and the name and the message have to
have a text; how deep they may be for that is up to the recursion that the environment allows. -/
def ErrorNotice.ofFields (fields : Json.Fields) : Except Failure ErrorNotice :=
  match Json.Fields.get? "stack".toList fields with
  | some (.str stack) => do
    let name ←
      (presentText (Json.Fields.get? "name".toList fields) "Error".toList).mapError .numeral
    let message ← (presentText (Json.Fields.get? "message".toList fields) []).mapError .numeral
    return ⟨name, message, stack⟩
  | _ => .error .stackMissing

/-- Where an error to report on comes from. -/
inductive ErrorSource
  | known (notice : ErrorNotice)
  /-- The fields that were sent. -/
  | described (fields : Json.Fields)

/-- The error that a source tells of. -/
def ErrorSource.notice : ErrorSource → Except Failure ErrorNotice
  | known notice => .ok notice
  | described fields => ErrorNotice.ofFields fields

/-- The components of a report by name, in order. -/
abbrev Components := List (Text × Component)

/-- Components with one set: in its place if its name is there, else at the end. -/
def Components.put (name : Text) (component : Component) : Components → Components
  | [] => [(name, component)]
  | (other, old) :: rest =>
    if other = name then (other, component) :: rest
    else (other, old) :: Components.put name component rest

/-- The component that runs the overlay, of a version. -/
def hostComponent (version : Text) : Text × Component :=
  ("Python".toList, ⟨version, "https://docs.python.org/3/".toList⟩)

/-- The components that a report names. -/
def namedComponents (hostVersion : Text) (settings : Settings) : Components :=
  settings.components.foldl (fun all entry => all.put entry.1 entry.2)
    [hostComponent hostVersion, ownComponent]

/-- The report on an error. -/
structure Report where
  components : Components
  trace : List Frame

/-- The key under which the name of an error is bound. -/
def errorNameKey : Text := "error_name".toList

/-- The name of an error bound in the journal. -/
def Shared.bindError (s : Shared) (name : Text) : Shared :=
  ⟨s.cache, s.taken, s.journal.bind errorNameKey (.str name)⟩

/-- No name of an error bound in the journal. -/
def Shared.unbindError (s : Shared) : Shared :=
  ⟨s.cache, s.taken, s.journal.unbind errorNameKey⟩

namespace Report

/-- How long the stack of an error may take. -/
def deadline (settings : Settings) (notice : ErrorNotice) : Deadline :=
  ⟨.fraction settings.run.resolutionTimeout,
    "Resolving the stack of ".toList ++ notice.name ++ " timed out".toList⟩

/-- The report on an error. The frames are resolved under the settings of the resolver; the time it
may take and the components are those of the settings of the report. The drift says which of the
reads that are given up come to their end before the outcome is told. -/
def build (hostVersion : Text) (resolving reporting : Settings) (disk : Disk) (s : Shared)
    (notice : ErrorNotice) (course : Course) (drift : List Nat) :
    Shared × Except Failure Report :=
  let limit := deadline reporting notice
  let course := if limit.limit.isOver then .untouched else course
  let begun := s.bindError notice.name
  let resolved := begun.within begun.journal.context fun s =>
    resolveReader resolving disk s (.ofStack notice.stack) course
  let enforced := limit.enforce resolved.2
  let s := ((resolved.1.surface disk drift).noteAll enforced.2).unbindError
  match enforced.1 with
  | .ok frames =>
    (s.note (.reportBuilt notice.name frames.length),
      .ok ⟨namedComponents hostVersion reporting, frames⟩)
  | .error (some failure) => (s, .error failure)
  | .error none => (s, .error (.timedOut limit.message))

/-- The report on what a source tells of, by the resolver that is there or else a new one. Settings
that are given are those of the report and of a new resolver; without any, a new resolver has the
fallback ones, and the report those of its resolver. -/
def onError (hostVersion : Text) (fallback : Settings) (disk : Disk) (w : Workplace)
    (source : ErrorSource) (resolver : Option Resolver) (settings : Option Settings)
    (course : Course) (drift : List Nat) : Workplace × Except Failure Report :=
  match source.notice with
  | .error failure => (w, .error failure)
  | .ok notice =>
    let hired := Resolver.orHire resolver (settings.getD fallback) w
    hired.1.act hired.2 fun s =>
      build hostVersion hired.1.settings (settings.getD hired.1.settings) disk s notice course drift

end Report

end Retrace
