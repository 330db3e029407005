import HostBindings.Api.Basic
import HostBindings.Naming.Package
import HostBindings.Settings.Basic

/-!
# What settings mean

How a generator takes the value of each setting. A setting that is only switched on or off, or only
shown, takes any value; the others have a fault where their value is of another kind.

## Main definitions

* `Settings.commentsOn`, `Settings.tagKey?`, `Settings.hostField`, `Settings.strictEvents`
* `Settings.eventLeadText` — what the names of event constants begin with
* `Settings.allows` — whether blocks with certain process marks are generated
* `Settings.packageFlaws` — the flaws of the package name
-/

namespace HostBindings.Settings

open Naming (PackageFlaw)

/-- Whether descriptions become comments. -/
def commentsOn (settings : Settings) : Bool := settings.addComments.truthy

/-- Whether every block goes to a file of its own. -/
def perBlock (settings : Settings) : Bool := settings.perBlockOutput.truthy

/-- The key of the field tags, if fields get tags. -/
def tagKey? (settings : Settings) : Option String :=
  if settings.generateTags.truthy && settings.tagKey.truthy then some settings.tagKey.text
  else none

/-- The field for the host handle; empty if the handle is embedded. -/
def hostField (settings : Settings) : String :=
  if settings.hostHandleField.truthy then settings.hostHandleField.text else ""

/-- Whether a suspicious event name fails its block. -/
def strictEvents (settings : Settings) : Bool :=
  match settings.eventLiteralMode with
  | .string mode => mode == "strict"
  | _ => false

/-- What the names of event constants begin with. -/
def eventLeadText (settings : Settings) : Except UseFault String :=
  match settings.eventLead with
  | .string lead => .ok lead
  | other => .error (.beforeText other.kindName)

/-- Whether blocks with certain marks are generated. -/
def allows (settings : Settings) (processes : Api.Processes) : Except UseFault Bool :=
  processes.allowValue settings.processFilter

/-- The flaws of the package name. -/
def packageFlaws (settings : Settings) : Except UseFault (List PackageFlaw) :=
  if !settings.packageName.truthy then .ok [.empty]
  else
    match settings.packageName with
    | .string name => .ok (Naming.packageFlaws name)
    | other => .error (.lacks other.kindName "isidentifier")

end HostBindings.Settings
