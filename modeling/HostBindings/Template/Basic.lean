import HostBindings.Json.Use

/-!
# Templates

A small template language: text with holes for values, loops over the items of a value, and choices
by a value. A template is rendered in a context that gives its variables. A variable that has no
value is an error wherever it is used, so a template never prints a gap.

## Main definitions

* `Template.Expr`, `Template.Cond`, `Template.Piece` — the language
* `Template.Fault` — why a template cannot be rendered; `Fault.message` its wording
* `Template.render` — the text of a template in a context
-/

namespace HostBindings.Template

open Json (Members)

/-- A value to be shown. -/
inductive Expr where
  /-- A variable. -/
  | var (name : String)
  /-- A variable as a double-quoted literal. -/
  | quotedVar (name : String)
  /-- The first item of a variable as a double-quoted literal. -/
  | quotedFirst (name : String)
  deriving DecidableEq, Repr

/-- A condition on a variable. -/
inductive Cond where
  /-- It is switched on. -/
  | truthy (name : String)
  /-- It has a certain number of items. -/
  | lengthIs (name : String) (length : Nat)
  deriving DecidableEq, Repr

/-- A piece of a template. -/
inductive Piece where
  /-- Text that stands for itself. -/
  | text (content : String)
  /-- A value. -/
  | value (expr : Expr)
  /-- The body once for each item of a variable. -/
  | each (item collection : String) (body : List Piece)
  /-- One of two bodies. -/
  | choose (cond : Cond) (yes no : List Piece)

/-- Why a template cannot be rendered. -/
inductive Fault where
  /-- There is no template of this name. -/
  | missing (name : String)
  /-- A name, or an item of a loop, that is a value of the wrong kind. -/
  | value (fault : UseFault)
  /-- A context of this kind, which gives no variables. -/
  | noContext (kind : String)
  /-- A variable of the name that stands for the template itself. -/
  | reserved
  /-- A variable without a value. -/
  | undefined (name : String)
  /-- A value of this kind without a first item. -/
  | noFirst (kind : String)
  deriving DecidableEq, Repr

/-- The wording of a fault. -/
def Fault.message : Fault → String
  | .missing name => name
  | .value fault => fault.message
  | .noContext kind =>
    s!"jinja2.environment.Template.render() argument after ** must be a mapping, not {kind}"
  | .reserved => "Template.render() got multiple values for argument 'self'"
  | .undefined name => s!"'{name}' is undefined"
  | .noFirst kind => s!"{kind} object has no element 0"

/-- The value of a variable. -/
def lookup (context : Members) (name : String) : Except Fault Json :=
  match context.get? name with
  | some value => .ok value
  | none => .error (.undefined name)

/-- The text of an expression. -/
def Expr.eval (context : Members) : Expr → Except Fault String
  | .var name => do return (← lookup context name).text
  | .quotedVar name => do return Text.quote (← lookup context name).text
  | .quotedFirst name => do
    match ← lookup context name with
    | .array (first :: _) => return Text.quote first.text
    | .string text =>
      match text.toList with
      | c :: _ => return Text.quote (String.singleton c)
      | [] => .error (.noFirst "str")
    | other => .error (.noFirst other.kindName)

/-- The value of a condition. -/
def Cond.eval (context : Members) : Cond → Except Fault Bool
  | .truthy name => do return (← lookup context name).truthy
  | .lengthIs name length => do
    match ← lookup context name with
    | .array items => return items.length == length
    | .string text => return text.length == length
    | .object members => return members.length == length
    | other => .error (.value (.noLength other.kindName))

mutual
/-- The text of a piece. -/
def renderPiece (context : Members) : Piece → Except Fault String
  | .text content => .ok content
  | .value expr => expr.eval context
  | .each item collection body => do
    let values ← (← lookup context collection).items.mapError Fault.value
    let parts ← values.mapM fun value => render (context.put item value) body
    return String.join parts
  | .choose cond yes no => do
    if ← cond.eval context then render context yes else render context no

/-- The text of a template. -/
def render (context : Members) : List Piece → Except Fault String
  | [] => .ok ""
  | piece :: rest => do
    let head ← renderPiece context piece
    let tail ← render context rest
    return head ++ tail
end

end HostBindings.Template

namespace HostBindings

/-- A template. -/
abbrev Template := List Template.Piece

end HostBindings
