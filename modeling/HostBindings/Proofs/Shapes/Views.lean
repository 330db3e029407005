import HostBindings.Declaration

/-!
# What is seen of comments

Two declarations may be the same but for their comments. A view says how much of the comments is
looked at: all of it, or nothing, or the comment over the constants of events only. Through a view
generators can be compared that differ in whether they write comments.

## Main definitions

* `Code.View` — how much of the comments is looked at
* `Code.Constant.seen`, `Code.Field.seen`, `Code.Declaration.seen` — declarations through a view
* `Generator.commenting` — the generator with comments switched on or off
* `Generator.Hides` — a view through which generators differ no more

## Main results

* `Code.Declaration.seen_whole` — where all is looked at, nothing is changed
* `Generator.hides_whole`, `Generator.hides_headings`, `Generator.hides_code`
-/

namespace HostBindings

namespace Code

/-- How much of the comments is looked at. -/
structure View where
  /-- What is seen of the comments on an entity. -/
  docs : List String → List String
  /-- What is seen of the comment over the constants of events. -/
  heading : List String → List String

namespace View

/-- All comments are looked at. -/
def whole : View := ⟨id, id⟩

/-- The comments on entities are left out. -/
def headings : View := ⟨fun _ => [], id⟩

/-- All comments are left out. -/
def code : View := ⟨fun _ => [], fun _ => []⟩

end View

/-- A constant through a view. -/
def Constant.seen (view : View) (constant : Constant) : Constant :=
  { constant with comments := view.docs constant.comments }

/-- A field through a view. -/
def Field.seen (view : View) (field : Field) : Field :=
  { field with comments := view.docs field.comments }

/-- A declaration through a view. -/
def Declaration.seen (view : View) : Declaration → Declaration
  | events comments constants => events (view.heading comments) (constants.map (·.seen view))
  | composite comments name handle fields =>
    composite (view.docs comments) name handle (fields.map (·.seen view))
  | enumeration comments name base members =>
    enumeration (view.docs comments) name base (members.map (·.seen view))
  | function comments name signature => function (view.docs comments) name signature

theorem Declaration.seen_whole (declaration : Declaration) :
    declaration.seen .whole = declaration := by
  have constants (constants : List Constant) : constants.map (·.seen .whole) = constants :=
    List.map_id constants
  have fields (fields : List Field) : fields.map (·.seen .whole) = fields := List.map_id fields
  cases declaration <;> simp only [seen, constants, fields] <;> rfl

end Code

namespace Generator

/-- The generator with comments switched on or off. -/
def commenting (generator : Generator) (value : Json) : Generator :=
  { generator with settings := { generator.settings with addComments := value } }

/-- A view through which one cannot tell whether a generator writes comments or has them switched to
a value, nor what they say of an entity. -/
structure Hides (generator : Generator) (value : Json) (view : Code.View) : Prop where
  /-- Comments on entities look alike. -/
  docs : ∀ info info', view.docs (generator.docLines info) =
    view.docs ((generator.commenting value).docLines info')
  /-- So do the comments over the constants of events. -/
  heading : ∀ lines, view.heading (if generator.settings.commentsOn then lines else []) =
    view.heading (if (generator.commenting value).settings.commentsOn then lines else [])

variable {generator : Generator}

/-- Without comments nothing is said about an entity. -/
theorem docLines_eq_nil (generator : Generator) (quiet : generator.settings.commentsOn = false)
    (info : Api.Info) :
    generator.docLines info = [] := by
  simp [docLines, quiet]

/-- Where there are no comments, all may be looked at. -/
theorem hides_whole (quiet : generator.settings.commentsOn = false) :
    generator.Hides generator.settings.addComments .whole where
  docs info info' := congrArg id
    ((docLines_eq_nil generator quiet info).trans (docLines_eq_nil generator quiet info').symm)
  heading _ := rfl

/-- One generator writes one comment over the constants of events. -/
theorem hides_headings (generator : Generator) :
    generator.Hides generator.settings.addComments .headings :=
  ⟨fun _ _ => rfl, fun _ => rfl⟩

/-- Without its comments, code does not show whether they were switched on. -/
theorem hides_code (generator : Generator) (value : Json) : generator.Hides value .code :=
  ⟨fun _ _ => rfl, fun _ => rfl⟩

end Generator

end HostBindings
