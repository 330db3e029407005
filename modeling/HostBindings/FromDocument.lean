import HostBindings.Api.Reading
import HostBindings.Generation
import HostBindings.Registry

/-!
# From a document to code

The whole way in one call: a decoded document is read as a description, a generator is made for a
language, and the description is generated. A document that is no description and a generator that
cannot be made are refusals; what goes wrong afterwards is part of the answer.

## Main definitions

* `Refusal` — why there is no answer
* `Registry.generate` — the answer for a decoded document
* `Registry.quickCode` — the code alone, also for a document that is still text
* `Generator.ofTypes` — a generator with chosen types
-/

namespace HostBindings

open Json (Members)

variable [WorkingDirectory]

/-- Why a document is not generated. -/
inductive Refusal where
  /-- The document is no description. -/
  | schema (error : Api.SchemaError)
  /-- The language is no text. -/
  | language (fault : UseFault)
  /-- The generator cannot be made. -/
  | registry (error : RegistryError)
  /-- The document is not even JSON. -/
  | document (error : Json.ReadError)
  /-- Code was wanted, and nothing was generated. -/
  | nothing (fault : GenerationFault)
  deriving DecidableEq, Repr

/-- The wording of a refusal. -/
def Refusal.message : Refusal → String
  | .schema error => error.message
  | .language fault => fault.message
  | .registry error => error.message
  | .document error => error.message
  | .nothing fault => s!"Code generation failed: {fault.message}"

/-- The language that is generated where no other is named. -/
def defaultLanguage : Json := .string "go"

/-- Generates a decoded document for a language. -/
def Registry.generate (registry : Registry) (tree : FileTree) (document : Json)
    (language : Json := defaultLanguage) (settings : SettingsSource := .defaults)
    (source : Json := Api.defaultSource) :
    Attempt Refusal (Except GenerationFault Generation) := do
  let schema ← Attempt.ofExcept ((Api.readSchema document source).mapError Refusal.schema)
  let language ← Attempt.ofExcept ((language.textFor "lower").mapError Refusal.language)
  let generator ← (registry.create tree language settings).mapError Refusal.registry
  (generator.generate schema).outcome

/-- The code for a document, which may still be text. -/
def Registry.quickCode (registry : Registry) (tree : FileTree) (document : Json)
    (language : Json) (overrides : Members) : Attempt Refusal String := do
  let decoded ←
    match document with
    | .string text => Attempt.ofExcept ((Json.read text).mapError Refusal.document)
    | value => pure value
  match ← registry.generate tree decoded language (.overrides overrides) with
  | .ok generation => return generation.code
  | .error fault => throw (.nothing fault)

/-- Options with the type settings added to their custom section. -/
def TypeSettings.intoOptions (types : TypeSettings) (options : Members) :
    Except UseFault Members := do
  let custom ← Settings.membersFrom ((options.get? "custom").getD (.object []))
  let overrides ← Settings.membersFrom types.overrides
  let chosen := { types with overrides := .object overrides }
  return options.put "custom" (.object (custom.merge chosen.toMembers))

/-- A generator for options over the defaults, with chosen types if they are given. -/
def Generator.ofTypes (tree : FileTree) (types : Option TypeSettings) (options : Members) :
    Attempt Settings.LoadError Generator := do
  let options ←
    match types with
    | some types =>
      Attempt.ofExcept ((types.intoOptions options).mapError Settings.LoadError.setting)
    | none => pure options
  let settings ← Settings.resolve tree Generator.language options
  Attempt.ofExcept (Generator.ofSettings settings)

end HostBindings
