import HostBindings.Loading
import HostBindings.Proofs.Attempts
import HostBindings.Proofs.Files.Trees
import HostBindings.Proofs.Json.Limits
import HostBindings.Proofs.Reading.Descriptions

/-!
# Documents that end no batch

Loading a document fails in an orderly way for most of what can be wrong with it: the file is not
there or no file, the request fails, the response is one of failure, the content is no JSON or no
description. What is left is said of the inputs here: the path is too long, the file has octets that
encode no text, the address cannot be split, the answer is a failure that requests are not known to
have, a header is no text, and the document is beyond a limit of the reader, which can be seen from
its brackets and its digits.

## Main definitions

* `Web.IsOrderly` — answers that can be told to be a document or a failure
* `Location.IsOrderly` — documents that can be loaded, or be told why not

## Main results

* `Location.meets_loadSchema` — an orderly document only fails in the ways that are expected
-/

namespace HostBindings

open Api (HasText)

namespace Loading

variable {α β : Type} {good : α → Prop} {fine : β → Prop} {kind : LoadFault → Prop}
  {fault : LoadFault}

theorem meets_fail (met : kind fault) : (fail fault : Loading α).Meets good kind := by
  unfold fail
  split
  · exact Attempt.meets_report_bind (Attempt.meets_throw met)
  · exact Attempt.meets_throw met

/-- Nothing comes after a failure. -/
theorem meets_fail_bind {next : α → Loading β} (met : kind fault) :
    ((fail fault : Loading α) >>= next).Meets fine kind :=
  (meets_fail met : (fail fault : Loading α).Meets (fun _ => False) kind).bind nofun

/-- A decodable text is a document whose integers all have a text, or is refused as it should be. -/
theorem meets_decode {text : String} {refused : Json.ReadError → LoadFault}
    (decodable : Json.IsDecodable text)
    (expected : ∀ error, (refused error).isExpected = true) :
    (decode text refused).Meets HasText (·.isExpected = true) := by
  unfold decode
  rcases decodable with ⟨data, read, -⟩ | ⟨_, _, _, _, read⟩
  · rw [read]
    exact Attempt.meets_pure (Json.readable_read read).digits
  · rw [read]
    exact meets_fail (expected _)

end Loading

/-! ### The web -/

/-- An answer that is one of the failures of requests, or a response: one of failure, or one whose
headers are texts and whose body is within the limits of the reader. -/
def Web.IsOrderly (answer : Except Web.RequestFault Web.Response) : Prop :=
  match answer with
  | .error fault => fault ≠ .noResponse ∧ ∀ reason, fault ≠ .stray reason
  | .ok response => response.isFailure = true ∨
      (∀ header ∈ response.headers, ∃ text, header.2 = .string text) ∧
        Json.IsDecodable response.body

/-- Where all headers are texts, each can be had. -/
theorem Web.Response.exists_header {response : Web.Response}
    (texts : ∀ header ∈ response.headers, ∃ text, header.2 = .string text) (name : String) :
    ∃ value, response.header name = .ok value := by
  unfold header
  dsimp only
  split
  next key value found =>
    have listed := List.mem_reverse.mp (List.mem_of_find?_eq_some found)
    obtain ⟨text, rfl⟩ : ∃ text, value = .string text := texts _ listed
    exact ⟨_, rfl⟩
  · exact ⟨_, rfl⟩

/-! ### Documents -/

namespace Location

variable [WorkingDirectory] {tree : FileTree} {web : Web.Lookup}

/-- A document that can be loaded, or be told why not. Its path is not too long, and what is there
is no file or one with a text; its address can be split, and has an orderly answer. -/
def IsOrderly (tree : FileTree) (web : Web.Lookup) : Location → Prop
  | .file name =>
    (∀ shown, tree.locate (.ofString name) ≠ .error (.longName shown)) ∧
      ∀ content, tree.find? (.ofString name) = some (.file content) →
        Text.IsEncodable content ∧ Json.IsDecodable (Text.unifyLineEnds content)
  | .web url =>
    ∃ parts, Url.read url = .ok parts ∧
      (parts.scheme ≠ "" → parts.authority ≠ "" → Web.IsOrderly (web url))

/-- An orderly file that is there is loaded, or refused as it should be. -/
theorem meets_loadFile {name : String} (orderly : (Location.file name).IsOrderly tree web) :
    (loadFile tree name).Meets (fun document => HasText document.data) (·.isExpected = true) := by
  obtain ⟨short, decodable⟩ := orderly
  unfold loadFile
  refine Attempt.meets_report_bind ?_
  cases led : tree.locate (.ofString name) with
  | error fault =>
    rw [FileTree.probe_eq_none led fun shown same => short shown (same ▸ led)]
    exact Loading.meets_fail rfl
  | ok place =>
    rw [FileTree.probe_eq led]
    cases there : tree.at? place with
    | none => exact Loading.meets_fail rfl
    | some node =>
      dsimp only
      cases node with
      | directory =>
        rw [FileTree.read_of_directory led there]
        exact Attempt.meets_remark (Loading.meets_fail rfl)
      | file content =>
        obtain ⟨encodable, decodes⟩ := decodable content ((FileTree.find?_eq led).trans there)
        rw [FileTree.read_of_at? led there encodable]
        refine Attempt.meets_remark ((Loading.meets_decode decodes fun _ => rfl).bind ?_)
        exact fun data text => Attempt.meets_report_bind (Attempt.meets_pure text)

omit [WorkingDirectory] in
/-- An orderly response is read, or refused as it should be. -/
theorem meets_readResponse {url : String} {response : Web.Response}
    (orderly : Web.IsOrderly (.ok response)) :
    (readResponse url response).Meets HasText (·.isExpected = true) := by
  unfold readResponse
  cases failure : response.isFailure with
  | true => exact Loading.meets_fail_bind rfl
  | false =>
    obtain ⟨texts, decodable⟩ := orderly.resolve_left (by simp [failure])
    obtain ⟨type, had⟩ := response.exists_header texts "content-type"
    have decoded := Loading.meets_decode decodable fun error =>
      (rfl : (LoadFault.badResponse url error).isExpected = true)
    simp only [had, Loading.use, mapError_ok, Attempt.ofExcept, pure_bind, Bool.false_eq_true,
      if_false]
    exact Attempt.meets_remark decoded

/-- What is at an orderly address is loaded, or refused as it should be. -/
theorem meets_loadWeb {url : String} (orderly : (Location.web url).IsOrderly tree web) :
    (loadWeb web url).Meets (fun document => HasText document.data) (·.isExpected = true) := by
  obtain ⟨parts, split, answered⟩ := orderly
  unfold loadWeb
  refine Attempt.meets_report_bind ?_
  rw [split]
  dsimp only
  split
  next => exact Loading.meets_fail_bind rfl
  next complete =>
    obtain ⟨scheme, authority⟩ := not_or.mp complete
    have orderly := answered scheme authority
    cases answer : web url with
    | error fault =>
      rw [answer] at orderly
      obtain ⟨response, known⟩ := orderly
      cases fault with
      | noResponse => exact absurd rfl response
      | stray reason => exact absurd rfl (known reason)
      | _ => exact Loading.meets_fail rfl
    | ok response =>
      rw [answer] at orderly
      refine (meets_readResponse orderly).bind fun data text => ?_
      exact Attempt.meets_report_bind (Attempt.meets_pure text)

/-- An orderly document is read as a description, or is refused as it should be. -/
theorem meets_loadSchema {location : Location} (orderly : location.IsOrderly tree web) :
    (location.loadSchema tree web).Meets (fun _ => True) (·.isExpected = true) := by
  unfold loadSchema
  have loaded : (location.load tree web).Meets (fun document => HasText document.data)
      (·.isExpected = true) := by
    cases location with
    | file => exact meets_loadFile orderly
    | web => exact meets_loadWeb orderly
  refine loaded.bind fun document text => ?_
  -- a source is a text, so only an integer of the document could have none
  have named : HasText (.string document.source) := Nat.zero_le _
  have judged : Api.Judges _ document.data _ := Api.judges_readSchema named
  cases read : Api.readSchema document.data (.string document.source) with
  | ok schema => exact Attempt.meets_report_bind (Attempt.meets_pure trivial)
  | error error =>
    refine Attempt.meets_throw ?_
    have other := judged.ofText text error read
    cases error with
    | longInteger => exact absurd rfl other
    | _ => rfl

-- the host of this address is an unfinished number
example : ¬ (Location.web "http://[::1").IsOrderly tree web := by
  rintro ⟨parts, split, -⟩
  have refused : (Url.read "http://[::1").toOption = none := by decide +kernel
  rw [split] at refused
  cases refused

end Location

end HostBindings
