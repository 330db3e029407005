import HostBindings.Api.Reading
import HostBindings.Files.Tree
import HostBindings.FromDocument
import HostBindings.Json.Reader
import HostBindings.Log
import HostBindings.Text.Lines
import HostBindings.Web.Response
import HostBindings.Web.Url

/-!
# Loading documents

A document comes from a file or from the web. What it says is not looked at here, except that it is
JSON; it may then be read as a description.

## Main definitions

* `Location` — where a document is; `Location.choose` makes one of two values
* `LoadFault` — why a document cannot be had
* `Document`, `Location.load` — a decoded document with the name of its source
* `Location.loadSchema` — a document as a description
-/

namespace HostBindings

open Web (RequestFault Response)

variable [WorkingDirectory]

/-- Where a document is. -/
inductive Location where
  | file (path : String)
  | web (url : String)
  deriving DecidableEq, Repr

/-- Why a document cannot be had. -/
inductive LoadFault where
  /-- No location is given. -/
  | noLocation
  /-- Two locations are given. -/
  | twoLocations
  /-- The file is not there. -/
  | missing (path : String)
  /-- The location, or a header of the response, is a value that cannot be used. -/
  | value (fault : UseFault)
  /-- It cannot be found out whether the file is there. -/
  | unreachable (fault : FileFault)
  /-- The file cannot be read. -/
  | unreadable (path : String) (fault : FileFault)
  /-- The content of the file is no text. -/
  | undecodable (fault : FileFault)
  /-- The file is no JSON document. -/
  | badFile (path : String) (error : Json.ReadError)
  /-- The address has no scheme or no host. -/
  | incompleteUrl (url : String)
  /-- The text is no address. -/
  | badUrl (fault : UrlFault)
  /-- The request failed. -/
  | request (url : String) (fault : RequestFault)
  /-- The response is one of failure. -/
  | status (url : String) (code : Nat)
  /-- The response is no JSON document. -/
  | badResponse (url : String) (error : Json.ReadError)
  /-- The document is beyond a limit of the reader. -/
  | limit (error : Json.ReadError)
  /-- The document is no description. -/
  | schema (error : Api.SchemaError)
  deriving DecidableEq, Repr

/-- The wording of a fault. -/
def LoadFault.message : LoadFault → String
  | .noLocation => "Either file_path or url must be provided"
  | .twoLocations => "Cannot specify both file_path and url"
  | .missing path => s!"File not found: {path}"
  | .value fault => fault.message
  | .unreachable fault => fault.message
  | .unreadable path fault => s!"Error reading file {path}: {fault.message}"
  | .undecodable fault => fault.message
  | .badFile path error => s!"Invalid JSON in file {path}: {error.message}"
  | .incompleteUrl url => s!"Invalid URL: {url}"
  | .badUrl fault => fault.message
  | .request url (.timeout _) => s!"Request timeout for URL: {url}"
  | .request url (.connection _) => s!"Connection error for URL: {url}"
  | .request url .noResponse => s!"HTTP error for URL: {url}"
  | .request url (.other reason) => s!"Request error for URL {url}: {reason}"
  | .request _ (.stray reason) => reason
  | .status url code => s!"HTTP error {code} for URL: {url}"
  | .badResponse url error => s!"Invalid JSON response from URL {url}: {error.message}"
  | .limit error => error.message
  | .schema error => error.message

/-- What is reported of a fault; nothing of one that is only passed on. -/
def LoadFault.reported : LoadFault → Option String
  | .noLocation => some "Neither file_path nor url provided"
  | .twoLocations => some "Both file_path and url provided"
  | .incompleteUrl url => some s!"Invalid URL format: {url}"
  | .request url (.connection reason) => some s!"Connection error for URL {url}: {reason}"
  | .request _ (.stray _) => none
  | .value _ | .unreachable _ | .undecodable _ | .badUrl _ | .limit _ | .schema _ => none
  | fault => some fault.message

/-- Whether loading ends with this fault in an orderly way: the document cannot be had, and nothing
else is wrong. -/
def LoadFault.isExpected : LoadFault → Bool
  | .value _ | .unreachable _ | .undecodable _ | .badUrl _ | .limit _ => false
  | .request _ (.stray _) => false
  | .schema error => !error.isLimit
  | _ => true

/-- A decoded document with the name of its source. -/
structure Document where
  /-- The name of the source. -/
  source : String
  /-- The document. -/
  data : Json

/-- Loading, as an attempt. -/
abbrev Loading := Attempt LoadFault

namespace Loading

/-- Ends with a fault, which is reported. -/
def fail (fault : LoadFault) : Loading α := do
  if let some message := fault.reported then report .error message
  throw fault

/-- A use of a value as part of loading. -/
def use (result : Except UseFault α) : Loading α :=
  Attempt.ofExcept (result.mapError LoadFault.value)

/-- The decoded text of a document; `refused` is the fault of one that is not JSON. -/
def decode (text : String) (refused : Json.ReadError → LoadFault) : Loading Json :=
  match Json.read text with
  | .ok data => pure data
  | .error error => fail (if error.isLimit then .limit error else refused error)

end Loading

namespace Location

/-- The location that two values give, of which one has to be switched on and the other not. -/
def choose (file url : Json) : Loading Location :=
  match file.truthy, url.truthy with
  | false, false => Loading.fail .noLocation
  | true, true => Loading.fail .twoLocations
  | true, false => Loading.use (file.pathText.map Location.file)
  | false, true => Loading.use ((url.textFor "decode").map Location.web)

/-- Loads a file. Lines may end in any way. -/
def loadFile (tree : FileTree) (file : String) : Loading Document := do
  let path := Path.ofString file
  report .debug s!"Attempting to load JSON from file: {path.text}"
  match tree.probe path with
  | .error fault => Loading.fail (.unreachable fault)
  | .ok none => Loading.fail (.missing path.text)
  | .ok (some _) =>
    -- the extension is only remarked on, since the content decides
    if Text.lowerCase path.extension ≠ ".json" then
      report .warning s!"File does not have .json extension: {path.text}"
    match tree.read path with
    | .error fault =>
      Loading.fail (if fault.isRefusal then .unreadable path.text fault else .undecodable fault)
    | .ok content =>
      let data ← Loading.decode (Text.unifyLineEnds content) (.badFile path.text)
      report .info s!"Successfully loaded JSON from {path.text}"
      return ⟨path.text, data⟩

/-- What a response has to be: no failure, and a JSON document. A response that is not declared to
be JSON is passed with a warning, unless the address says so. -/
def readResponse (url : String) (response : Response) : Loading Json := do
  if response.isFailure then Loading.fail (.status url response.status)
  let type ← Loading.use (response.header "content-type")
  let declared := Text.occursIn "application/json".toList type.toList
  if !declared && !".json".toList.isSuffixOf url.toList then
    report .warning s!"URL {url} does not have JSON content type: {type}"
  Loading.decode response.body (.badResponse url)

/-- Loads from the web. -/
def loadWeb (web : Web.Lookup) (url : String) : Loading Document := do
  report .debug s!"Attempting to load JSON from URL: {url}"
  match Url.read url with
  | .error fault => Loading.fail (.badUrl fault)
  | .ok parts =>
    if parts.scheme = "" ∨ parts.authority = "" then Loading.fail (.incompleteUrl url)
    match web url with
    -- an answer without a response is looked into like one, and has no status
    | .error .noResponse => Loading.fail (.value (.lacks Json.null.kindName "status_code"))
    | .error fault => Loading.fail (.request url fault)
    | .ok response =>
      let data ← readResponse url response
      report .info s!"Successfully loaded JSON from {url}"
      return ⟨url, data⟩

/-- Loads a document. -/
def load (tree : FileTree) (web : Web.Lookup) : Location → Loading Document
  | .file path => loadFile tree path
  | .web url => loadWeb web url

/-- Loads a document and reads it as a description. -/
def loadSchema (tree : FileTree) (web : Web.Lookup) (location : Location) :
    Loading Api.Schema := do
  let document ← location.load tree web
  match Api.readSchema document.data (.string document.source) with
  | .error error => throw (.schema error)
  | .ok schema =>
    report .debug s!"Parsed {schema.blocks.length} blocks from {document.source}"
    return schema

end Location

end HostBindings
