import DocAtlas.Markdown.Page
import DocAtlas.Run.Pipeline
import DocAtlas.Run.Report
import DocAtlas.Service.Request
import DocAtlas.Site

/-!
The service: what it responds to messages, and what it leaves on the disk.
-/
namespace DocAtlas.Service

/-- A response; one without a body tells of a failure that there are no words for. -/
structure Response where
  status : Nat
  body : Option Json := none

def detail (status : Nat) (message : String) : Response :=
  ⟨status, some (.object [("detail", .text message)])⟩

def failure : Response := ⟨500, none⟩

mutual

/-- Whether all numbers of a value are finite, as a body demands. -/
def isSendable : Json → Bool
  | .float x => (Decimal.toRat? x).isSome
  | .list items => areSendable items
  | .object fields => fieldsSendable fields
  | _ => true

def areSendable : List Json → Bool
  | [] => true
  | j :: rest => isSendable j && areSendable rest

def fieldsSendable : List (String × Json) → Bool
  | [] => true
  | (_, j) :: rest => isSendable j && fieldsSendable rest

end

def sending (status : Nat) (body : Json) : Response :=
  if isSendable body then ⟨status, some body⟩ else failure

def ofFindings (fs : List Finding) : Json := .list (fs.map (·.toJson))

/-- The first rule with an effect that there is not. -/
def scanRules (rules : List RuleText) : Except Config.Complaint (List Scan.Rule) :=
  rules.mapM fun r =>
    match Scan.Effect.ofLabel? r.effect with
    | some e => .ok ⟨r.pattern, e⟩
    | none => .error (.unknownEffect r.pattern r.effect)

def ofRunError (e : Run.Error) : Response :=
  match e with
  | .config (.complaint c) => detail 400 c.message
  | .scan (.notFound root) => detail 404 (Scan.Error.notFound root).message
  | .scan (.notDirectory root) => detail 404 (Scan.Error.notDirectory root).message
  | .expired stage findings =>
    sending 504 (.object [("detail", .text (Deadline.message stage)), ("stage", .text stage),
      ("findings", ofFindings findings)])
  | _ => failure

def ofResult (r : Run.Result) (written : List String) : Response :=
  sending 200 (.object [("status", .text r.review.status), ("pages", Json.texts r.pages),
    ("abstractions", Json.texts r.graph.ids), ("findings", ofFindings r.findings),
    ("written", Json.texts written)])

/-- Writes the pages of a run if the request names a directory for them. -/
def publish (d : Disk) (cwd : String) (output : Option String) (r : Run.Result) : Response × Disk :=
  match output.filter (!·.isEmpty) with
  | none => (ofResult r [], d)
  | some out =>
    match Markdown.pageTexts r.diagrams r.tree with
    | .error _ => (failure, d)
    | .ok pages =>
      let files := Site.files out pages
      match Site.writeAll cwd d files with
      | (d, none) => (ofResult r (files.map Prod.fst), d)
      | (d, some _) => (failure, d)

def generate (d : Disk) (cwd : String) (host : Run.Host) (request : Request) : Response × Disk :=
  match scanRules request.rules with
  | .error c => (detail 400 c.message, d)
  | .ok rules =>
    let outcome := Run.run d host {
      path := Path.absolute cwd request.path
      shown := Path.plain request.path
      rules := rules
      seconds := request.seconds
      most := request.most
      repair := request.repair }
    match outcome.result with
    | .error e => (ofRunError e, d)
    | .ok r => publish d cwd request.output r

/-! ### Addresses -/

/-- What can be asked of the service. -/
inductive Endpoint where
  | health
  | generate
deriving DecidableEq

def Endpoint.address : Endpoint → String
  | .health => "/health"
  | .generate => "/generate"

def Endpoint.method : Endpoint → String
  | .health => "GET"
  | .generate => "POST"

def dropEndSlashes (s : List Char) : List Char := (s.reverse.dropWhile (· == '/')).reverse

/-- The endpoint at an address; neither a query nor slashes at the end matter. -/
def endpoint? (url : String) : Option Endpoint :=
  let address := String.ofList (dropEndSlashes (url.toList.takeWhile fun c => c != '?' && c != '#'))
  [Endpoint.health, .generate].find? (·.address == address)

/-- The response to a message, and the disk after it. -/
def respond (d : Disk) (cwd : String) (host : Run.Host) (method url : String) (body : Json) :
    Response × Disk :=
  match endpoint? url with
  | none => (detail 404 "Not Found", d)
  | some e =>
    if method != e.method then (detail 405 "Method Not Allowed", d)
    else
      match e with
      | .health => (⟨200, some (.object [("status", .text "ok")])⟩, d)
      | .generate =>
        match Request.ofBody body with
        | .ok request => generate d cwd host request
        | .error os => (⟨422, some (.list ((Order.sort objectionOrder os).map (·.toJson)))⟩, d)

end DocAtlas.Service
