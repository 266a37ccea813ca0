import Vermyth.Mcp.Server

set_option autoImplicit false

namespace Vermyth

structure ParsedUrl where
  scheme : String
  netloc : String
  path : String
  query : String

-- What the stdio server rests on beside the tools: urllib, the bundle catalog,
-- the tool methods that resources read, and the tool definitions it lists.
structure RpcEnv (ω : Type) extends ServerEnv ω where
  toolDefinitions : Json
  urlparse : String → Except PyError ParsedUrl
  parseQs : String → Except PyError (List (String × List String))
  listBundleCatalog : Option String → Except PyError Json
  inspectSemanticBundleDetail : String → Int → Except PyError Json
  toolInspect : String → ω → Except PyError Json × ω
  toolExecutionStatus : String → ω → Except PyError Json × ω
  toolExecutionReceipt : String → ω → Except PyError Json × ω
  toolListPrograms : Int → ω → Except PyError Json × ω
  toolProgramStatus : String → ω → Except PyError Json × ω

structure RpcState (ω : Type) where
  server : ServerState ω
  sent : List Json := []

variable {ω : Type}

abbrev JsonMessage := List (String × Json)

def errorParse : Int := -32700
def errorMethodNotFound : Int := -32601
def errorInvalidParams : Int := -32602
def errorInternal : Int := -32603
def errorNotImplemented : Int := -32000

def makeSuccess (id result : Json) : Json := .obj [("jsonrpc", .str "2.0"), ("id", id), ("result", result)]

def makeError (id : Json) (code : Int) (message : String) : Json :=
  .obj [("jsonrpc", .str "2.0"), ("id", id), ("error", .obj [("code", .int code), ("message", .str message)])]

def getId (message : JsonMessage) : Json := payloadGet message "id" .null

def isNotification (message : JsonMessage) : Bool :=
  match message.lookup "id" with
  | none | some .null => true
  | _ => false

def getMethod (message : JsonMessage) : Json := payloadGet message "method" .null

def getParams (message : JsonMessage) : JsonMessage :=
  match payloadGet message "params" (.obj []) with
  | .obj params => params
  | _ => []

-- _send, of a message that json writes.
def RpcState.send (state : RpcState ω) (message : Json) : RpcState ω := { state with sent := state.sent ++ [message] }

-- raw.rstrip("\r\n")
def stripNewline (raw : String) : List Char :=
  (raw.toList.reverse.dropWhile fun c => c = '\r' || c = '\n').reverse

def startsWith (front : String) (text : List Char) : Bool := front.toList.isPrefixOf text

-- text.split("/", count)[-1]
def afterSlashes : Nat → List Char → List Char
  | 0, text => text
  | count + 1, text =>
      match text.dropWhile (· ≠ '/') with
      | [] => text
      | _ :: rest => afterSlashes count rest

-- text.split(mark, 1)[1], where the mark stands in the text.
def afterMark (mark : Char) (text : List Char) : Option (List Char) :=
  match text.dropWhile (· ≠ mark) with
  | [] => none
  | _ :: rest => some rest

section Handlers

variable (env : RpcEnv ω)

-- self._tools, called by name.
def callMethod {α : Type} (call : ω → Except PyError α × ω) (state : RpcState ω) : Except PyError α × RpcState ω :=
  let called := call state.server.world
  (called.1, { state with server := { state.server with world := called.2 } })

def handleInitialize (message : JsonMessage) (state : RpcState ω) : RpcState ω :=
  state.send (makeSuccess (getId message) (.obj [("protocolVersion", .str "2024-11-05"),
    ("serverInfo", .obj [("name", .str "vermyth"), ("version", .str "0.1.0")]),
    ("capabilities", .obj [("tools", .obj [])])]))

def handleToolsList (message : JsonMessage) (state : RpcState ω) : RpcState ω :=
  state.send (makeSuccess (getId message) (.obj [("tools", env.toolDefinitions)]))

def resourceEntry (name key uri description : String) : Json :=
  .obj [("name", .str name), (key, .str uri), ("description", .str description)]

def resources : List Json :=
  [resourceEntry "cast" "uriTemplate" "vermyth://cast/\x7bcast_id\x7d" "Read cast record by cast id.",
    resourceEntry "program_execution" "uriTemplate" "vermyth://program_execution/\x7bexecution_id\x7d"
      "Read program execution by execution id.",
    resourceEntry "execution_receipt" "uriTemplate" "vermyth://execution_receipt/\x7bexecution_id\x7d"
      "Read execution receipt by execution id.",
    resourceEntry "program" "uriTemplate" "vermyth://program/\x7bprogram_id\x7d"
      "Read a stored semantic program by program id.",
    resourceEntry "programs" "uri" "vermyth://programs"
      "List stored semantic programs (optional query ?limit=N, default 50).",
    resourceEntry "semantic_bundles" "uri" "vermyth://semantic_bundles"
      "List semantic bundle catalog (optional ?kind=decide|cast|compile_program).",
    resourceEntry "semantic_bundle" "uriTemplate" "vermyth://semantic_bundle/\x7bbundle_id\x7d"
      "Bundle manifest + compiled preview (query ?version=1)."]

def handleResourcesList (message : JsonMessage) (state : RpcState ω) : RpcState ω :=
  state.send (makeSuccess (getId message) (.obj [("resources", .arr resources)]))

def contents (uri : String) (payload : Json) : Json :=
  .obj [("contents", .arr [.obj [("uri", .str uri), ("json", payload)]])]

-- (qs.get(key) or [default])[0]
def firstOf (qs : List (String × List String)) (key : String) : Option String := ((qs.lookup key).getD []).head?

-- The try of _handle_resources_read that reads bundles; whether it answered.
def readBundles (message : JsonMessage) (uri : String) (state : RpcState ω) : Except PyError Bool × RpcState ω :=
  match env.urlparse uri with
  | .error raised => (.error raised, state)
  | .ok pu =>
      if pu.scheme = "vermyth" ∧ pu.netloc = "semantic_bundles" then
        match env.parseQs pu.query with
        | .error raised => (.error raised, state)
        | .ok qs =>
            let kind := (firstOf qs "kind").filter fun kind => kind ∈ ["decide", "cast", "compile_program"]
            match env.listBundleCatalog kind with
            | .error raised => (.error raised, state)
            | .ok rows =>
                (.ok true, state.send (makeSuccess (getId message) (contents uri (.obj [("bundles", rows)]))))
      else if pu.scheme = "vermyth" ∧ pu.netloc = "semantic_bundle" then
        let bundleId := String.ofList (pu.path.toList.dropWhile (· = '/'))
        if bundleId = "" then
          (.ok true, state.send (makeError (getId message) errorInvalidParams
            "bundle_id required in vermyth://semantic_bundle/\x7bbundle_id\x7d"))
        else
          match env.parseQs pu.query with
          | .error raised => (.error raised, state)
          | .ok qs =>
              match pyInt (.str ((firstOf qs "version").getD "1")) with
              | .error (.valueError text) =>
                  (.ok true, state.send (makeError (getId message) errorInvalidParams text))
              | .error raised => (.error raised, state)
              | .ok version =>
                  match env.inspectSemanticBundleDetail bundleId version with
                  | .error raised => (.error raised, state)
                  | .ok payload => (.ok true, state.send (makeSuccess (getId message) (contents uri payload)))
      else (.ok false, state)

-- The limit of vermyth://programs?limit=N, the last one where it has several.
def programsLimit (uri : List Char) : Except PyError Int :=
  match afterMark '?' uri with
  | none => .ok 50
  | some query => (query.splitOn '&').foldlM (fun limit part =>
      if startsWith "limit=" part then
        match pyInt (.str (String.ofList ((afterMark '=' part).getD []))) with
        | .error (.valueError _) => .error (.valueError "invalid limit in programs uri")
        | .error raised => .error raised
        | .ok value => .ok (max 1 value)
      else .ok limit) 50

-- The try of _handle_resources_read that reads the store: a payload, or none
-- where it answered itself.
def readStore (message : JsonMessage) (uri : String) (state : RpcState ω) :
    Except PyError (Option Json) × RpcState ω :=
  let text := uri.toList
  let rest := String.ofList (afterSlashes 3 text)
  if startsWith "vermyth://cast/" text then
    callMethod (fun world => let read := env.toolInspect rest world; (read.1.map some, read.2)) state
  else if startsWith "vermyth://program_execution/" text then
    callMethod (fun world => let read := env.toolExecutionStatus rest world; (read.1.map some, read.2)) state
  else if startsWith "vermyth://execution_receipt/" text then
    callMethod (fun world => let read := env.toolExecutionReceipt rest world; (read.1.map some, read.2)) state
  else if startsWith "vermyth://programs" text then
    match programsLimit text with
    | .error raised => (.error raised, state)
    | .ok limit =>
        callMethod (fun world => let read := env.toolListPrograms limit world; (read.1.map some, read.2)) state
  else if startsWith "vermyth://program/" text then
    let programId := String.ofList ((text.drop "vermyth://program/".length).takeWhile (· ≠ '?'))
    if programId = "" then
      (.ok none, state.send (makeError (getId message) errorInvalidParams
        "program_id required in vermyth://program/\x7bprogram_id\x7d"))
    else callMethod (fun world => let read := env.toolProgramStatus programId world; (read.1.map some, read.2)) state
  else (.ok none, state.send (makeError (getId message) errorInvalidParams ("unknown resource uri: " ++ uri)))

-- except (FileNotFoundError, ValueError)
def PyError.isBadBundle : PyError → Bool
  | .fileNotFoundError _ => true
  | .valueError _ => true
  | _ => false

def handleResourcesRead (message : JsonMessage) (state : RpcState ω) : Except PyError Unit × RpcState ω :=
  let uri := env.pyStr (payloadGet (getParams message) "uri" (.str ""))
  match readBundles env message uri state with
  | (.error raised, state) =>
      if raised.isBadBundle then
        (.ok (), state.send (makeError (getId message) errorInvalidParams raised.text))
      else (.error raised, state)
  | (.ok true, state) => (.ok (), state)
  | (.ok false, state) =>
      if !env.configured then
        (.ok (), state.send (makeError (getId message) errorNotImplemented noEngine))
      else
        match readStore env message uri state with
        | (.error raised, state) => (.ok (), state.send (makeError (getId message) errorInvalidParams raised.text))
        | (.ok none, state) => (.ok (), state)
        | (.ok (some payload), state) =>
            (.ok (), state.send (makeSuccess (getId message) (contents uri payload)))

-- The try of _handle_tools_call.
def callTool (id : Json) (toolName : String) (arguments : JsonMessage) (state : RpcState ω) :
    Except PyError Unit × RpcState ω :=
  match resolveToolInvocation env.toServerEnv toolName arguments with
  | .error raised => (.error raised, state)
  | .ok (resolved, merged, provenance) =>
      match env.toolDispatch.lookup resolved with
      | none => (.ok (), state.send (makeError id errorMethodNotFound ("Unknown tool: " ++ resolved)))
      | some handler =>
          match enforceToolScope env.toServerEnv resolved with
          | .error raised => (.error raised, state)
          | .ok _ =>
              let called := runTool resolved (handler merged) state.server
              let state := { state with server := called.2 }
              match called.1 with
              | .error raised => (.error raised, state)
              | .ok result => (.ok (), state.send (makeSuccess id (attachArcaneProvenance provenance result)))

-- Its except clauses.
def toolCallError (id : Json) : PyError → Json
  | .valueError text => makeError id errorInvalidParams text
  | .keyError key => makeError id errorInvalidParams ("Not found: " ++ (PyError.keyError key).text)
  | .runtimeError text => makeError id errorInternal text
  | _ => makeError id errorInternal "Unexpected server error."

def handleToolsCall (message : JsonMessage) (state : RpcState ω) : RpcState ω :=
  let params := getParams message
  match payloadGet params "arguments" (.obj []) with
  | .obj arguments =>
      if !env.configured then state.send (makeError (getId message) errorNotImplemented noEngine)
      else
        match callTool env (getId message) (env.pyStr (payloadGet params "name" .null)) arguments state with
        | (.error raised, state) => state.send (toolCallError (getId message) raised)
        | (.ok _, state) => state
  | _ => state.send (makeError (getId message) errorInvalidParams "arguments must be an object")

-- The try of _handle_message.
def routeMessage (message : JsonMessage) (state : RpcState ω) : Except PyError Unit × RpcState ω :=
  let method := (getMethod message).text?
  if isNotification message then (.ok (), state)
  else if method = some "notifications/initialized" then (.ok (), state)
  else if method = some "initialize" then (.ok (), handleInitialize message state)
  else if method = some "tools/list" then (.ok (), handleToolsList env message state)
  else if method = some "tools/call" then (.ok (), handleToolsCall env message state)
  else if method = some "resources/list" then (.ok (), handleResourcesList message state)
  else if method = some "resources/read" then handleResourcesRead env message state
  else (.ok (), state.send (makeError (getId message) errorMethodNotFound
    ("Method not found: " ++ env.pyStr (getMethod message))))

def handleMessage (message : JsonMessage) (state : RpcState ω) : RpcState ω :=
  match routeMessage env message state with
  | (.error _, state) => state.send (makeError (getId message) errorInternal "Internal error")
  | (.ok _, state) => state

-- A line as readline gives it: the empty one is the end of the input.
structure InputLine where
  raw : String
  filled : raw ≠ ""

def readMessage (line : InputLine) (state : RpcState ω) : Option JsonMessage × RpcState ω :=
  let text := stripNewline line.raw
  if text.all pySpace then (none, state)
  else
    match env.jsonLoads (String.ofList text) with
    | none => (none, state.send (makeError .null errorParse "Parse error: invalid JSON"))
    | some (.obj message) => (some message, state)
    | some _ => (none, state.send (makeError .null errorParse "Parse error: expected JSON object"))

def serveLine (line : InputLine) (state : RpcState ω) : RpcState ω :=
  match readMessage env line state with
  | (none, state) => state
  | (some message, state) => handleMessage env message state

def serveLines (lines : List InputLine) (state : RpcState ω) : RpcState ω :=
  lines.foldl (fun state line => serveLine env line state) state

end Handlers

def IsResponse (id response : Json) : Prop :=
  ∃ fields, response = .obj fields ∧ fields.lookup "id" = some id ∧
    (fields.lookup "result").isSome ≠ (fields.lookup "error").isSome

theorem success_response (id result : Json) : IsResponse id (makeSuccess id result) :=
  ⟨_, rfl, rfl, Bool.noConfusion⟩

theorem error_response (id : Json) (code : Int) (text : String) : IsResponse id (makeError id code text) :=
  ⟨_, rfl, rfl, Bool.noConfusion⟩

theorem tool_call_error_response (id : Json) (raised : PyError) : IsResponse id (toolCallError id raised) := by
  cases raised <;> exact error_response _ _ _

def Answers (id : Json) (before after : RpcState ω) : Prop :=
  ∃ response, IsResponse id response ∧ after.sent = before.sent ++ [response]

structure Settles {α : Type} (id : Json) (done : α → Bool) (before : RpcState ω)
    (outcome : Except PyError α × RpcState ω) : Prop where
  answered : ∀ value, outcome.1 = .ok value → done value = true → Answers id before outcome.2
  silent : ∀ value, outcome.1 = .ok value → done value = false → outcome.2.sent = before.sent
  raised : ∀ error, outcome.1 = .error error → outcome.2.sent = before.sent

theorem send_answers (id response : Json) (isResponse : IsResponse id response) (before state : RpcState ω)
    (same : state.sent = before.sent) : Answers id before (state.send response) :=
  ⟨response, isResponse, congrArg (· ++ [response]) same⟩

section Settle

variable {α : Type} (id : Json) (done : α → Bool) (before : RpcState ω)

theorem settles_answered (value : α) (isDone : done value = true) (after : RpcState ω)
    (answers : Answers id before after) : Settles id done before (.ok value, after) where
  answered := fun _ _ _ => answers
  silent := by
    intro own same undone
    cases same
    rw [isDone] at undone
    contradiction
  raised := by
    intro error same
    contradiction

theorem settles_silent (value : α) (undone : done value = false) (after : RpcState ω)
    (same : after.sent = before.sent) : Settles id done before (.ok value, after) where
  answered := by
    intro own isOwn isDone
    cases isOwn
    rw [undone] at isDone
    contradiction
  silent := fun _ _ _ => same
  raised := fun _ _ => same

theorem settles_raised (error : PyError) (after : RpcState ω) (same : after.sent = before.sent) :
    Settles id done before (.error error, after) where
  answered := by
    intro own isOwn
    contradiction
  silent := by
    intro own isOwn
    contradiction
  raised := fun _ _ => same

end Settle

section Pairing

variable (env : RpcEnv ω)

theorem read_bundles_settles (message : JsonMessage) (uri : String) (state : RpcState ω) :
    Settles (getId message) (fun answered => answered) state (readBundles env message uri state) := by
  rw [readBundles]
  cases env.urlparse uri with
  | error raised => exact settles_raised _ _ _ raised state rfl
  | ok pu =>
      simp only []
      split_ifs
      · cases env.parseQs pu.query with
        | error raised => exact settles_raised _ _ _ raised state rfl
        | ok qs =>
            simp only []
            cases env.listBundleCatalog _ with
            | error raised => exact settles_raised _ _ _ raised state rfl
            | ok rows => exact settles_answered _ _ _ true rfl _ (send_answers _ _ (success_response _ _) _ _ rfl)
      · exact settles_answered _ _ _ true rfl _ (send_answers _ _ (error_response _ _ _) _ _ rfl)
      · cases env.parseQs pu.query with
        | error raised => exact settles_raised _ _ _ raised state rfl
        | ok qs =>
            simp only []
            split
            · exact settles_answered _ _ _ true rfl _ (send_answers _ _ (error_response _ _ _) _ _ rfl)
            · exact settles_raised _ _ _ _ state rfl
            · rename_i version _
              cases env.inspectSemanticBundleDetail _ version with
              | error raised => exact settles_raised _ _ _ raised state rfl
              | ok payload =>
                  exact settles_answered _ _ _ true rfl _ (send_answers _ _ (success_response _ _) _ _ rfl)
      · exact settles_silent _ _ _ false rfl state rfl

theorem method_settles (id : Json) (call : ω → Except PyError Json × ω) (state : RpcState ω) :
    Settles id Option.isNone state
      (callMethod (fun world => let read := call world; (read.1.map some, read.2)) state) := by
  rw [callMethod]
  cases called : (call state.server.world).1 with
  | error raised =>
      simp only [called]
      exact settles_raised _ _ _ raised _ rfl
  | ok payload =>
      simp only [called]
      exact settles_silent _ _ _ (some payload) rfl _ rfl

theorem read_store_settles (message : JsonMessage) (uri : String) (state : RpcState ω) :
    Settles (getId message) Option.isNone state (readStore env message uri state) := by
  rw [readStore]
  simp only []
  split_ifs
  · exact method_settles _ _ state
  · exact method_settles _ _ state
  · exact method_settles _ _ state
  · cases programsLimit uri.toList with
    | error raised => exact settles_raised _ _ _ raised state rfl
    | ok limit => exact method_settles _ _ state
  · exact settles_answered _ _ _ none rfl _ (send_answers _ _ (error_response _ _ _) _ _ rfl)
  · exact method_settles _ _ state
  · exact settles_answered _ _ _ none rfl _ (send_answers _ _ (error_response _ _ _) _ _ rfl)

theorem resources_read_settles (message : JsonMessage) (state : RpcState ω) :
    Settles (getId message) (fun _ => true) state (handleResourcesRead env message state) := by
  rw [handleResourcesRead]
  have bundles := read_bundles_settles env message (env.pyStr (payloadGet (getParams message) "uri" (.str ""))) state
  generalize readBundles env message _ state = outcome at bundles ⊢
  obtain ⟨result, after⟩ := outcome
  cases result with
  | error raised =>
      have same := bundles.raised raised rfl
      simp only []
      split_ifs
      · exact settles_answered _ _ _ () rfl _ (send_answers _ _ (error_response _ _ _) _ _ same)
      · exact settles_raised _ _ _ raised after same
  | ok answered =>
      cases answered with
      | true => exact settles_answered _ _ _ () rfl _ (bundles.answered true rfl rfl)
      | false =>
          have same := bundles.silent false rfl rfl
          simp only []
          split_ifs
          · exact settles_answered _ _ _ () rfl _ (send_answers _ _ (error_response _ _ _) _ _ same)
          have store := read_store_settles env message (env.pyStr (payloadGet (getParams message) "uri" (.str ""))) after
          generalize readStore env message _ after = read at store ⊢
          obtain ⟨payload, last⟩ := read
          cases payload with
          | error raised =>
              have still := (store.raised raised rfl).trans same
              exact settles_answered _ _ _ () rfl _ (send_answers _ _ (error_response _ _ _) _ _ still)
          | ok payload =>
              cases payload with
              | none =>
                  obtain ⟨response, isResponse, sent⟩ := store.answered none rfl rfl
                  exact settles_answered _ _ _ () rfl _ ⟨response, isResponse, same ▸ sent⟩
              | some payload =>
                  have still := (store.silent (some payload) rfl rfl).trans same
                  exact settles_answered _ _ _ () rfl _ (send_answers _ _ (success_response _ _) _ _ still)

theorem call_tool_settles (id : Json) (toolName : String) (arguments : JsonMessage) (state : RpcState ω) :
    Settles id (fun _ => true) state (callTool env id toolName arguments state) := by
  rw [callTool]
  cases resolveToolInvocation env.toServerEnv toolName arguments with
  | error raised => exact settles_raised _ _ _ raised state rfl
  | ok invocation =>
      obtain ⟨resolved, merged, provenance⟩ := invocation
      simp only []
      cases env.toolDispatch.lookup resolved with
      | none => exact settles_answered _ _ _ () rfl _ (send_answers _ _ (error_response _ _ _) _ _ rfl)
      | some handler =>
          cases enforceToolScope env.toServerEnv resolved with
          | error raised => exact settles_raised _ _ _ raised state rfl
          | ok _ =>
              simp only []
              cases (runTool resolved (handler merged) state.server).1 with
              | error raised => exact settles_raised _ _ _ raised _ rfl
              | ok result => exact settles_answered _ _ _ () rfl _ (send_answers _ _ (success_response _ _) _ _ rfl)

theorem tools_call_answers (message : JsonMessage) (state : RpcState ω) :
    Answers (getId message) state (handleToolsCall env message state) := by
  rw [handleToolsCall]
  split
  · rename_i arguments _
    split_ifs
    · exact send_answers _ _ (error_response _ _ _) _ _ rfl
    have settles := call_tool_settles env (getId message) (env.pyStr (payloadGet (getParams message) "name" .null))
      arguments state
    generalize callTool env (getId message) _ arguments state = outcome at settles ⊢
    obtain ⟨result, after⟩ := outcome
    cases result with
    | error raised => exact send_answers _ _ (tool_call_error_response _ _) _ _ (settles.raised raised rfl)
    | ok done => exact settles.answered done rfl rfl
  · exact send_answers _ _ (error_response _ _ _) _ _ rfl

def isRequest (message : JsonMessage) : Bool :=
  !isNotification message && (getMethod message).text? ≠ some "notifications/initialized"

theorem route_message_settles (message : JsonMessage) (state : RpcState ω) :
    Settles (getId message) (fun _ => isRequest message) state (routeMessage env message state) := by
  rw [routeMessage]
  split_ifs with notified initialized initializes lists calls listsResources reads
  · exact settles_silent _ _ _ () (by simp [isRequest, notified]) state rfl
  · exact settles_silent _ _ _ () (by simp [isRequest, initialized]) state rfl
  · have request : isRequest message = true := by simp [isRequest, notified, initialized]
    exact settles_answered _ _ _ () request _ (send_answers _ _ (success_response _ _) _ _ rfl)
  · have request : isRequest message = true := by simp [isRequest, notified, initialized]
    exact settles_answered _ _ _ () request _ (send_answers _ _ (success_response _ _) _ _ rfl)
  · have request : isRequest message = true := by simp [isRequest, notified, initialized]
    exact settles_answered _ _ _ () request _ (tools_call_answers env message state)
  · have request : isRequest message = true := by simp [isRequest, notified, initialized]
    exact settles_answered _ _ _ () request _ (send_answers _ _ (success_response _ _) _ _ rfl)
  · have request : isRequest message = true := by simp [isRequest, notified, initialized]
    simp only [request]
    exact resources_read_settles env message state
  · have request : isRequest message = true := by simp [isRequest, notified, initialized]
    exact settles_answered _ _ _ () request _ (send_answers _ _ (error_response _ _ _) _ _ rfl)

theorem route_raises_request (message : JsonMessage) (state : RpcState ω) (raised : PyError)
    (raises : (routeMessage env message state).1 = .error raised) : isRequest message = true := by
  rw [routeMessage] at raises
  split_ifs at raises with notified initialized
  simp [isRequest, notified, initialized]

theorem handle_message_answers (message : JsonMessage) (state : RpcState ω) :
    if isRequest message then Answers (getId message) state (handleMessage env message state)
    else (handleMessage env message state).sent = state.sent := by
  have settles := route_message_settles env message state
  have request := route_raises_request env message state
  rw [handleMessage]
  generalize routeMessage env message state = outcome at settles request ⊢
  obtain ⟨result, after⟩ := outcome
  cases result with
  | error raised =>
      rw [if_pos (request raised rfl)]
      exact send_answers _ _ (error_response _ _ _) _ _ (settles.raised raised rfl)
  | ok done =>
      split_ifs with isOne
      · exact settles.answered done rfl isOne
      · exact settles.silent done rfl (Bool.eq_false_of_not_eq_true isOne)

def AnswersLine (line : InputLine) (responses : List Json) : Prop :=
  let text := stripNewline line.raw
  if text.all pySpace then responses = []
  else
    match env.jsonLoads (String.ofList text) with
    | some (.obj message) =>
        if isRequest message then ∃ response, responses = [response] ∧ IsResponse (getId message) response
        else responses = []
    | _ => ∃ reason, responses = [makeError .null errorParse reason]

theorem serve_line_answers (line : InputLine) (state : RpcState ω) :
    ∃ responses, (serveLine env line state).sent = state.sent ++ responses ∧ AnswersLine env line responses := by
  rw [serveLine, readMessage]
  simp only [AnswersLine]
  split_ifs with blank
  · exact ⟨[], (List.append_nil _).symm, rfl⟩
  · cases env.jsonLoads (String.ofList (stripNewline line.raw)) with
    | none => exact ⟨_, rfl, _, rfl⟩
    | some value =>
        cases value with
        | obj message =>
            have handled := handle_message_answers env message state
            simp only []
            split_ifs at handled ⊢ with isOne
            · obtain ⟨response, isResponse, sent⟩ := handled
              exact ⟨[response], sent, response, rfl, isResponse⟩
            · exact ⟨[], handled.trans (List.append_nil _).symm, rfl⟩
        | _ => exact ⟨_, rfl, _, rfl⟩

theorem responses_pair_with_requests (lines : List InputLine) (state : RpcState ω) :
    ∃ responses : List (List Json), (serveLines env lines state).sent = state.sent ++ responses.flatten ∧
      List.Forall₂ (AnswersLine env) lines responses := by
  induction lines generalizing state with
  | nil => exact ⟨[], (List.append_nil _).symm, .nil⟩
  | cons line rest ih =>
      obtain ⟨own, sent, answers⟩ := serve_line_answers env line state
      obtain ⟨others, later, answersRest⟩ := ih (serveLine env line state)
      refine ⟨own :: others, ?_, .cons answers answersRest⟩
      rw [serveLines, List.foldl_cons, ← serveLines, later, sent, List.flatten_cons, List.append_assoc]

end Pairing

end Vermyth
