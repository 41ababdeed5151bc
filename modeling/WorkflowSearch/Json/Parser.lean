import WorkflowSearch.Json.Token

namespace WorkflowSearch.Json

namespace Parser

inductive Frame where
  | arr (items : List Json)
  | obj (members : List (String × Json)) (key : String)

/-- What may come next. `item` and `member` follow a comma. -/
inductive Expected where
  | value
  | firstItem
  | firstMember
  | member
  | colon
  | more
  | nothing

structure State where
  frames : List Frame
  expected : Expected
  result : Json

def depthLimit : Nat := 128

def deliver (value : Json) : List Frame → State
  | [] => ⟨[], .nothing, value⟩
  | .arr items :: frames => ⟨.arr (value :: items) :: frames, .more, .null⟩
  | .obj members key :: frames => ⟨.obj ((key, value) :: members) "" :: frames, .more, .null⟩

def openFrame (frame : Frame) (expected : Expected) (frames : List Frame) : Option State :=
  if frames.length + 1 < depthLimit then some ⟨frame :: frames, expected, .null⟩ else none

def closeFrame : List Frame → Token → Option State
  | .arr items :: frames, .closeArr => some (deliver (.arr items.reverse) frames)
  | .obj members _ :: frames, .closeObj => some (deliver (.obj members.reverse) frames)
  | _, _ => none

def startValue (frames : List Frame) : Token → Option State
  | .openArr => openFrame (.arr []) .firstItem frames
  | .openObj => openFrame (.obj [] "") .firstMember frames
  | .str s => some (deliver (.str s) frames)
  | .scalar value => some (deliver value frames)
  | _ => none

def startMember : List Frame → Token → Option State
  | .obj members _ :: frames, .str key => some ⟨.obj members key :: frames, .colon, .null⟩
  | _, _ => none

def step (state : State) (token : Token) : Option State :=
  match state.expected, token with
  | .value, _ => startValue state.frames token
  | .firstItem, .closeArr => closeFrame state.frames token
  | .firstItem, _ => startValue state.frames token
  | .firstMember, .closeObj => closeFrame state.frames token
  | .firstMember, _ => startMember state.frames token
  | .member, _ => startMember state.frames token
  | .colon, .colon => some { state with expected := .value }
  | .more, .comma =>
    match state.frames with
    | .arr _ :: _ => some { state with expected := .value }
    | .obj _ _ :: _ => some { state with expected := .member }
    | [] => none
  | .more, _ => closeFrame state.frames token
  | _, _ => none

end Parser

/-- Reads one value; repeated keys are kept. -/
def parse? (s : String) : Option Json := do
  let tokens ← Token.scan s
  let final ← tokens.foldlM Parser.step ⟨[], .value, .null⟩
  match final.expected with
  | .nothing => some final.result
  | _ => none

end WorkflowSearch.Json
