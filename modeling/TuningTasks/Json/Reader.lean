import TuningTasks.Json.Token

/-!
Reading one JSON value from a text, with nothing but spaces around it. `Build` holds the containers
that are open and what may come next; the text is one fold over scanner and builder.
-/
namespace TuningTasks.Json

/-- An open container with what it holds so far, latest first; an object waits for the value of a
member. -/
inductive Frame
  | array (items : List Json)
  | object (members : List (Option String × Json)) (name : Option String)

inductive Build
  | value (frames : List Frame)
  | firstItem (frames : List Frame)
  | firstMember (frames : List Frame)
  | member (members : List (Option String × Json)) (frames : List Frame)
  | named (members : List (Option String × Json)) (name : Option String) (frames : List Frame)
  | nextItem (items : List Json) (frames : List Frame)
  | nextMember (members : List (Option String × Json)) (frames : List Frame)
  | done (json : Json)

namespace Build

def complete (json : Json) : List Frame → Build
  | [] => done json
  | .array items :: frames => nextItem (json :: items) frames
  | .object members name :: frames => nextMember ((name, json) :: members) frames

def scalar? : Token → Option Json
  | .null => some .null
  | .bool flag => some (.bool flag)
  | .number n => some (.number n)
  | .string text => some (.string text)
  | _ => none

def beginValue (frames : List Frame) : Token → Option Build
  | .openArray => some (firstItem frames)
  | .openObject => some (firstMember frames)
  | token => (scalar? token).map fun json => complete json frames

def accept : Build → Token → Option Build
  | value frames, token => beginValue frames token
  | firstItem frames, .closeArray => some (complete (.array []) frames)
  | firstItem frames, token => beginValue (.array [] :: frames) token
  | firstMember frames, .closeObject => some (complete (.object []) frames)
  | firstMember frames, .string name => some (named [] name frames)
  | member members frames, .string name => some (named members name frames)
  | named members name frames, .colon => some (value (.object members name :: frames))
  | nextItem items frames, .comma => some (value (.array items :: frames))
  | nextItem items frames, .closeArray => some (complete (.array items.reverse) frames)
  | nextMember members frames, .comma => some (member members frames)
  | nextMember members frames, .closeObject => some (complete (.object members.reverse) frames)
  | _, _ => none

end Build

structure Reader where
  scan : Scan
  build : Build

namespace Reader

def start : Reader := ⟨.between, .value []⟩

def step (reader : Reader) (c : Char) : Option Reader := do
  let (scan, tokens) ← reader.scan.step c
  return ⟨scan, ← tokens.foldlM Build.accept reader.build⟩

def run (reader : Reader) (text : List Char) : Option Reader := text.foldlM step reader

def finish (reader : Reader) : Option Json := do
  match ← (← reader.scan.ended).foldlM Build.accept reader.build with
  | .done json => return json
  | _ => none

end Reader

def read? (text : String) : Option Json := (Reader.start.run text.toList).bind Reader.finish

end TuningTasks.Json
