import GuestLaunch.Json.Layout
import GuestLaunch.LaunchOption
import GuestLaunch.Run

/-!
Incoming migration: where the state of a running guest comes from. In a configuration the
source is an object with a type tag and the field that belongs to it, or the list of both.
-/

namespace GuestLaunch
open Json

/-- The source of an incoming migration. -/
inductive Migration where
  | absent
  /-- A descriptor of the host, which the hypervisor inherits. -/
  | descriptor (host : Int32)
  /-- A command that writes the stream. -/
  | command (line : String)
  /-- The source is named later, over a control socket. -/
  | deferred
deriving DecidableEq, Repr, Inhabited

namespace Migration

/-- The nesting at which a document is no longer read. -/
def depthLimit : Nat := 127

/-- Whether a source below `outer` levels of nesting can be read as a whole, which it is before
its type is known.
-/
def isReadable (outer : Nat) (json : Json) : Bool :=
  json.isPlain && outer + json.depth ≤ depthLimit

/-- The source with a type tag. The field of the tag, if it has one, is looked up by its key. -/
def ofTag? (tag : String) (field? : String → Option Json) : Option Migration :=
  match tag with
  | "none" => some .absent
  | "fd" => ((field? "fd").bind Format.int32.read?).map .descriptor
  | "exec" => ((field? "command").bind Format.string.read?).map .command
  | "defer" => some .deferred
  | _ => none

/-- The only value of the members with a key. -/
def onlyValue? (members : List (Literal × Json)) (key : String) : Option Json :=
  match valuesOf key members with
  | [json] => some json
  | _ => none

/-- Reads a source from the members of an object. -/
def ofMembers? (members : List (Literal × Json)) : Option Migration :=
  match onlyValue? members "type" with
  | some (.text (some tag)) => ofTag? tag (onlyValue? members)
  | _ => none

/-- Reads a source from a list of its type tag and exactly the field of the tag. -/
def ofItems? : List Json → Option Migration
  | [.text (some tag)] => ofTag? tag fun _ => none
  | [.text (some tag), field] =>
      if tag = "fd" ∨ tag = "exec" then ofTag? tag fun _ => some field else none
  | _ => none

/-- Reads a source that stands below `outer` levels of nesting. -/
def read? (outer : Nat) (json : Json) : Option Migration :=
  if isReadable outer json then
    match json with
    | .object members => ofMembers? members
    | .list items => ofItems? items
    | _ => none
  else
    none

/-- The members that write a source. -/
def fields : Migration → List (String × Json)
  | absent => [("type", ofString "none")]
  | descriptor host => [("type", ofString "fd"), ("fd", Json.ofInt host.toInt)]
  | command line => [("type", ofString "exec"), ("command", ofString line)]
  | deferred => [("type", ofString "defer")]

def format (outer : Nat) : Format Migration where
  read? := read? outer
  write source := ofFields source.fields

/-- The options of a source. The guest starts stopped, and an inherited descriptor is named by
its number in the child.
-/
def render (source : Migration) : Render (List LaunchOption) :=
  let waitFor (uri : String) : List LaunchOption := [.toggle .stopped, .value .incoming uri]
  match source with
  | absent => pure []
  | command line => pure (waitFor ("exec:" ++ line))
  | deferred => pure (waitFor "defer")
  | descriptor host => do
      let numbers ← Render.inherit [host]
      pure (waitFor ("fd:" ++ Text.decimal (numbers.headD 0)))

end Migration

end GuestLaunch
