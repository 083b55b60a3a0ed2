import Coordination.Error
import Coordination.Json.Record

/-!
# Errors in JSON

An error is written as an object with its tag under `error_type` and, where it has content, that
content under `details`. It is read from such an object with the two members in either order and
any others between them, or from an array of the tag and the content. In an object the tag may also
be spelled as an object of its own, as every choice among names may; in an array it is a text.
-/

namespace Coordination

/-- A document split into a tag and the content that goes with it. -/
structure Tagged where
  tag : String
  content : Option Json
deriving Inhabited

namespace Tagged

def toJson (tagged : Tagged) : Json :=
  .object (("error_type", .string tagged.tag) ::
    (tagged.content.map fun content => ("details", content)).toList)

/-- How deep content may nest that has to be kept until its tag is known. -/
def contentDepth : Nat := 126

/-- Whether the content stands before the tag, so that it is read before anyone knows what it is. -/
def contentComesFirst (members : List (String × Json)) : Bool :=
  match members.find? fun member => member.1 = "error_type" || member.1 = "details" with
  | some (name, _) => name = "details"
  | none => false

/-- The tag and the content of a document. Content that stands before its tag is read as a whole, so
that every part of it has to be readable. -/
def ofJson? : Json → Option Tagged
  | .object members => do
      let tag ← Json.atMostOne (Json.named "error_type" members)
      let content ← Json.atMostOne (Json.named "details" members)
      let tag ← tag
      let tag ← tag.choice?
      match content with
      | some content =>
          if contentComesFirst members && !content.isReadable contentDepth then none
          else some ⟨tag, some content⟩
      | none => some ⟨tag, none⟩
  | .array [tag, content] => tag.string?.map fun tag => ⟨tag, some content⟩
  | _ => none

/-- The content of a variant that has none: missing or null. -/
def nothing? (tagged : Tagged) : Option Unit :=
  match tagged.content with
  | none => some ()
  | some .null => some ()
  | _ => none

/-- The content of a variant with one named field: an object that has the field once. -/
def field? (name : String) (tagged : Tagged) : Option Json :=
  match tagged.content with
  | some (.object members) =>
      match Json.named name members with
      | [value] => some value
      | _ => none
  | _ => none

end Tagged

namespace LockError

def toTagged : LockError → Tagged
  | .illegalUpgradeState reason =>
      ⟨"illegal_upgrade_state", some (.object [("reason", .string reason)])⟩
  | .upgradeNotPermitted readHolds =>
      ⟨"lock_upgrade_not_permitted", some (.object [("read_holds", .integer readHolds)])⟩

def ofTagged? (tagged : Tagged) : Option LockError :=
  if tagged.tag = "illegal_upgrade_state" then do
    let reason ← tagged.field? "reason"
    return .illegalUpgradeState (← reason.string?)
  else if tagged.tag = "lock_upgrade_not_permitted" then do
    let readHolds ← tagged.field? "read_holds"
    return .upgradeNotPermitted (← readHolds.word?)
  else none

def toJson (error : LockError) : Json := error.toTagged.toJson

def ofJson? (document : Json) : Option LockError := (Tagged.ofJson? document).bind ofTagged?

end LockError

namespace PoolError

def toTagged : PoolError → Tagged
  | .alreadyRunning => ⟨"already_running", none⟩
  | .missingExitSignal => ⟨"missing_exit_signal", none⟩
  | .invalidThreadCount count => ⟨"invalid_thread_count", some (.integer count)⟩
  | .spawnFailed reason => ⟨"spawn_failed", some (.string reason)⟩

def ofTagged? (tagged : Tagged) : Option PoolError :=
  if tagged.tag = "already_running" then tagged.nothing?.map fun _ => .alreadyRunning
  else if tagged.tag = "missing_exit_signal" then tagged.nothing?.map fun _ => .missingExitSignal
  else if tagged.tag = "invalid_thread_count" then do
    let count ← tagged.content
    return .invalidThreadCount (← count.word?)
  else if tagged.tag = "spawn_failed" then do
    let reason ← tagged.content
    return .spawnFailed (← reason.string?)
  else none

def toJson (error : PoolError) : Json := error.toTagged.toJson

def ofJson? (document : Json) : Option PoolError := (Tagged.ofJson? document).bind ofTagged?

end PoolError

end Coordination
