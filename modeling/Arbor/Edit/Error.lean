/-!
Why an edit or an edit session failed.
-/

namespace Arbor.Edit

/-- Where an edit session stands: planned and not yet written, written, or written and then
undone. -/
inductive Phase where
  | pending
  | confirmed
  | rolledBack
  deriving DecidableEq, Repr, Inhabited

/-- The phase in words. -/
def Phase.describe : Phase → String
  | .pending => "pending"
  | .confirmed => "confirmed"
  | .rolledBack => "rolled back"

/-- What a session was asked to do when it refused. -/
inductive Request where
  | planOn
  | confirm
  | rollBack
  deriving DecidableEq, Repr, Inhabited

/-- The request in words, as it follows "cannot". -/
def Request.describe : Request → String
  | .planOn => "plan on"
  | .confirm => "confirm"
  | .rollBack => "roll back"

/-- Causes of a failed edit. -/
inductive EditError where
  | invalidState (phase : Phase) (request : Request)
  | scopeNotFound (name : String)
  | conflict (path : String)
  | decode (path : String) (encoding : String)
  | encodingMismatch (path : String) (encoding : String)
  | beforeTextMismatch (start stop : Nat) (expected found : String)
  | invalidByteRange (start stop size : Nat)
  | io (path : String) (cause : String)
  deriving DecidableEq, Repr, Inhabited

/-- The sentence shown for a failed edit. -/
def EditError.message : EditError → String
  | .invalidState phase request =>
    s!"cannot {request.describe} an edit session that is {phase.describe}"
  | .scopeNotFound name => s!"{name} no longer exists in the planned text"
  | .conflict path => s!"{path} changed on disk since the edit was planned"
  | .decode path encoding => s!"failed to decode {path} as {encoding}"
  | .encodingMismatch path encoding =>
    s!"new content for {path} cannot be encoded as {encoding}"
  | .beforeTextMismatch start _ expected found =>
    s!"before-text verification failed at byte {start}: expected {expected}, found {found}"
  | .invalidByteRange start stop size =>
    s!"invalid byte range [{start}, {stop}) in text of length {size}"
  | .io path cause => s!"I/O error on {path}: {cause}"

/-- The name of the failure's kind. -/
def EditError.kind : EditError → String
  | .invalidState .. => "InvalidState"
  | .scopeNotFound .. => "ScopeNotFound"
  | .conflict .. => "Conflict"
  | .decode .. => "Decode"
  | .encodingMismatch .. => "EncodingMismatch"
  | .beforeTextMismatch .. => "BeforeTextMismatch"
  | .invalidByteRange .. => "InvalidByteRange"
  | .io .. => "Io"

end Arbor.Edit
