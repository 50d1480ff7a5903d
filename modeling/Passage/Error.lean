/-!
# Failures

Why an operation fails, the full text of the failure and the short line that a
session shows for it. A recoverable failure leaves the session usable; a bad
request is one that the caller has to mend.
-/

namespace Passage

inductive Error
  | extraction (reason : String)
  | emptyDocument
  | emptyQuery
  | invalidUrl (reason : String)
  | invalidQuery (reason : String)
  | configuration (reason : String)
  | io (reason : String)
  | json (reason : String)
  | toml (reason : String)
  deriving DecidableEq, Repr

namespace Error

def message : Error → String
  | extraction reason => "Extraction failed: " ++ reason
  | emptyDocument => "No document loaded"
  | emptyQuery => "Query cannot be empty"
  | invalidUrl reason => "Invalid URL: " ++ reason
  | invalidQuery reason => "Invalid query: " ++ reason
  | configuration reason => "Configuration error: " ++ reason
  | io reason => "IO error: " ++ reason
  | json reason => "Serialization error: " ++ reason
  | toml reason => "TOML parsing error: " ++ reason

/-- The line that a session shows: how to go on where that is known, else the message. -/
def statusMessage : Error → String
  | extraction _ | invalidUrl _ =>
    "Error loading the link. Check that the site allows being read."
  | emptyDocument => "Load a valid link first."
  | emptyQuery => "Enter a query."
  | e => e.message

def isRecoverable : Error → Bool
  | extraction _ | emptyDocument | emptyQuery | invalidUrl _ | invalidQuery _ => true
  | _ => false

def isBadRequest : Error → Bool
  | emptyQuery | invalidUrl _ | invalidQuery _ | configuration _ => true
  | _ => false

/-- The text of a failure that ends a command: the status line, with the cause behind it where
the line does not tell it. -/
def report : Error → String
  | e@(extraction _) | e@(invalidUrl _) => e.statusMessage ++ " (" ++ e.message ++ ")"
  | e => e.statusMessage

end Error

end Passage
