import Arbor.Disk.Basic
import Arbor.Text.Quoted
/-!
Replacing a file whole.
-/

namespace Arbor.Disk

def freshName : String := ".tmpXXXXXX"


/-- The disk after replacing the content at a path, or the words of the failure. -/
def replaceFile (d : Disk) (cwd : List String) (p : String) (bytes : ByteArray) :
    Except String Disk :=
  match Path.parent? p with
  | none => .error "path has no parent directory"
  | some dir =>
    let fresh := Path.join (if dir.isEmpty then "." else dir) freshName
    match d.locate cwd fresh false with
    | .error e => .error (e.message ++ " at path " ++ Text.quoted fresh)
    | .ok (.found ..) => .error (IoError.alreadyExists.message ++ " at path " ++ Text.quoted fresh)
    | .ok (.absent ..) =>
      let readOnly := d.isReadOnly cwd p
      match d.locate cwd p false with
      | .ok (.found _ .directory) => .error IoError.isDirectory.message
      | .ok (.found place _) => .ok (d.put place (.file bytes readOnly))
      | .ok (.absent dir name) => .ok (d.put (dir ++ [name]) (.file bytes readOnly))
      | .error e => .error e.message


end Arbor.Disk
