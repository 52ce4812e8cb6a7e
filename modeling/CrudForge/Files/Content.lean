/-!
What files hold, what is found at a path, and why files cannot be read or written.
-/

namespace CrudForge

/-- What a file holds. -/
inductive FileContent
  | text (s : String)
  /-- Bytes that are no text. -/
  | bytes (bs : List UInt8)
  deriving DecidableEq, Repr

namespace FileContent

/-- The content with some bytes, which are a text if they are one in UTF-8. -/
def ofBytes (bs : List UInt8) : FileContent :=
  match String.fromUTF8? ⟨bs.toArray⟩ with
  | some s => text s
  | none => bytes bs

/-- Bytes up to the first line feed with it, and the bytes behind it. -/
def spanLine : List UInt8 → List UInt8 × List UInt8
  | [] => ([], [])
  | b :: bs =>
    if b = 10 then ([b], bs)
    else
      let (line, rest) := spanLine bs
      (b :: line, rest)

/-- The lines of bytes in front of the first one that is no text; the fuel bounds their number. -/
def textLines : Nat → List UInt8 → String
  | 0, _ => ""
  | fuel + 1, bs =>
    let (line, rest) := spanLine bs
    match String.fromUTF8? ⟨line.toArray⟩ with
    | some s => if rest.isEmpty then s else s ++ textLines fuel rest
    | none => ""

/-- What can be read of a file line by line. -/
def readable : FileContent → String
  | text s => s
  | bytes bs => textLines (bs.length + 1) bs

end FileContent

/-- What is found at a path. -/
inductive Found
  | nothing
  | directory
  | file (content : FileContent)
  deriving DecidableEq, Repr

/-- Why a file operation fails. -/
inductive FileFault
  | missing
  | notDirectory
  | isDirectory
  | nameTooLong
  /-- There is something already. -/
  | occupied
  /-- A path has a zero byte in it. -/
  | zeroByte
  | notText
  /-- For a reason that only the system knows. -/
  | other (reason : String)
  deriving DecidableEq, Repr

/-- The text of a fault. -/
def FileFault.message : FileFault → String
  | missing => "No such file or directory (os error 2)"
  | notDirectory => "Not a directory (os error 20)"
  | isDirectory => "Is a directory (os error 21)"
  | nameTooLong => "File name too long (os error 36)"
  | occupied => "File exists (os error 17)"
  | zeroByte => "file name contained an unexpected NUL byte"
  | notText => "stream did not contain valid UTF-8"
  | other reason => reason

/-- The text that is found at a path. -/
def Found.text : Found → Except FileFault String
  | nothing => .error .missing
  | directory => .error .isDirectory
  | file (.text s) => .ok s
  | file (.bytes _) => .error .notText

end CrudForge
